import AiGovernance.Domain.ControlledEvidence
import AiGovernance.Repositories.SqliteRuntimeFindings

/-!
# The replay mapper

`ReplayPersistenceMapper` (`repositories/mappers/replay_persistence_mapper.py`).
A JSON column holds the document it parses to; a time is its ISO text. The
intervention of a replay is a key of the configuration column, which holds an
object with that key alone when nothing is configured yet. A value of a kind the
mapper does not write is refused.
-/

namespace AiGovernance.Replays

open AiGovernance.Std Domain
open Findings (memberOf readInstant readOptionalInstant)
open ReplayManifestRecord (optionalValue)
open ControlledEvidenceIntervention (numberValue)

/-- A row of the replay table. -/
structure ReplayRow where
  replayId : String
  sourceExecutionId : String
  status : String
  mode : String
  configurationJson : Option Json
  requestedBy : String
  organizationId : String
  projectId : String
  requestId : String
  correlationId : Option String
  idempotencyKey : String
  inputHash : String
  createdAt : String
  updatedAt : String
  archivedAt : Option String
  failureJson : Option Json
  metadataJson : Option Json
  version : Int
  jobId : Option String
  replayExecutionId : Option String
  queuedAt : Option String
  startedAt : Option String
  executionCompletedAt : Option String
  cancelRequestedAt : Option String
  cancelledAt : Option String
  attemptCount : Option Int
  evaluationJobId : Option String
  baselineEvaluationId : Option String
  replayEvaluationId : Option String
  comparisonId : Option String
  driftId : Option String
  resultId : Option String
  evaluationStartedAt : Option String
  evaluationCompletedAt : Option String
  comparisonStartedAt : Option String
  comparisonCompletedAt : Option String
  completedAt : Option String

/-! ## Values of the enumerations -/

/-- The statuses of a replay. -/
def replayStatuses : List ReplayStatus :=
  [.draft, .ready, .queued, .running, .executionCompleted, .evaluating, .comparing, .completed, .failed, .cancelled,
    .archived]

/-- The stored text of a mode. -/
def modeValue : ReplayMode → String
  | .full => "FULL"

/-- The stored text of a configuration source. -/
def configurationSourceValue : ReplayConfigurationSource → String
  | .original => "ORIGINAL"

/-- The stored text of a failure stage. -/
def stageValue : ReplayFailureStage → String
  | .sourceResolution => "SOURCE_RESOLUTION"
  | .authorization => "AUTHORIZATION"
  | .validation => "VALIDATION"
  | .configurationResolution => "CONFIGURATION_RESOLUTION"
  | .persistence => "PERSISTENCE"
  | .jobSubmission => "JOB_SUBMISSION"
  | .sourceReload => "SOURCE_RELOAD"
  | .adapterResolution => "ADAPTER_RESOLUTION"
  | .reconstruction => "RECONSTRUCTION"
  | .execution => "EXECUTION"
  | .executionPersistence => "EXECUTION_PERSISTENCE"
  | .lineagePersistence => "LINEAGE_PERSISTENCE"
  | .cancellation => "CANCELLATION"
  | .evaluationSubmission => "EVALUATION_SUBMISSION"
  | .evaluation => "EVALUATION"
  | .baselineResolution => "BASELINE_RESOLUTION"
  | .comparison => "COMPARISON"
  | .driftAnalysis => "DRIFT_ANALYSIS"
  | .resultPersistence => "RESULT_PERSISTENCE"
  | .ontologySync => "ONTOLOGY_SYNC"

/-- The failure stages. -/
def stages : List ReplayFailureStage :=
  [.sourceResolution, .authorization, .validation, .configurationResolution, .persistence, .jobSubmission,
    .sourceReload, .adapterResolution, .reconstruction, .execution, .executionPersistence, .lineagePersistence,
    .cancellation, .evaluationSubmission, .evaluation, .baselineResolution, .comparison, .driftAnalysis,
    .resultPersistence, .ontologySync]

namespace ReplayPersistenceMapper

variable (primitives : Primitives)

/-! ## Documents -/

/-- The document of an intervention. -/
def interventionDocument (intervention : ControlledEvidenceIntervention) : List (String × Json) :=
  [("strategy", .str intervention.strategy.value), ("strategy_version", .str intervention.strategyVersion),
    ("source_evidence_reference", .str intervention.sourceEvidenceReference),
    ("target_event_id", optionalValue intervention.targetEventId),
    ("counterfactual_evidence_reference", optionalValue intervention.counterfactualEvidenceReference),
    ("seed", numberValue intervention.seed), ("configuration", .obj intervention.configuration),
    ("policy_id", optionalValue intervention.policyId), ("policy_version", numberValue intervention.policyVersion),
    ("provider_id", optionalValue intervention.providerId),
    ("provider_version", optionalValue intervention.providerVersion),
    ("original_evidence_digest", optionalValue intervention.originalEvidenceDigest),
    ("counterfactual_evidence_digest", optionalValue intervention.counterfactualEvidenceDigest),
    ("intervention_digest", .str intervention.interventionDigest)]

/-- `_intervention`. -/
def intervention : Option ControlledEvidenceIntervention → Json
  | none => .null
  | some intervention => .obj (interventionDocument intervention)

/-- A list of references. -/
def references (texts : List String) : Json := .arr (texts.map .str)

/-- `_configuration`. -/
def configuration (configuration : ReplayConfiguration) : List (String × Json) :=
  [("workflow_id", .str configuration.record.workflowId),
    ("workflow_version", .str configuration.record.workflowVersion),
    ("execution_adapter", .str configuration.record.executionAdapter),
    ("input_snapshot_ref", .str configuration.record.inputSnapshotRef),
    ("state_snapshot_ref", .str configuration.record.stateSnapshotRef),
    ("artifact_refs", references configuration.record.artifactRefs),
    ("prompt_refs", references configuration.record.promptRefs),
    ("model_refs", references configuration.record.modelRefs),
    ("dataset_refs", references configuration.record.datasetRefs),
    ("policy_refs", references configuration.record.policyRefs),
    ("runtime_parameters", .obj configuration.record.runtimeParameters),
    ("configuration_source", .str (configurationSourceValue configuration.record.configurationSource)),
    ("resolved_at", optionalValue (configuration.record.resolvedAt.map Instant.isoformat)),
    ("configuration_hash", .str configuration.record.configurationHash),
    ("replay_manifest",
      (configuration.record.replayManifest.map fun manifest =>
        Json.obj (ReplayManifest.toDict primitives manifest)).getD .null)]

/-- `_replay_configuration`. -/
def replayConfiguration (replay : Replay) : Option Json :=
  match replay.configuration with
  | none =>
    replay.controlledEvidenceIntervention.map fun _ =>
      .obj [("controlled_evidence_intervention", intervention replay.controlledEvidenceIntervention)]
  | some resolved =>
    some (.obj (configuration primitives resolved ++
      [("controlled_evidence_intervention", intervention replay.controlledEvidenceIntervention)]))

/-- `_failure`. -/
def failure (failure : ReplayFailure) : List (String × Json) :=
  [("code", .str failure.record.code), ("message", .str failure.record.message),
    ("stage", .str (stageValue failure.record.stage)), ("details", .obj failure.record.details),
    ("occurred_at", .str failure.record.occurredAt.isoformat)]

/-- `to_persistence_record`. -/
def toPersistenceRecord (replay : Replay) : ReplayRow where
  replayId := replay.replayId
  sourceExecutionId := replay.sourceExecutionId
  status := replay.status.value
  mode := modeValue replay.mode
  configurationJson := replayConfiguration primitives replay
  requestedBy := replay.requestedBy
  organizationId := replay.organizationId
  projectId := replay.projectId
  requestId := replay.requestId
  correlationId := replay.correlationId
  idempotencyKey := replay.idempotencyKey
  inputHash := replay.inputHash
  createdAt := replay.createdAt.isoformat
  updatedAt := replay.updatedAt.isoformat
  archivedAt := replay.archivedAt.map Instant.isoformat
  failureJson := replay.failure.map fun failed => .obj (failure failed)
  metadataJson := some (.obj replay.metadata)
  version := replay.version
  jobId := replay.jobId
  replayExecutionId := replay.replayExecutionId
  queuedAt := replay.queuedAt.map Instant.isoformat
  startedAt := replay.startedAt.map Instant.isoformat
  executionCompletedAt := replay.executionCompletedAt.map Instant.isoformat
  cancelRequestedAt := replay.cancelRequestedAt.map Instant.isoformat
  cancelledAt := replay.cancelledAt.map Instant.isoformat
  attemptCount := some replay.attemptCount
  evaluationJobId := replay.evaluationJobId
  baselineEvaluationId := replay.baselineEvaluationId
  replayEvaluationId := replay.replayEvaluationId
  comparisonId := replay.comparisonId
  driftId := replay.driftId
  resultId := replay.resultId
  evaluationStartedAt := replay.evaluationStartedAt.map Instant.isoformat
  evaluationCompletedAt := replay.evaluationCompletedAt.map Instant.isoformat
  comparisonStartedAt := replay.comparisonStartedAt.map Instant.isoformat
  comparisonCompletedAt := replay.comparisonCompletedAt.map Instant.isoformat
  completedAt := replay.completedAt.map Instant.isoformat

/-! ## Decoding -/

/-- `data[name]`; an absent key is a `KeyError`. -/
def item (data : List (String × Json)) (name : String) : Except Raised Json :=
  match Json.field data name with
  | none => .error ⟨.keyError, name⟩
  | some value => .ok value

/-- `data[name]` for a text. -/
def textItem (data : List (String × Json)) (name : String) : Except Raised String := do
  match ← item data name with
  | .str text => .ok text
  | _ => .error ⟨.typeError, name⟩

/-- `data.get(name)` for an optional text. -/
def optionalTextItem (data : List (String × Json)) (name : String) : Except Raised (Option String) :=
  match Json.field data name with
  | none => .ok none
  | some .null => .ok none
  | some (.str text) => .ok (some text)
  | some _ => .error ⟨.typeError, name⟩

/-- `data.get(name)` for an optional number. -/
def optionalNumberItem (data : List (String × Json)) (name : String) : Except Raised (Option Int) :=
  match Json.field data name with
  | none => .ok none
  | some .null => .ok none
  | some (.int number) => .ok (some number)
  | some _ => .error ⟨.typeError, name⟩

/-- `data.get(name, {})`. -/
def objectItem (data : List (String × Json)) (name : String) : Except Raised (List (String × Json)) :=
  match Json.field data name with
  | none => .ok []
  | some (.obj fields) => .ok fields
  | some _ => .error ⟨.typeError, name⟩

/-- A reference of a list. -/
def referenceOf : Json → Except Raised String
  | .str text => .ok text
  | _ => .error ⟨.typeError, "not a string"⟩

/-- `tuple(data.get(name, ()))`. -/
def referencesItem (data : List (String × Json)) (name : String) : Except Raised (List String) :=
  match Json.field data name with
  | none => .ok []
  | some (.arr items) => items.mapM referenceOf
  | some _ => .error ⟨.typeError, name⟩

/-- `_intervention_from_data`. -/
def interventionFromData : Option Json → Except Raised (Option ControlledEvidenceIntervention)
  | some (.obj data) => do
      let strategy ← memberOf "ControlledEvidenceStrategy" [.nullify, .replace, .perturb]
        ControlledEvidenceStrategy.value (← textItem data "strategy")
      let strategyVersion ← textItem data "strategy_version"
      let sourceEvidenceReference ← textItem data "source_evidence_reference"
      let targetEventId ← optionalTextItem data "target_event_id"
      let counterfactualEvidenceReference ← optionalTextItem data "counterfactual_evidence_reference"
      let seed ← optionalNumberItem data "seed"
      let configuration ← objectItem data "configuration"
      let policyId ← optionalTextItem data "policy_id"
      let policyVersion ← optionalNumberItem data "policy_version"
      let providerId ← optionalTextItem data "provider_id"
      let providerVersion ← optionalTextItem data "provider_version"
      let originalEvidenceDigest ← optionalTextItem data "original_evidence_digest"
      let counterfactualEvidenceDigest ← optionalTextItem data "counterfactual_evidence_digest"
      let interventionDigest ← optionalTextItem data "intervention_digest"
      let built ← ControlledEvidenceIntervention.create primitives {
        strategy, strategyVersion, sourceEvidenceReference, counterfactualEvidenceReference, targetEventId, seed,
        configuration, policyId, policyVersion, providerId, providerVersion, originalEvidenceDigest,
        counterfactualEvidenceDigest, interventionDigest := interventionDigest.getD "" }
      return some built
  | _ => .ok none

/-- The manifest of a configuration. -/
def manifestFromData : Option Json → Except Raised (Option ReplayManifest)
  | none => .ok none
  | some .null => .ok none
  | some (.obj data) => (ReplayManifest.fromDict primitives data).map some
  | some _ => .error ⟨.valueError, "Replay configuration manifest is malformed."⟩

/-- `_configuration_from_data`: an object without a workflow configures nothing. -/
def configurationFromData : Option (List (String × Json)) → Except Raised (Option ReplayConfiguration)
  | none => .ok none
  | some data =>
    if Json.field data "workflow_id" = none then .ok none
    else do
      let manifestData := Json.field data "replay_manifest"
      let workflowId ← textItem data "workflow_id"
      let workflowVersion ← textItem data "workflow_version"
      let executionAdapter ← textItem data "execution_adapter"
      let inputSnapshotRef ← textItem data "input_snapshot_ref"
      let stateSnapshotRef ← textItem data "state_snapshot_ref"
      let artifactRefs ← referencesItem data "artifact_refs"
      let promptRefs ← referencesItem data "prompt_refs"
      let modelRefs ← referencesItem data "model_refs"
      let datasetRefs ← referencesItem data "dataset_refs"
      let policyRefs ← referencesItem data "policy_refs"
      let runtimeParameters ← objectItem data "runtime_parameters"
      let configurationSource ← memberOf "ReplayConfigurationSource" [.original] configurationSourceValue
        (← textItem data "configuration_source")
      let resolvedAt ← readOptionalInstant (← optionalTextItem data "resolved_at")
      let configurationHash ← textItem data "configuration_hash"
      let replayManifest ← manifestFromData primitives manifestData
      let resolved ← Checked.create {
        workflowId, workflowVersion, executionAdapter, inputSnapshotRef, stateSnapshotRef, artifactRefs, promptRefs,
        modelRefs, datasetRefs, policyRefs, runtimeParameters, configurationSource, resolvedAt, configurationHash,
        replayManifest }
      return some resolved

/-- `_failure_from_json`. -/
def failureFromJson : Option Json → Except Raised (Option ReplayFailure)
  | none => .ok none
  | some (.obj data) => do
      let code ← textItem data "code"
      let message ← textItem data "message"
      let stage ← memberOf "ReplayFailureStage" stages stageValue (← textItem data "stage")
      let details ← objectItem data "details"
      let occurredAt ← readInstant (← textItem data "occurred_at")
      let made ← Checked.create { code, message, stage, details, occurredAt }
      return some made
  | some _ => .error ⟨.typeError, "failure_json"⟩

/-- `_load_json` of a column that holds an object or nothing. -/
def loadObject (name : String) : Option Json → Except Raised (Option (List (String × Json)))
  | none => .ok none
  | some (.obj data) => .ok (some data)
  | some _ => .error ⟨.typeError, name⟩

/-- `from_persistence_record`. -/
def fromPersistenceRecord (row : ReplayRow) : Except Raised Replay := do
  let configurationData ← loadObject "configuration_json" row.configurationJson
  let configuration ← configurationFromData primitives configurationData
  let failure ← failureFromJson row.failureJson
  let status ← memberOf "ReplayStatus" replayStatuses ReplayStatus.value row.status
  let mode ← memberOf "ReplayMode" [.full] modeValue row.mode
  let createdAt ← readInstant row.createdAt
  let updatedAt ← readInstant row.updatedAt
  let archivedAt ← readOptionalInstant row.archivedAt
  let metadata ← loadObject "metadata_json" row.metadataJson
  let queuedAt ← readOptionalInstant row.queuedAt
  let startedAt ← readOptionalInstant row.startedAt
  let executionCompletedAt ← readOptionalInstant row.executionCompletedAt
  let cancelRequestedAt ← readOptionalInstant row.cancelRequestedAt
  let cancelledAt ← readOptionalInstant row.cancelledAt
  let evaluationStartedAt ← readOptionalInstant row.evaluationStartedAt
  let evaluationCompletedAt ← readOptionalInstant row.evaluationCompletedAt
  let comparisonStartedAt ← readOptionalInstant row.comparisonStartedAt
  let comparisonCompletedAt ← readOptionalInstant row.comparisonCompletedAt
  let completedAt ← readOptionalInstant row.completedAt
  let controlledEvidenceIntervention ← interventionFromData primitives
    (configurationData.bind (Json.field · "controlled_evidence_intervention"))
  return {
    replayId := row.replayId
    sourceExecutionId := row.sourceExecutionId
    status, mode, configuration
    requestedBy := row.requestedBy
    organizationId := row.organizationId
    projectId := row.projectId
    requestId := row.requestId
    correlationId := row.correlationId
    idempotencyKey := row.idempotencyKey
    inputHash := row.inputHash
    createdAt, updatedAt, archivedAt, failure
    metadata := metadata.getD []
    version := row.version
    jobId := row.jobId
    replayExecutionId := row.replayExecutionId
    queuedAt, startedAt, executionCompletedAt, cancelRequestedAt, cancelledAt
    attemptCount := row.attemptCount.getD 0
    evaluationJobId := row.evaluationJobId
    baselineEvaluationId := row.baselineEvaluationId
    replayEvaluationId := row.replayEvaluationId
    comparisonId := row.comparisonId
    driftId := row.driftId
    resultId := row.resultId
    evaluationStartedAt, evaluationCompletedAt, comparisonStartedAt, comparisonCompletedAt, completedAt
    controlledEvidenceIntervention }

end ReplayPersistenceMapper

end AiGovernance.Replays
