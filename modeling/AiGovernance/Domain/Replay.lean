import AiGovernance.Domain.ReplayManifest

/-!
# The replay aggregate

A durable, governed request to reproduce a historical execution
(`domain/replay/replay.py`). Each transition method checks its guard and
returns a changed copy, or raises and leaves the aggregate as it is.
-/

namespace AiGovernance.Domain

open AiGovernance.Std

/-- `ReplayStatus`. -/
inductive ReplayStatus where
  | draft
  | ready
  | queued
  | running
  | executionCompleted
  | evaluating
  | comparing
  | completed
  | failed
  | cancelled
  | archived
deriving DecidableEq

/-- The stored text of a status. -/
def ReplayStatus.value : ReplayStatus → String
  | draft => "DRAFT"
  | ready => "READY"
  | queued => "QUEUED"
  | running => "RUNNING"
  | executionCompleted => "EXECUTION_COMPLETED"
  | evaluating => "EVALUATING"
  | comparing => "COMPARING"
  | completed => "COMPLETED"
  | failed => "FAILED"
  | cancelled => "CANCELLED"
  | archived => "ARCHIVED"

/-- `ReplayMode`. -/
inductive ReplayMode where
  | full
deriving DecidableEq

/-- `ReplayConfigurationSource`. -/
inductive ReplayConfigurationSource where
  | original
deriving DecidableEq

/-- `ReplayFailureStage`. -/
inductive ReplayFailureStage where
  | sourceResolution
  | authorization
  | validation
  | configurationResolution
  | persistence
  | jobSubmission
  | sourceReload
  | adapterResolution
  | reconstruction
  | execution
  | executionPersistence
  | lineagePersistence
  | cancellation
  | evaluationSubmission
  | evaluation
  | baselineResolution
  | comparison
  | driftAnalysis
  | resultPersistence
  | ontologySync
deriving DecidableEq

/-- The strategy of a controlled evidence intervention. -/
inductive ControlledEvidenceStrategy where
  | nullify
  | replace
  | perturb
deriving DecidableEq

/-- The stored text of a strategy. -/
def ControlledEvidenceStrategy.value : ControlledEvidenceStrategy → String
  | nullify => "NULLIFY"
  | replace => "REPLACE"
  | perturb => "PERTURB"

/-- `ControlledEvidenceIntervention`, with the digest its construction computes. -/
structure ControlledEvidenceIntervention where
  strategy : ControlledEvidenceStrategy
  strategyVersion : String
  sourceEvidenceReference : String
  counterfactualEvidenceReference : Option String := none
  targetEventId : Option String := none
  seed : Option Int := none
  configuration : List (String × Json) := []
  policyId : Option String := none
  policyVersion : Option Int := none
  providerId : Option String := none
  providerVersion : Option String := none
  originalEvidenceDigest : Option String := none
  counterfactualEvidenceDigest : Option String := none
  interventionDigest : String
deriving DecidableEq

/-- The fields of `ReplayConfiguration`. -/
structure ReplayConfigurationRecord where
  workflowId : String
  workflowVersion : String
  executionAdapter : String
  inputSnapshotRef : String
  stateSnapshotRef : String
  artifactRefs : List String := []
  promptRefs : List String := []
  modelRefs : List String := []
  datasetRefs : List String := []
  policyRefs : List String := []
  runtimeParameters : List (String × Json) := []
  configurationSource : ReplayConfigurationSource := .original
  resolvedAt : Option Instant := none
  configurationHash : String
  replayManifest : Option ReplayManifest := none
deriving DecidableEq

/-- A field of the frozen configuration that must not be blank. -/
def requireConfiguration (name value : String) : Option Raised :=
  rejectIf (Text.isBlank value) .valueError ("Replay configuration " ++ name ++ " is required.")

/-- `ReplayConfiguration.__post_init__`. -/
def ReplayConfigurationRecord.violation (record : ReplayConfigurationRecord) : Option Raised :=
  firstViolation [
    requireConfiguration "workflow_id" record.workflowId,
    requireConfiguration "workflow_version" record.workflowVersion,
    requireConfiguration "execution_adapter" record.executionAdapter,
    requireConfiguration "input_snapshot_ref" record.inputSnapshotRef,
    requireConfiguration "state_snapshot_ref" record.stateSnapshotRef,
    requireConfiguration "configuration_hash" record.configurationHash]

/-- Immutable, historically resolved evidence for a future replay. -/
abbrev ReplayConfiguration := Checked ReplayConfigurationRecord.violation

/-- The fields of `ReplayFailure`. -/
structure ReplayFailureRecord where
  code : String
  message : String
  stage : ReplayFailureStage
  details : List (String × Json)
  occurredAt : Instant
deriving DecidableEq

/-- `ReplayFailure.__post_init__`. -/
def ReplayFailureRecord.violation (record : ReplayFailureRecord) : Option Raised :=
  rejectIf (Text.isBlank record.code || Text.isBlank record.message) .valueError
    "Replay failure code and message are required."

/-- A structured failure of a replay. -/
abbrev ReplayFailure := Checked ReplayFailureRecord.violation

/-- `Replay`. -/
structure Replay where
  replayId : String
  sourceExecutionId : String
  status : ReplayStatus
  mode : ReplayMode
  requestedBy : String
  organizationId : String
  projectId : String
  requestId : String
  idempotencyKey : String
  inputHash : String
  createdAt : Instant
  updatedAt : Instant
  correlationId : Option String := none
  configuration : Option ReplayConfiguration := none
  archivedAt : Option Instant := none
  failure : Option ReplayFailure := none
  metadata : List (String × Json) := []
  version : Int := 0
  jobId : Option String := none
  replayExecutionId : Option String := none
  queuedAt : Option Instant := none
  startedAt : Option Instant := none
  executionCompletedAt : Option Instant := none
  cancelRequestedAt : Option Instant := none
  cancelledAt : Option Instant := none
  attemptCount : Int := 0
  evaluationJobId : Option String := none
  baselineEvaluationId : Option String := none
  replayEvaluationId : Option String := none
  comparisonId : Option String := none
  driftId : Option String := none
  resultId : Option String := none
  evaluationStartedAt : Option Instant := none
  evaluationCompletedAt : Option Instant := none
  comparisonStartedAt : Option Instant := none
  comparisonCompletedAt : Option Instant := none
  completedAt : Option Instant := none
  controlledEvidenceIntervention : Option ControlledEvidenceIntervention := none
deriving DecidableEq

namespace Replay

/-- The arguments of `Replay.create`. -/
structure Request where
  replayId : String
  sourceExecutionId : String
  mode : ReplayMode
  requestedBy : String
  organizationId : String
  projectId : String
  requestId : String
  correlationId : Option String
  idempotencyKey : String
  inputHash : String
  metadata : List (String × Json)
  now : Instant
  controlledEvidenceIntervention : Option ControlledEvidenceIntervention := none
deriving DecidableEq

/-- A `ValueError` with its text. -/
def invalid (message : String) : Raised := ⟨.valueError, message⟩

/-- A named text that must not be blank. -/
def required (name value : String) : Option Raised :=
  rejectIf (Text.isBlank value) .valueError ("Replay " ++ name ++ " is required.")

/-- The check of `Replay.create`. -/
def Request.violation (request : Request) : Option Raised :=
  firstViolation [
    required "replay_id" request.replayId,
    required "source_execution_id" request.sourceExecutionId,
    required "requested_by" request.requestedBy,
    required "organization_id" request.organizationId,
    required "project_id" request.projectId,
    required "request_id" request.requestId,
    required "idempotency_key" request.idempotencyKey,
    required "input_hash" request.inputHash]

/-- The draft `Replay.create` builds. -/
def draftOf (request : Request) : Replay :=
  { replayId := request.replayId
    sourceExecutionId := request.sourceExecutionId
    status := .draft
    mode := request.mode
    requestedBy := request.requestedBy
    organizationId := request.organizationId
    projectId := request.projectId
    requestId := request.requestId
    correlationId := request.correlationId
    idempotencyKey := request.idempotencyKey
    inputHash := request.inputHash
    createdAt := request.now
    updatedAt := request.now
    metadata := request.metadata
    controlledEvidenceIntervention := request.controlledEvidenceIntervention }

/-- `Replay.create`. -/
def create (request : Request) : Except Raised Replay :=
  match request.violation with
  | some raised => .error raised
  | none => .ok (draftOf request)

/-- `_require_status`. -/
def requireStatus (replay : Replay) (expected : ReplayStatus) (operation : String) : Except Raised Unit :=
  if replay.status = expected then .ok ()
  else .error (invalid ("Cannot " ++ operation ++ " replay in " ++ replay.status.value ++ " state."))

/-- Python's truth of an optional text: set and not empty. -/
def truthy (value : Option String) : Bool := value.any (· ≠ "")

/-- A guard that raises a `ValueError`. -/
def require (holds : Prop) [Decidable holds] (message : String) : Except Raised Unit :=
  if holds then .ok () else .error (invalid message)

/-- `mark_ready`. -/
def markReady (replay : Replay) (configuration : ReplayConfiguration) (now : Instant) :
    Except Raised Replay := do
  replay.requireStatus .draft "mark ready"
  require (replay.failure = none) "A failed replay cannot become ready."
  return { replay with status := .ready, configuration := some configuration, updatedAt := now }

/-- `mark_failed`. -/
def markFailed (replay : Replay) (failure : ReplayFailure) (now : Instant) : Except Raised Replay := do
  replay.requireStatus .draft "mark failed"
  return { replay with status := .failed, failure := some failure, updatedAt := now }

/-- The states a replay may be archived from. -/
def archivable : ReplayStatus → Bool
  | .ready | .executionCompleted | .completed | .failed | .cancelled => true
  | _ => false

/-- `archive`. -/
def archive (replay : Replay) (now : Instant) : Except Raised Replay := do
  require (archivable replay.status = true) ("Cannot archive replay in " ++ replay.status.value ++ " state.")
  return { replay with status := .archived, archivedAt := some now, updatedAt := now }

/-- `mark_queued`. -/
def markQueued (replay : Replay) (jobId : String) (now : Instant) : Except Raised Replay := do
  replay.requireStatus .ready "queue"
  require (Text.isBlank jobId = false) "Replay job ID is required."
  require (replay.jobId.all (· = jobId) = true) "Replay job ID is immutable once assigned."
  return { replay with status := .queued, jobId := some jobId, queuedAt := some now, updatedAt := now }

/-- `mark_running`. -/
def markRunning (replay : Replay) (attemptCount : Int) (now : Instant) : Except Raised Replay := do
  replay.requireStatus .queued "start"
  require (1 ≤ attemptCount) "Replay attempt count must be positive."
  return { replay with
    status := .running, startedAt := some now, updatedAt := now, attemptCount := attemptCount }

/-- `reserve_replay_execution_id`. -/
def reserveReplayExecutionId (replay : Replay) (replayExecutionId : String) (now : Instant) :
    Except Raised Replay := do
  require (replay.status = .queued ∨ replay.status = .running)
    "Replay execution identity may only be reserved while active."
  require (Text.isBlank replayExecutionId = false ∧ replayExecutionId ≠ replay.sourceExecutionId)
    "Replay execution ID must differ from source execution ID."
  require (truthy replay.replayExecutionId = false ∨ replay.replayExecutionId = some replayExecutionId)
    "Replay execution ID is immutable once assigned."
  return { replay with replayExecutionId := some replayExecutionId, updatedAt := now }

/-- `mark_execution_completed`. -/
def markExecutionCompleted (replay : Replay) (now : Instant) : Except Raised Replay := do
  replay.requireStatus .running "complete execution"
  require (replay.replayExecutionId ≠ none) "Replay execution ID must be reserved before completion."
  return { replay with
    status := .executionCompleted, executionCompletedAt := some now, updatedAt := now }

/-- The states in which work may still be stopped. -/
def active : ReplayStatus → Bool
  | .ready | .queued | .running | .executionCompleted | .evaluating | .comparing => true
  | _ => false

/-- `request_cancellation`. -/
def requestCancellation (replay : Replay) (now : Instant) : Except Raised Replay := do
  require (active replay.status = true) ("Cannot cancel replay in " ++ replay.status.value ++ " state.")
  return { replay with cancelRequestedAt := some now, updatedAt := now }

/-- `mark_cancelled`. -/
def markCancelled (replay : Replay) (now : Instant) : Except Raised Replay :=
  if replay.status = .ready then
    .ok { replay with
      status := .cancelled
      cancelRequestedAt := some (replay.cancelRequestedAt.getD now)
      cancelledAt := some now
      updatedAt := now }
  else do
    require (active replay.status = true ∧ replay.cancelRequestedAt ≠ none)
      "Replay cancellation must be requested before completion."
    return { replay with status := .cancelled, cancelledAt := some now, updatedAt := now }

/-- `mark_execution_failed`. -/
def markExecutionFailed (replay : Replay) (failure : ReplayFailure) (now : Instant) :
    Except Raised Replay := do
  require (active replay.status = true) ("Cannot fail replay in " ++ replay.status.value ++ " state.")
  return { replay with status := .failed, failure := some failure, updatedAt := now }

/-- `mark_evaluating`. -/
def markEvaluating (replay : Replay) (evaluationJobId : String) (now : Instant) :
    Except Raised Replay := do
  replay.requireStatus .executionCompleted "start evaluation"
  require (Text.isBlank evaluationJobId = false) "Replay evaluation job ID is required."
  require (truthy replay.evaluationJobId = false ∨ replay.evaluationJobId = some evaluationJobId)
    "Replay evaluation job ID is immutable once assigned."
  return { replay with
    status := .evaluating
    evaluationJobId := some evaluationJobId
    evaluationStartedAt := some now
    updatedAt := now }

/-- The check of `_record_immutable` on a field with its current value. -/
def requireImmutable (fieldName : String) (current : Option String) (value : String) :
    Except Raised Unit := do
  require (Text.isBlank value = false) ("Replay " ++ fieldName ++ " is required.")
  require (truthy current = false ∨ current = some value)
    ("Replay " ++ fieldName ++ " is immutable once assigned.")

/-- `record_replay_evaluation`. -/
def recordReplayEvaluation (replay : Replay) (evaluationId : String) (now : Instant) :
    Except Raised Replay := do
  require (replay.status = .evaluating ∨ replay.status = .comparing)
    "Replay evaluation may only be recorded while evaluating."
  requireImmutable "replay_evaluation_id" replay.replayEvaluationId evaluationId
  return { replay with replayEvaluationId := some evaluationId, updatedAt := now }

/-- `record_baseline_evaluation`. -/
def recordBaselineEvaluation (replay : Replay) (evaluationId : String) (now : Instant) :
    Except Raised Replay := do
  require (replay.status = .evaluating ∨ replay.status = .comparing)
    "Replay baseline may only be recorded while evaluating."
  requireImmutable "baseline_evaluation_id" replay.baselineEvaluationId evaluationId
  return { replay with baselineEvaluationId := some evaluationId, updatedAt := now }

/-- `mark_comparing`. -/
def markComparing (replay : Replay) (now : Instant) : Except Raised Replay := do
  replay.requireStatus .evaluating "start comparison"
  require (truthy replay.replayEvaluationId = true ∧ truthy replay.baselineEvaluationId = true)
    "Replay and baseline evaluations are required for comparison."
  return { replay with
    status := .comparing
    evaluationCompletedAt := some (replay.evaluationCompletedAt.getD now)
    comparisonStartedAt := some now
    updatedAt := now }

/-- `record_comparison`. -/
def recordComparison (replay : Replay) (comparisonId : String) (now : Instant) : Except Raised Replay := do
  replay.requireStatus .comparing "record comparison"
  requireImmutable "comparison_id" replay.comparisonId comparisonId
  return { replay with comparisonId := some comparisonId, updatedAt := now }

/-- `record_drift`. -/
def recordDrift (replay : Replay) (driftId : String) (now : Instant) : Except Raised Replay := do
  replay.requireStatus .comparing "record drift"
  requireImmutable "drift_id" replay.driftId driftId
  return { replay with driftId := some driftId, updatedAt := now }

/-- `mark_completed`. -/
def markCompleted (replay : Replay) (resultId : String) (now : Instant) : Except Raised Replay := do
  replay.requireStatus .comparing "complete"
  require (truthy replay.comparisonId = true ∧ truthy replay.driftId = true)
    "Comparison and drift evidence are required for completion."
  requireImmutable "result_id" replay.resultId resultId
  return { replay with
    resultId := some resultId
    status := .completed
    comparisonCompletedAt := some now
    completedAt := some now
    updatedAt := now }

end Replay

/-! ## Workflow executions -/

/-- `WorkflowExecution`: a historical or a produced execution. -/
structure WorkflowExecution where
  workflowId : String
  executionId : String
  workflowName : String
  workflowVersion : String
  executionStatus : String
  input : List (String × Json)
  finalState : List (String × Json)
  events : List Json
  organizationId : String := "org_default"
  projectId : String := "project_default"
  executionAdapter : String := "historical"
  inputSnapshotRef : Option String := none
  stateSnapshotRef : Option String := none
  artifactRefs : Option (List String) := none
  promptRefs : Option (List String) := none
  modelRefs : Option (List String) := none
  datasetRefs : Option (List String) := none
  policyRefs : Option (List String) := none
  runtimeParameters : Option (List (String × Json)) := none
  metadata : List (String × Json) := []
  createdAt : Option Instant := none
deriving DecidableEq

/-- `ReplayExecutionResult`: what an external runtime reports. -/
structure ReplayExecutionResult where
  executionStatus : String
  input : List (String × Json) := []
  finalState : List (String × Json) := []
  events : List Json := []
  artifactRefs : List String := []
  runtimeParameters : List (String × Json) := []
  metadata : List (String × Json) := []
  createdAt : Option Instant := none
deriving DecidableEq

end AiGovernance.Domain
