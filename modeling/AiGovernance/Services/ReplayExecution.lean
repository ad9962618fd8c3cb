import AiGovernance.Repositories.Plane

/-!
# The replay execution handler

`ReplayJobHandler` (`services/replay_execution.py`). The handler starts a queued
replay, reserves the identity of the execution it will produce, calls the
adapter of the frozen configuration, stores what it returns and completes the
replay; every repository call is a command, and each update names the version
the handler last saw. Adapters, clock and identifier generator are what a call
brings with it. The check of a runtime replay source against the frozen manifest
is part of the adapter's validation here, and lifecycle events are not modelled.
-/

namespace AiGovernance.Services

open AiGovernance.Std Domain Repositories Semantics

/-- What an adapter returns. -/
inductive AdapterOutput where
  | execution (execution : WorkflowExecution)
  | result (result : ReplayExecutionResult)
  | unsupported

/-- `ReplayExecutionAdapter`. -/
structure ReplayExecutionAdapter where
  validateConfiguration : WorkflowExecution → ReplayConfiguration → Except Raised Unit
  replay : AdapterRequest → Except Raised AdapterOutput

/-- What one run of the handler reads from outside the repositories. -/
structure HandlerAmbient where
  resolve : String → Option ReplayExecutionAdapter
  executionId : String
  startedAt : Instant
  reservedAt : Instant
  completedAt : Instant
  cancelledAt : Instant
  occurredAt : Instant
  failedAt : Instant

/-- The class of an exception, as `type(error).__name__`. -/
def className : ErrorKind → String
  | .valueError => "ValueError"
  | .typeError => "TypeError"
  | .keyError => "KeyError"
  | .replayConflict => "ReplayConflict"
  | .replayAdapterNotFound => "ReplayAdapterNotFound"
  | .replayAdapterConfigurationInvalid => "ReplayAdapterConfigurationInvalid"
  | .replayReconstructionFailed => "ReplayReconstructionFailed"
  | .replayExecutionIdentityConflict => "ReplayExecutionIdentityConflict"
  | .replayExecutionPersistenceFailed => "ReplayExecutionPersistenceFailed"
  | .replayLineagePersistenceFailed => "ReplayLineagePersistenceFailed"
  | _ => "Exception"

/-- `_failure_stage`. -/
def failureStage : ErrorKind → ReplayFailureStage
  | .replayAdapterNotFound => .adapterResolution
  | .replayAdapterConfigurationInvalid => .reconstruction
  | .replayExecutionIdentityConflict => .execution
  | .replayExecutionPersistenceFailed => .executionPersistence
  | .replayLineagePersistenceFailed => .lineagePersistence
  | _ => .execution

/-- `_context`: the tenant a job was submitted for. -/
def jobContext (job : Job) : Except Raised JobExecutionContext :=
  match job.record.executionContext with
  | some context => .ok context
  | none => .error ⟨.replayReconstructionFailed, "Replay job is missing tenant execution context."⟩

/-- `str(job.input_refs["replay_id"])`. -/
def jobReplayId (primitives : Primitives) (job : Job) : Except Raised String :=
  match primitives.textField job.record.inputRefs "replay_id" with
  | some replayId => .ok replayId
  | none => .error ⟨.keyError, "'replay_id'"⟩

/-- `_result_ref`. -/
def resultRef (replay : Replay) : String :=
  "workflow_execution:" ++ replay.replayExecutionId.getD "None"

/-- An optional number as a value. -/
def numberOrNull : Option Int → Json
  | some value => .int value
  | none => .null

/-- `_intervention_metadata`. -/
def interventionMetadata : Option ControlledEvidenceIntervention → Json
  | none => .null
  | some intervention => .obj [
      ("strategy", .str intervention.strategy.value),
      ("strategy_version", .str intervention.strategyVersion),
      ("source_evidence_reference", .str intervention.sourceEvidenceReference),
      ("target_event_id", optionalText intervention.targetEventId),
      ("counterfactual_evidence_reference", optionalText intervention.counterfactualEvidenceReference),
      ("seed", numberOrNull intervention.seed),
      ("configuration", .obj intervention.configuration),
      ("policy_id", optionalText intervention.policyId),
      ("policy_version", numberOrNull intervention.policyVersion),
      ("provider_id", optionalText intervention.providerId),
      ("provider_version", optionalText intervention.providerVersion),
      ("original_evidence_digest", optionalText intervention.originalEvidenceDigest),
      ("counterfactual_evidence_digest", optionalText intervention.counterfactualEvidenceDigest),
      ("intervention_digest", .str intervention.interventionDigest)]

/-- Write a key of a dictionary: in its place, or last. -/
def setField (fields : List (String × Json)) (key : String) (value : Json) : List (String × Json) :=
  Dict.write fields key value

/-- The lineage of a produced execution. -/
def lineage (job : Job) (replay : Replay) (source : WorkflowExecution)
    (configuration : ReplayConfiguration) : List (String × Json) := [
  ("replay_id", .str replay.replayId),
  ("source_execution_id", .str replay.sourceExecutionId),
  ("source_workflow_id", .str source.workflowId),
  ("source_workflow_version", .str source.workflowVersion),
  ("configuration_hash", .str configuration.record.configurationHash),
  ("job_id", .str job.record.jobId),
  ("job_attempt", .int job.record.attemptCount),
  ("controlled_evidence_intervention", interventionMetadata replay.controlledEvidenceIntervention)]

/-- The produced execution under the tenant of the job, with its lineage. -/
def governed (job : Job) (context : JobExecutionContext) (replay : Replay) (source : WorkflowExecution)
    (configuration : ReplayConfiguration) (execution : WorkflowExecution) : WorkflowExecution :=
  { execution with
    organizationId := context.organizationId
    projectId := context.projectId
    metadata := (lineage job replay source configuration).foldl
      (fun fields entry => setField fields entry.1 entry.2) execution.metadata }

/-- `_materialise_plugin_execution`. -/
def materialisePluginExecution (result : ReplayExecutionResult) (source : WorkflowExecution)
    (configuration : ReplayConfiguration) (executionId : String) : WorkflowExecution where
  workflowId := source.workflowId
  executionId := executionId
  workflowName := source.workflowName
  workflowVersion := source.workflowVersion
  executionStatus := result.executionStatus
  input := result.input
  finalState := result.finalState
  events := result.events
  executionAdapter := configuration.record.executionAdapter
  inputSnapshotRef := some configuration.record.inputSnapshotRef
  stateSnapshotRef := some configuration.record.stateSnapshotRef
  artifactRefs := some result.artifactRefs
  promptRefs := some configuration.record.promptRefs
  modelRefs := some configuration.record.modelRefs
  datasetRefs := some configuration.record.datasetRefs
  policyRefs := some configuration.record.policyRefs
  runtimeParameters := some result.runtimeParameters
  metadata := result.metadata
  createdAt := result.createdAt

/-- The execution an adapter's output stands for, with the identity it must have. -/
def producedExecution (replay : Replay) (source : WorkflowExecution) (configuration : ReplayConfiguration)
    (output : AdapterOutput) : Except Raised WorkflowExecution := do
  let execution ← match output with
    | .execution execution => .ok execution
    | .result result =>
      .ok (materialisePluginExecution result source configuration (replay.replayExecutionId.getD ""))
    | .unsupported =>
      .error ⟨.replayReconstructionFailed, "Replay adapter returned an unsupported execution result."⟩
  if some execution.executionId ≠ replay.replayExecutionId then
    .error ⟨.replayExecutionIdentityConflict, "Adapter returned an unexpected execution ID."⟩
  else if execution.executionId = replay.sourceExecutionId then
    .error ⟨.replayExecutionIdentityConflict, "Replay execution ID equals source execution ID."⟩
  else .ok execution

namespace ReplayJobHandler

/-- `_RepositoryCancellationToken.is_cancelled`. -/
def isCancelled (replayId : String) (context : JobExecutionContext) : PlaneOperation Bool := do
  let replay ← ask (.getReplay replayId context.organizationId context.projectId)
  return replay.all fun replay => replay.status = .cancelled || replay.cancelRequestedAt.isSome

/-- `_cancel`. -/
def cancel (ambient : HandlerAmbient) (replay : Replay) : PlaneOperation JobResult := do
  if replay.status = .running ∧ replay.cancelRequestedAt ≠ none then do
    let cancelled ← Program.ofExcept (replay.markCancelled ambient.cancelledAt)
    let _ ← ask (.updateReplay cancelled replay.version)
    return ⟨.cancelled, none, some "Replay cancellation requested."⟩
  else return ⟨.cancelled, none, some "Replay cancellation requested."⟩

/-- `_fail`. -/
def fail (ambient : HandlerAmbient) (job : Job) (replay : Replay) (error : Raised) :
    PlaneOperation JobResult := do
  if replay.status = .ready ∨ replay.status = .queued ∨ replay.status = .running then do
    let failure : ReplayFailure ← Program.ofExcept (Checked.create {
      code := className error.kind
      message := error.message
      stage := failureStage error.kind
      details := [("job_id", .str job.record.jobId), ("retryable", .bool false)]
      occurredAt := ambient.occurredAt })
    let failed ← Program.ofExcept (replay.markExecutionFailed failure ambient.failedAt)
    let _ ← ask (.updateReplay failed replay.version)
    return ⟨.failed, none, some error.message⟩
  else return ⟨.failed, none, some error.message⟩

/-- Start a queued replay. -/
def start (ambient : HandlerAmbient) (job : Job) (replay : Replay) : PlaneOperation Replay := do
  if replay.status = .queued then do
    let running ← Program.ofExcept (replay.markRunning (max job.record.attemptCount 1) ambient.startedAt)
    ask (.updateReplay running replay.version)
  else return replay

/-- Reserve the identity of the execution to produce. -/
def reserve (ambient : HandlerAmbient) (replay : Replay) : PlaneOperation Replay := do
  if replay.replayExecutionId = none then do
    let reserved ← Program.ofExcept
      (replay.reserveReplayExecutionId ambient.executionId ambient.reservedAt)
    ask (.updateReplay reserved replay.version)
  else return replay

/-- What the adapter is called with. -/
def adapterRequest (job : Job) (context : JobExecutionContext) (replay : Replay)
    (source : WorkflowExecution) (configuration : ReplayConfiguration) : AdapterRequest where
  source := source
  configuration := configuration
  replayId := replay.replayId
  sourceExecutionId := replay.sourceExecutionId
  newExecutionId := replay.replayExecutionId
  organizationId := context.organizationId
  projectId := context.projectId
  actorId := context.actorId
  requestId := context.submittedRequestId
  correlationId := context.correlationId
  attempt := max job.record.attemptCount 1
  controlledEvidenceIntervention := replay.controlledEvidenceIntervention

/-- Store the produced execution and complete the replay. -/
def complete (ambient : HandlerAmbient) (replay : Replay) (execution : WorkflowExecution) :
    PlaneOperation JobResult := do
  let _ ← ask (.saveWorkflowExecution execution)
  let finished ← Program.ofExcept (replay.markExecutionCompleted ambient.completedAt)
  let completed ← ask (.updateReplay finished replay.version)
  return ⟨.succeeded, some (resultRef completed), none⟩

/-- Call the adapter between two looks at the cancellation token. -/
def invoke (ambient : HandlerAmbient) (job : Job) (context : JobExecutionContext) (replay : Replay)
    (source : WorkflowExecution) (configuration : ReplayConfiguration)
    (adapter : ReplayExecutionAdapter) : PlaneOperation JobResult := do
  let stopped ← isCancelled replay.replayId context
  if stopped then cancel ambient replay
  else do
    let request := adapterRequest job context replay source configuration
    let _ ← ask (.invokeAdapter request)
    match adapter.replay request with
    | .error error => do
        let stopped ← isCancelled replay.replayId context
        if stopped then cancel ambient replay else .raise error
    | .ok output => do
        let stopped ← isCancelled replay.replayId context
        if stopped then cancel ambient replay
        else do
          let execution ← Program.ofExcept (producedExecution replay source configuration output)
          complete ambient replay (governed job context replay source configuration execution)

/-- The evidence a run needs, resolved from the frozen configuration. -/
def produce (ambient : HandlerAmbient) (job : Job) (context : JobExecutionContext) (replay : Replay) :
    PlaneOperation JobResult := do
  let source ← ask (.getWorkflowExecution replay.sourceExecutionId context.organizationId context.projectId)
  match source, replay.configuration with
  | none, _ => .raise ⟨.replayReconstructionFailed, "Source execution is no longer available."⟩
  | some _, none => .raise ⟨.replayReconstructionFailed, "Replay configuration is not frozen."⟩
  | some source, some configuration =>
    match ambient.resolve configuration.record.executionAdapter with
    | none =>
      .raise ⟨.replayAdapterNotFound,
        "Replay adapter '" ++ configuration.record.executionAdapter ++ "' is unavailable."⟩
    | some adapter =>
      match adapter.validateConfiguration source configuration with
      | .error error => .raise ⟨.replayAdapterConfigurationInvalid, error.message⟩
      | .ok () => invoke ambient job context replay source configuration adapter

/-- The guarded body of `handle`: a failure is recorded on the replay as last seen. -/
def execute (ambient : HandlerAmbient) (job : Job) (context : JobExecutionContext) (replay : Replay) :
    PlaneOperation JobResult := do
  match ← (start ambient job replay).caught with
  | .error error => fail ambient job replay error
  | .ok replay => do
      match ← (reserve ambient replay).caught with
      | .error error => fail ambient job replay error
      | .ok replay => do
          match ← (produce ambient job context replay).caught with
          | .error error => fail ambient job replay error
          | .ok result => return result

/-- `ReplayJobHandler.handle`. -/
def handle (primitives : Primitives) (ambient : HandlerAmbient) (job : Job) : PlaneOperation JobResult := do
  let context ← Program.ofExcept (jobContext job)
  let replayId ← Program.ofExcept (jobReplayId primitives job)
  let found ← ask (.getReplay replayId context.organizationId context.projectId)
  match found with
  | none => return ⟨.failed, none, some "Replay job linkage is invalid."⟩
  | some replay =>
    if replay.jobId ≠ some job.record.jobId then
      return ⟨.failed, none, some "Replay job linkage is invalid."⟩
    else if replay.status ∈ [.executionCompleted, .evaluating, .comparing, .completed] ∧
        Replay.truthy replay.replayExecutionId = true then
      return ⟨.succeeded, some (resultRef replay), none⟩
    else if replay.status = .cancelled ∨ replay.status = .archived then
      return ⟨.cancelled, none, some "Replay is cancelled or archived."⟩
    else execute ambient job context replay

end ReplayJobHandler

end AiGovernance.Services
