import AiGovernance.Domain.Receipt
import AiGovernance.Repositories.Commands

/-!
# The agent execution service

`AgentExecutionService`: ingestion of executions, events and receipts as
programs over the repositories (`services/agent_execution_service.py`). What a
call takes from outside the repositories is its `Ambient`: the enforcer's
verdict, the clock, generated identifiers and the settings it reads.
-/

namespace AiGovernance.Services

open AiGovernance.Std Domain Repositories Semantics

/-- The finalization contract of a reconciliation window. -/
structure FinalizationContract where
  finalizationCutoffAt : Option Instant
  latenessPolicyHours : Option Int
deriving DecidableEq

/-- What one call reads from outside the repositories. -/
structure Ambient where
  permitted : Bool
  now : Instant
  executionId : String
  eventId : String
  latenessHours : Int := 2
  finalizedWindows : List FinalizationContract := []
deriving DecidableEq

/-- `_authorize`: the enforcer's verdict, denied also when the enforcer fails. -/
def enforce (ambient : Ambient) : Operation Unit :=
  if ambient.permitted then .done ()
  else .raise ⟨.authorizationDenied, "Actor is not authorized for this operation"⟩

/-! ## Start -/

/-- The arguments of `ingest_start`. -/
structure StartSubmission where
  agentId : String
  agentName : String
  agentVersion : String
  externalExecutionId : String
  runtimeProvider : String
  correlationId : Option String := none
  parentExecutionId : Option String := none
  metadata : List (String × Json) := []
deriving DecidableEq

/-- `_idempotency_key_for_start`. -/
def idempotencyKeyForStart (primitives : Primitives) (externalExecutionId runtimeProvider : String)
    (scope : Scope) : String :=
  "start:" ++ String.ofList ((primitives.sha256 (scope.organizationId ++ ":" ++ scope.projectKey ++
    ":" ++ runtimeProvider ++ ":" ++ externalExecutionId)).toList.take 32)

/-- The execution `ingest_start` creates. -/
def newExecution (submission : StartSubmission) (scope : Scope) (ambient : Ambient) :
    AgentExecutionRecord :=
  { executionId := ambient.executionId
    organizationId := scope.organizationId
    projectId := scope.projectId
    agentId := submission.agentId
    agentName := submission.agentName
    agentVersion := submission.agentVersion
    externalExecutionId := submission.externalExecutionId
    runtimeProvider := submission.runtimeProvider
    status := .received
    startedAt := ambient.now
    completedAt := none
    correlationId := submission.correlationId
    parentExecutionId := submission.parentExecutionId
    createdAt := ambient.now
    updatedAt := ambient.now
    metadata := submission.metadata
    version := 0 }

/-- The `EXECUTION_STARTED` event of a new execution. -/
def startEvent (submission : StartSubmission) (scope : Scope) (ambient : Ambient) :
    AgentExecutionEventRecord :=
  { eventId := ambient.eventId
    executionId := ambient.executionId
    organizationId := scope.organizationId
    projectId := scope.projectId
    eventType := .executionStarted
    sequenceNumber := 0
    occurredAt := ambient.now
    receivedAt := ambient.now
    correlationId := submission.correlationId
    causationId := none
    actorId := some submission.agentId
    actorType := some .agent
    attributes := [("agent_name", .str submission.agentName),
      ("agent_version", .str submission.agentVersion),
      ("runtime_provider", .str submission.runtimeProvider),
      ("external_execution_id", .str submission.externalExecutionId)] }

/-- The replay branch of `ingest_start`: an execution with the external identity exists. -/
def replayStart (existing : AgentExecution) (scope : Scope) : Operation AgentExecution :=
  if AgentExecution.isTerminal existing then .done existing
  else if existing.record.status = .received then
    issue (.updateStatus existing.record.executionId scope .running none existing.record.version)
  else .done existing

/-- The creating branch of `ingest_start`. -/
def createStart (primitives : Primitives) (submission : StartSubmission) (scope : Scope)
    (ambient : Ambient) : Operation AgentExecution := do
  let execution : AgentExecution ← Program.ofExcept (Checked.create (newExecution submission scope ambient))
  let _ ← issue (.saveExecution execution)
  let event : AgentExecutionEvent ← Program.ofExcept (Checked.create (startEvent submission scope ambient))
  let _ ← issue (.saveEvent event
    (some (idempotencyKeyForStart primitives submission.externalExecutionId
      submission.runtimeProvider scope)))
  issue (.updateStatus ambient.executionId scope .running none 0)

/-- `ingest_start`. -/
def ingestStart (primitives : Primitives) (submission : StartSubmission) (context : TenantContext)
    (ambient : Ambient) : Operation AgentExecution := do
  enforce ambient
  let existing ← issue (.getExecutionByExternalId submission.externalExecutionId
    submission.runtimeProvider context.scope)
  match existing with
  | some existing => replayStart existing context.scope
  | none => createStart primitives submission context.scope ambient

/-! ## Events -/

/-- The arguments of `ingest_event`. -/
structure EventSubmission where
  executionId : String
  eventType : EventType
  attributes : List (String × Json)
  idempotencyKey : Option String := none
  correlationId : Option String := none
  causationId : Option String := none
  actorId : Option String := none
  actorType : Option ActorType := none
  workflowStep : Option WorkflowStep := none
  toolCallContext : Option ToolCallContext := none
  resourceReferences : List String := []
  evidenceReferences : List String := []
  occurredAt : Option Instant := none
deriving DecidableEq

/-- An exception of the lifecycle checks. -/
def invalidTransition (message : String) : Raised := ⟨.agentExecutionInvalidTransition, message⟩

/-- The steps of the `WORKFLOW_STEP` events in a listing. -/
def priorSteps (events : List AgentExecutionEvent) : List WorkflowStep :=
  events.filterMap fun event =>
    if event.record.eventType = .workflowStep then event.record.workflowStep else none

/-- The transition check of `_validate_workflow_step_transition` against the listed steps. -/
def checkWorkflowStep (prior : List WorkflowStep) (step : WorkflowStep) : Except Raised Unit :=
  let sameStep := prior.filter (·.record.stepId = step.record.stepId)
  if step.record.parentStepId.any (fun parent => parent ∉ prior.map (·.record.stepId)) then
    .error (invalidTransition "parent_step_id must reference a workflow step in the same execution.")
  else if step.record.lifecycle = .started then
    if sameStep ≠ [] then
      .error (invalidTransition ("Workflow step '" ++ step.record.stepId ++ "' has already started."))
    else .ok ()
  else if sameStep.all (·.record.lifecycle ≠ .started) then
    .error (invalidTransition
      ("Workflow step '" ++ step.record.stepId ++ "' must start before it terminates."))
  else if sameStep.any (·.record.lifecycle ≠ .started) then
    .error (invalidTransition ("Workflow step '" ++ step.record.stepId ++ "' is already terminal."))
  else .ok ()

/-- `_validate_workflow_step_transition`. -/
def validateWorkflowStepTransition (executionId : String) (eventType : EventType)
    (workflowStep : Option WorkflowStep) (scope : Scope) : Operation Unit :=
  if eventType ≠ .workflowStep then
    if workflowStep.isSome then
      .raise ⟨.valueError, "workflow_step evidence is valid only for WORKFLOW_STEP events."⟩
    else .done ()
  else
    match workflowStep with
    | none => .raise ⟨.typeError, "WORKFLOW_STEP events require typed workflow_step evidence."⟩
    | some step => do
        let events ← issue (.listEventsByExecution executionId scope none)
        Program.ofExcept (checkWorkflowStep (priorSteps events) step)

/-- `_finalization_contract_for`: the first contract with the earliest cutoff; one
without a cutoff comes before all others. -/
def finalizationContractFor : List FinalizationContract → Option FinalizationContract
  | [] => none
  | first :: rest => some (rest.foldl (fun best contract =>
    if (contract.finalizationCutoffAt.getD ⟨0⟩) < (best.finalizationCutoffAt.getD ⟨0⟩) then contract
    else best) first)

/-- `_runtime_findings_cutoff`: the end of the 48-hour period, plus the allowed lateness.
Seconds are truncated towards the epoch, as `int` does. -/
def runtimeFindingsCutoff (occurredAt : Instant) (latenessHours : Int) : Instant :=
  let cadenceSeconds : Int := 48 * 60 * 60
  let timestamp := ((occurredAt.micros : Int) - Instant.epochSeconds * Instant.second).tdiv Instant.second
  let boundary := (timestamp.fdiv cadenceSeconds + 1) * cadenceSeconds
  ⟨((boundary + Instant.epochSeconds + latenessHours * 3600) * Instant.second).toNat⟩

/-- The cutoff and lateness recorded on an event, and whether it is late for them. -/
def lateness (ambient : Ambient) (occurredAt : Instant) : Bool × Option Instant × Option Int :=
  match finalizationContractFor ambient.finalizedWindows with
  | some contract =>
    (contract.finalizationCutoffAt.all (· < ambient.now), contract.finalizationCutoffAt,
      contract.latenessPolicyHours)
  | none =>
    let cutoff := runtimeFindingsCutoff occurredAt ambient.latenessHours
    (cutoff < ambient.now, some cutoff, some ambient.latenessHours)

/-- The event `ingest_event` builds. -/
def submittedEvent (submission : EventSubmission) (scope : Scope) (ambient : Ambient)
    (execution : AgentExecution) (sequenceNumber : Nat) : AgentExecutionEventRecord :=
  let occurredAt := submission.occurredAt.getD ambient.now
  let late := lateness ambient occurredAt
  { eventId := ambient.eventId
    executionId := submission.executionId
    organizationId := scope.organizationId
    projectId := scope.projectId
    eventType := submission.eventType
    sequenceNumber
    occurredAt
    receivedAt := ambient.now
    correlationId := Text.orElse submission.correlationId execution.record.correlationId
    causationId := submission.causationId
    actorId := submission.actorId
    actorType := submission.actorType
    workflowStep := submission.workflowStep
    toolCallContext := submission.toolCallContext
    lateForRuntimeFindings := late.1
    runtimeFindingsFinalizationCutoffAt := late.2.1
    runtimeFindingsLatenessPolicyHours := late.2.2
    resourceReferences := submission.resourceReferences
    evidenceReferences := submission.evidenceReferences
    attributes := submission.attributes }

/-- The part of `ingest_event` that stores a new event. -/
def storeSubmission (submission : EventSubmission) (scope : Scope) (ambient : Ambient)
    (execution : AgentExecution) : Operation AgentExecutionEvent := do
  validateWorkflowStepTransition submission.executionId submission.eventType
    submission.workflowStep scope
  let highest ← issue (.maxSequenceNumber submission.executionId scope)
  let event : AgentExecutionEvent ←
    Program.ofExcept (Checked.create (submittedEvent submission scope ambient execution (highest + 1)))
  issue (.saveEvent event submission.idempotencyKey)

/-- The comparison `ingest_event` makes with an event found under its key. -/
def redeliver (submission : EventSubmission) (existing : AgentExecutionEvent) :
    Except Raised AgentExecutionEvent :=
  if AgentExecutionEvent.samePayload existing submission.eventType submission.attributes
      submission.workflowStep submission.toolCallContext then .ok existing
  else .error ⟨.agentExecutionIdempotencyConflict,
    "Idempotency key conflict for execution '" ++ submission.executionId ++ "'."⟩

/-- `ingest_event`. -/
def ingestEvent (submission : EventSubmission) (context : TenantContext) (ambient : Ambient) :
    Operation AgentExecutionEvent := do
  enforce ambient
  if submission.eventType = .runtimeActionExecutionReceipt then
    .raise ⟨.valueError,
      "Runtime action execution receipts must use the dedicated receipt ingestion contract."⟩
  else
    let execution ← issue (.getExecution submission.executionId context.scope)
    match execution with
    | none => .raise ⟨.agentExecutionNotFound,
        "Execution '" ++ submission.executionId ++ "' not found in tenant scope."⟩
    | some execution =>
      if AgentExecution.isTerminal execution then
        .raise (invalidTransition
          ("Cannot ingest events for terminal execution '" ++ submission.executionId ++ "'."))
      else
        match submission.idempotencyKey with
        | none => storeSubmission submission context.scope ambient execution
        | some key =>
          let existing ← issue
            (.findEventByIdempotencyKey key submission.executionId context.scope)
          match existing with
          | some existing => Program.ofExcept (redeliver submission existing)
          | none => storeSubmission submission context.scope ambient execution

/-! ## Completion -/

/-- The `EXECUTION_COMPLETED` event. -/
def completedEvent (execution : AgentExecution) (status : AgentExecutionStatus) (scope : Scope)
    (ambient : Ambient) (executionId : String) (sequenceNumber : Nat) : AgentExecutionEventRecord :=
  { eventId := ambient.eventId
    executionId
    organizationId := scope.organizationId
    projectId := scope.projectId
    eventType := .executionCompleted
    sequenceNumber
    occurredAt := ambient.now
    receivedAt := ambient.now
    correlationId := execution.record.correlationId
    causationId := none
    actorId := some execution.record.agentId
    actorType := some .system
    attributes := [("final_status", .str status.value),
      ("duration_seconds", AgentExecution.durationSeconds execution)] }

/-- The part of `mark_completed` after the execution was found not terminal. -/
def completeExecution (execution : AgentExecution) (executionId : String)
    (status : AgentExecutionStatus) (scope : Scope) (ambient : Ambient) : Operation AgentExecution := do
  let updated ← issue (.updateStatus executionId scope status (some ambient.now)
    execution.record.version)
  let highest ← issue (.maxSequenceNumber executionId scope)
  let event : AgentExecutionEvent ← Program.ofExcept (Checked.create
    (completedEvent execution status scope ambient executionId (highest + 1)))
  let _ ← issue (.saveEvent event none)
  return updated

/-- `mark_completed`. -/
def markCompleted (executionId : String) (status : AgentExecutionStatus) (context : TenantContext)
    (ambient : Ambient) : Operation AgentExecution := do
  enforce ambient
  let execution ← issue (.getExecution executionId context.scope)
  match execution with
  | none => .raise ⟨.agentExecutionNotFound, "Execution '" ++ executionId ++ "' not found."⟩
  | some execution =>
    if AgentExecution.isTerminal execution then .done execution
    else completeExecution execution executionId status context.scope ambient

end AiGovernance.Services
