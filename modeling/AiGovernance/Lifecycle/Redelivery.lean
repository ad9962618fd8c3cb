import AiGovernance.Lifecycle.Ingestion
import AiGovernance.Services.Footprints

/-!
# Redelivered events

An event accepted under an idempotency key is what every later delivery under
that key meets, in whatever state the run has reached. The payload that is
compared is the type, the attributes, the workflow step and the tool-call
context; the actor, the references, the causation and the time of a redelivery
are not looked at.
-/

namespace AiGovernance.Lifecycle

open AiGovernance.Std Domain Repositories
open Semantics Services

variable {platform : Platform} {stores : Stores} {submission again : EventSubmission}
  {context : TenantContext} {ambient : Ambient} {event : AgentExecutionEvent} {key : String}

/-- The compared part of two submissions agrees; attributes compare as dictionaries. -/
def SamePayload (submission again : EventSubmission) : Prop :=
  submission.eventType = again.eventType ∧
    Json.sameFields submission.attributes again.attributes = true ∧
    submission.workflowStep = again.workflowStep ∧
    submission.toolCallContext = again.toolCallContext

/-- The caller may ingest events into an execution it sees that has not ended. -/
structure Admissible (stores : Stores) (again : EventSubmission) (context : TenantContext)
    (ambient : Ambient) : Prop where
  permitted : ambient.permitted = true
  plain : again.eventType ≠ .runtimeActionExecutionReceipt
  active : ∃ execution, stores.executions.get again.executionId context.scope = some execution ∧
    AgentExecution.isTerminal execution = false

theorem Accepted.samePayload_iff {after : Stores}
    (accepted : Accepted stores submission context ambient event after) (again : EventSubmission) :
    AgentExecutionEvent.samePayload event again.eventType again.attributes again.workflowStep
      again.toolCallContext = true ↔ SamePayload submission again := by
  obtain ⟨execution, -, -, record⟩ := accepted.record
  simp [AgentExecutionEvent.samePayload, SamePayload, record, submittedEvent, and_assoc]

/-- The accepted event is filed under the key of its submission. -/
theorem Accepted.filed {after : Stores}
    (accepted : Accepted stores submission context ambient event after)
    (keyed : submission.idempotencyKey = some key) :
    after.events.tables.byIdempotency.get? (key, submission.executionId) = some event := by
  obtain ⟨nothing, rfl⟩ := accepted.stored
  simp only [keyed, EventStore.byIdempotency_insert, accepted.executionId, if_true]

/-- Once its key is taken, a delivery changes nothing. -/
theorem ingestEvent_of_taken (primitives : Primitives) {existing : AgentExecutionEvent}
    (keyed : again.idempotencyKey = some key)
    (taken : stores.events.tables.byIdempotency.get? (key, again.executionId) = some existing) :
    ((ingestEvent again context ambient).run (inMemory primitives) stores).2 = stores := by
  rcases ingestEvent_ensures primitives stores again context ambient with same | ⟨event, -, accepted⟩
  · exact same
  · obtain ⟨nothing, -⟩ := accepted.stored
    have free := (EventTables.precheck_eq_none nothing).2 key keyed
    rw [accepted.executionId, taken] at free
    cases free

/-- A delivery that finds an event under its key compares payloads with it. -/
theorem ingestEvent_of_found (primitives : Primitives) {existing : AgentExecutionEvent}
    (admissible : Admissible stores again context ambient)
    (keyed : again.idempotencyKey = some key)
    (found : stores.events.findByIdempotencyKey key again.executionId context.scope = some existing) :
    ((ingestEvent again context ambient).run (inMemory primitives) stores).1 =
      redeliver again existing := by
  obtain ⟨execution, present, active⟩ := admissible.active
  change (ingestEvent again context ambient).Ensures (inMemory primitives) stores
    (fun result _ => result = redeliver again existing)
  unfold ingestEvent enforce
  rw [if_pos admissible.permitted, Program.done_bind, if_neg admissible.plain]
  refine Program.ensures_read_bind (by simp only [inMemory, present]; rfl) ?_
  simp only [active, Bool.false_eq_true, if_false, keyed]
  refine Program.ensures_read_bind (by simp only [inMemory, found]; rfl) ?_
  exact Program.ensures_ofExcept.mpr rfl

/-- What became of a delivery of `again` after `submission` was accepted as `event`. -/
structure Redelivered (submission again : EventSubmission) (context : TenantContext)
    (ambient : Ambient) (event : AgentExecutionEvent) (entry : Platform.Entry) : Prop where
  unchanged : entry.after = entry.before
  returned : Admissible entry.before again context ambient →
    context.scope.sees event.record.organizationId event.record.projectId = true →
    SamePayload submission again → entry.result = .ok (.event event)
  conflict : Admissible entry.before again context ambient →
    context.scope.sees event.record.organizationId event.record.projectId = true →
    ¬ SamePayload submission again →
    ∃ raised, entry.result = .error raised ∧ raised.kind = .agentExecutionIdempotencyConflict

/-- A model call reported under a key by an actor. -/
def modelCall (actorId : String) : EventSubmission where
  executionId := "exec-1"
  eventType := .modelCall
  attributes := [("model", .str "m-1")]
  idempotencyKey := some "e-1"
  actorId := some actorId

/-- The call that delivers it. -/
def delivery (actorId eventId : String) : Call :=
  .ingestEvent (modelCall actorId) ⟨claimsScope, "agent-1", none⟩ (claimsAmbient eventId)

/-- The stores once the first delivery is accepted. -/
def deliveredStores : Stores := (claimsPlatform.serve runningStores (delivery "model-a" "event-2")).after

/-- The start, the first delivery, and one more. -/
def deliveries (again : Call) : List Platform.Entry :=
  [claimsPlatform.serve .empty startCall,
    claimsPlatform.serve runningStores (delivery "model-a" "event-2"),
    claimsPlatform.serve deliveredStores again]

theorem deliveries_history (again : Call) :
    claimsPlatform.History (fun _ _ => True) (deliveries again)
      (claimsPlatform.serve deliveredStores again).after :=
  .serve again trivial (.serve _ trivial (.serve startCall trivial .start))

theorem delivery_accepted :
    ∃ event, Accepted runningStores (modelCall "model-a") ⟨claimsScope, "agent-1", none⟩
      (claimsAmbient "event-2") event deliveredStores := by
  have missing : (runningStores.events.tables.byIdempotency.get? ("e-1", "exec-1")).isSome = false := by
    decide +kernel
  have filed : (deliveredStores.events.tables.byIdempotency.get? ("e-1", "exec-1")).isSome = true := by
    decide +kernel
  have after : deliveredStores = ((ingestEvent (modelCall "model-a") ⟨claimsScope, "agent-1", none⟩
      (claimsAmbient "event-2")).run (inMemory claimsPlatform.primitives) runningStores).2 := by
    unfold deliveredStores delivery
    rw [claimsPlatform.serve_of_operation rfl]
  rcases ingestEvent_ensures claimsPlatform.primitives runningStores (modelCall "model-a")
    ⟨claimsScope, "agent-1", none⟩ (claimsAmbient "event-2") with same | ⟨event, -, accepted⟩
  · rw [after, same, missing] at filed
    cases filed
  · rw [after]
    exact ⟨event, accepted⟩

theorem redelivery_admissible (actorId eventId : String) :
    Admissible deliveredStores (modelCall actorId) ⟨claimsScope, "agent-1", none⟩
      (claimsAmbient eventId) := by
  have active : (deliveredStores.executions.get "exec-1" claimsScope).any
      (fun execution => !AgentExecution.isTerminal execution) = true := by
    decide +kernel
  obtain ⟨execution, present, running⟩ := (Option.any_eq_true _ _).mp active
  refine ⟨rfl, fun impossible => (nomatch impossible), execution, present, ?_⟩
  simpa using running

end AiGovernance.Lifecycle
