import AiGovernance.Authorization.Evaluation
import AiGovernance.Services.Platform

/-!
# What each operation may write

Whatever the repositories answer, an operation issues only the writes listed
here besides its reads. One footprint per operation; arguments about runs use
these and never open the operations again.
-/

namespace AiGovernance.Services

open AiGovernance.Std Domain Repositories Semantics Program

/-- The writes of `ingest_start`: a new execution, its start event, and moves to RUNNING. -/
def startFootprint (primitives : Primitives) (submission : StartSubmission) (scope : Scope)
    (ambient : Ambient) : Command → Prop
  | .saveExecution execution => execution.record = newExecution submission scope ambient
  | .saveEvent event idempotencyKey => event.record = startEvent submission scope ambient ∧
      idempotencyKey = some (idempotencyKeyForStart primitives submission.externalExecutionId
        submission.runtimeProvider scope)
  | .updateStatus _ tenant newStatus completedAt _ =>
    tenant = scope ∧ newStatus = .running ∧ completedAt = none
  | command => command.isRead = true

/-- The writes of `ingest_event`: the submitted event under the submitted key. -/
def eventFootprint (submission : EventSubmission) (scope : Scope) (ambient : Ambient) :
    Command → Prop
  | .saveEvent event idempotencyKey =>
    submission.eventType ≠ .runtimeActionExecutionReceipt ∧
      idempotencyKey = submission.idempotencyKey ∧
      ∃ execution sequenceNumber,
        event.record = submittedEvent submission scope ambient execution sequenceNumber
  | command => command.isRead = true

/-- The writes of receipt ingestion: a receipt event under its derived identity. -/
def receiptFootprint (primitives : Primitives) (submission : ReceiptSubmission)
    (context : TenantContext) (ambient : Ambient) : Command → Prop
  | .saveEvent event idempotencyKey => idempotencyKey = none ∧
      ∃ (receipt : RuntimeActionExecutionReceipt) (status : RuntimeActionExecutionReceiptStatus)
        (decisionEvent : AgentExecutionEvent) (sequenceNumber : Nat),
        receipt.record =
            submittedReceipt primitives submission status context.actorId ambient.now ∧
          event.record =
            receiptEvent submission receipt decisionEvent context ambient.now sequenceNumber
  | command => command.isRead = true

/-- The writes of `mark_completed`: a status change and the completion event. -/
def completionFootprint (executionId : String) (status : AgentExecutionStatus) (scope : Scope)
    (ambient : Ambient) : Command → Prop
  | .updateStatus target tenant newStatus completedAt _ =>
    target = executionId ∧ tenant = scope ∧ newStatus = status ∧ completedAt = some ambient.now
  | .saveEvent event idempotencyKey => idempotencyKey = none ∧
      ∃ execution sequenceNumber, event.record =
        completedEvent execution status scope ambient executionId sequenceNumber
  | command => command.isRead = true

/-- The writes of the delegation service. -/
def delegationFootprint : Command → Prop
  | .saveDelegation _ | .revokeDelegation _ _ _ _ _ => True
  | command => command.isRead = true

/-- The writes of `authorize`: one decision event under the call's key. -/
def authorizationFootprint (primitives : Primitives) (call : AuthorizationCall) : Command → Prop
  | .saveEvent event idempotencyKey =>
    idempotencyKey = some (eventIdempotencyKey call.request.record.idempotencyKey) ∧
      ∃ decision sequenceNumber,
        event.record = decisionEventRecord primitives call decision sequenceNumber
  | command => command.isRead = true

/-- The writes of a call. -/
def footprint (platform : Platform) : Call → Command → Prop
  | .ingestStart submission context ambient =>
    startFootprint platform.primitives submission context.scope ambient
  | .ingestEvent submission context ambient => eventFootprint submission context.scope ambient
  | .ingestReceipt submission context ambient =>
    receiptFootprint platform.primitives submission context ambient
  | .markCompleted executionId status context ambient =>
    completionFootprint executionId status context.scope ambient
  | .register _ | .revoke _ => delegationFootprint
  | .authorize call => authorizationFootprint platform.primitives call

variable {primitives : Primitives} {context : TenantContext} {ambient : Ambient} {scope : Scope} {stores : Stores}
  {platform : Platform} {call : Call} {event : AgentExecutionEvent} {idempotencyKey : Option String} {executionId : String}

section

variable {allowed : Command → Prop}

theorem enforce_bind {β : Type} {returns : β → Prop} {next : Unit → Operation β}
    (rest : (next ()).Within allowed returns) : (enforce ambient >>= next).Within allowed returns := by
  unfold enforce
  split
  · exact rest
  · trivial

end

theorem ingestStart_within (submission : StartSubmission) :
    (ingestStart primitives submission context ambient).Within
      (startFootprint primitives submission context.scope ambient) (fun _ => True) := by
  refine enforce_bind (within_call_bind rfl fun existing => ?_)
  cases existing with
  | some existing =>
    simp only [replayStart]
    split
    · trivial
    · split
      · exact ⟨⟨rfl, rfl, rfl⟩, fun _ => within_ofExcept.mpr fun _ _ => trivial⟩
      · trivial
  | none =>
    refine within_ofExcept_bind fun execution created => ?_
    refine within_call_bind (Checked.create_eq_ok_iff.mp created) fun _ => ?_
    refine within_ofExcept_bind fun event built => ?_
    refine within_call_bind ⟨Checked.create_eq_ok_iff.mp built, rfl⟩ fun _ => ?_
    exact ⟨⟨rfl, rfl, rfl⟩, fun _ => within_ofExcept.mpr fun _ _ => trivial⟩

theorem validateWorkflowStepTransition_within {eventType : EventType} {workflowStep : Option WorkflowStep}
    {allowed : Command → Prop} (reads : ∀ command, command.isRead = true → allowed command) :
    (validateWorkflowStepTransition executionId eventType workflowStep scope).Within allowed
      (fun _ => True) := by
  unfold validateWorkflowStepTransition
  split
  · split <;> trivial
  · split
    · trivial
    · exact within_call_bind (reads _ rfl) fun events =>
        within_ofExcept.mpr fun _ _ => trivial

theorem eventFootprint_of_isRead {submission : EventSubmission} (command : Command) (read : command.isRead = true) :
    eventFootprint submission scope ambient command := by
  cases command <;> first | exact read | cases read

theorem storeSubmission_within (submission : EventSubmission) (execution : AgentExecution)
    (plain : submission.eventType ≠ .runtimeActionExecutionReceipt) :
    (storeSubmission submission scope ambient execution).Within
      (eventFootprint submission scope ambient) (fun _ => True) := by
  unfold storeSubmission
  rw [within_bind]
  refine (validateWorkflowStepTransition_within eventFootprint_of_isRead).mono
    (fun _ permitted => permitted) fun _ _ => ?_
  refine within_call_bind rfl fun highest => ?_
  refine within_ofExcept_bind fun event created => ?_
  exact ⟨⟨plain, rfl, execution, highest + 1, Checked.create_eq_ok_iff.mp created⟩,
    fun _ => within_ofExcept.mpr fun _ _ => trivial⟩

theorem ingestEvent_within (submission : EventSubmission) :
    (ingestEvent submission context ambient).Within (eventFootprint submission context.scope ambient)
      (fun _ => True) := by
  refine enforce_bind ?_
  split
  · trivial
  · rename_i plain
    refine within_call_bind rfl fun execution => ?_
    split
    · trivial
    · split
      · trivial
      · split
        · exact storeSubmission_within submission _ plain
        · refine within_call_bind rfl fun existing => ?_
          split
          · exact within_ofExcept.mpr fun _ _ => trivial
          · exact storeSubmission_within submission _ plain

theorem validateSupersessionIfAny_within (submission : ReceiptSubmission)
    (status : RuntimeActionExecutionReceiptStatus) :
    (validateSupersessionIfAny primitives submission status context).Within
      (receiptFootprint primitives submission context ambient) (fun _ => True) := by
  unfold validateSupersessionIfAny
  split
  · trivial
  · unfold validateReceiptSupersession
    split
    · trivial
    · refine within_call_bind rfl fun predecessor => ?_
      refine within_ofExcept_bind fun _ _ => ?_
      refine within_call_bind rfl fun events => ?_
      refine within_ofExcept_bind fun _ _ => ?_
      split <;> trivial

theorem ingestReceipt_within (submission : ReceiptSubmission) :
    (ingestRuntimeActionExecutionReceipt primitives submission context ambient).Within
      (receiptFootprint primitives submission context ambient) (fun _ => True) := by
  refine enforce_bind ?_
  split
  · trivial
  · refine within_call_bind rfl fun execution => ?_
    split
    · trivial
    · refine within_call_bind rfl fun existing => ?_
      split
      · exact within_ofExcept.mpr fun _ _ => trivial
      · refine within_call_bind rfl fun linked => ?_
        refine within_ofExcept_bind fun decisionEvent _ => ?_
        refine within_ofExcept_bind fun status _ => ?_
        rw [within_bind]
        refine (validateSupersessionIfAny_within submission status).mono
          (fun _ permitted => permitted) fun _ _ => ?_
        refine within_ofExcept_bind fun receipt created => ?_
        refine within_call_bind rfl fun highest => ?_
        refine within_ofExcept_bind fun event built => ?_
        refine within_attempt_bind ⟨rfl, receipt, status, decisionEvent, highest + 1,
          Checked.create_eq_ok_iff.mp created, Checked.create_eq_ok_iff.mp built⟩ fun saved => ?_
        split
        · trivial
        · refine within_call_bind rfl fun existing => ?_
          split
          · exact within_ofExcept.mpr fun _ _ => trivial
          · trivial

theorem markCompleted_within (status : AgentExecutionStatus) :
    (markCompleted executionId status context ambient).Within
      (completionFootprint executionId status context.scope ambient) (fun _ => True) := by
  refine enforce_bind (within_call_bind rfl fun execution => ?_)
  split
  · trivial
  · rename_i execution
    split
    · trivial
    · refine within_call_bind ⟨rfl, rfl, rfl, rfl⟩ fun updated => ?_
      refine within_call_bind rfl fun highest => ?_
      refine within_ofExcept_bind fun event built => ?_
      exact within_call_bind
        ⟨rfl, execution, highest + 1, Checked.create_eq_ok_iff.mp built⟩ fun _ => trivial

theorem issuanceCandidates_within (definitions : List Decisions.PolicyDefinition) :
    (issuanceCandidates definitions).Within delegationFootprint (fun _ => True) := by
  induction definitions with
  | nil => trivial
  | cons definition rest ih =>
    unfold issuanceCandidates
    split
    · exact ih
    · refine within_call_bind rfl fun version => ?_
      rw [within_bind]
      refine ih.mono (fun _ permitted => permitted) fun others _ => ?_
      split
      · trivial
      · split <;> trivial

theorem requirePermitted_within (runtimeActorId : String) (permissions : List RuntimeActionDelegationPermission) :
    (requirePermitted runtimeActorId context permissions).Within delegationFootprint
      (fun _ => True) := by
  induction permissions with
  | nil => trivial
  | cons permission rest ih =>
    unfold requirePermitted issuerPermitted
    rw [within_bind]
    refine within_call_bind rfl fun definitions => ?_
    rw [within_bind]
    refine (issuanceCandidates_within definitions).mono (fun _ permitted => permitted)
      fun candidates _ => ?_
    rw [within_pure]
    split
    · exact ih
    · trivial

theorem register_within (call : RegistrationCall) :
    (register primitives call).Within delegationFootprint (fun _ => True) := by
  refine within_call_bind rfl fun execution => ?_
  split
  · trivial
  · refine within_call_bind rfl fun existing => ?_
    split
    · split <;> trivial
    · unfold issueDelegation
      split
      · trivial
      · split
        · trivial
        · rw [within_bind]
          refine (requirePermitted_within call.runtimeActorId call.permissions).mono
            (fun _ permitted => permitted) fun _ _ => ?_
          refine within_ofExcept_bind fun delegation _ => ?_
          refine within_attempt_bind trivial fun saved => ?_
          split <;> trivial

theorem revoke_within (call : RevocationCall) :
    (revoke call).Within delegationFootprint (fun _ => True) := by
  refine within_attempt_bind trivial fun outcome => ?_
  split
  · trivial
  · split <;> trivial

theorem authorize_within (config : AuthorizationConfig) (call : AuthorizationCall) :
    (authorize primitives config call).Within (authorizationFootprint primitives call)
      (fun _ => True) := by
  have reads : ∀ command, Authorization.Consults command →
      authorizationFootprint primitives call command := by
    intro command consults
    cases command <;> first | exact consults.isRead | cases consults
  refine within_call_bind rfl fun execution => ?_
  split
  · trivial
  · refine within_ofExcept_bind fun correlationId _ => ?_
    refine within_call_bind rfl fun existing => ?_
    split
    · exact within_ofExcept.mpr fun _ _ => trivial
    · unfold authorizeAnew
      rw [within_bind]
      refine (Authorization.evaluate_within).mono reads fun decision _ => ?_
      rw [within_bind]
      refine within_call_bind rfl fun highest => ?_
      refine within_ofExcept.mpr fun event built => ?_
      refine within_attempt_bind
        ⟨rfl, decision, highest + 1, Checked.create_eq_ok_iff.mp built⟩ fun saved => ?_
      split
      · split
        · exact within_ofExcept.mpr fun _ _ => trivial
        · trivial
      · split
        · refine within_call_bind rfl fun existing => ?_
          split
          · exact within_ofExcept.mpr fun _ _ => trivial
          · trivial
        · trivial

theorem operation_within : (platform.operation call).Within (footprint platform call) (fun _ => True) := by
  cases call with
  | ingestStart submission context ambient =>
    exact within_bind.mpr (ingestStart_within submission)
  | ingestEvent submission context ambient =>
    exact within_bind.mpr (ingestEvent_within submission)
  | ingestReceipt submission context ambient =>
    exact within_bind.mpr (ingestReceipt_within submission)
  | markCompleted executionId status context ambient =>
    exact within_bind.mpr (markCompleted_within status)
  | register call => exact within_bind.mpr (register_within call)
  | revoke call => exact within_bind.mpr (revoke_within call)
  | authorize call => exact within_bind.mpr (authorize_within platform.config call)

/-! ## What a call stores -/

/-- The type of the events a call may store. -/
def storedType : Call → Option EventType
  | .ingestStart _ _ _ => some .executionStarted
  | .ingestEvent submission _ _ => some submission.eventType
  | .ingestReceipt _ _ _ => some .runtimeActionExecutionReceipt
  | .markCompleted _ _ _ _ => some .executionCompleted
  | .register _ | .revoke _ => none
  | .authorize _ => some .runtimeActionAuthorization

theorem footprint_storedType (allowed : footprint platform call (.saveEvent event idempotencyKey)) :
    storedType call = some event.record.eventType := by
  cases call with
  | ingestStart submission context ambient =>
    rw [allowed.1]
    rfl
  | ingestEvent submission context ambient =>
    obtain ⟨-, -, _, _, record⟩ := allowed
    rw [record]
    rfl
  | ingestReceipt submission context ambient =>
    obtain ⟨-, _, _, _, _, -, record⟩ := allowed
    rw [record]
    rfl
  | markCompleted executionId status context ambient =>
    obtain ⟨-, _, _, record⟩ := allowed
    rw [record]
    rfl
  | authorize call =>
    obtain ⟨-, _, _, record⟩ := allowed
    rw [record]
    rfl
  | register call => cases allowed
  | revoke call => cases allowed

/-- Every event that is new is of the given type. -/
structure NewEventsOf (type : Option EventType) (before after : Stores) : Prop where
  listed : ∀ {executionId event}, event ∈ after.events.tables.ofExecution executionId →
    event ∈ before.events.tables.ofExecution executionId ∨ type = some event.record.eventType
  filed : ∀ {key event}, after.events.tables.byIdempotency.get? key = some event →
    before.events.tables.byIdempotency.get? key = some event ∨ type = some event.record.eventType

private theorem NewEventsOf.refl (type : Option EventType) (stores : Stores) :
    NewEventsOf type stores stores := ⟨Or.inl, Or.inl⟩

private theorem NewEventsOf.trans {type : Option EventType} {first second third : Stores}
    (left : NewEventsOf type first second) (right : NewEventsOf type second third) :
    NewEventsOf type first third := by
  constructor
  · intro executionId event member
    rcases right.listed member with middle | typed
    · exact left.listed middle
    · exact Or.inr typed
  · intro key event found
    rcases right.filed found with middle | typed
    · exact left.filed middle
    · exact Or.inr typed

theorem save_newEventsOf :
    NewEventsOf (some event.record.eventType) stores
      (inMemory primitives (.saveEvent event idempotencyKey) stores).2 := by
  rcases stores.events.save_cases event idempotencyKey with
    ⟨_, saved, -⟩ | ⟨_, saved, -⟩ | ⟨absent, saved, -⟩
  · simp only [inMemory, saved]
    exact .refl _ _
  · simp only [inMemory, saved]
    exact .refl _ _
  · simp only [inMemory, saved]
    constructor
    · intro executionId stored member
      rcases (EventTables.mem_ofExecution_insert stores.events.coherent absent idempotencyKey).mp
        member with old | ⟨rfl, -⟩
      · exact Or.inl old
      · exact Or.inr rfl
    · intro key stored found
      cases idempotencyKey with
      | none => exact Or.inl found
      | some newKey =>
        simp only [EventStore.byIdempotency_insert] at found
        split at found
        · cases found
          exact Or.inr rfl
        · exact Or.inl found

theorem serve_newEventsOf (platform : Platform) (stores : Stores) (call : Call) :
    NewEventsOf (storedType call) stores (platform.serve stores call).after := by
  refine ((operation_within).ensures (inMemory platform.primitives)
    (NewEventsOf (storedType call)) (.refl _) .trans (fun command stores allowed => ?_) stores).1
  cases command with
  | saveEvent event idempotencyKey =>
    rw [footprint_storedType allowed]
    exact save_newEventsOf
  | _ => exact ⟨Or.inl, Or.inl⟩

/-! ## Events are append-only -/

theorem inMemory_extends (command : Command) :
    EventStore.Extends stores.events (inMemory primitives command stores).2.events := by
  cases command with
  | saveEvent event idempotencyKey => exact EventStore.extends_save
  | _ => exact .refl _

theorem serve_extends (platform : Platform) (stores : Stores) (call : Call) :
    EventStore.Extends stores.events (platform.serve stores call).after.events :=
  ((operation_within).ensures (inMemory platform.primitives)
    (fun before after => EventStore.Extends before.events after.events) (fun _ => .refl _)
    (fun first second => first.trans second)
    (fun command stores _ => inMemory_extends command) stores).1

/-- What was stored after an entry of a history is stored at its end. -/
theorem Platform.History.extends {platform : Platform} {admits : Stores → Call → Prop}
    {entries : List Platform.Entry} {stores : Stores}
    (history : platform.History admits entries stores) :
    ∀ entry ∈ entries, EventStore.Extends entry.after.events stores.events := by
  induction history with
  | start => exact fun _ member => nomatch member
  | administer policies _ ih => exact ih
  | @serve entries stores call _ _ ih =>
    intro entry member
    rcases List.mem_append.mp member with earlier | last
    · exact (ih entry earlier).trans (serve_extends platform stores call)
    · obtain rfl := List.mem_singleton.mp last
      exact .refl _

end AiGovernance.Services
