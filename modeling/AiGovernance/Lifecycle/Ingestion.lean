import AiGovernance.Services.Platform

/-!
# What one undisturbed ingestion does

`ingest_event` in a given state, in one statement: it raises, hands back an
event that is already stored, or stores the submitted event. Arguments about
runs of whole calls use this and never open `ingest_event` again.
-/

namespace AiGovernance.Lifecycle

open AiGovernance.Std Domain Repositories
open Semantics Services Program

variable {primitives : Primitives} {stores after : Stores} {submission : EventSubmission}
  {context : TenantContext} {ambient : Ambient}

/-- The lifecycle check of a submission against the listing of a state. -/
def StepAdmitted (stores : Stores) (submission : EventSubmission) (scope : Scope) : Prop :=
  match submission.workflowStep with
  | none => submission.eventType ≠ .workflowStep
  | some step => submission.eventType = .workflowStep ∧
      checkWorkflowStep (priorSteps (stores.events.listByExecution submission.executionId scope none))
        step = .ok ()

/-- `ingest_event` stored the submission as a new event. -/
structure Accepted (stores : Stores) (submission : EventSubmission) (context : TenantContext)
    (ambient : Ambient) (event : AgentExecutionEvent) (after : Stores) : Prop where
  plain : submission.eventType ≠ .runtimeActionExecutionReceipt
  record : ∃ execution, stores.executions.get submission.executionId context.scope = some execution ∧
    AgentExecution.isTerminal execution = false ∧
    event.record = submittedEvent submission context.scope ambient execution
      (stores.events.maxSequenceNumber submission.executionId context.scope + 1)
  step : StepAdmitted stores submission context.scope
  stored : ∃ nothing : stores.events.tables.precheck event submission.idempotencyKey = .ok none,
    after = { stores with
      events := stores.events.insert event submission.idempotencyKey
        (EventTables.precheck_eq_none nothing).1 }

namespace Accepted

variable {event : AgentExecutionEvent}

theorem eventType (accepted : Accepted stores submission context ambient event after) :
    event.record.eventType = submission.eventType := by
  obtain ⟨execution, -, -, record⟩ := accepted.record
  rw [record]
  rfl

theorem executionId (accepted : Accepted stores submission context ambient event after) :
    event.record.executionId = submission.executionId := by
  obtain ⟨execution, -, -, record⟩ := accepted.record
  rw [record]
  rfl

end Accepted

/-- How an undisturbed `ingest_event` ends. -/
def Ingested (stores : Stores) (submission : EventSubmission) (context : TenantContext)
    (ambient : Ambient) (result : Except Raised AgentExecutionEvent) (after : Stores) : Prop :=
  after = stores ∨ ∃ event, result = .ok event ∧
    Accepted stores submission context ambient event after

theorem validateWorkflowStepTransition_ensures :
    (validateWorkflowStepTransition submission.executionId submission.eventType
      submission.workflowStep context.scope).Ensures (inMemory primitives) stores
      (fun result after => after = stores ∧
        (result = .ok () → StepAdmitted stores submission context.scope)) := by
  unfold validateWorkflowStepTransition StepAdmitted
  split
  · rename_i other
    split
    · exact ⟨rfl, fun impossible => (nomatch impossible)⟩
    · rename_i missing
      rw [Bool.not_eq_true, Option.isSome_eq_false_iff, Option.isNone_iff_eq_none] at missing
      refine ⟨rfl, fun _ => ?_⟩
      rw [missing]
      exact other
  · rename_i typed
    rw [Decidable.not_not] at typed
    cases submission.workflowStep with
    | none => exact ⟨rfl, fun impossible => (nomatch impossible)⟩
    | some step =>
      refine ensures_read_bind rfl (ensures_ofExcept.mpr ⟨rfl, fun checked => ?_⟩)
      exact ⟨typed, checked⟩

theorem storeSubmission_ensures (primitives : Primitives) (ambient : Ambient)
    {execution : AgentExecution}
    (plain : submission.eventType ≠ .runtimeActionExecutionReceipt)
    (found : stores.executions.get submission.executionId context.scope = some execution)
    (active : AgentExecution.isTerminal execution = false) :
    (storeSubmission submission context.scope ambient execution).Ensures (inMemory primitives) stores
      (Ingested stores submission context ambient) := by
  refine ensures_bind.mpr (validateWorkflowStepTransition_ensures.mono ?_)
  rintro (raised | value) current ⟨rfl, admitted⟩
  · exact Or.inl rfl
  · refine ensures_read_bind rfl ?_
    refine ensures_ofExcept_bind (fun event created => ?_) fun _ _ => Or.inl rfl
    refine ensures_call.mpr ?_
    rcases current.events.save_cases event submission.idempotencyKey with
      ⟨raised, saved, -⟩ | ⟨existing, saved, -⟩ | ⟨absent, saved, nothing⟩
    · exact Or.inl (by simp only [inMemory, saved])
    · exact Or.inl (by simp only [inMemory, saved])
    · refine Or.inr ⟨event, by simp only [inMemory, saved], plain, ⟨execution, found, active,
        Checked.create_eq_ok_iff.mp created⟩, admitted rfl, nothing, ?_⟩
      simp only [inMemory, saved]

/-- One undisturbed `ingest_event` leaves the stores as they were, or stores its submission. -/
theorem ingestEvent_ensures (primitives : Primitives) (stores : Stores)
    (submission : EventSubmission) (context : TenantContext) (ambient : Ambient) :
    (ingestEvent submission context ambient).Ensures (inMemory primitives) stores
      (Ingested stores submission context ambient) := by
  unfold ingestEvent enforce
  split
  · split
    · exact Or.inl rfl
    · rename_i plain
      refine ensures_read_bind rfl ?_
      split
      · exact Or.inl rfl
      · rename_i execution found
        split
        · exact Or.inl rfl
        · rename_i active
          rw [Bool.not_eq_true] at active
          have storing := storeSubmission_ensures primitives ambient plain found active
          split
          · exact storing
          · refine ensures_read_bind rfl ?_
            split
            · exact ensures_ofExcept.mpr (Or.inl rfl)
            · exact storing
  · exact Or.inl rfl

theorem validateWorkflowStepTransition_passes (admitted : StepAdmitted stores submission context.scope) :
    (validateWorkflowStepTransition submission.executionId submission.eventType
      submission.workflowStep context.scope).run (inMemory primitives) stores = (.ok (), stores) := by
  unfold StepAdmitted at admitted
  unfold validateWorkflowStepTransition
  split at admitted
  · rename_i missing
    simp only [if_pos admitted, missing]
    rfl
  · rename_i step carried
    obtain ⟨typed, checked⟩ := admitted
    simp only [if_neg (not_not.mpr typed), carried]
    refine (run_read_bind _ rfl).trans ?_
    rw [checked]
    rfl

/-- A permitted submission without a key or a tool call, for an execution that has not ended,
is stored when its step is admitted and its identifier is new. -/
theorem ingestEvent_accepts (primitives : Primitives) (context : TenantContext) (ambient : Ambient)
    {execution : AgentExecution} {event : AgentExecutionEvent} (permitted : ambient.permitted = true)
    (plain : submission.eventType ≠ .runtimeActionExecutionReceipt)
    (found : stores.executions.get submission.executionId context.scope = some execution)
    (active : AgentExecution.isTerminal execution = false)
    (unkeyed : submission.idempotencyKey = none) (noTool : submission.toolCallContext = none)
    (admitted : StepAdmitted stores submission context.scope)
    (record : event.record = submittedEvent submission context.scope ambient execution
      (stores.events.maxSequenceNumber submission.executionId context.scope + 1))
    (absent : stores.events.tables.byId.get? event.record.eventId = none) :
    (ingestEvent submission context ambient).run (inMemory primitives) stores =
      (.ok event, { stores with events := stores.events.insert event none absent }) := by
  have noToolCall : event.record.toolCallContext = none := by
    rw [record]
    exact noTool
  have nothing : stores.events.tables.precheck event none = .ok none := by
    simp [EventTables.precheck, absent, noToolCall]
  have saved : stores.events.save event none = (.ok event, stores.events.insert event none absent) := by
    rcases stores.events.save_cases event none with
      ⟨_, -, refused⟩ | ⟨_, -, replayed⟩ | ⟨_, stored, -⟩
    · cases nothing.symm.trans refused
    · cases nothing.symm.trans replayed
    · exact stored
  unfold ingestEvent enforce
  rw [if_pos permitted, done_bind, if_neg plain]
  refine (run_read_bind _ (by simp only [inMemory, found]; rfl)).trans ?_
  simp only [active, Bool.false_eq_true, if_false, unkeyed]
  unfold storeSubmission
  rw [run_bind, validateWorkflowStepTransition_passes admitted]
  refine (run_read_bind _ rfl).trans ?_
  rw [Checked.create_eq_ok_iff.mpr record, ofExcept_ok, done_bind, unkeyed]
  refine (run_call _ _ _).trans ?_
  simp only [inMemory, saved]

/-! ## Start and completion -/

/-- One stored execution has a new status, and nothing else has changed. -/
structure Moved (stores : Stores) (executionId : String) (execution : AgentExecution) (status : AgentExecutionStatus)
    (completedAt : Option Instant) (after : Stores) : Prop where
  found : stores.executions.byId.get? executionId = some execution
  updated : ∃ result : AgentExecution,
    result.record = ExecutionStore.withStatus execution status completedAt ∧
      after.executions.byId = stores.executions.byId.set executionId result
  events : after.events = stores.events

/-- One event has joined the stored ones, and nothing else has changed. -/
structure Joined (stores : Stores) (event : AgentExecutionEvent) (after : Stores) : Prop where
  executions : after.executions = stores.executions
  events : ∃ (idempotencyKey : Option String) (absent : stores.events.tables.byId.get? event.record.eventId = none),
    after.events = stores.events.insert event idempotencyKey absent

/-- A status update raises, or moves the execution it names. -/
theorem updateStatus_moves (primitives : Primitives) (stores : Stores) (executionId : String) (scope : Scope)
    (status : AgentExecutionStatus) (completedAt : Option Instant) (expectedVersion : Nat) :
    (∃ raised, inMemory primitives (.updateStatus executionId scope status completedAt expectedVersion) stores =
        (.error raised, stores)) ∨
      ∃ execution result after,
        inMemory primitives (.updateStatus executionId scope status completedAt expectedVersion) stores =
          (.ok result, after) ∧ Moved stores executionId execution status completedAt after := by
  rcases stores.executions.updateStatus_cases executionId scope status completedAt expectedVersion with
    ⟨raised, refused⟩ | ⟨result, next, moved, updated, byId, -⟩
  · exact Or.inl ⟨raised, by simp only [inMemory, refused]⟩
  · obtain ⟨execution, found, -, -, record⟩ := ExecutionStore.updated_eq_ok updated
    refine Or.inr ⟨execution, result, { stores with executions := next }, by simp only [inMemory, moved], found,
      ⟨result, record, byId⟩, rfl⟩

/-- A saved event is refused, known already, or joins the stored ones. -/
theorem saveEvent_joins (primitives : Primitives) (stores : Stores) (event : AgentExecutionEvent)
    (idempotencyKey : Option String) :
    (inMemory primitives (.saveEvent event idempotencyKey) stores).2 = stores ∨
      Joined stores event (inMemory primitives (.saveEvent event idempotencyKey) stores).2 := by
  rcases stores.events.save_cases event idempotencyKey with
    ⟨raised, saved, -⟩ | ⟨existing, saved, -⟩ | ⟨absent, saved, -⟩
  · exact Or.inl (by simp only [inMemory, saved])
  · exact Or.inl (by simp only [inMemory, saved])
  · exact Or.inr ⟨by simp only [inMemory, saved], idempotencyKey, absent, by simp only [inMemory, saved]⟩

/-- How an undisturbed `mark_completed` ends. -/
def Completed (stores : Stores) (executionId : String) (status : AgentExecutionStatus) (context : TenantContext)
    (ambient : Ambient) (after : Stores) : Prop :=
  after = stores ∨ ∃ execution middle, stores.executions.get executionId context.scope = some execution ∧
    AgentExecution.isTerminal execution = false ∧
    Moved stores executionId execution status (some ambient.now) middle ∧
    (after = middle ∨ ∃ event, event.record = completedEvent execution status context.scope ambient executionId
      (stores.events.maxSequenceNumber executionId context.scope + 1) ∧ Joined middle event after)

/-- One undisturbed `mark_completed` leaves the stores as they were, or moves its execution and
records that it did. -/
theorem markCompleted_ensures (executionId : String) (status : AgentExecutionStatus) :
    (markCompleted executionId status context ambient).Ensures (inMemory primitives) stores
      (fun _ after => Completed stores executionId status context ambient after) := by
  unfold markCompleted enforce
  split
  · refine ensures_read_bind rfl ?_
    split
    · exact Or.inl rfl
    · rename_i execution found
      split
      · exact Or.inl rfl
      · rename_i active
        rw [Bool.not_eq_true] at active
        have stored : stores.executions.byId.get? executionId = some execution := by
          unfold ExecutionStore.get at found
          exact (Option.filter_eq_some_iff.mp found).1
        refine ensures_call_bind (fun updated middle answered => ?_) fun raised middle refused => ?_
        · obtain ⟨_, failed⟩ | ⟨other, result, after, moves, moved⟩ := updateStatus_moves primitives stores executionId
            context.scope status (some ambient.now) execution.record.version
          · cases answered.symm.trans failed
          · cases answered.symm.trans moves
            obtain rfl : other = execution := Option.some.inj (moved.found.symm.trans stored)
            refine ensures_read_bind rfl ?_
            refine ensures_ofExcept_bind (fun event created => ?_) fun _ _ =>
              Or.inr ⟨other, middle, found, active, moved, Or.inl rfl⟩
            have record := Checked.create_eq_ok_iff.mp created
            rw [moved.events] at record
            have recorded : Completed stores executionId status context ambient
                (inMemory primitives (.saveEvent event none) middle).2 := by
              obtain same | joined := saveEvent_joins primitives middle event none
              · exact Or.inr ⟨other, middle, found, active, moved, Or.inl same⟩
              · exact Or.inr ⟨other, middle, found, active, moved, Or.inr ⟨event, record, joined⟩⟩
            refine ensures_call_bind (fun _ last saved => ?_) fun _ last unsaved => ?_
            · rw [saved] at recorded
              exact recorded
            · rw [unsaved] at recorded
              exact recorded
        · obtain ⟨_, failed⟩ | ⟨other, result, after, moves, moved⟩ := updateStatus_moves primitives stores executionId
            context.scope status (some ambient.now) execution.record.version
          · cases refused.symm.trans failed
            exact Or.inl rfl
          · cases refused.symm.trans moves
  · exact Or.inl rfl

/-- How an undisturbed `ingest_start` ends: with nothing changed, with the known execution running, or with a
new execution, its start event and its first move as far as they came. -/
def Started (stores : Stores) (submission : StartSubmission) (context : TenantContext) (ambient : Ambient)
    (after : Stores) : Prop :=
  after = stores ∨
    (∃ existing, stores.executions.getByExternalId submission.externalExecutionId submission.runtimeProvider
        context.scope = some existing ∧ existing.record.status = .received ∧
      Moved stores existing.record.executionId existing .running none after) ∨
    (stores.executions.getByExternalId submission.externalExecutionId submission.runtimeProvider context.scope = none ∧
      ∃ execution joined, execution.record = newExecution submission context.scope ambient ∧
        (joined = { stores with executions := stores.executions.save execution } ∨
          ∃ event, event.record = startEvent submission context.scope ambient ∧
            Joined { stores with executions := stores.executions.save execution } event joined) ∧
        (after = joined ∨ Moved joined ambient.executionId execution .running none after))

theorem createStart_ensures (submission : StartSubmission)
    (unknown : stores.executions.getByExternalId submission.externalExecutionId submission.runtimeProvider
      context.scope = none) :
    (createStart primitives submission context.scope ambient).Ensures (inMemory primitives) stores
      (fun _ after => Started stores submission context ambient after) := by
  unfold createStart
  refine ensures_ofExcept_bind (fun execution created => ?_) fun _ _ => Or.inl rfl
  have execution? := Checked.create_eq_ok_iff.mp created
  refine ensures_read_bind rfl ?_
  refine ensures_ofExcept_bind (fun event built => ?_) fun _ _ =>
    Or.inr (Or.inr ⟨unknown, execution, _, execution?, Or.inl rfl, Or.inl rfl⟩)
  have event? := Checked.create_eq_ok_iff.mp built
  have joins := saveEvent_joins primitives { stores with executions := stores.executions.save execution } event
    (some (idempotencyKeyForStart primitives submission.externalExecutionId submission.runtimeProvider context.scope))
  generalize joinedIs : (inMemory primitives (.saveEvent event (some (idempotencyKeyForStart primitives
    submission.externalExecutionId submission.runtimeProvider context.scope)))
    { stores with executions := stores.executions.save execution }).2 = joined at joins
  have reached : joined = { stores with executions := stores.executions.save execution } ∨
      ∃ event : AgentExecutionEvent, event.record = startEvent submission context.scope ambient ∧
        Joined { stores with executions := stores.executions.save execution } event joined :=
    joins.imp id fun joined => ⟨event, event?, joined⟩
  refine ensures_call_bind (fun _ last saved => ?_) fun _ last unsaved => ?_
  · have same : last = joined := by rw [← joinedIs, saved]
    subst same
    have filed : last.executions.byId.get? ambient.executionId = some execution := by
      have executions : last.executions = stores.executions.save execution := by
        obtain rfl | ⟨_, _, inserted⟩ := reached
        · rfl
        · exact inserted.executions
      have named : execution.record.executionId = ambient.executionId := by
        rw [execution?]
        rfl
      rw [executions, ← named]
      exact Dict.get?_set_self _
    obtain ⟨raised, failed⟩ | ⟨other, result, after, moves, moved⟩ := updateStatus_moves primitives last
      ambient.executionId context.scope .running none 0
    · refine ensures_call.mpr ?_
      rw [failed]
      exact Or.inr (Or.inr ⟨unknown, execution, last, execution?, reached, Or.inl rfl⟩)
    · obtain rfl : other = execution := Option.some.inj (moved.found.symm.trans filed)
      refine ensures_call.mpr ?_
      rw [moves]
      exact Or.inr (Or.inr ⟨unknown, other, last, execution?, reached, Or.inr moved⟩)
  · have same : last = joined := by rw [← joinedIs, unsaved]
    subst same
    exact Or.inr (Or.inr ⟨unknown, execution, last, execution?, reached, Or.inl rfl⟩)

/-- One undisturbed `ingest_start` ends as `Started` says. -/
theorem ingestStart_ensures (submission : StartSubmission) :
    (ingestStart primitives submission context ambient).Ensures (inMemory primitives) stores
      (fun _ after => Started stores submission context ambient after) := by
  unfold ingestStart enforce
  split
  · refine ensures_read_bind rfl ?_
    split
    · rename_i existing known
      unfold replayStart
      split
      · exact Or.inl rfl
      · split
        · rename_i received
          obtain ⟨raised, failed⟩ | ⟨other, result, after, moves, moved⟩ := updateStatus_moves primitives stores
            existing.record.executionId context.scope .running none existing.record.version
          · refine ensures_call.mpr ?_
            rw [failed]
            exact Or.inl rfl
          · refine ensures_call.mpr ?_
            rw [moves]
            have stored : stores.executions.byId.get? existing.record.executionId = some existing := by
              obtain ⟨executionId, -, found⟩ := Option.bind_eq_some_iff.mp known
              unfold ExecutionStore.get at found
              have present := (Option.filter_eq_some_iff.mp found).1
              rw [stores.executions.keyed present]
              exact present
            obtain rfl : other = existing := Option.some.inj (moved.found.symm.trans stored)
            exact Or.inr (Or.inl ⟨other, known, received, moved⟩)
        · exact Or.inl rfl
    · rename_i unknown
      exact createStart_ensures submission unknown
  · exact Or.inl rfl

end AiGovernance.Lifecycle
