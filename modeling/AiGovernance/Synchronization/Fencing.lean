import AiGovernance.Semantics.Contract
import AiGovernance.Services.OntologySyncEvents

/-!
# Events under stale writes

Workers and operators write back whole records they read earlier, and no write
looks at what it replaces. Where every write still finds the event in the status
its call has checked, and a worker the lock it took, a completed or cancelled
event stays as it is, an event that was cancelled is never reported completed,
and only the worker that holds the lock ends the processing.
-/

namespace AiGovernance.Synchronization

open AiGovernance.Std Domain Semantics SyncEventStore

/-! ## Single calls -/

/-- An acquisition takes nothing, or locks the event that is due next. -/
theorem acquireNext_cases (store : SyncEventStore) (workerId : String) (leaseSeconds : Nat) (now : Instant) :
    (store.nextDue now = none ∧ store.acquireNext workerId leaseSeconds now = (none, store)) ∨
      ∃ event, store.nextDue now = some event ∧ isDueForProcessing now event = true ∧
        store.byId.get? event.record.eventId = some event ∧
        store.acquireNext workerId leaseSeconds now =
          (some (acquired workerId leaseSeconds now event),
            store.save (acquired workerId leaseSeconds now event)) := by
  unfold SyncEventStore.acquireNext
  cases next : store.nextDue now with
  | none => exact Or.inl ⟨rfl, rfl⟩
  | some event =>
    have member := List.mem_of_mem_head? next
    rw [List.mem_filter, List.mem_insertionSort, Dict.mem_values_iff] at member
    obtain ⟨⟨heldId, held⟩, due⟩ := member
    have keyed := store.keyed held
    subst keyed
    exact Or.inr ⟨event, rfl, due, held, rfl⟩

variable {store : SyncEventStore} {now : Instant} {workerId : String} {leaseSeconds : Nat}

theorem get?_acquired {workerId : String} {leaseSeconds : Nat} {now : Instant} {eventId : String}
    {old : OntologySyncEvent} (stored : store.byId.get? eventId = some old) :
    (store.acquireNext workerId leaseSeconds now).2.byId.get? eventId = some old ∨
      (isDueForProcessing now old = true ∧
        (store.acquireNext workerId leaseSeconds now).2.byId.get? eventId =
          some (acquired workerId leaseSeconds now old)) := by
  rcases acquireNext_cases store workerId leaseSeconds now with ⟨-, same⟩ | ⟨event, -, due, held, same⟩
  · rw [same]
    exact Or.inl stored
  · rw [same]
    dsimp only
    rw [get?_save_acquired]
    by_cases own : eventId = event.record.eventId
    · subst own
      rw [held] at stored
      cases stored
      exact Or.inr ⟨due, if_pos rfl⟩
    · exact Or.inl (by rw [if_neg own]; exact stored)

/-- The statuses no call may leave. -/
def Ended (status : OntologySyncEventStatus) : Prop := status = .completed ∨ status = .cancelled

/-- Ended events keep their status. -/
def Absorbs (store next : SyncEventStore) : Prop :=
  ∀ eventId old, store.byId.get? eventId = some old → Ended old.record.status →
    ∃ new, next.byId.get? eventId = some new ∧ new.record.status = old.record.status

theorem Absorbs.refl (store : SyncEventStore) : Absorbs store store :=
  fun _ old stored _ => ⟨old, stored, rfl⟩

theorem Absorbs.trans {first second third : SyncEventStore} (left : Absorbs first second)
    (right : Absorbs second third) : Absorbs first third := by
  intro eventId old stored ended
  obtain ⟨middle, middleStored, same⟩ := left eventId old stored ended
  obtain ⟨new, newStored, sameAgain⟩ := right eventId middle middleStored (by rw [same]; exact ended)
  exact ⟨new, newStored, sameAgain.trans same⟩

/-- An acquisition takes an event that has not ended, and leaves it in processing. -/
theorem absorbs_acquireNext : Absorbs store (store.acquireNext workerId leaseSeconds now).2 := by
  intro eventId old stored ended
  rcases get?_acquired stored with kept | ⟨due, -⟩
  · exact ⟨old, kept, rfl⟩
  · unfold isDueForProcessing at due
    rcases ended with completed | cancelled
    · rw [completed] at due
      cases due
    · rw [cancelled] at due
      cases due

theorem absorbs_save {event stored : OntologySyncEvent} (replaced : store.byId.get? event.record.eventId = some stored)
    (alive : ¬ Ended stored.record.status) : Absorbs store (store.save event) := by
  intro eventId old found ended
  refine ⟨old, ?_, rfl⟩
  rw [get?_save, if_neg]
  · exact found
  · rintro rfl
    rw [replaced] at found
    cases found
    exact alive ended

/-! ## Guarded writes -/

/-- A write finds the event in the status its call has checked: a worker in processing and under
its lock, a cancellation pending, a retry failed. -/
def guarded (store : SyncEventStore) (log : CommandLog syncRepository SyncEventStore) : SyncCommand → Prop
  | .save event => ∃ stored, store.byId.get? event.record.eventId = some stored ∧
      match log.getLast? with
      | some (_, .acquireNext workerId _ _) =>
        stored.record.status = .processing ∧ stored.record.lockedBy = some workerId
      | _ =>
        if event.record.status = .cancelled then stored.record.status = .pending
        else stored.record.status = .failed ∨ stored.record.status = .deadLetter
  | _ => True

/-- A new event is published. -/
def Published (store next : SyncEventStore) : Prop :=
  ∃ event, store.byId.get? event.record.eventId = none ∧ event.record.status = .pending ∧
    event.record.retryCount = 0 ∧ event.record.nextRetryAt = none ∧ next = store.save event

/-- Any number of workers and operators; events are published at any time. -/
def syncTraffic (admits : SyncEventStore → CommandLog syncRepository SyncEventStore → SyncCommand → Prop) :
    Pool syncRepository SyncEventStore SyncCall (Option OntologySyncEvent) where
  handler := syncStores
  body := SyncCall.body
  offered _ := True
  environment := Published
  admits := admits

/-- The event leaves processing only through the worker that holds its lock. -/
def LeavesProcessing (call : SyncCall) (store next : SyncEventStore) : Prop :=
  ∀ eventId old new, store.byId.get? eventId = some old → old.record.status = .processing →
    next.byId.get? eventId = some new → new.record.status ≠ .processing →
    ∃ worker, call = .process worker ∧ old.record.lockedBy = some worker.workerId

/-- Every call keeps ended events, and leaves processing to the holder of the lock. -/
def syncContract (call : SyncCall) : Contract syncRepository SyncEventStore where
  handler := syncStores
  admits := guarded
  sound _ := True
  rely := Absorbs
  refl := Absorbs.refl
  trans := Absorbs.trans
  promise store _ _ next := Absorbs store next ∧ LeavesProcessing call store next

theorem leavesProcessing_refl (call : SyncCall) : LeavesProcessing call store store := by
  intro eventId old new stored processing found left
  rw [stored] at found
  cases found
  exact absurd processing left

theorem leavesProcessing_acquireNext (call : SyncCall) :
    LeavesProcessing call store (store.acquireNext workerId leaseSeconds now).2 := by
  intro eventId old new stored processing found left
  rcases get?_acquired stored with kept | ⟨-, locked⟩
  · rw [kept] at found
    cases found
    exact absurd processing left
  · rw [locked] at found
    cases found
    exact absurd rfl left

variable {call : SyncCall}

theorem leavesProcessing_save {event stored : OntologySyncEvent}
    (replaced : store.byId.get? event.record.eventId = some stored) (held : stored.record.status = .processing →
      ∃ worker, call = .process worker ∧ stored.record.lockedBy = some worker.workerId) :
    LeavesProcessing call store (store.save event) := by
  intro eventId old new found processing changed left
  rw [get?_save] at changed
  split at changed
  · rename_i same
    subst same
    rw [replaced] at found
    cases found
    exact held processing
  · rw [found] at changed
    cases changed
    exact absurd processing left

/-! ## Calls -/

/-- A call that reports a completed event has stored it. -/
def Reported (_ : CommandLog syncRepository SyncEventStore)
    (result : Except Raised (Option OntologySyncEvent)) (store : SyncEventStore) : Prop :=
  ∀ event, result = .ok (some event) → event.record.status = .completed →
    ∃ stored, store.byId.get? event.record.eventId = some stored ∧ stored.record.status = .completed

theorem processNext_meets (worker : SyncWorker) :
    (syncContract (.process worker)).Meets Reported (processNext worker) [] store := by
  refine Contract.meets_call_bind ?_ ?_ fun _ _ _ _ _ _ outcome => by cases outcome
  · intro later _ _ _
    exact ⟨absorbs_acquireNext, leavesProcessing_acquireNext _⟩
  · intro later answer after _ _ _ _
    cases answer with
    | none => exact Contract.meets_pure fun _ _ _ event returned => by cases returned
    | some event =>
      refine Contract.meets_call_bind ?_ ?_ fun _ _ _ _ _ _ outcome => by cases outcome
      · intro final _ _ admitted
        obtain ⟨stored, replaced, processing, locked⟩ := admitted
        refine ⟨absorbs_save replaced ?_, leavesProcessing_save replaced fun _ => ⟨worker, rfl, locked⟩⟩
        rintro (completed | cancelled)
        · rw [processing] at completed
          cases completed
        · rw [processing] at cancelled
          cases cancelled
      · intro final _ saved _ _ _ outcome
        cases outcome
        refine Contract.meets_pure fun last related _ returned same completed => ?_
        cases same
        obtain ⟨kept, keptStored, status⟩ := related _ (processedEvent worker event)
          (by rw [get?_save, if_pos rfl]) (Or.inl completed)
        exact ⟨kept, keptStored, status.trans completed⟩

/-- An operator's call reads an event and goes on with it. -/
theorem getEvent_meets_bind {eventId : String} {organizationId projectId : Option String}
    {next : OntologySyncEvent → SyncOperation (Option OntologySyncEvent)}
    (rest : ∀ seen later event, Absorbs store later → later.byId.get? eventId = some event →
      (syncContract call).Meets Reported (next event) [(seen, .findById eventId)] later) :
    (syncContract call).Meets Reported (getEvent eventId organizationId projectId >>= next) [] store := by
  unfold getEvent
  rw [Program.bind_assoc]
  refine Contract.meets_call_bind ?_ ?_ fun _ _ _ _ _ _ outcome => by cases outcome
  · intro later _ _ _
    exact ⟨.refl later, leavesProcessing_refl call⟩
  · intro later answer after related _ _ outcome
    cases outcome
    cases found : later.byId.get? eventId with
    | none => exact Contract.meets_raise fun _ _ _ _ returned => by cases returned
    | some event =>
      dsimp only
      split
      · exact rest later later event related found
      · exact Contract.meets_raise fun _ _ _ _ returned => by cases returned

/-- An operator's write, over an event that neither is in processing nor has ended. -/
theorem operator_saves {log : CommandLog syncRepository SyncEventStore} (event : OntologySyncEvent)
    (incomplete : event.record.status ≠ .completed) (unlocked : ∀ store stored, guarded store log (.save event) →
      store.byId.get? event.record.eventId = some stored →
      stored.record.status ≠ .processing ∧ ¬ Ended stored.record.status) :
    (syncContract call).Meets Reported (request (.save event) >>= fun _ => pure (some event)) log store := by
  refine Contract.meets_call_bind ?_ ?_ fun _ _ _ _ _ _ outcome => by cases outcome
  · intro later _ _ admitted
    obtain ⟨stored, replaced, -⟩ := id admitted
    obtain ⟨free, alive⟩ := unlocked later stored admitted replaced
    exact ⟨absorbs_save replaced alive, leavesProcessing_save replaced fun processing => absurd processing free⟩
  · intro later _ saved _ _ _ _
    refine Contract.meets_pure fun _ _ _ returned same completed => ?_
    cases same
    exact absurd completed incomplete

theorem retryEvent_meets (eventId : String) (organizationId projectId : Option String) :
    (syncContract (.retry eventId organizationId projectId now)).Meets Reported
      (SyncCall.body (.retry eventId organizationId projectId now)) [] store := by
  unfold SyncCall.body retryEvent
  simp only [Program.bind_assoc]
  refine getEvent_meets_bind fun seen later event _ found => ?_
  split
  · refine operator_saves (retriedEvent event now) (fun completed => by cases completed) ?_
    rintro current stored ⟨held, replaced, checked⟩ again
    rw [replaced] at again
    cases again
    have failed : stored.record.status = .failed ∨ stored.record.status = .deadLetter := by
      simpa [retriedEvent] using checked
    rcases failed with status | status <;> simp [status, Ended]
  · exact Contract.meets_raise fun _ _ _ _ returned => by cases returned

theorem cancelEvent_meets (eventId : String) (organizationId projectId : Option String) :
    (syncContract (.cancel eventId organizationId projectId now)).Meets Reported
      (SyncCall.body (.cancel eventId organizationId projectId now)) [] store := by
  unfold SyncCall.body cancelEvent
  simp only [Program.bind_assoc]
  refine getEvent_meets_bind fun seen later event _ found => ?_
  split
  · exact Contract.meets_raise fun _ _ _ _ returned => by cases returned
  · refine operator_saves (cancelledEvent event now) (fun completed => by cases completed) ?_
    rintro current stored ⟨held, replaced, checked⟩ again
    rw [replaced] at again
    cases again
    have pending : stored.record.status = .pending := by simpa [cancelledEvent] using checked
    simp [pending, Ended]

theorem syncCall_meets (call : SyncCall) (store : SyncEventStore) :
    (syncContract call).Meets Reported call.body [] store := by
  cases call with
  | process worker => exact processNext_meets worker
  | retry eventId organizationId projectId now => exact retryEvent_meets eventId organizationId projectId
  | cancel eventId organizationId projectId now =>
    exact cancelEvent_meets eventId organizationId projectId

/-! ## Every interleaving -/

theorem Published.absorbs {next : SyncEventStore} (published : Published store next) : Absorbs store next := by
  obtain ⟨event, fresh, -, -, -, rfl⟩ := published
  intro eventId old stored _
  refine ⟨old, ?_, rfl⟩
  rw [get?_save, if_neg]
  · exact stored
  · rintro rfl
    rw [fresh] at stored
    cases stored

theorem syncTraffic_agreement : (syncTraffic guarded).Agreement syncContract fun _ => True where
  sameHandler _ := rfl
  sameAdmits _ := rfl
  sameSound _ := rfl
  kept _ _ _ _ _ _ _ := trivial
  environment published _ := ⟨trivial, fun _ => published.absorbs⟩
  joining _ _ _ := ⟨fun _ promised => promised.1, fun _ promised => promised.1⟩

/-- A request to reconcile one prompt. -/
def promptEvent : OntologySyncEvent where
  record :=
    { eventType := "PromptCreated", entityType := "Prompt", correlationId := "correlation-1"
      eventId := "event-1", entityId := some "prompt-1", createdAt := ⟨1⟩, updatedAt := ⟨1⟩ }
  valid := by decide

/-- The repository with the request. -/
def pendingStore : SyncEventStore := SyncEventStore.empty.save promptEvent

/-- A worker whose reconciliations succeed. -/
def promptWorker : SyncCall :=
  .process {
    reconciler := ⟨fun _ _ => .ok ⟨[], 0⟩, fun _ => .ok ⟨[], 0⟩⟩
    acquiredAt := ⟨2⟩, updatedAt := ⟨4⟩, finishedAt := ⟨4⟩ }

/-- An operator's cancellation. -/
def promptCancellation : SyncCall := .cancel "event-1" none none ⟨3⟩

/-- A test of a schedule by what it has to say about its writes. -/
def testGuarded (store : SyncEventStore) (log : CommandLog syncRepository SyncEventStore) : SyncCommand → Bool
  | .save event => (store.byId.get? event.record.eventId).any fun stored =>
    match log.getLast? with
    | some (_, .acquireNext workerId _ _) =>
      stored.record.status = .processing && stored.record.lockedBy = some workerId
    | _ =>
      if event.record.status = .cancelled then stored.record.status = .pending
      else stored.record.status = .failed || stored.record.status = .deadLetter
  | _ => true

theorem guarded_of_test (store : SyncEventStore) (log : CommandLog syncRepository SyncEventStore)
    (command : SyncCommand) (passes : testGuarded store log command = true) : guarded store log command := by
  cases command with
  | save event =>
    unfold testGuarded at passes
    rw [Option.any_eq_true] at passes
    obtain ⟨stored, found, checked⟩ := passes
    refine ⟨stored, found, ?_⟩
    split
    · rename_i last
      rw [last] at checked
      simpa using checked
    · rename_i other
      split at checked
      · rename_i state workerId leaseSeconds now last
        exact absurd last (other state workerId leaseSeconds now)
      · split
        · rename_i cancelled
          simpa [cancelled] using checked
        · rename_i retried
          simpa [retried] using checked
  | findById eventId => trivial
  | acquireNext workerId leaseSeconds now => trivial

theorem reaches_guarded {moves : List (Pool.Move SyncCall)}
    {config : Config syncRepository SyncEventStore SyncCall (Option OntologySyncEvent)}
    (passes : (syncTraffic guarded).tested (fun _ => true) testGuarded moves config = true) :
    (syncTraffic guarded).Reaches config ((syncTraffic guarded).play moves config) :=
  Pool.reaches_play (Pool.legal_of_tested (fun _ _ => trivial) guarded_of_test passes)

/-- The worker completes the event before the operator looks. -/
def completedFirst : Config syncRepository SyncEventStore SyncCall (Option OntologySyncEvent) :=
  (syncTraffic guarded).play [.enter promptWorker, .enter promptCancellation, .issue 0, .issue 0]
    ⟨pendingStore, []⟩

/-- The operator finds the event completed. -/
def cancelledLast : Config syncRepository SyncEventStore SyncCall (Option OntologySyncEvent) :=
  (syncTraffic guarded).play [.issue 1] completedFirst

/-- Every schedule. -/
abbrev anySyncTraffic : Pool syncRepository SyncEventStore SyncCall (Option OntologySyncEvent) :=
  syncTraffic fun _ _ _ => True

/-- The operator reads the event while it is pending, the worker locks it, and the operator writes. -/
def cancelledInProcessing : Config syncRepository SyncEventStore SyncCall (Option OntologySyncEvent) :=
  anySyncTraffic.play [.enter promptCancellation, .issue 0, .enter promptWorker, .issue 1, .issue 0]
    ⟨pendingStore, []⟩

/-- The worker writes what it had read. -/
def completedAfterwards : Config syncRepository SyncEventStore SyncCall (Option OntologySyncEvent) :=
  anySyncTraffic.play [.issue 1] cancelledInProcessing

end AiGovernance.Synchronization
