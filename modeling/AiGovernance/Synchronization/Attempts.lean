import AiGovernance.Synchronization.Fencing

/-!
# Attempts at an event

The attempt counter of an event is advanced only where a failure is recorded. An
event whose lock expires is acquired again with the same count, so a worker that
crashes is free. Where no acquisition takes an event over and every worker
writes over the record it acquired, an acquisition uses up one of
`max_retries + 1` attempts (`remaining`), and no event is acquired before it is
due.
-/

namespace AiGovernance.Synchronization

open AiGovernance.Std Domain Semantics SyncEventStore

variable {eventId : String} {trace : List SyncEntry}

/-- No acquisition takes an event over from a worker, and a worker writes over the record it has
acquired. -/
def undisturbed (store : SyncEventStore) (log : CommandLog syncRepository SyncEventStore) : SyncCommand → Prop
  | .acquireNext _ _ now => ∀ event, store.nextDue now = some event → event.record.status ≠ .processing
  | .save event =>
    match log.getLast? with
    | some (seen, .acquireNext workerId leaseSeconds now) =>
      store.byId.get? event.record.eventId = (seen.acquireNext workerId leaseSeconds now).1
    | _ => True
  | .findById _ => True

/-- Workers under a common bound on retries, and operators; events are published at any time. -/
def attemptTraffic (maxRetries : Nat)
    (admits : SyncEventStore → CommandLog syncRepository SyncEventStore → SyncCommand → Prop) :
    Pool syncRepository SyncEventStore SyncCall (Option OntologySyncEvent) where
  handler := syncStores
  body := SyncCall.body
  offered
    | .process worker => worker.retryPolicy.maxRetries ≤ maxRetries
    | _ => True
  environment := Published
  admits := admits

/-- One issued command: by which call, in which state. -/
abbrev SyncEntry := SyncCall × SyncEventStore × syncRepository.Command

/-- The command acquires the event. -/
def acquires (eventId : String) : SyncEntry → Bool
  | (_, store, .acquireNext _ _ now) => (store.nextDue now).any (·.record.eventId = eventId)
  | _ => false

/-- The command is the write of an operator's retry of the event. -/
def retries (eventId : String) : SyncEntry → Bool
  | (.retry _ _ _ _, _, .save event) => event.record.eventId = eventId
  | _ => false

/-! ## What each call may issue -/

/-- A worker writes what it has made of the event it acquired, an operator what it has made of an
event it read. -/
def syncRule : SyncCall → CommandLog syncRepository SyncEventStore → SyncCommand → Prop
  | .process worker, log, .save event => ∃ seen taken,
      log = [(seen, .acquireNext worker.workerId worker.leaseSeconds worker.acquiredAt)] ∧
        (seen.acquireNext worker.workerId worker.leaseSeconds worker.acquiredAt).1 = some taken ∧
        event = processedEvent worker taken
  | .process _, _, .findById _ => False
  | .retry _ _ _ now, _, .save event => ∃ read, event = retriedEvent read now
  | .cancel _ _ _ now, _, .save event => ∃ read, event = cancelledEvent read now
  | .retry _ _ _ _, _, .acquireNext _ _ _ => False
  | .cancel _ _ _ _, _, .acquireNext _ _ _ => False
  | _, _, _ => True

variable {call : SyncCall}

theorem getEvent_obeys_bind {organizationId projectId : Option String}
    {next : OntologySyncEvent → SyncOperation (Option OntologySyncEvent)}
    (lookup : syncRule call [] (.findById eventId))
    (rest : ∀ log event, Obeys syncStores (syncRule call) (next event) log) :
    Obeys syncStores (syncRule call) (getEvent eventId organizationId projectId >>= next) [] := by
  unfold getEvent
  rw [Program.bind_assoc]
  refine obeys_call_bind lookup fun _ answer _ => ?_
  cases answer with
  | none => trivial
  | some event =>
    dsimp only
    split
    · exact rest _ event
    · trivial

variable {log : CommandLog syncRepository SyncEventStore}

theorem operator_obeys (event : OntologySyncEvent) (allowed : syncRule call log (.save event)) :
    Obeys syncStores (syncRule call) (request (.save event) >>= fun _ => pure (some event)) log :=
  obeys_call_bind allowed fun _ _ _ => trivial

theorem syncCall_obeys : Obeys syncStores (syncRule call) call.body [] := by
  cases call with
  | process worker =>
    refine obeys_call_bind trivial fun seen answer answered => ?_
    cases answer with
    | none => trivial
    | some taken =>
      refine obeys_call_bind ?_ fun _ _ _ => trivial
      have found : (seen.acquireNext worker.workerId worker.leaseSeconds worker.acquiredAt).1 = some taken := by
        have same := answered
        simp only [syncStores] at same
        exact Except.ok.inj same
      exact ⟨seen, taken, rfl, found, rfl⟩
  | retry eventId organizationId projectId now =>
    unfold SyncCall.body retryEvent
    simp only [Program.bind_assoc]
    refine getEvent_obeys_bind trivial fun log event => ?_
    split
    · exact operator_obeys (retriedEvent event now) ⟨event, rfl⟩
    · trivial
  | cancel eventId organizationId projectId now =>
    unfold SyncCall.body cancelEvent
    simp only [Program.bind_assoc]
    refine getEvent_obeys_bind trivial fun log event => ?_
    split
    · trivial
    · exact operator_obeys (cancelledEvent event now) ⟨event, rfl⟩

/-! ## Attempts left -/

/-- How often an event may still be acquired before an operator retries it. -/
def remaining (maxRetries : Nat) : Option OntologySyncEvent → Nat
  | none => maxRetries + 1
  | some event =>
    match event.record.status with
    | .pending => max 1 (maxRetries + 1 - event.record.retryCount)
    | .failed => max 1 (maxRetries + 1 - event.record.retryCount)
    | .processing => maxRetries - event.record.retryCount
    | .completed => 0
    | .deadLetter => 0
    | .cancelled => 0

theorem remaining_le (maxRetries : Nat) (event : Option OntologySyncEvent) :
    remaining maxRetries event ≤ maxRetries + 1 := by
  cases event with
  | none => exact Nat.le_refl _
  | some event =>
    dsimp only [remaining]
    cases event.record.status <;> dsimp only <;> omega

variable {maxRetries : Nat} {event : OntologySyncEvent}

theorem remaining_acquired {workerId : String} {leaseSeconds : Nat} {now : Instant}
    (due : isDueForProcessing now event = true) (free : event.record.status ≠ .processing) :
    remaining maxRetries (some (acquired workerId leaseSeconds now event)) + 1 ≤
      remaining maxRetries (some event) := by
  unfold isDueForProcessing at due
  unfold remaining acquired
  dsimp only
  cases status : event.record.status with
  | pending => dsimp only; omega
  | failed => dsimp only; omega
  | processing => exact absurd status free
  | completed => rw [status] at due; cases due
  | deadLetter => rw [status] at due; cases due
  | cancelled => rw [status] at due; cases due

theorem remaining_failed {policy : OntologySyncRetryPolicy} (bounded : policy.maxRetries ≤ maxRetries)
    (processing : event.record.status = .processing) (error : ProcessingError) (now : Instant) :
    remaining maxRetries (some (failedEvent policy event error now)) ≤ remaining maxRetries (some event) := by
  unfold remaining failedEvent
  dsimp only
  rw [processing]
  by_cases again : error.retryable && decide (event.record.retryCount + 1 ≤ policy.maxRetries)
  · rw [if_pos again]
    have within : event.record.retryCount + 1 ≤ policy.maxRetries := by
      rw [Bool.and_eq_true, decide_eq_true_eq] at again
      exact again.2
    dsimp only
    omega
  · rw [if_neg again]
    exact Nat.zero_le _

/-- What a worker writes uses up no further attempt. -/
theorem remaining_processed {worker : SyncWorker} (bounded : worker.retryPolicy.maxRetries ≤ maxRetries)
    (processing : event.record.status = .processing) :
    remaining maxRetries (some (processedEvent worker event)) ≤ remaining maxRetries (some event) := by
  unfold processedEvent
  split
  · exact remaining_failed bounded processing _ _
  · split
    · exact remaining_failed bounded processing _ _
    · exact Nat.zero_le _

variable {store : SyncEventStore} {command : SyncCommand}

/-- Every admitted command but an operator's retry pays for the acquisition it makes. -/
theorem remaining_issued (offered : (attemptTraffic maxRetries undisturbed).offered call)
    (allowed : syncRule call log command) (admitted : undisturbed store log command)
    (unasked : retries eventId (call, store, command) = false) :
    remaining maxRetries ((syncStores command store).2.byId.get? eventId) +
        (acquires eventId (call, store, command)).toNat ≤
      remaining maxRetries (store.byId.get? eventId) := by
  cases command with
  | findById other => exact Nat.le_refl _
  | acquireNext workerId leaseSeconds now =>
    change remaining maxRetries ((store.acquireNext workerId leaseSeconds now).2.byId.get? eventId) +
      ((store.nextDue now).any (·.record.eventId = eventId)).toNat ≤ _
    rcases acquireNext_cases store workerId leaseSeconds now with ⟨idle, same⟩ | ⟨event, next, due, held, same⟩
    · rw [same, idle]
      exact Nat.le_refl _
    · rw [same, next]
      dsimp only
      rw [get?_save_acquired]
      have free := admitted event next
      by_cases own : event.record.eventId = eventId
      · subst own
        rw [if_pos rfl, held]
        simpa using remaining_acquired due free
      · rw [if_neg (fun here => own here.symm)]
        simp [own]
  | save event =>
    change remaining maxRetries ((store.save event).byId.get? eventId) + 0 ≤ _
    rw [get?_save, Nat.add_zero]
    split
    · rename_i own
      cases call with
      | process worker =>
        obtain ⟨seen, taken, rfl, found, rfl⟩ := allowed
        have unchanged : store.byId.get? eventId = some taken := by
          rw [own, ← found]
          exact admitted
        have processing : taken.record.status = .processing := by
          rcases acquireNext_cases seen worker.workerId worker.leaseSeconds worker.acquiredAt with
            ⟨-, same⟩ | ⟨held, -, -, -, same⟩
          · rw [same] at found
            cases found
          · rw [same] at found
            cases found
            rfl
        rw [unchanged]
        exact remaining_processed offered processing
      | retry retriedId organizationId projectId now =>
        have other : ¬ event.record.eventId = eventId := by simpa [retries] using unasked
        exact absurd own.symm other
      | cancel cancelledId organizationId projectId now =>
        obtain ⟨read, rfl⟩ := allowed
        exact Nat.zero_le _
    · exact Nat.le_refl _

/-! ## Events that are due -/

/-- A pending event waits for no time. -/
def PendingClear (store : SyncEventStore) : Prop :=
  ∀ eventId event, store.byId.get? eventId = some event → event.record.status = .pending →
    event.record.nextRetryAt = none

/-- The command acquires no event before its `next_retry_at`. -/
def Timely : SyncEntry → Prop
  | (_, store, .acquireNext _ _ now) =>
    ∀ event, store.nextDue now = some event → ∀ due, event.record.nextRetryAt = some due → due ≤ now
  | _ => True

theorem PendingClear.save (clear : PendingClear store)
    (written : event.record.status = .pending → event.record.nextRetryAt = none) : PendingClear (store.save event) := by
  intro eventId stored found pending
  rw [get?_save] at found
  split at found
  · cases found
    exact written pending
  · exact clear eventId stored found pending

theorem processedEvent_not_pending (worker : SyncWorker) :
    (processedEvent worker event).record.status ≠ .pending := by
  have failed : ∀ error now, (failedEvent worker.retryPolicy event error now).record.status ≠ .pending := by
    intro error now
    unfold failedEvent
    dsimp only
    split <;> simp
  unfold processedEvent
  split
  · exact failed _ _
  · split
    · exact failed _ _
    · simp [completedEvent]

theorem PendingClear.issued (clear : PendingClear store) (allowed : syncRule call log command) :
    PendingClear (syncStores command store).2 := by
  cases command with
  | findById eventId => exact clear
  | acquireNext workerId leaseSeconds now =>
    change PendingClear (store.acquireNext workerId leaseSeconds now).2
    rcases acquireNext_cases store workerId leaseSeconds now with ⟨-, same⟩ | ⟨event, -, -, -, same⟩
    · rw [same]
      exact clear
    · rw [same]
      exact clear.save fun pending => by cases pending
  | save event =>
    refine clear.save fun pending => ?_
    cases call with
    | process worker =>
      obtain ⟨seen, taken, -, -, rfl⟩ := allowed
      exact absurd pending (processedEvent_not_pending worker)
    | retry eventId organizationId projectId now =>
      obtain ⟨read, rfl⟩ := allowed
      rfl
    | cancel eventId organizationId projectId now =>
      obtain ⟨read, rfl⟩ := allowed
      cases pending

/-- An acquisition that takes no event over is one the event was due for. -/
theorem timely_of_clear (clear : PendingClear store) (admitted : undisturbed store log command) :
    Timely (call, store, command) := by
  cases command with
  | findById eventId => trivial
  | save event => trivial
  | acquireNext workerId leaseSeconds now =>
    intro event next due scheduled
    have free := admitted event next
    rcases acquireNext_cases store workerId leaseSeconds now with ⟨idle, -⟩ | ⟨taken, same, ready, held, -⟩
    · rw [next] at idle
      cases idle
    · rw [next] at same
      cases same
      unfold isDueForProcessing at ready
      cases status : event.record.status with
      | pending =>
        have unset := clear _ event held status
        rw [scheduled] at unset
        cases unset
      | failed =>
        rw [status] at ready
        simpa [scheduled] using ready
      | processing => exact absurd status free
      | completed => rw [status] at ready; cases ready
      | deadLetter => rw [status] at ready; cases ready
      | cancelled => rw [status] at ready; cases ready

/-! ## Every run -/

section Runs

variable {maxRetries : Nat} {admits : SyncEventStore → CommandLog syncRepository SyncEventStore → SyncCommand → Prop}
  {start final : Config syncRepository SyncEventStore SyncCall (Option OntologySyncEvent)}

theorem Published.remaining {store next : SyncEventStore} (published : Published store next) (maxRetries : Nat)
    (eventId : String) :
    remaining maxRetries (next.byId.get? eventId) ≤ remaining maxRetries (store.byId.get? eventId) := by
  obtain ⟨event, fresh, pending, unused, -, rfl⟩ := published
  rw [get?_save]
  split
  · rename_i own
    rw [own, fresh]
    exact remaining_le maxRetries _
  · exact Nat.le_refl _

theorem Published.clear {store next : SyncEventStore} (published : Published store next)
    (clear : PendingClear store) : PendingClear next := by
  obtain ⟨event, -, -, -, unset, rfl⟩ := published
  exact clear.save fun _ => unset

/-- What holds of every reachable configuration. -/
structure Orderly (maxRetries : Nat)
    (config : Config syncRepository SyncEventStore SyncCall (Option OntologySyncEvent)) : Prop where
  clear : PendingClear config.state
  offered : ∀ thread ∈ config.threads, (attemptTraffic maxRetries undisturbed).offered thread.call
  obeys : ∀ thread ∈ config.threads, Obeys syncStores (syncRule thread.call) thread.program thread.log

theorem Orderly.of_reaches (reaches : (attemptTraffic maxRetries undisturbed).Reaches start final)
    (orderly : Orderly maxRetries start) : Orderly maxRetries final := by
  have entering : ∀ call, (attemptTraffic maxRetries undisturbed).offered call →
      Obeys syncStores (syncRule call) call.body [] := fun call _ => syncCall_obeys
  induction reaches with
  | refl => exact orderly
  | tail before step ih =>
    refine ⟨?_, Pool.offered_of_reaches (.single step) ih.offered,
      Pool.obeys_of_reaches syncRule entering (.single step) ih.obeys⟩
    rcases step.cases with same | published | ⟨call, log, command, issues⟩
    · rw [same]
      exact ih.clear
    · exact published.clear ih.clear
    · obtain ⟨continuation, member⟩ := issues.mem
      have allowed := (ih.obeys _ member).1
      rw [issues.state]
      exact ih.clear.issued allowed

/-- Along a run without an operator's retry of the event, acquisitions are paid for by the attempts
left at its start. -/
theorem attempts_paid (orderly : Orderly maxRetries start)
    (runs : (attemptTraffic maxRetries undisturbed).Runs start trace final)
    (unasked : ∀ entry ∈ trace, retries eventId entry = false) :
    trace.countP (acquires eventId) + remaining maxRetries (final.state.byId.get? eventId) ≤
      remaining maxRetries (start.state.byId.get? eventId) := by
  induction runs with
  | refl => simp
  | enter call before offered ih => exact ih unasked
  | environment before changed ih =>
    have kept := Published.remaining changed maxRetries eventId
    have paid := ih unasked
    dsimp only
    omega
  | @issue trace config next call log command before issues ih =>
    have paid := ih fun entry member => unasked entry (List.mem_append_left _ member)
    have here := Orderly.of_reaches before.reaches orderly
    obtain ⟨continuation, member⟩ := issues.mem
    have allowed := (here.obeys _ member).1
    have unaskedNow := unasked (call, config.state, command) (by simp)
    have step := remaining_issued (here.offered _ member) allowed issues.admitted unaskedNow
    have state : next.state = (syncStores command config.state).2 := issues.state
    rw [List.countP_append, List.countP_singleton, state]
    cases acquiring : acquires eventId (call, config.state, command)
    · simp only [acquiring, Bool.toNat_false] at step
      simp only [Bool.false_eq_true, if_false]
      omega
    · simp only [acquiring, Bool.toNat_true] at step
      simp only [if_true]
      omega

theorem timely_of_runs (orderly : Orderly maxRetries start)
    (runs : (attemptTraffic maxRetries undisturbed).Runs start trace final) : ∀ entry ∈ trace, Timely entry := by
  induction runs with
  | refl => simp
  | enter call before offered ih => exact ih
  | environment before changed ih => exact ih
  | issue before issues ih =>
    intro entry member
    rcases List.mem_append.mp member with earlier | last
    · exact ih entry earlier
    · obtain rfl := List.mem_singleton.mp last
      exact timely_of_clear (Orderly.of_reaches before.reaches orderly).clear issues.admitted

end Runs

/-- Where no acquisition takes an event over and every worker writes over the record it acquired, an
event is acquired at most `max_retries + 1` times between two retries of an operator, and never before
its `next_retry_at`. -/
theorem attempts_bounded {maxRetries : Nat} {eventId : String} {trace : List SyncEntry}
    {middle final : Config syncRepository SyncEventStore SyncCall (Option OntologySyncEvent)}
    (reaches : (attemptTraffic maxRetries undisturbed).Reaches ⟨.empty, []⟩ middle)
    (runs : (attemptTraffic maxRetries undisturbed).Runs middle trace final)
    (unasked : ∀ entry ∈ trace, retries eventId entry = false) :
    trace.countP (acquires eventId) ≤ maxRetries + 1 ∧ ∀ entry ∈ trace, Timely entry := by
  have initially : Orderly maxRetries ⟨.empty, []⟩ := by
    refine ⟨?_, by simp, by simp⟩
    intro eventId event found
    simp [empty] at found
  have orderly := Orderly.of_reaches reaches initially
  refine ⟨?_, timely_of_runs orderly runs⟩
  have paid := attempts_paid orderly runs unasked
  have bound := remaining_le maxRetries (middle.state.byId.get? eventId)
  omega

/-! ## Workers that crash -/

/-- A test of a schedule by what it has to say about its commands. -/
def testUndisturbed (store : SyncEventStore) (log : CommandLog syncRepository SyncEventStore) : SyncCommand → Bool
  | .acquireNext _ _ now => (store.nextDue now).all (·.record.status ≠ .processing)
  | .save event =>
    match log.getLast? with
    | some (seen, .acquireNext workerId leaseSeconds now) =>
      store.byId.get? event.record.eventId = (seen.acquireNext workerId leaseSeconds now).1
    | _ => true
  | .findById _ => true

theorem undisturbed_of_test (store : SyncEventStore) (log : CommandLog syncRepository SyncEventStore)
    (command : SyncCommand) (passes : testUndisturbed store log command = true) : undisturbed store log command := by
  cases command with
  | findById eventId => trivial
  | acquireNext workerId leaseSeconds now =>
    intro event next
    unfold testUndisturbed at passes
    simpa [next] using passes
  | save event =>
    unfold testUndisturbed at passes
    unfold undisturbed
    dsimp only at passes ⊢
    split
    · rename_i last
      rw [last] at passes
      simpa using passes
    · trivial

/-- A test of the workers that enter. -/
def testBounded (maxRetries : Nat) : SyncCall → Bool
  | .process worker => worker.retryPolicy.maxRetries ≤ maxRetries
  | _ => true

theorem offered_of_testBounded (admits : SyncEventStore → CommandLog syncRepository SyncEventStore → SyncCommand → Prop)
    (call : SyncCall) (passes : testBounded maxRetries call = true) :
    (attemptTraffic maxRetries admits).offered call := by
  cases call with
  | process worker => exact of_decide_eq_true (p := worker.retryPolicy.maxRetries ≤ maxRetries) passes
  | retry eventId organizationId projectId now => trivial
  | cancel eventId organizationId projectId now => trivial

/-- The event is published. -/
def publishedConfig : Config syncRepository SyncEventStore SyncCall (Option OntologySyncEvent) :=
  ⟨pendingStore, []⟩

theorem published_pendingStore : Published empty pendingStore :=
  ⟨promptEvent, rfl, rfl, rfl, rfl, rfl⟩

/-- A worker's turn that starts after so many minutes; its reconciliation fails. -/
def failingWorker (minutes : Nat) : SyncCall :=
  .process {
    reconciler := ⟨fun _ _ => .error ⟨"Graph is unavailable.", true⟩, fun _ => .error ⟨"Graph is unavailable.", true⟩⟩
    acquiredAt := ⟨minutes * 60 * Instant.second⟩
    updatedAt := ⟨minutes * 60 * Instant.second + 1⟩
    finishedAt := ⟨minutes * 60 * Instant.second + 1⟩ }

/-- Two turns that fail, one after the other. -/
def failedTwice : List (Pool.Move SyncCall) :=
  [.enter (failingWorker 1), .issue 0, .issue 0, .enter (failingWorker 2), .issue 1, .issue 1]

/-- Two of the four attempts are used. -/
theorem attempts_bounded_failedTwice :
    ((attemptTraffic 3 undisturbed).traced failedTwice publishedConfig).countP (acquires "event-1") = 2 ∧
      ((attemptTraffic 3 undisturbed).traced failedTwice publishedConfig).countP (acquires "event-1") ≤ 3 + 1 := by
  have reaches : (attemptTraffic 3 undisturbed).Reaches ⟨.empty, []⟩ publishedConfig :=
    .single (.environment published_pendingStore)
  have legal : (attemptTraffic 3 undisturbed).Legal failedTwice publishedConfig := by
    refine Pool.legal_of_tested (offered_of_testBounded undisturbed) undisturbed_of_test ?_
    decide +kernel
  have runs : (attemptTraffic 3 undisturbed).Runs publishedConfig _ _ := Pool.Runs.play .refl legal
  rw [List.nil_append] at runs
  exact ⟨by decide +kernel, (attempts_bounded reaches runs (by decide +kernel)).1⟩

/-- Five workers that crash while they process the event, each after the lock of the one before has
expired. -/
def crashedWorkers : List (Pool.Move SyncCall) :=
  [.enter (failingWorker 1), .issue 0, .enter (failingWorker 2), .issue 1, .enter (failingWorker 3), .issue 2,
    .enter (failingWorker 4), .issue 3, .enter (failingWorker 5), .issue 4]

/-- Every schedule of workers under the default bound. -/
abbrev anyAttemptTraffic : Pool syncRepository SyncEventStore SyncCall (Option OntologySyncEvent) :=
  attemptTraffic 3 fun _ _ _ => True

/-- The event is acquired five times without any retry of an operator; three retries are allowed. -/
theorem event_acquired_five_times :
    ∃ trace final, anyAttemptTraffic.Runs ⟨.empty, []⟩ trace final ∧
      (∀ entry ∈ trace, retries "event-1" entry = false) ∧ trace.countP (acquires "event-1") = 5 := by
  have passes : anyAttemptTraffic.tested (testBounded 3) (fun _ _ _ => true) crashedWorkers publishedConfig := by
    decide +kernel
  have legal : anyAttemptTraffic.Legal crashedWorkers publishedConfig :=
    Pool.legal_of_tested (offered_of_testBounded _) (fun _ _ _ _ => trivial) passes
  have published : anyAttemptTraffic.Runs ⟨.empty, []⟩ [] publishedConfig :=
    .environment .refl published_pendingStore
  refine ⟨_, _, published.play legal, ?_, ?_⟩
  · decide +kernel
  · decide +kernel

end AiGovernance.Synchronization
