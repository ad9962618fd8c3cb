import AiGovernance.Semantics.Machine
import AiGovernance.Services.Telemetry
import Mathlib.Data.List.Count

/-!
# Telemetry snapshots are conserved

The calls of the telemetry service as a machine whose steps are the locked steps,
and one export of a loop that runs outside the lock. Beside the service stand
the flushes in progress and a history of every snapshot made, delivered and
dropped. A flush that replaces a list it still has the copy of, of snapshots the
policy let it export, loses nothing and delivers nothing twice.
-/

namespace AiGovernance.Telemetry

open AiGovernance.Std Domain Semantics Services.Telemetry List TelemetryService

/-- A flush that gave up the lock: the list it copied, what is left of the copy, what it keeps
for another attempt, and what it delivered or dropped. -/
structure Flush where
  pending : List (TelemetrySnapshot × Nat)
  remaining : List (TelemetrySnapshot × Nat)
  retained : List (TelemetrySnapshot × Nat) := []
  handled : List TelemetrySnapshot := []

/-- The service, its flushes in progress, and its history. -/
structure TelemetryRun where
  service : TelemetryService
  flushes : List Flush := []
  created : List TelemetrySnapshot := []
  delivered : List TelemetrySnapshot := []
  dropped : List TelemetrySnapshot := []

/-- A service at its start; it may have loaded pending snapshots. -/
def TelemetryRun.start (state : TelemetryState) : TelemetryRun := { service := { state := state } }

/-- One step: a call, or the next part of a flush in progress. -/
inductive TelemetryStep where
  | record (metric : TelemetryMetric) (durationMs : Option Int) (policy : TelemetryPolicy) (reading : RolloverReading)
  | preview (reading shown : RolloverReading)
  | discard
  | begin (reading : RolloverReading)
  | deliver (index : Nat) (policy : TelemetryPolicy) (result : Option TelemetryExportResult) (now : Instant)
  | abort (index : Nat)
  | finish (index : Nat)

namespace TelemetryRun

/-- What a roll-over adds to the history. -/
def noted (run : TelemetryRun) (reading : RolloverReading) : TelemetryRun :=
  match run.service.dueSnapshots reading with
  | .ok (some snapshots) => { run with
      created := run.created ++ snapshots
      dropped := run.dropped ++
        ((run.service.extended snapshots).take (run.service.excess snapshots)).map Prod.fst }
  | _ => run

/-- One round of the export loop. -/
def exportNext (run : TelemetryRun) (index : Nat) (flush : Flush) (snapshot : TelemetrySnapshot) (attempts : Nat)
    (rest : List (TelemetrySnapshot × Nat)) (policy : TelemetryPolicy) (result : TelemetryExportResult)
    (now : Instant) : TelemetryRun :=
  if policy.allows snapshot.record.category = false then
    { run with flushes := run.flushes.set index { flush with remaining := rest } }
  else if TelemetryService.retains result attempts then
    { run with
      service := run.service.exported result now
      flushes := run.flushes.set index { flush with
        remaining := rest, retained := flush.retained ++ [(snapshot, attempts + 1)] } }
  else if result.delivered then
    { run with
      service := run.service.exported result now
      flushes := run.flushes.set index { flush with remaining := rest, handled := flush.handled ++ [snapshot] }
      delivered := run.delivered ++ [snapshot] }
  else
    { run with
      service := (run.service.exported result now).dropOne
      flushes := run.flushes.set index { flush with remaining := rest, handled := flush.handled ++ [snapshot] }
      dropped := run.dropped ++ [snapshot] }

/-- A call of `record`. -/
def recorded (run : TelemetryRun) (metric : TelemetryMetric) (durationMs : Option Int) (policy : TelemetryPolicy)
    (reading : RolloverReading) : TelemetryRun :=
  if policy.allows (TelemetryService.categoryOf metric) = false then run
  else { run.noted reading with service := run.service.record metric durationMs policy reading }

/-- The locked step of a flush under a disabled policy. -/
def discarded (run : TelemetryRun) : TelemetryRun :=
  { run with
    service := run.service.discard
    dropped := run.dropped ++ run.service.state.pending.map Prod.fst }

/-- The first locked step of a flush. -/
def begun (run : TelemetryRun) (reading : RolloverReading) : TelemetryRun :=
  match run.service.rolloverIfDueLocked reading with
  | .error _ => run
  | .ok rolled => { run.noted reading with
      service := rolled
      flushes := run.flushes ++ [{ pending := rolled.state.pending, remaining := rolled.state.pending }] }

/-- The next round of the export loop of a flush. -/
def delivering (run : TelemetryRun) (index : Nat) (policy : TelemetryPolicy) (result : Option TelemetryExportResult)
    (now : Instant) : TelemetryRun :=
  match run.flushes[index]? with
  | none => run
  | some flush =>
    match flush.remaining with
    | [] => run
    | (snapshot, attempts) :: rest =>
      run.exportNext index flush snapshot attempts rest policy (TelemetryService.exportResult result) now

/-- The last locked step of a flush. -/
def finished (run : TelemetryRun) (index : Nat) : TelemetryRun :=
  match run.flushes[index]? with
  | none => run
  | some flush =>
    if flush.remaining ≠ [] then run
    else { run with
      service := run.service.replacePending flush.retained
      flushes := run.flushes.eraseIdx index }

/-- A step; the parts of a flush do nothing out of their turn. -/
def advance (run : TelemetryRun) : TelemetryStep → TelemetryRun
  | .record metric durationMs policy reading => run.recorded metric durationMs policy reading
  | .preview reading shown => { run.noted reading with service := (run.service.preview reading shown).2 }
  | .discard => run.discarded
  | .begin reading => run.begun reading
  | .deliver index policy result now => run.delivering index policy result now
  | .abort index => { run with flushes := run.flushes.eraseIdx index }
  | .finish index => run.finished index

end TelemetryRun

/-- The telemetry service under any interleaving of its steps. -/
def telemetryMachine : Machine TelemetryRun TelemetryStep Unit where
  serve step run := ((), run.advance step)

/-! ## What steps leave alone -/

section Frame

variable (service : TelemetryService)

/-- Steps that touch neither the pending list nor the counts of snapshots. -/
def SameAccounts (before after : TelemetryService) : Prop :=
  after.state.pending = before.state.pending ∧
    after.metrics.snapshotsCreatedTotal = before.metrics.snapshotsCreatedTotal ∧
    after.metrics.droppedSnapshotsTotal = before.metrics.droppedSnapshotsTotal

theorem SameAccounts.trans {first second third : TelemetryService} (left : SameAccounts first second)
    (right : SameAccounts second third) : SameAccounts first third :=
  ⟨right.1.trans left.1, right.2.1.trans left.2.1, right.2.2.trans left.2.2⟩

theorem count_accounts (metric : TelemetryMetric) : SameAccounts service (service.count metric) := ⟨rfl, rfl, rfl⟩

theorem observe_accounts (metric : TelemetryMetric) (durationMs : Option Int) :
    SameAccounts service (service.observe metric durationMs) := by
  unfold observe
  split
  · split
    · exact ⟨rfl, rfl, rfl⟩
    · exact ⟨rfl, rfl, rfl⟩
  · exact ⟨rfl, rfl, rfl⟩

theorem exported_accounts (result : TelemetryExportResult) (now : Instant) :
    SameAccounts service (service.exported result now) := by
  unfold exported
  by_cases delivered : result.delivered = true
  · rw [if_pos delivered]
    exact ⟨rfl, rfl, rfl⟩
  · rw [if_neg delivered]
    exact ⟨rfl, rfl, rfl⟩

end Frame

/-! ## Accounts -/

/-- A flush accounts for its copy: handled, kept or still to do. -/
def Flush.Accounted (flush : Flush) : Prop :=
  (flush.pending.map Prod.fst).Perm (flush.handled ++ flush.retained.map Prod.fst ++ flush.remaining.map Prod.fst)

/-- The snapshots the flushes in progress have delivered or dropped, which are still in the pending list. -/
def handledBy (flushes : List Flush) : List TelemetrySnapshot := flushes.flatMap Flush.handled

/-- The counters count the history, every flush accounts for its copy, and what was delivered or dropped
or is pending was made, but for what flushes in progress have handled. -/
structure Accounted (run : TelemetryRun) : Prop where
  created : run.service.metrics.snapshotsCreatedTotal = run.created.length
  dropped : run.service.metrics.droppedSnapshotsTotal = run.dropped.length
  flushes : ∀ flush ∈ run.flushes, flush.Accounted
  balance : (run.delivered ++ run.dropped ++ run.service.state.pending.map Prod.fst).Perm
    (run.created ++ handledBy run.flushes)

/-- The condition on a step: a snapshot exported is of a category the policy allows, a flush that is
given up has handled nothing, and a flush replaces the list it copied. -/
def Undisturbed (run : TelemetryRun) : TelemetryStep → Prop
  | .deliver index policy _ _ => ∀ flush snapshot attempts rest, run.flushes[index]? = some flush →
      flush.remaining = (snapshot, attempts) :: rest → policy.allows snapshot.record.category = true
  | .abort index => ∀ flush, run.flushes[index]? = some flush → flush.handled = []
  | .finish index => ∀ flush, run.flushes[index]? = some flush → flush.remaining = [] →
      run.service.state.pending = flush.pending
  | .record _ _ _ _ | .preview _ _ | .discard | .begin _ => True

variable {run : TelemetryRun}

theorem Accounted.same {service : TelemetryService} (accounted : Accounted run)
    (same : SameAccounts run.service service) : Accounted { run with service := service } where
  created := same.2.1.trans accounted.created
  dropped := same.2.2.trans accounted.dropped
  flushes := accounted.flushes
  balance := by
    rw [same.1]
    exact accounted.balance

/-- What a roll-over cuts off and what it keeps are the pending list and the new snapshots. -/
theorem cut_perm (service : TelemetryService) (snapshots : List TelemetrySnapshot) (excess : Nat) :
    ((service.extended snapshots).take excess).map Prod.fst ++ ((service.extended snapshots).drop excess).map Prod.fst =
      service.state.pending.map Prod.fst ++ snapshots := by
  rw [← map_append, take_append_drop, extended, map_append, map_map]
  congr 1
  exact map_id snapshots

theorem Accounted.rolled {reading : RolloverReading} {rolled : TelemetryService} (accounted : Accounted run)
    (due : run.service.rolloverIfDueLocked reading = .ok rolled) :
    Accounted { run.noted reading with service := rolled } := by
  unfold rolloverIfDueLocked at due
  obtain ⟨found, read, due⟩ := bind_ok due
  unfold TelemetryRun.noted
  rw [read]
  cases found with
  | none =>
    cases due
    exact accounted
  | some snapshots =>
    cases due
    have taken : ((run.service.extended snapshots).take (run.service.excess snapshots)).length =
        run.service.excess snapshots := by
      rw [length_take]
      unfold TelemetryService.excess
      omega
    refine ⟨?_, ?_, accounted.flushes, ?_⟩
    · change run.service.metrics.snapshotsCreatedTotal + snapshots.length = (run.created ++ snapshots).length
      rw [accounted.created, length_append]
    · change run.service.metrics.droppedSnapshotsTotal + run.service.excess snapshots = List.length (_ ++ _)
      rw [accounted.dropped, length_append, length_map, taken]
    · rw [perm_iff_count]
      intro snapshot
      have before := accounted.balance.count_eq snapshot
      have cut := congrArg (List.count snapshot) (cut_perm run.service snapshots (run.service.excess snapshots))
      simp only [rolledOver, count_append] at before cut ⊢
      omega

/-- The state in which a roll-over raised is the state before it. -/
theorem noted_of_error {reading : RolloverReading} {raised : Raised}
    (failed : run.service.rolloverIfDueLocked reading = .error raised) : run.noted reading = run := by
  unfold rolloverIfDueLocked at failed
  unfold TelemetryRun.noted
  cases read : run.service.dueSnapshots reading with
  | error reason => rfl
  | ok found =>
    rw [read] at failed
    cases found with
    | none => rfl
    | some snapshots => cases failed

theorem Accounted.recorded (accounted : Accounted run) (metric : TelemetryMetric) (durationMs : Option Int)
    (policy : TelemetryPolicy) (reading : RolloverReading) :
    Accounted (run.recorded metric durationMs policy reading) := by
  unfold TelemetryRun.recorded TelemetryService.record
  by_cases refused : policy.allows (categoryOf metric) = false
  · rw [if_pos refused]
    exact accounted
  · rw [if_neg refused, if_neg refused]
    cases rolled : run.service.rolloverIfDueLocked reading with
    | error raised =>
      rw [noted_of_error rolled]
      exact accounted
    | ok service =>
      have after := accounted.rolled rolled
      exact after.same ((count_accounts service metric).trans (observe_accounts _ metric durationMs))

theorem Accounted.previewed (accounted : Accounted run) (reading shown : RolloverReading) :
    Accounted { run.noted reading with service := (run.service.preview reading shown).2 } := by
  unfold TelemetryService.preview
  cases rolled : run.service.rolloverIfDueLocked reading with
  | error raised =>
    rw [noted_of_error rolled]
    exact accounted
  | ok service => exact accounted.rolled rolled

theorem Accounted.discarded (accounted : Accounted run) : Accounted run.discarded where
  created := accounted.created
  dropped := by
    change run.service.metrics.droppedSnapshotsTotal + run.service.state.pending.length = List.length (_ ++ _)
    rw [accounted.dropped, length_append, length_map]
  flushes := accounted.flushes
  balance := by
    change (run.delivered ++ (run.dropped ++ run.service.state.pending.map Prod.fst) ++ []).Perm _
    rw [append_nil, ← append_assoc]
    exact accounted.balance

theorem Accounted.begun (accounted : Accounted run) (reading : RolloverReading) : Accounted (run.begun reading) := by
  unfold TelemetryRun.begun
  cases rolled : run.service.rolloverIfDueLocked reading with
  | error raised => exact accounted
  | ok service =>
    have after := accounted.rolled rolled
    have sameFlushes : (run.noted reading).flushes = run.flushes := by
      unfold TelemetryRun.noted
      split <;> rfl
    refine ⟨after.created, after.dropped, ?_, ?_⟩
    · intro flush member
      rcases mem_append.mp member with earlier | new
      · exact accounted.flushes flush earlier
      · cases mem_singleton.mp new
        exact List.Perm.refl _
    · have balance := after.balance
      change List.Perm _ (_ ++ handledBy (run.flushes ++ [_]))
      change List.Perm _ (_ ++ handledBy (run.noted reading).flushes) at balance
      rw [sameFlushes] at balance
      unfold handledBy at balance ⊢
      rw [flatMap_append]
      simpa using balance

/-! ## Flushes in progress -/

variable {flush : Flush} {index : Nat}

/-- The flush at an index, between the flushes before it and those after it. -/
theorem split_at {flushes : List Flush} (found : flushes[index]? = some flush) :
    ∃ before after, flushes = before ++ flush :: after ∧ flushes.eraseIdx index = before ++ after ∧
      ∀ new, flushes.set index new = before ++ new :: after := by
  obtain ⟨within, rfl⟩ := List.getElem?_eq_some_iff.mp found
  refine ⟨flushes.take index, flushes.drop (index + 1), ?_, eraseIdx_eq_take_drop_succ flushes index, ?_⟩
  · rw [← drop_eq_getElem_cons within, take_append_drop]
  · intro new
    exact set_eq_take_append_cons_drop .. |>.trans (if_pos within)

theorem Accounted.moved {next : Flush} (accounted : Accounted run) (found : run.flushes[index]? = some flush)
    {service : TelemetryService} (delivered dropped : List TelemetrySnapshot)
    (pending : service.state.pending = run.service.state.pending)
    (created : service.metrics.snapshotsCreatedTotal = run.service.metrics.snapshotsCreatedTotal)
    (counted : service.metrics.droppedSnapshotsTotal = run.service.metrics.droppedSnapshotsTotal + dropped.length)
    (split : next.Accounted) (handled : next.handled.Perm (flush.handled ++ (delivered ++ dropped))) :
    Accounted { run with
      service := service
      flushes := run.flushes.set index next
      delivered := run.delivered ++ delivered
      dropped := run.dropped ++ dropped } := by
  obtain ⟨before, after, whole, -, replaced⟩ := split_at found
  refine ⟨created.trans accounted.created, ?_, ?_, ?_⟩
  · rw [counted, accounted.dropped, length_append]
  · intro other member
    rw [replaced next] at member
    rcases mem_append.mp member with earlier | rest
    · exact accounted.flushes other (whole ▸ mem_append_left _ earlier)
    · rcases mem_cons.mp rest with rfl | later
      · exact split
      · exact accounted.flushes other (whole ▸ mem_append_right _ (mem_cons_of_mem _ later))
  · have balance := accounted.balance
    rw [pending, replaced next]
    rw [whole] at balance
    rw [perm_iff_count] at balance handled ⊢
    intro snapshot
    have total := balance snapshot
    have part := handled snapshot
    simp only [handledBy, flatMap_append, flatMap_cons, count_append] at total part ⊢
    omega

theorem Accounted.exportNext {snapshot : TelemetrySnapshot} {attempts : Nat} {rest : List (TelemetrySnapshot × Nat)}
    (accounted : Accounted run) (found : run.flushes[index]? = some flush)
    (next : flush.remaining = (snapshot, attempts) :: rest) {policy : TelemetryPolicy}
    (allowed : policy.allows snapshot.record.category = true) (result : TelemetryExportResult) (now : Instant) :
    Accounted (run.exportNext index flush snapshot attempts rest policy result now) := by
  have split : (flush.pending.map Prod.fst).Perm
      (flush.handled ++ flush.retained.map Prod.fst ++ snapshot :: rest.map Prod.fst) := by
    have account := accounted.flushes flush (mem_of_getElem? found)
    unfold Flush.Accounted at account
    rw [next] at account
    exact account
  rw [perm_iff_count] at split
  obtain ⟨samePending, sameCreated, sameDropped⟩ := exported_accounts run.service result now
  unfold TelemetryRun.exportNext
  rw [if_neg (by rw [allowed]; decide)]
  by_cases retained : retains result attempts = true
  · rw [if_pos retained]
    have kept : Flush.Accounted { flush with
        remaining := rest, retained := flush.retained ++ [(snapshot, attempts + 1)] } := by
      unfold Flush.Accounted
      rw [perm_iff_count]
      intro other
      have part := split other
      simp only [map_append, map_cons, map_nil, count_append, count_cons,
        count_nil] at part ⊢
      omega
    have moved := accounted.moved found [] [] samePending sameCreated sameDropped kept (by simp)
    simpa only [append_nil] using moved
  · rw [if_neg retained]
    have done : Flush.Accounted { flush with remaining := rest, handled := flush.handled ++ [snapshot] } := by
      unfold Flush.Accounted
      rw [perm_iff_count]
      intro other
      have part := split other
      simp only [count_append, count_cons, count_nil] at part ⊢
      omega
    by_cases delivered : result.delivered = true
    · rw [if_pos delivered]
      have moved := accounted.moved found [snapshot] [] samePending sameCreated sameDropped done (by simp)
      simpa only [append_nil] using moved
    · rw [if_neg delivered]
      have counted : (run.service.exported result now).dropOne.metrics.droppedSnapshotsTotal =
          run.service.metrics.droppedSnapshotsTotal + 1 := congrArg (· + 1) sameDropped
      have same : (run.service.exported result now).dropOne.state.pending = run.service.state.pending := samePending
      have moved := accounted.moved found [] [snapshot] same sameCreated counted done (by simp)
      simpa only [append_nil] using moved

/-- A flush that handled nothing can be given up. -/
theorem Accounted.aborted (accounted : Accounted run)
    (idle : ∀ flush, run.flushes[index]? = some flush → flush.handled = []) :
    Accounted { run with flushes := run.flushes.eraseIdx index } where
  created := accounted.created
  dropped := accounted.dropped
  flushes := fun flush member => accounted.flushes flush (mem_of_mem_eraseIdx member)
  balance := by
    cases found : run.flushes[index]? with
    | none =>
      have beyond : run.flushes.length ≤ index := getElem?_eq_none_iff.mp found
      rw [eraseIdx_of_length_le beyond]
      exact accounted.balance
    | some flush =>
      obtain ⟨before, after, whole, erased, -⟩ := split_at found
      have balance := accounted.balance
      rw [whole] at balance
      rw [erased]
      unfold handledBy at balance ⊢
      rw [flatMap_append, flatMap_cons, idle flush found, nil_append] at balance
      rw [flatMap_append]
      exact balance

theorem Accounted.finished (accounted : Accounted run)
    (copied : ∀ flush, run.flushes[index]? = some flush → flush.remaining = [] →
      run.service.state.pending = flush.pending) : Accounted (run.finished index) := by
  unfold TelemetryRun.finished
  cases found : run.flushes[index]? with
  | none => exact accounted
  | some flush =>
    dsimp only
    by_cases done : flush.remaining = []
    · rw [if_neg (not_not_intro done)]
      obtain ⟨before, after, whole, erased, -⟩ := split_at found
      refine ⟨accounted.created, accounted.dropped,
        fun other member => accounted.flushes other (mem_of_mem_eraseIdx member), ?_⟩
      have split := accounted.flushes flush (mem_of_getElem? found)
      have balance := accounted.balance
      unfold Flush.Accounted at split
      rw [done] at split
      rw [copied flush found done, whole] at balance
      change List.Perm (run.delivered ++ run.dropped ++ flush.retained.map Prod.fst)
        (run.created ++ handledBy (run.flushes.eraseIdx index))
      rw [erased]
      rw [perm_iff_count] at split balance ⊢
      intro snapshot
      have total := balance snapshot
      have part := split snapshot
      simp only [handledBy, flatMap_append, flatMap_cons, count_append, map_nil,
        count_nil] at total part ⊢
      omega
    · rw [if_pos done]
      exact accounted

/-! ## Runs -/

theorem Accounted.advance {step : TelemetryStep} (accounted : Accounted run) (undisturbed : Undisturbed run step) :
    Accounted (telemetryMachine.serve step run).2 := by
  cases step with
  | record metric durationMs policy reading => exact accounted.recorded metric durationMs policy reading
  | preview reading shown => exact accounted.previewed reading shown
  | discard => exact accounted.discarded
  | begin reading => exact accounted.begun reading
  | deliver index policy result now =>
    change Accounted (run.delivering index policy result now)
    unfold TelemetryRun.delivering
    cases found : run.flushes[index]? with
    | none => exact accounted
    | some flush =>
      dsimp only
      cases next : flush.remaining with
      | nil => exact accounted
      | cons entry rest =>
        exact accounted.exportNext found next (undisturbed flush entry.1 entry.2 rest found next) _ now
  | abort index => exact accounted.aborted undisturbed
  | finish index => exact accounted.finished undisturbed

theorem accounted_start {state : TelemetryState} (empty : state.pending = []) :
    Accounted (TelemetryRun.start state) where
  created := rfl
  dropped := rfl
  flushes := fun flush member => nomatch member
  balance := by
    change List.Perm (state.pending.map Prod.fst) []
    rw [empty]
    exact List.Perm.refl []

/-- In a run from an empty pending list whose steps are all undisturbed, whenever no flush is in
progress the snapshots made are those delivered, dropped and pending, each as often, and the counters
agree. -/
theorem snapshots_conserved {state : TelemetryState} {steps : List TelemetryStep} (empty : state.pending = [])
    (undisturbed : telemetryMachine.Along Undisturbed steps (TelemetryRun.start state))
    (idle : (telemetryMachine.after steps (TelemetryRun.start state)).flushes = []) :
    let run := telemetryMachine.after steps (TelemetryRun.start state)
    run.service.metrics.snapshotsCreatedTotal = run.delivered.length +
        run.service.metrics.droppedSnapshotsTotal + run.service.state.pending.length ∧
      run.created.Perm (run.delivered ++ run.dropped ++ run.service.state.pending.map Prod.fst) := by
  intro run
  have accounted : Accounted run := undisturbed.invariant Accounted.advance (accounted_start empty)
  have balance := accounted.balance
  rw [show run.flushes = [] from idle] at balance
  change List.Perm _ (run.created ++ []) at balance
  rw [append_nil] at balance
  refine ⟨?_, balance.symm⟩
  have lengths := balance.length_eq
  rw [length_append, length_append, length_map] at lengths
  rw [accounted.created, accounted.dropped]
  exact lengths.symm

/-- An installation that has started. -/
def startedState : TelemetryState where
  identity := { installationId := "3f0c6f2a-6c8e-4a55-9f57-8d2b3f6f0c11", aiGovernanceVersion := "1.0.0" }
  periodStart := ⟨0⟩
  counters := Dict.empty.set .installationStarted 1

/-- A reading of the clock in a minute-long period. -/
def minuteAt (now : Nat) : RolloverReading where
  now := ⟨now * Instant.second⟩
  period := .ok (60 * Instant.second)
  policy := {}
  ended := fun _ => ⟨now * Instant.second⟩

/-- A flush that delivers what it copied. -/
def quietFlush : List TelemetryStep :=
  [.begin (minuteAt 60), .deliver 0 {} (some { delivered := true }) ⟨60 * Instant.second⟩, .finish 0]

theorem snapshots_conserved_quiet :
    let run := telemetryMachine.after quietFlush (TelemetryRun.start startedState)
    run.service.metrics.snapshotsCreatedTotal = run.delivered.length +
        run.service.metrics.droppedSnapshotsTotal + run.service.state.pending.length ∧
      run.created.Perm (run.delivered ++ run.dropped ++ run.service.state.pending.map Prod.fst) := by
  refine snapshots_conserved rfl ⟨trivial, ?_, ?_, trivial⟩ (length_eq_zero_iff.mp (by decide +kernel))
  · intro flush snapshot attempts rest found next
    cases found
    cases next
    decide +kernel
  · intro flush found done
    cases found
    rfl

/-- A flush that delivers its copy while a recording rolls the period over. -/
def disturbedFlush : List TelemetryStep :=
  [.begin (minuteAt 60), .record .replayRuns none { productAnalyticsEnabled := true } (minuteAt 120),
    .deliver 0 {} (some { delivered := true }) ⟨120 * Instant.second⟩, .finish 0]

/-- The snapshot a roll-over adds while a flush exports is lost. -/
theorem snapshot_lost_in_flush :
    let run := telemetryMachine.after disturbedFlush (TelemetryRun.start startedState)
    run.flushes = [] ∧ run.service.metrics.snapshotsCreatedTotal ≠ run.delivered.length +
      run.service.metrics.droppedSnapshotsTotal + run.service.state.pending.length :=
  ⟨length_eq_zero_iff.mp (by decide +kernel), by decide +kernel⟩

end AiGovernance.Telemetry
