import AiGovernance.Findings.Deduplication

/-!
# Recovery over distinct periods

A finding resolves after a threshold of healthy windows. What counts is read off
the history of a run: its detections, and the outcomes its reconciliations
returned with the clock and the lateness setting they were computed under. The
windows a finding retains are those of its latest healthy evaluations; their ends
increase as long as no healthy window ends where the one before it did. A changed
span does that within one cadence interval, and one period is counted twice.
-/

namespace AiGovernance.Findings

open AiGovernance.Std Domain RuntimeFinding List

/-! ## Histories -/

/-- What a run shows of its calls. -/
inductive Entry where
  | detected (deduplicationKey : String)
  | reconciled (result : ReconciliationFindingResult) (recoveryThreshold : Int) (now : Instant)
      (allowedLatenessHours : Int)

/-- The entry of one reconciliation outcome. -/
def Entry.ofResult (recoveryThreshold : Int) (inputs : String → Reconciliation)
    (result : ReconciliationFindingResult) : Entry :=
  .reconciled result recoveryThreshold (inputs result.findingId).now (inputs result.findingId).allowedLatenessHours

/-- The entries of a call. -/
def Operation.entries : Operation → FindingStore → List Entry
  | .runDetection detectors, _ => (observations detectors).map fun observed => .detected observed.key
  | .reconcileActiveFindings organizationId projectId recoveryThreshold inputs, store =>
    (Findings.reconcileActiveFindings store organizationId projectId recoveryThreshold inputs).outcomes.map
      (Entry.ofResult recoveryThreshold inputs)
  | .reviewCaseFinding .., _ => []

/-- The history of a run. -/
def historyOf : List Operation → FindingStore → List Entry
  | [], _ => []
  | operation :: rest, store => operation.entries store ++ historyOf rest (operation.perform store)

/-- A window judged healthy, with the clock and the allowed lateness it was judged under. -/
structure Evaluation where
  window : ReconciliationWindow
  now : Instant
  allowedLatenessHours : Int

/-- The allowed lateness of the window had elapsed. -/
def Evaluation.Finalized (evaluation : Evaluation) : Prop :=
  (evaluation.window.record.observedEnd.micros : Int) + evaluation.allowedLatenessHours * Instant.hour ≤
    evaluation.now.micros

/-- The healthy evaluations after one more entry; any other outcome and a detection start afresh, and a
window reconciled before is no evaluation. -/
def Entry.follow (findingId key : String) (progress : List Evaluation) : Entry → List Evaluation
  | .detected other => if other = key then [] else progress
  | .reconciled result _ now allowedLatenessHours =>
    if result.findingId = findingId then
      match result.outcome, result.window with
      | .alreadyReconciled, _ => progress
      | .healthyAwaiting, some window => progress ++ [⟨window, now, allowedLatenessHours⟩]
      | .resolved, some window => progress ++ [⟨window, now, allowedLatenessHours⟩]
      | _, _ => []
    else progress

/-- The most recent evaluations of a finding, as far back as they are all healthy. -/
def streak (findingId key : String) (history : List Entry) : List Evaluation :=
  history.foldl (Entry.follow findingId key) []

theorem streak_append (findingId key : String) (history : List Entry) (entry : Entry) :
    streak findingId key (history ++ [entry]) = entry.follow findingId key (streak findingId key history) := by
  simp only [streak, foldl_append, foldl_cons, foldl_nil]

variable {recoveryThreshold : Int}

/-! ## What the history says of a finding -/

/-- A window was judged healthy for a finding, and was final then. -/
def Evaluated (history : List Entry) (findingId : String) (window : ReconciliationWindow) : Prop :=
  ∃ result recoveryThreshold now allowedLatenessHours,
    Entry.reconciled result recoveryThreshold now allowedLatenessHours ∈ history ∧ result.findingId = findingId ∧
      (result.outcome = .healthyAwaiting ∨ result.outcome = .resolved) ∧ result.window = some window ∧
      Evaluation.Finalized ⟨window, now, allowedLatenessHours⟩

/-- The finding was resolved when its most recent evaluations, at least as many as the threshold asks for,
were healthy over the final windows it retains. -/
def ResolvedBy (history : List Entry) (finding : RuntimeFinding) : Prop :=
  ∃ before result recoveryThreshold now allowedLatenessHours after,
    history = before ++ Entry.reconciled result recoveryThreshold now allowedLatenessHours :: after ∧
      result.findingId = finding.record.findingId ∧ result.outcome = .resolved ∧
      let recent := streak finding.record.findingId finding.deduplicationKey
        (before ++ [.reconciled result recoveryThreshold now allowedLatenessHours])
      recoveryThreshold ≤ recent.length ∧
        recent.map Evaluation.window = finding.record.healthyReconciliationWindows ∧
        ∀ evaluation ∈ recent, evaluation.Finalized

/-- The healthy windows a finding retains are as many as it counts, end in increasing order and were final
when they were evaluated; a resolved finding was resolved by them. -/
def Recovered (history : List Entry) (finding : RuntimeFinding) : Prop :=
  finding.record.healthyReconciliationWindows.Pairwise
      (fun earlier later => earlier.record.observedEnd < later.record.observedEnd) ∧
    finding.record.healthyReconciliationWindows.length = finding.record.consecutiveNormalWindows ∧
    (∀ window ∈ finding.record.healthyReconciliationWindows, Evaluated history finding.record.findingId window) ∧
    (finding.record.status = .resolved → ResolvedBy history finding)

/-- A finding agrees with the history. -/
structure Sound (history : List Entry) (finding : RuntimeFinding) : Prop where
  counted : finding.record.healthyReconciliationWindows.length = finding.record.consecutiveNormalWindows
  increasing : finding.record.healthyReconciliationWindows.Pairwise
    fun earlier later => earlier.record.observedEnd < later.record.observedEnd
  latest : ∀ {last}, finding.record.healthyReconciliationWindows.getLast? = some last →
    ∃ recorded, finding.record.lastReconciliation = some recorded ∧ recorded.window = last
  evaluated : ∀ window ∈ finding.record.healthyReconciliationWindows,
    Evaluated history finding.record.findingId window
  progress : finding.record.status = .isOpen →
    (streak finding.record.findingId finding.deduplicationKey history).map Evaluation.window =
        finding.record.healthyReconciliationWindows ∧
      ∀ evaluation ∈ streak finding.record.findingId finding.deduplicationKey history, evaluation.Finalized
  resolved : finding.record.status = .resolved → ResolvedBy history finding

variable {history : List Entry}

theorem Evaluated.append {findingId : String} {window : ReconciliationWindow}
    (evaluated : Evaluated history findingId window) (entry : Entry) :
    Evaluated (history ++ [entry]) findingId window := by
  obtain ⟨result, recoveryThreshold, now, allowedLatenessHours, member, rest⟩ := evaluated
  exact ⟨result, recoveryThreshold, now, allowedLatenessHours, mem_append_left _ member, rest⟩

variable {finding : RuntimeFinding}

theorem ResolvedBy.append (resolved : ResolvedBy history finding) (entry : Entry) :
    ResolvedBy (history ++ [entry]) finding := by
  obtain ⟨before, result, recoveryThreshold, now, allowedLatenessHours, after, rfl, rest⟩ := resolved
  exact ⟨before, result, recoveryThreshold, now, allowedLatenessHours, after ++ [entry], by simp, rest⟩

theorem Sound.append (sound : Sound history finding) {entry : Entry}
    (apart : finding.record.status = .isOpen → ∀ progress,
      entry.follow finding.record.findingId finding.deduplicationKey progress = progress) :
    Sound (history ++ [entry]) finding where
  counted := sound.counted
  increasing := sound.increasing
  latest := sound.latest
  evaluated := fun window member => (sound.evaluated window member).append entry
  progress := fun isOpen => by
    rw [streak_append, apart isOpen]
    exact sound.progress isOpen
  resolved := fun resolved => (sound.resolved resolved).append entry

theorem Sound.afresh (empty : finding.record.healthyReconciliationWindows = [])
    (none : finding.record.consecutiveNormalWindows = 0) (isOpen : finding.record.status = .isOpen)
    (restarted : streak finding.record.findingId finding.deduplicationKey history = []) : Sound history finding where
  counted := by rw [empty, none]; rfl
  increasing := by rw [empty]; exact .nil
  latest := fun {last} found => by rw [empty] at found; cases found
  evaluated := fun window member => by rw [empty] at member; cases member
  progress := fun _ => by
    rw [restarted, empty]
    exact ⟨rfl, fun evaluation member => by cases member⟩
  resolved := fun resolved => by rw [isOpen] at resolved; cases resolved

/-! ## Distinct periods -/

/-- A window judged healthy does not end where the last retained one ends, unless it is that window again. -/
def distinctPeriod (finding : RuntimeFinding) (input : Reconciliation) : Bool :=
  match EvidenceWindowFinalizationPolicy.create input.allowedLatenessHours with
  | .error _ => true
  | .ok policy =>
    match completedReconciliationWindow input.now input.windows policy with
    | .error _ => true
    | .ok window =>
      match input.runDetectorForSubject window (policy.finalizesAt window.record.observedEnd) with
      | .error _ => true
      | .ok result =>
        result.insufficientData || result.finding.isSome ||
          finding.record.healthyReconciliationWindows.getLast?.all fun last =>
            last.record.observedEnd ≠ window.record.observedEnd ||
              last.record.sameEvidenceWindow window.record

/-- The findings a call reconciles. -/
def reconciles (organizationId : String) (projectId : Option String) (finding : RuntimeFinding) : Bool :=
  FindingStore.inScope organizationId projectId finding && finding.record.status = .isOpen &&
    finding.record.lifecycle = .operational

/-- The detections of a call find their condition unobscured, and its reconciliations count distinct
periods. -/
def Operation.distinct : Operation → FindingStore → Bool
  | .runDetection detectors, store => observesUnobscured (observations detectors) store
  | .reconcileActiveFindings organizationId projectId _ inputs, store =>
    store.byId.values.all fun finding =>
      !reconciles organizationId projectId finding || distinctPeriod finding (inputs finding.record.findingId)
  | .reviewCaseFinding .., _ => true

/-- Every call of a run is `distinct` where it is made. -/
def runDistinct : List Operation → FindingStore → Bool
  | [], _ => true
  | operation :: rest, store => operation.distinct store && runDistinct rest (operation.perform store)

/-! ## One reconciliation -/

section Healthy

variable {history : List Entry} {finding updated : RuntimeFinding} {input : Reconciliation}
  {window : ReconciliationWindow} {result : ReconciliationFindingResult} {recoveryThreshold : Int}

theorem JudgedHealthy.finalized (judged : JudgedHealthy finding input window) :
    Evaluation.Finalized ⟨window, input.now, input.allowedLatenessHours⟩ := by
  obtain ⟨policy, created, completed, -⟩ := judged.computed
  have final := (completedReconciliationWindow_ok completed).1
  unfold EvidenceWindowFinalizationPolicy.isFinalized EvidenceWindowFinalizationPolicy.finalizesAt at final
  rw [decide_eq_true_eq, Instant.le_def, Instant.micros_add] at final
  unfold EvidenceWindowFinalizationPolicy.create at created
  split at created
  · rename_i within
    cases created
    have hours : ((input.allowedLatenessHours.toNat : Nat) : Int) = input.allowedLatenessHours :=
      Int.toNat_of_nonneg within.1
    have bound : ((window.record.observedEnd.micros + input.allowedLatenessHours.toNat * Instant.hour : Nat) : Int) ≤
        (input.now.micros : Int) := Int.ofNat_le.mpr final
    unfold Evaluation.Finalized
    rw [Nat.cast_add, Nat.cast_mul, hours] at bound
    exact bound
  · cases created

/-- A window judged healthy in a distinct period ends after every retained one. -/
theorem JudgedHealthy.later (judged : JudgedHealthy finding input window) (sound : Sound history finding)
    (distinct : distinctPeriod finding input = true) {earlier : ReconciliationWindow}
    (retained : earlier ∈ finding.record.healthyReconciliationWindows) :
    earlier.record.observedEnd < window.record.observedEnd := by
  obtain ⟨policy, created, completed, judgement, judgementOk, sufficient, absent⟩ := judged.computed
  unfold distinctPeriod at distinct
  rw [created] at distinct
  dsimp only at distinct
  rw [completed] at distinct
  dsimp only at distinct
  rw [judgementOk] at distinct
  simp only [sufficient, absent, Option.isSome_none, Bool.false_or] at distinct
  obtain ⟨last, last?⟩ : ∃ last, finding.record.healthyReconciliationWindows.getLast? = some last := by
    cases found : finding.record.healthyReconciliationWindows.getLast? with
    | none =>
      rw [getLast?_eq_none_iff.mp found] at retained
      cases retained
    | some last => exact ⟨last, rfl⟩
  -- The last retained window is that of the last reconciliation, which is not this one again.
  obtain ⟨recorded, recorded?, same⟩ := sound.latest last?
  have newest := judged.newest recorded?
  have fresh := judged.fresh
  unfold hasReconciled at fresh
  rw [recorded?] at fresh
  simp only [Option.any_some] at fresh
  rw [same] at newest fresh
  rw [last?] at distinct
  simp only [Option.all_some, fresh, Bool.or_false, decide_eq_true_eq] at distinct
  have lastBefore : last.record.observedEnd < window.record.observedEnd := by
    refine Nat.lt_of_le_of_ne newest fun micros => distinct ?_
    exact congrArg Instant.mk micros
  obtain ⟨before, shape⟩ := getLast?_eq_some_iff.mp last?
  have increasing := sound.increasing
  rw [shape, pairwise_append] at increasing
  rw [shape, mem_append, mem_singleton] at retained
  cases retained with
  | inl member => exact Nat.lt_trans (increasing.2.2 earlier member last (mem_singleton_self last)) lastBefore
  | inr equal => exact equal ▸ lastBefore

theorem Sound.healthySequence (sound : Sound history finding) :
    finding.healthySequence = finding.record.healthyReconciliationWindows := if_pos sound.counted

theorem Sound.healthy (sound : Sound history finding) (isOpen : finding.record.status = .isOpen)
    (judged : JudgedHealthy finding input window) (distinct : distinctPeriod finding input = true)
    (identity : updated.identity = finding.identity)
    (counted : updated.record.consecutiveNormalWindows = (finding.healthySequence ++ [window]).length)
    (retained : updated.record.healthyReconciliationWindows = finding.healthySequence ++ [window])
    (recorded : ∃ last, updated.record.lastReconciliation = some last ∧ last.window = window)
    (named : result.findingId = finding.record.findingId) (windowed : result.window = some window)
    (outcome : result.outcome = .healthyAwaiting ∨ result.outcome = .resolved)
    (enough : updated.record.status = .resolved →
      result.outcome = .resolved ∧ recoveryThreshold ≤ ((finding.healthySequence ++ [window]).length : Int)) :
    Sound (history ++ [.reconciled result recoveryThreshold input.now input.allowedLatenessHours]) updated := by
  have sameId := findingId_of_identity identity
  have sameKey := deduplicationKey_of_identity identity
  rw [sound.healthySequence] at counted retained enough
  obtain ⟨streakWindows, streakFinal⟩ := sound.progress isOpen
  -- The streak grows by this evaluation.
  have grown : streak updated.record.findingId updated.deduplicationKey
      (history ++ [.reconciled result recoveryThreshold input.now input.allowedLatenessHours]) =
      streak finding.record.findingId finding.deduplicationKey history ++
        [⟨window, input.now, input.allowedLatenessHours⟩] := by
    rw [streak_append, sameId, sameKey, Entry.follow, if_pos named]
    cases outcome with
    | inl healthy => rw [healthy, windowed]
    | inr resolved => rw [resolved, windowed]
  have grownWindows : (streak finding.record.findingId finding.deduplicationKey history ++
      [(⟨window, input.now, input.allowedLatenessHours⟩ : Evaluation)]).map Evaluation.window =
      updated.record.healthyReconciliationWindows := by
    rw [map_append, streakWindows, retained]
    rfl
  have grownFinal : ∀ evaluation ∈ streak finding.record.findingId finding.deduplicationKey history ++
      [(⟨window, input.now, input.allowedLatenessHours⟩ : Evaluation)], evaluation.Finalized := by
    intro evaluation member
    rw [mem_append, mem_singleton] at member
    cases member with
    | inl earlier => exact streakFinal evaluation earlier
    | inr this => exact this ▸ judged.finalized
  refine ⟨by rw [retained, counted], ?_, ?_, ?_, fun _ => ?_, fun resolved => ?_⟩
  · rw [retained, pairwise_append]
    refine ⟨sound.increasing, pairwise_singleton _ _, fun earlier member last single => ?_⟩
    rw [mem_singleton.mp single]
    exact judged.later sound distinct member
  · intro last found
    rw [retained, getLast?_concat] at found
    cases found
    exact recorded
  · intro earlier member
    rw [retained, mem_append, mem_singleton] at member
    rw [sameId]
    cases member with
    | inl kept => exact (sound.evaluated earlier kept).append _
    | inr this =>
      subst this
      exact ⟨result, recoveryThreshold, input.now, input.allowedLatenessHours, by simp, named, outcome, windowed,
        judged.finalized⟩
  · rw [grown]
    exact ⟨grownWindows, grownFinal⟩
  · obtain ⟨outcomeIs, threshold⟩ := enough resolved
    refine ⟨history, result, recoveryThreshold, input.now, input.allowedLatenessHours, [], rfl,
      named.trans sameId.symm, outcomeIs, ?_⟩
    rw [grown]
    refine ⟨?_, grownWindows, grownFinal⟩
    have lengths := congrArg List.length grownWindows
    rw [length_map, retained] at lengths
    rw [lengths]
    exact threshold

end Healthy

/-! ## One call -/

/-- Every stored finding agrees with the history, and no condition has two active findings. -/
structure Consistent (history : List Entry) (store : FindingStore) : Prop where
  one : OneActive store
  sound : ∀ {finding : RuntimeFinding}, store.byId.get? finding.record.findingId = some finding →
    Sound history finding

theorem consistent_empty : Consistent [] .empty where
  one := oneActive_empty
  sound := fun stored => by cases stored

variable {store : FindingStore}

theorem reconcileFinding_consistent {next : FindingStore} {inputs : String → Reconciliation}
    {result : ReconciliationFindingResult} (consistent : Consistent history store)
    (stored : store.byId.get? finding.record.findingId = some finding) (isOpen : finding.record.status = .isOpen)
    (distinct : distinctPeriod finding (inputs finding.record.findingId) = true)
    (reconciled : reconcileFinding store finding recoveryThreshold (inputs finding.record.findingId) =
      .ok (next, result)) : Consistent (history ++ [Entry.ofResult recoveryThreshold inputs result]) next := by
  have cases := reconcileFinding_ok reconciled
  -- The finding that is saved agrees; every other one is not named by the entry.
  have saved : ∀ {updated : RuntimeFinding}, updated.identity = finding.identity →
      (updated.isActive = true → finding.isActive = true) → result.findingId = finding.record.findingId →
      Sound (history ++ [Entry.ofResult recoveryThreshold inputs result]) updated →
      Consistent (history ++ [Entry.ofResult recoveryThreshold inputs result]) (store.save updated) := by
    intro updated identity active named sound
    refine ⟨consistent.one.save_over stored identity active, fun {other} present => ?_⟩
    rw [FindingStore.get?_save] at present
    split at present
    · cases present
      exact sound
    · rename_i apart
      rw [findingId_of_identity identity] at apart
      refine (consistent.sound present).append fun _ progress => if_neg ?_
      rw [named]
      exact Ne.symm apart
  unfold Entry.ofResult at saved ⊢
  cases cases with
  | already named outcome =>
    refine ⟨consistent.one, fun {other} present => (consistent.sound present).append fun _ progress => ?_⟩
    rw [Entry.follow, outcome]
    split <;> rfl
  | reset recorded named outcome =>
    refine saved ?_ ?_ named (Sound.afresh ?_ ?_ ?_ ?_)
    · simp only [RuntimeFinding.identity, recorded]
    · simp only [isActive, recorded, imp_self]
    · rw [recorded]
    · rw [recorded]
    · rw [recorded]
      exact isOpen
    · rw [streak_append, Entry.follow, recorded]
      dsimp only
      rw [if_pos named]
      split <;> simp_all [ReconciliationOutcome.resets]
  | healthy judged recorded named outcome windowed =>
    rename_i window updated
    have identity : updated.identity = finding.identity := by
      simp only [RuntimeFinding.identity, recorded]
    refine saved identity ?_ named ?_
    · simp only [isActive, recorded, imp_self]
    · rw [named]
      refine (consistent.sound stored).healthy isOpen judged distinct identity ?_ ?_ ?_ named windowed (.inl outcome) ?_
      · rw [recorded]
      · rw [recorded]
      · exact ⟨_, by rw [recorded], rfl⟩
      · intro resolved
        rw [recorded] at resolved
        exact absurd (isOpen.symm.trans resolved) (by decide)
  | resolved judged enough recorded named outcome windowed =>
    rename_i window updated
    have identity : updated.identity = finding.identity := by
      simp only [RuntimeFinding.identity, recorded]
    refine saved identity ?_ named ?_
    · simp [isActive, recorded]
    · rw [named]
      refine (consistent.sound stored).healthy isOpen judged distinct identity ?_ ?_ ?_ named windowed (.inr outcome)
        fun _ => ⟨outcome, enough⟩
      · rw [recorded]
      · rw [recorded]
      · exact ⟨_, by rw [recorded], rfl⟩

theorem reconcileActiveFindings_consistent {organizationId : String} {projectId : Option String}
    {inputs : String → Reconciliation} (consistent : Consistent history store)
    (distinct : (Operation.reconcileActiveFindings organizationId projectId recoveryThreshold inputs).distinct store =
      true) :
    Consistent (history ++
        (reconcileActiveFindings store organizationId projectId recoveryThreshold inputs).outcomes.map
          (Entry.ofResult recoveryThreshold inputs))
      (reconcileActiveFindings store organizationId projectId recoveryThreshold inputs).store := by
  refine reconcileActiveFindings_invariant (fun reached outcomes =>
    Consistent (history ++ outcomes.map (Entry.ofResult recoveryThreshold inputs)) reached) ?_ (by simpa using consistent)
  intro reached outcomes finding next result before began stored tenant isOpen lifecycle reconciled
  have operational : finding.record.lifecycle = .operational := by
    cases kind : finding.record.lifecycle with
    | operational => rfl
    | caseReview => exact absurd kind lifecycle
  have period : distinctPeriod finding (inputs finding.record.findingId) = true := by
    have all := all_eq_true.mp distinct finding (FindingStore.mem_values.mpr began)
    simpa [reconciles, tenant, isOpen, operational] using all
  rw [map_append, ← append_assoc]
  exact reconcileFinding_consistent before stored isOpen period reconciled

/-- A detection restarts the active finding of its condition, or adds one that starts. -/
theorem observe_consistent {observed : Observed} (consistent : Consistent history store)
    (clear : unobscured store observed.key = true) :
    Consistent (history ++ [.detected observed.key]) (observe store observed) := by
  refine ⟨observe_oneActive consistent.one clear, ?_⟩
  -- A record that is not saved is no open record of the condition.
  have others : ∀ {saved other : RuntimeFinding}, saved.isActive = true → saved.deduplicationKey = observed.key →
      OneActive (store.save saved) → store.byId.get? other.record.findingId = some other →
      other.record.findingId ≠ saved.record.findingId → Sound (history ++ [.detected observed.key]) other := by
    intro saved other savedActive savedKey one stored apart
    refine (consistent.sound stored).append fun isOpen progress => if_neg fun key => apart ?_
    have otherPresent : (store.save saved).byId.get? other.record.findingId = some other := by
      rw [FindingStore.get?_save, if_neg apart, stored]
    have savedPresent : (store.save saved).byId.get? saved.record.findingId = some saved := by
      rw [FindingStore.get?_save, if_pos rfl]
    have active : other.isActive = true := by simp [isActive, isOpen]
    rw [one otherPresent savedPresent active savedActive (key.symm.trans savedKey.symm)]
  have restarted : ∀ {saved : RuntimeFinding}, saved.deduplicationKey = observed.key →
      streak saved.record.findingId saved.deduplicationKey (history ++ [.detected observed.key]) = [] := by
    intro saved key
    rw [streak_append, Entry.follow, if_pos key.symm]
  have one := observe_oneActive consistent.one clear
  intro finding present
  obtain ⟨existing, updated, found, active, updatedOk, persisted⟩ | ⟨inactive, saved, record, persisted⟩ :=
    persistOrUpdateFinding_ok store observed.detection.finding observed.windows observed.now
  · rw [observe, persisted] at present one
    have key : updated.deduplicationKey = observed.key :=
      (deduplicationKey_of_identity (updateObservation_identity updatedOk)).trans
        (findByDedupKey_some found).2
    have record := updateObservation_ok updatedOk
    rw [FindingStore.get?_save] at present
    split at present
    · cases present
      exact .afresh (by rw [record]) (by rw [record]) (by rw [record]) (restarted key)
    · rename_i apart
      exact others (by simp [isActive, record]) key one present apart
  · rw [observe, persisted] at present one
    have key : saved.deduplicationKey = observed.key := by
      simp only [RuntimeFinding.deduplicationKey, record, Observed.key]
    have isOpen : saved.record.status = .isOpen := by
      rw [record]
      exact observed.detection.isOpen
    rw [FindingStore.get?_save] at present
    split at present
    · cases present
      refine .afresh ?_ ?_ isOpen (restarted key)
      · rw [record]
        exact observed.detection.healthyReconciliationWindows
      · rw [record]
        exact observed.detection.consecutiveNormalWindows
    · rename_i apart
      exact others (by simp [isActive, isOpen]) key one present apart

theorem observeAll_consistent {observed : List Observed} (consistent : Consistent history store)
    (clear : observesUnobscured observed store = true) :
    Consistent (history ++ observed.map fun head => .detected head.key) (observed.foldl observe store) := by
  induction observed generalizing history store with
  | nil => simpa using consistent
  | cons head rest ih =>
    simp only [observesUnobscured, Bool.and_eq_true] at clear
    have later := ih (observe_consistent consistent clear.1) clear.2
    rw [append_assoc] at later
    exact later

theorem Sound.reviewed {reviewed : RuntimeFinding} {status : FindingStatus} {reviews : List FindingReview}
    {now : Instant} (sound : Sound history finding)
    (record : reviewed.record = { finding.record with status, reviews, updatedAt := now }) (closed : status ≠ .isOpen)
    (unresolved : status ≠ .resolved) : Sound history reviewed := by
  refine ⟨?_, ?_, ?_, ?_, fun isOpen => ?_, fun resolved => ?_⟩
  · rw [record]
    exact sound.counted
  · rw [record]
    exact sound.increasing
  · rw [record]
    exact sound.latest
  · rw [record]
    exact sound.evaluated
  · rw [record] at isOpen
    exact absurd isOpen closed
  · rw [record] at resolved
    exact absurd resolved unresolved

theorem perform_consistent {operation : Operation} (consistent : Consistent history store)
    (distinct : operation.distinct store = true) :
    Consistent (history ++ operation.entries store) (operation.perform store) := by
  cases operation with
  | runDetection detectors =>
    rw [Operation.perform, runDetection_store]
    exact observeAll_consistent consistent distinct
  | reconcileActiveFindings => exact reconcileActiveFindings_consistent consistent distinct
  | reviewCaseFinding findingId action actorId organizationId projectId note now =>
    refine ⟨perform_oneActive consistent.one rfl, fun {finding} present => ?_⟩
    rw [Operation.entries, append_nil]
    unfold Operation.perform at present
    dsimp only at present
    split at present
    · rename_i next reviewed given
      obtain ⟨old, reviews, status, stored, rfl, record, closed, unresolved, -, -⟩ := reviewCaseFinding_ok given
      rw [FindingStore.get?_save] at present
      split at present
      · cases present
        exact (consistent.sound stored).reviewed record closed unresolved
      · exact consistent.sound present
    · exact consistent.sound present

theorem performAll_consistent {operations : List Operation} (consistent : Consistent history store)
    (distinct : runDistinct operations store = true) :
    Consistent (history ++ historyOf operations store) (performAll operations store) := by
  induction operations generalizing history store with
  | nil => simpa [historyOf, performAll] using consistent
  | cons operation rest ih =>
    simp only [runDistinct, Bool.and_eq_true] at distinct
    have later := ih (perform_consistent consistent distinct.1) distinct.2
    rw [append_assoc] at later
    exact later

/-- In every run whose detections find their condition unobscured and whose reconciliations count distinct
periods, every stored finding has recovered only over distinct, final periods. -/
theorem recovery_needs_distinct_periods (operations : List Operation)
    (distinct : runDistinct operations .empty = true) {finding : RuntimeFinding}
    (stored : (performAll operations .empty).byId.get? finding.record.findingId = some finding) :
    Recovered (historyOf operations .empty) finding := by
  have sound := (performAll_consistent consistent_empty distinct).sound stored
  rw [nil_append] at sound
  exact ⟨sound.increasing, sound.counted, sound.evaluated, sound.resolved⟩

/-! ## A span that changes within a cadence interval -/

/-- A reconciliation that finds the tool healthy at a clock reading, over windows of so many hours. -/
def reconcileAt (recoveryThreshold : Int) (now : Instant) (observationHours : PNat) : Operation :=
  .reconcileActiveFindings "organization" none recoveryThreshold fun _ => {
    detectorIds := ["tool_failure_rate"]
    now
    allowedLatenessHours := 2
    windows := windowsFor (weeklySpans observationHours)
    runDetectorForSubject := fun _ _ => .ok {} }

/-- Two healthy windows, a week apart. -/
def twoPeriods : List Operation :=
  [detectFailureRate (failureRate "finding-1" failureRateRecord_valid), reconcileAt 2 ⟨63840268800000000⟩ dayHours,
    reconcileAt 2 ⟨63840873600000000⟩ dayHours]

theorem recovery_needs_distinct_periods_twoPeriods :
    runDistinct twoPeriods .empty = true ∧
      ∃ finding, (performAll twoPeriods .empty).byId.get? finding.record.findingId = some finding ∧
        finding.record.status = .resolved ∧ Recovered (historyOf twoPeriods .empty) finding := by
  have distinct : runDistinct twoPeriods .empty = true := by decide +kernel
  have status : ((performAll twoPeriods .empty).byId.get? "finding-1").map (·.record.status) = some .resolved := by
    decide +kernel
  obtain ⟨finding, stored, resolved⟩ := Option.map_eq_some_iff.mp status
  rw [← FindingStore.keyed _ stored] at stored
  exact ⟨distinct, finding, stored, resolved, recovery_needs_distinct_periods twoPeriods distinct stored⟩

/-- The observation span is halved between two calls of the same minute. -/
def changedSpan : List Operation :=
  [detectFailureRate (failureRate "finding-1" failureRateRecord_valid), reconcileAt 2 ⟨63840268800000000⟩ dayHours,
    reconcileAt 2 ⟨63840268860000000⟩ 12]

/-- Both windows end at the same boundary, and together they resolve the finding. -/
theorem period_counted_twice :
    ∃ finding, (performAll changedSpan .empty).byId.get? finding.record.findingId = some finding ∧
      finding.record.status = .resolved ∧ ¬ Recovered (historyOf changedSpan .empty) finding := by
  have seen : ((performAll changedSpan .empty).byId.get? "finding-1").map (fun finding => (finding.record.status,
      finding.record.healthyReconciliationWindows.map (·.record.observedEnd.micros))) =
      some (.resolved, [63840096000000000, 63840096000000000]) := by decide +kernel
  obtain ⟨finding, stored, resolved⟩ := Option.map_eq_some_iff.mp seen
  rw [← FindingStore.keyed _ stored] at stored
  rw [Prod.mk.injEq] at resolved
  refine ⟨finding, stored, resolved.1, fun recovered => ?_⟩
  have increasing : (finding.record.healthyReconciliationWindows.map (·.record.observedEnd.micros)).Pairwise (· < ·) :=
    pairwise_map.mpr recovered.1
  rw [resolved.2] at increasing
  exact absurd increasing (by decide)

end AiGovernance.Findings
