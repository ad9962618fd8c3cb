import AiGovernance.Services.RuntimeFindings
import AiGovernance.Std.Grid

/-!
# Which window a reconciliation reads

The boundaries of a cadence are a grid through the epoch, and a window ends at
the last of them whose allowed lateness has elapsed. The search floors the clock
and steps back; where it stops has a closed form. It raises where a boundary, its
finalization or the baseline would leave the years `datetime` has.
-/

namespace AiGovernance.Findings

open AiGovernance.Std Domain

/-! ## The grid of a cadence -/

/-- The epoch, in microseconds. -/
def epochMicros : Int := Instant.epochSeconds * Instant.second

/-- The cadence, in microseconds. -/
def RuntimeFindingWindows.step (windows : RuntimeFindingWindows) : Int := windows.cadence * Instant.second

/-- A multiple of the cadence since the epoch. -/
def RuntimeFindingWindows.IsBoundary (windows : RuntimeFindingWindows) (instant : Instant) : Prop :=
  Grid.On epochMicros windows.step instant.micros

/-- The last multiple whose lateness has elapsed; `datetime` need not have it. -/
def lastFinal (now : Instant) (windows : RuntimeFindingWindows) (policy : EvidenceWindowFinalizationPolicy) : Int :=
  Grid.last epochMicros windows.step (now.micros - policy.allowedLatenessHours * Instant.hour)

/-- The window with an end. -/
def windowEnding (windows : RuntimeFindingWindows) (policy : EvidenceWindowFinalizationPolicy) (observedEnd : Instant) :
    ReconciliationWindowRecord where
  observedStart := ⟨observedEnd.micros - windows.observation⟩
  observedEnd
  baselineStart := ⟨observedEnd.micros - windows.observation - windows.baseline⟩
  baselineEnd := ⟨observedEnd.micros - windows.observation⟩
  finalizationCutoffAt := some (policy.finalizesAt observedEnd)
  latenessPolicyHours := some policy.allowedLatenessHours

/-- Positive spans, and no instant on the way out of range: neither the last boundary before the clock
nor its finalization, nor the start of the baseline. -/
structure Fits (now : Instant) (windows : RuntimeFindingWindows) (policy : EvidenceWindowFinalizationPolicy) : Prop where
  observed : 0 < windows.observation
  compared : 0 < windows.baseline
  floored : ∃ boundary, cadenceBoundary now windows.cadence = .ok boundary ∧
    (policy.finalizesAt boundary).micros ≤ latestMicros
  begins : (windows.observation + windows.baseline : Int) ≤ lastFinal now windows policy

variable {windows : RuntimeFindingWindows} {policy stricter : EvidenceWindowFinalizationPolicy}
  {now later boundary observedEnd : Instant} {window next : ReconciliationWindow}

theorem RuntimeFindingWindows.step_pos (windows : RuntimeFindingWindows) : 0 < windows.step :=
  Int.mul_pos (Int.natCast_pos.mpr windows.cadence_pos) (by decide)

theorem isFinalized_iff : policy.isFinalized boundary now = true ↔
    (boundary.micros : Int) ≤ now.micros - policy.allowedLatenessHours * Instant.hour := by
  unfold EvidenceWindowFinalizationPolicy.isFinalized EvidenceWindowFinalizationPolicy.finalizesAt
  rw [decide_eq_true_eq, Instant.le_def, Instant.micros_add, ← Int.natCast_mul]
  omega

/-- An end at the closed form is the greatest final boundary. -/
theorem isGreatest_of_lastFinal (reached : (observedEnd.micros : Int) = lastFinal now windows policy) :
    IsGreatest {boundary | windows.IsBoundary boundary ∧ policy.isFinalized boundary now = true} observedEnd := by
  obtain ⟨⟨on, final⟩, greatest⟩ : IsGreatest {point | Grid.On epochMicros windows.step point ∧
      point ≤ now.micros - policy.allowedLatenessHours * Instant.hour} (lastFinal now windows policy) :=
    Grid.isGreatest_last windows.step_pos
  rw [← reached] at on final greatest
  refine ⟨⟨on, isFinalized_iff.mpr final⟩, ?_⟩
  intro boundary candidate
  exact Int.ofNat_le.mp (greatest ⟨candidate.1, isFinalized_iff.mp candidate.2⟩)

/-! ## The floor of the clock -/

/-- Rounding and truncation lose no second that has begun. -/
theorem le_epochTimestamp {seconds : Int} (reached : seconds * Instant.second ≤ now.micros - epochMicros) :
    seconds ≤ epochTimestamp now := by
  unfold epochTimestamp
  unfold epochMicros at reached
  dsimp only
  generalize (now.micros : Int) - Instant.epochSeconds * Instant.second = micros at reached ⊢
  unfold Instant.second at reached ⊢
  rcases Int.lt_trichotomy micros 0 with before | zero | after
  · -- Before the epoch the truncation rounds up.
    have truncated := Double.truncated_le (by decide) (show micros.natAbs ≤ (-seconds).toNat * 1000000 by omega)
    rw [Int.sign_eq_neg_one_of_neg before]
    omega
  · rw [zero, Int.sign_zero]
    omega
  · have truncated := Double.le_truncated (by decide) (show seconds.toNat * 1000000 ≤ micros.natAbs by omega)
    rw [Int.sign_eq_one_of_pos after]
    omega

theorem cadenceBoundary_ok (policy : EvidenceWindowFinalizationPolicy)
    (floored : cadenceBoundary now windows.cadence = .ok boundary) :
    windows.IsBoundary boundary ∧ lastFinal now windows policy ≤ boundary.micros := by
  unfold cadenceBoundary at floored
  dsimp only at floored
  split_ifs at floored with negative late
  cases floored
  have micros : (((epochTimestamp now / windows.cadence * windows.cadence + Instant.epochSeconds).toNat *
      Instant.second : Nat) : Int) = epochTimestamp now / windows.cadence * windows.step + epochMicros := by
    rw [Int.natCast_mul, Int.toNat_of_nonneg (Int.not_lt.mp negative)]
    unfold RuntimeFindingWindows.step epochMicros
    ring
  unfold RuntimeFindingWindows.IsBoundary
  rw [micros]
  refine ⟨⟨epochTimestamp now / windows.cadence, by ring⟩, ?_⟩
  obtain ⟨count, spaced⟩ : Grid.On epochMicros windows.step (lastFinal now windows policy) := Grid.on_last
  have final : lastFinal now windows policy ≤ now.micros - policy.allowedLatenessHours * Instant.hour :=
    Grid.last_le windows.step_pos
  have elapsed : (0 : Int) ≤ policy.allowedLatenessHours * Instant.hour := Int.natCast_nonneg _
  have counted : count * windows.cadence * Instant.second = windows.step * count := by
    unfold RuntimeFindingWindows.step
    ring
  have begun : count * windows.cadence ≤ epochTimestamp now := le_epochTimestamp (by rw [counted]; omega)
  have less := Int.le_ediv_of_mul_le (Int.natCast_pos.mpr windows.cadence_pos) begun
  have scaled := Int.mul_le_mul_of_nonneg_left less (Int.le_of_lt windows.step_pos)
  rw [Int.mul_comm windows.step (_ / _)] at scaled
  omega

/-! ## The search -/

/-- What the search keeps of the boundary it stands at. -/
structure Searching (now : Instant) (windows : RuntimeFindingWindows) (policy : EvidenceWindowFinalizationPolicy)
    (boundary : Instant) : Prop where
  on : windows.IsBoundary boundary
  passed : lastFinal now windows policy ≤ boundary.micros
  range : (policy.finalizesAt boundary).micros ≤ latestMicros

/-- One round stops at the last final boundary, leaves the range before it, or steps back to search on. -/
theorem Searching.round (searching : Searching now windows policy boundary) :
    (finalizedRound policy now windows.cadence boundary = .inr (.ok boundary) ∧
        (boundary.micros : Int) = lastFinal now windows policy) ∨
      (∃ raised, finalizedRound policy now windows.cadence boundary = .inr (.error raised) ∧
        lastFinal now windows policy < 0) ∨
      ∃ next, finalizedRound policy now windows.cadence boundary = .inl next ∧ Searching now windows policy next := by
  obtain ⟨on, passed, range⟩ := searching
  unfold finalizedRound
  rw [if_neg (Nat.not_lt.mpr range)]
  by_cases final : policy.isFinalized boundary now = true
  · rw [if_pos final]
    exact Or.inl ⟨rfl, Int.le_antisymm (on.le_last windows.step_pos (isFinalized_iff.mp final)) passed⟩
  · rw [if_neg final]
    have apart : lastFinal now windows policy + windows.step ≤ boundary.micros := by
      refine Grid.on_last.add_le windows.step_pos on (lt_of_le_of_ne passed fun same => final ?_)
      rw [isFinalized_iff, ← same]
      exact Grid.last_le windows.step_pos
    have step : windows.step = (windows.cadence * Instant.second : Nat) := (Int.natCast_mul _ _).symm
    by_cases enough : windows.cadence * Instant.second ≤ boundary.micros
    · have stepped : earlier boundary (windows.cadence * Instant.second) =
          .ok ⟨boundary.micros - windows.cadence * Instant.second⟩ := if_pos enough
      rw [stepped]
      have micros : ((boundary.micros - windows.cadence * Instant.second : Nat) : Int) =
          boundary.micros - windows.step := by omega
      refine Or.inr (Or.inr ⟨_, rfl, ?_, ?_, ?_⟩)
      · unfold RuntimeFindingWindows.IsBoundary
        rw [micros]
        exact on.previous
      · rw [micros]
        omega
      · refine Nat.le_trans ?_ range
        exact Nat.add_le_add_right (Nat.sub_le _ _) _
    · have left : earlier boundary (windows.cadence * Instant.second) = .error _ := if_neg enough
      rw [left]
      exact Or.inr (Or.inl ⟨_, rfl, by omega⟩)

/-- The search ends at the closed form, where `datetime` has it. -/
theorem Searching.finalizedBoundary (searching : Searching now windows policy boundary) :
    (∃ observedEnd, Findings.finalizedBoundary policy now windows boundary = .ok observedEnd ∧
        (observedEnd.micros : Int) = lastFinal now windows policy) ∨
      ∃ raised, Findings.finalizedBoundary policy now windows boundary = .error raised ∧
        lastFinal now windows policy < 0 := by
  unfold Findings.finalizedBoundary
  induction left : boundary.micros using Nat.strongRecOn generalizing boundary with
  | ind left ih =>
    rcases searching.round with ⟨ends, same⟩ | ⟨raised, ends, before⟩ | ⟨next, goes, kept⟩
    · rw [Loop.complete_end (finalizedRound_falls windows.cadence_pos) ends]
      exact Or.inl ⟨boundary, rfl, same⟩
    · rw [Loop.complete_end (finalizedRound_falls windows.cadence_pos) ends]
      exact Or.inr ⟨raised, rfl, before⟩
    · rw [Loop.complete_again (finalizedRound_falls windows.cadence_pos) goes]
      exact ih _ (left ▸ finalizedRound_falls windows.cadence_pos goes) kept rfl

/-! ## The window -/

theorem earlier_eq_ok_iff {instant result : Instant} {duration : Nat} :
    earlier instant duration = .ok result ↔ duration ≤ instant.micros ∧ result = ⟨instant.micros - duration⟩ := by
  unfold earlier
  split_ifs with enough
  · rw [Except.ok.injEq, eq_comm]
    exact (and_iff_right enough).symm
  · exact iff_of_false nofun fun subtracted => enough subtracted.1

theorem windowEnding_valid (observed : 0 < windows.observation) (compared : 0 < windows.baseline)
    (begins : windows.observation + windows.baseline ≤ observedEnd.micros) :
    (windowEnding windows policy observedEnd).violation = none := by
  have cutoff : ¬ policy.finalizesAt observedEnd < observedEnd := by
    rw [Instant.lt_def, EvidenceWindowFinalizationPolicy.finalizesAt, Instant.micros_add]
    omega
  have late : ¬ (policy.allowedLatenessHours : Int) < 0 := by omega
  rw [ReconciliationWindowRecord.violation, firstViolation_eq_none]
  simp only [List.forall_mem_cons, rejectIf_eq_none, decide_eq_false_iff_not]
  refine ⟨?_, ?_, not_not.mpr rfl, not_not.mpr rfl, (Option.any_eq_false _ _).mpr ?_,
    (Option.any_eq_false _ _).mpr ?_, by simp⟩
  · exact Nat.not_le.mpr (Nat.sub_lt_of_pos_le observed (by omega))
  · exact Nat.not_le.mpr (Nat.sub_lt_of_pos_le compared (by omega))
  · rintro _ ⟨⟩
    exact decide_eq_false cutoff
  · rintro _ ⟨⟩
    exact decide_eq_false late

/-- A window is returned exactly where everything fits, and it is the one that ends at the closed form. -/
theorem completedReconciliationWindow_eq_ok_iff : completedReconciliationWindow now windows policy = .ok window ↔
    Fits now windows policy ∧ ∃ observedEnd : Instant, (observedEnd.micros : Int) = lastFinal now windows policy ∧
      window.record = windowEnding windows policy observedEnd := by
  unfold completedReconciliationWindow
  constructor
  · intro completed
    obtain ⟨boundary, floored, completed⟩ := bind_ok completed
    obtain ⟨observedEnd, searched, completed⟩ := bind_ok completed
    obtain ⟨observedStart, observed, completed⟩ := bind_ok completed
    obtain ⟨baselineStart, based, completed⟩ := bind_ok completed
    obtain ⟨covered, rfl⟩ := earlier_eq_ok_iff.mp observed
    obtain ⟨enough, rfl⟩ := earlier_eq_ok_iff.mp based
    dsimp only at enough
    have record := Checked.create_eq_ok_iff.mp completed
    have valid := window.valid
    rw [record] at valid
    rw [ReconciliationWindowRecord.violation, firstViolation_eq_none] at valid
    simp only [List.forall_mem_cons, rejectIf_eq_none, decide_eq_false_iff_not, Instant.le_def] at valid
    obtain ⟨lasting, comparing, -⟩ := valid
    have range : (policy.finalizesAt boundary).micros ≤ latestMicros := by
      by_contra late
      have stopped : finalizedRound policy now windows.cadence boundary = .inr (.error _) :=
        if_pos (Nat.not_le.mp late)
      unfold finalizedBoundary at searched
      rw [Loop.complete_end (finalizedRound_falls windows.cadence_pos) stopped] at searched
      cases searched
    obtain ⟨on, passed⟩ := cadenceBoundary_ok policy floored
    rcases Searching.finalizedBoundary ⟨on, passed, range⟩ with ⟨reached, found, same⟩ | ⟨raised, found, -⟩
    · rw [found] at searched
      cases searched
      exact ⟨⟨by omega, by omega, ⟨boundary, floored, range⟩, by omega⟩, observedEnd, same, record⟩
    · rw [found] at searched
      cases searched
  · rintro ⟨⟨observed, compared, ⟨boundary, floored, range⟩, begins⟩, observedEnd, same, record⟩
    obtain ⟨on, passed⟩ := cadenceBoundary_ok policy floored
    rcases Searching.finalizedBoundary ⟨on, passed, range⟩ with ⟨reached, found, alike⟩ | ⟨raised, found, before⟩
    · have equal : reached = observedEnd := congrArg Instant.mk (Int.ofNat_inj.mp (alike.trans same.symm))
      rw [equal] at found
      have covered : windows.baseline ≤ observedEnd.micros - windows.observation := by omega
      have observedStart := earlier_eq_ok_iff.mpr ⟨(by omega : windows.observation ≤ observedEnd.micros), rfl⟩
      have baselineStart := earlier_eq_ok_iff.mpr
        ⟨(covered : windows.baseline ≤ (⟨observedEnd.micros - windows.observation⟩ : Instant).micros), rfl⟩
      rw [bind_of_ok floored, bind_of_ok found, bind_of_ok observedStart, bind_of_ok baselineStart]
      exact Checked.create_eq_ok_iff.mpr record
    · omega

/-! ## The selection -/

/-- What is asked of the selection: where everything fits a window is returned, and it is the one that ends
at the greatest final boundary; its end follows the clock, falls back with the lateness, and stays the same
between two finalizations. -/
structure Selects (windows : RuntimeFindingWindows) : Prop where
  returns : ∀ {now policy}, (∃ window, completedReconciliationWindow now windows policy = .ok window) ↔
    Fits now windows policy
  greatest : ∀ {now policy window}, completedReconciliationWindow now windows policy = .ok window →
    IsGreatest {boundary | windows.IsBoundary boundary ∧ policy.isFinalized boundary now = true}
        window.record.observedEnd ∧
      window.record = windowEnding windows policy window.record.observedEnd
  follows : ∀ {now later policy window next}, now ≤ later →
    completedReconciliationWindow now windows policy = .ok window →
    completedReconciliationWindow later windows policy = .ok next →
      window.record.observedEnd ≤ next.record.observedEnd
  fallsBack : ∀ {now policy stricter window next},
    policy.allowedLatenessHours ≤ stricter.allowedLatenessHours →
    completedReconciliationWindow now windows policy = .ok window →
    completedReconciliationWindow now windows stricter = .ok next →
      next.record.observedEnd ≤ window.record.observedEnd
  stays : ∀ {boundary now later policy window next}, windows.IsBoundary boundary →
    policy.finalizesAt boundary ≤ now → (now.micros : Int) < (policy.finalizesAt boundary).micros + windows.step →
    policy.finalizesAt boundary ≤ later → (later.micros : Int) < (policy.finalizesAt boundary).micros + windows.step →
    completedReconciliationWindow now windows policy = .ok window →
    completedReconciliationWindow later windows policy = .ok next → window = next

/-- Between its finalization and that of the next, a boundary is the last final one. -/
theorem lastFinal_eq (on : windows.IsBoundary boundary) (final : policy.finalizesAt boundary ≤ now)
    (before : (now.micros : Int) < (policy.finalizesAt boundary).micros + windows.step) :
    lastFinal now windows policy = boundary.micros := by
  have reached := isFinalized_iff.mp (decide_eq_true final)
  unfold EvidenceWindowFinalizationPolicy.finalizesAt at before
  rw [Instant.micros_add, Int.natCast_add, Int.natCast_mul] at before
  exact on.last_eq windows.step_pos reached (by omega)

theorem observedEnd_mono (first : completedReconciliationWindow now windows policy = .ok window)
    (second : completedReconciliationWindow later windows stricter = .ok next)
    (ordered : lastFinal now windows policy ≤ lastFinal later windows stricter) :
    window.record.observedEnd ≤ next.record.observedEnd := by
  obtain ⟨-, observedEnd, same, record⟩ := completedReconciliationWindow_eq_ok_iff.mp first
  obtain ⟨-, nextEnd, further, nextRecord⟩ := completedReconciliationWindow_eq_ok_iff.mp second
  rw [← same, ← further] at ordered
  rw [record, nextRecord]
  exact Int.ofNat_le.mp ordered

/-- The windows returned to calls on a schedule, the last one first: the clock does not go back, and no more
than a cadence passes between calls. -/
inductive Scheduled (windows : RuntimeFindingWindows) (policy : EvidenceWindowFinalizationPolicy) :
    Instant → ReconciliationWindow → List ReconciliationWindow → Prop where
  | first {now : Instant} {window : ReconciliationWindow}
      (completed : completedReconciliationWindow now windows policy = .ok window) : Scheduled windows policy now window []
  | again {now later : Instant} {window next : ReconciliationWindow} {earlier : List ReconciliationWindow}
      (scheduled : Scheduled windows policy now window earlier) (ordered : now ≤ later)
      (soon : (later.micros : Int) ≤ now.micros + windows.step)
      (completed : completedReconciliationWindow later windows policy = .ok next) :
      Scheduled windows policy later next (window :: earlier)

/-- The observed period of a window has the instant in it. -/
def Observes (window : ReconciliationWindow) (instant : Instant) : Prop :=
  window.record.observedStart ≤ instant ∧ instant ≤ window.record.observedEnd

theorem Scheduled.completed {earlier : List ReconciliationWindow} (scheduled : Scheduled windows policy now window earlier) :
    completedReconciliationWindow now windows policy = .ok window := by
  cases scheduled <;> assumption

theorem lastFinal_le_add (soon : (later.micros : Int) ≤ now.micros + windows.step) :
    lastFinal later windows policy ≤ lastFinal now windows policy + windows.step := by
  have positive := windows.step_pos
  by_contra further
  have before : (now.micros : Int) - policy.allowedLatenessHours * Instant.hour <
      lastFinal now windows policy + windows.step := Grid.lt_last_add positive
  have reached : lastFinal later windows policy ≤ later.micros - policy.allowedLatenessHours * Instant.hour :=
    Grid.last_le positive
  obtain ⟨count, spaced⟩ : Grid.On epochMicros windows.step (lastFinal now windows policy) := Grid.on_last
  have next : Grid.On epochMicros windows.step (lastFinal now windows policy + windows.step) :=
    ⟨count + 1, by rw [Int.mul_add, Int.mul_one, ← spaced]; ring⟩
  have beyond := next.add_le positive Grid.on_last (Int.not_le.mp further)
  change lastFinal now windows policy + windows.step + windows.step ≤ lastFinal later windows policy at beyond
  omega

/-- The period observed next begins before the last one ends. -/
theorem observedStart_le (overlap : windows.step ≤ windows.observation)
    (soon : (later.micros : Int) ≤ now.micros + windows.step)
    (first : completedReconciliationWindow now windows policy = .ok window)
    (second : completedReconciliationWindow later windows policy = .ok next) :
    next.record.observedStart ≤ window.record.observedEnd := by
  obtain ⟨-, observedEnd, same, record⟩ := completedReconciliationWindow_eq_ok_iff.mp first
  obtain ⟨-, nextEnd, further, nextRecord⟩ := completedReconciliationWindow_eq_ok_iff.mp second
  have moved : lastFinal later windows policy ≤ lastFinal now windows policy + windows.step := lastFinal_le_add soon
  rw [record, nextRecord, Instant.le_def]
  dsimp only [windowEnding]
  omega

/-- Calls at most a cadence apart leave no instant unobserved, if an observation is no shorter than that. -/
theorem schedule_observes (overlap : windows.step ≤ windows.observation) {earlier : List ReconciliationWindow}
    (scheduled : Scheduled windows policy now window earlier) {instant : Instant}
    (since : ((window :: earlier).getLast (by simp)).record.observedStart ≤ instant)
    (until' : instant ≤ window.record.observedEnd) : ∃ observing ∈ window :: earlier, Observes observing instant := by
  induction scheduled with
  | first _ => exact ⟨_, List.mem_singleton_self _, since, until'⟩
  | @again now later window next earlier scheduled ordered soon completed ih =>
    by_cases known : instant ≤ window.record.observedEnd
    · obtain ⟨observing, member, observes⟩ := ih since known
      exact ⟨observing, List.mem_cons_of_mem _ member, observes⟩
    · have begun := observedStart_le overlap soon scheduled.completed completed
      exact ⟨next, List.mem_cons_self, Nat.le_trans begun (Nat.le_of_lt (Nat.not_le.mp known)), until'⟩

/-- Two calls an hour apart. -/
theorem schedule_observes_hourly :
    ∃ observing ∈ [(⟨windowEnding (windowsFor (.detector 7 24 1)) ⟨2, by decide⟩ ⟨63000003600000000⟩,
          by decide +kernel⟩ : ReconciliationWindow),
        ⟨windowEnding (windowsFor (.detector 7 24 1)) ⟨2, by decide⟩ ⟨63000000000000000⟩, by decide +kernel⟩],
      Observes observing ⟨63000001800000000⟩ :=
  schedule_observes (by decide +kernel)
    (.again (@Scheduled.first (windowsFor (.detector 7 24 1)) ⟨2, by decide⟩ ⟨63000007200000000⟩ _ (by decide +kernel))
      (by decide : (⟨63000007200000000⟩ : Instant) ≤ ⟨63000010800000000⟩) (by decide +kernel) (by decide +kernel))
    (by decide +kernel) (by decide +kernel)

end AiGovernance.Findings
