import AiGovernance.Services.RuntimeFindings

/-!
# One active finding per condition

Runs of detection, reconciliation and review over the in-memory store. A
detection looks at the first record of its condition only. While that record is
active, or no record of the condition is, at most one record of a condition is
active and a detection updates it; a resolved record in front of an active one
hides it, and the next detection adds another.

A call that an exception cuts short is a call too, so the points inside a call
are among those reached by runs.
-/

namespace AiGovernance.Findings

open AiGovernance.Std Domain RuntimeFinding

/-! ## Runs -/

/-- A finding a detector reports, with the windows in force and the clock reading of its update. -/
structure Observed where
  windows : RuntimeFindingWindows
  detection : Detection
  now : Instant

/-- The condition an observation is about. -/
def Observed.key (observed : Observed) : String := observed.detection.finding.deduplicationKey

/-- The store after one observation. -/
def observe (store : FindingStore) (observed : Observed) : FindingStore :=
  match persistOrUpdateFinding store observed.detection.finding observed.windows observed.now with
  | .ok (next, _) => next
  | .error _ => store

/-- What a detection run reports, in order. -/
def observations (detectors : List DetectorRun) : List Observed :=
  detectors.flatMap fun detector =>
    detector.detections.map fun (detection, now) => ⟨detector.windows, detection, now⟩

/-- A call of the service. -/
inductive Operation where
  | runDetection (detectors : List DetectorRun)
  | reconcileActiveFindings (organizationId : String) (projectId : Option String) (recoveryThreshold : Int)
      (inputs : String → Reconciliation)
  | reviewCaseFinding (findingId : String) (action : FindingReviewAction) (actorId organizationId : String)
      (projectId note : Option String) (now : Instant)

/-- The store a call leaves. -/
def Operation.perform : Operation → FindingStore → FindingStore
  | .runDetection detectors, store => (Findings.runDetection detectors store []).1
  | .reconcileActiveFindings organizationId projectId recoveryThreshold inputs, store =>
    (Findings.reconcileActiveFindings store organizationId projectId recoveryThreshold inputs).store
  | .reviewCaseFinding findingId action actorId organizationId projectId note now, store =>
    match Findings.reviewCaseFinding store findingId action actorId organizationId projectId note now with
    | .ok (next, _) => next
    | .error _ => store

/-- The store a run of calls leaves. -/
def performAll (operations : List Operation) (store : FindingStore) : FindingStore :=
  operations.foldl (fun reached operation => operation.perform reached) store

/-- The first record of a condition is active, or none is. -/
def unobscured (store : FindingStore) (key : String) : Bool :=
  (store.findByDedupKey key).any (·.isActive) ||
    !store.byId.values.any fun finding => finding.isActive && finding.deduplicationKey = key

/-- Every observation finds its condition unobscured. -/
def observesUnobscured : List Observed → FindingStore → Bool
  | [], _ => true
  | observed :: rest, store => unobscured store observed.key && observesUnobscured rest (observe store observed)

/-- Every detection of a call finds its condition unobscured. -/
def Operation.unobscured : Operation → FindingStore → Bool
  | .runDetection detectors, store => observesUnobscured (observations detectors) store
  | _, _ => true

/-- Every detection of a run finds its condition unobscured. -/
def runUnobscured : List Operation → FindingStore → Bool
  | [], _ => true
  | operation :: rest, store => operation.unobscured store && runUnobscured rest (operation.perform store)

/-! ## Detection runs -/

theorem observe_ok (store : FindingStore) (observed : Observed) :
    ∃ saved, persistOrUpdateFinding store observed.detection.finding observed.windows observed.now =
      .ok (observe store observed, saved) := by
  unfold observe
  obtain ⟨_, updated, _, _, _, persisted⟩ | ⟨_, saved, _, persisted⟩ :=
    persistOrUpdateFinding_ok store observed.detection.finding observed.windows observed.now
  · rw [persisted]
    exact ⟨updated, rfl⟩
  · rw [persisted]
    exact ⟨saved, rfl⟩

theorem persistDetections_store (windows : RuntimeFindingWindows) (detections : List (Detection × Instant))
    (store : FindingStore) (findings : List RuntimeFinding) :
    (persistDetections windows detections store findings).1 =
      (detections.map fun (detection, now) => (⟨windows, detection, now⟩ : Observed)).foldl observe store := by
  induction detections generalizing store findings with
  | nil => rfl
  | cons head rest ih =>
    obtain ⟨detection, now⟩ := head
    obtain ⟨saved, persisted⟩ := observe_ok store ⟨windows, detection, now⟩
    unfold persistDetections
    rw [persisted]
    exact ih _ _

theorem runDetection_store (detectors : List DetectorRun) (store : FindingStore) (findings : List RuntimeFinding) :
    (runDetection detectors store findings).1 = (observations detectors).foldl observe store := by
  induction detectors generalizing store findings with
  | nil => rfl
  | cons detector rest ih =>
    unfold runDetection observations
    rw [List.flatMap_cons, List.foldl_append, ih, persistDetections_store]
    rfl

/-! ## The invariant -/

/-- At most one stored finding of a condition is active. -/
def OneActive (store : FindingStore) : Prop :=
  ∀ ⦃left right : RuntimeFinding⦄, store.byId.get? left.record.findingId = some left →
    store.byId.get? right.record.findingId = some right → left.isActive = true → right.isActive = true →
    left.deduplicationKey = right.deduplicationKey → left = right

variable {store : FindingStore} {finding : RuntimeFinding}

theorem OneActive.save (one : OneActive store)
    (alone : ∀ {other : RuntimeFinding}, store.byId.get? other.record.findingId = some other →
      other.record.findingId ≠ finding.record.findingId → other.isActive = true → finding.isActive = true →
      other.deduplicationKey ≠ finding.deduplicationKey) : OneActive (store.save finding) := by
  intro left right leftStored rightStored leftActive rightActive key
  rw [FindingStore.get?_save] at leftStored rightStored
  split at leftStored
  · cases leftStored
    split at rightStored
    · cases rightStored
      rfl
    · rename_i other
      exact absurd key.symm (alone rightStored other rightActive leftActive)
  · rename_i other
    split at rightStored
    · cases rightStored
      exact absurd key (alone leftStored other leftActive rightActive)
    · exact one leftStored rightStored leftActive rightActive key

/-- A finding saved over its earlier record, active only where that one was. -/
theorem OneActive.save_over (one : OneActive store) {old : RuntimeFinding}
    (stored : store.byId.get? old.record.findingId = some old) (same : finding.identity = old.identity)
    (active : finding.isActive = true → old.isActive = true) : OneActive (store.save finding) := by
  refine one.save fun otherStored other otherActive findingActive key => other ?_
  have equal := one otherStored stored otherActive (active findingActive)
    (key.trans (deduplicationKey_of_identity same))
  rw [equal, findingId_of_identity same]

theorem findByDedupKey_some {key : String} (found : store.findByDedupKey key = some finding) :
    store.byId.get? finding.record.findingId = some finding ∧ finding.deduplicationKey = key := by
  unfold FindingStore.findByDedupKey at found
  exact ⟨FindingStore.mem_values.mp (List.mem_of_find?_eq_some found), by simpa using List.find?_some found⟩

/-- What an unobscured key says of an active record. -/
theorem first_of_unobscured {key : String} (clear : unobscured store key = true)
    (stored : store.byId.get? finding.record.findingId = some finding) (active : finding.isActive = true)
    (same : finding.deduplicationKey = key) :
    ∃ first, store.findByDedupKey key = some first ∧ first.isActive = true := by
  unfold unobscured at clear
  rw [Bool.or_eq_true, Bool.not_eq_true', List.any_eq_false] at clear
  cases clear with
  | inl first => exact (Option.any_eq_true _ _).mp first
  | inr none => exact absurd (by simp [active, same]) (none finding (FindingStore.mem_values.mpr stored))

theorem updateObservation_identity {next : RuntimeFinding} {now : Instant}
    (updated : finding.updateObservation now = .ok next) : next.identity = finding.identity := by
  simp only [identity, updateObservation_ok updated]

theorem observe_oneActive (one : OneActive store) {observed : Observed} (clear : unobscured store observed.key = true) :
    OneActive (observe store observed) := by
  obtain ⟨existing, updated, found, active, updatedOk, persisted⟩ | ⟨inactive, saved, record, persisted⟩ :=
    persistOrUpdateFinding_ok store observed.detection.finding observed.windows observed.now
  · rw [observe, persisted]
    exact one.save_over (findByDedupKey_some found).1 (updateObservation_identity updatedOk) fun _ => active
  · rw [observe, persisted]
    refine one.save fun stored _ active _ key => ?_
    have same : saved.deduplicationKey = observed.key := by
      simp only [deduplicationKey, record, Observed.key]
    obtain ⟨first, found, firstActive⟩ := first_of_unobscured clear stored active (key.trans same)
    unfold Observed.key at found
    rw [found] at inactive
    simp [firstActive] at inactive

theorem observeAll_oneActive {observed : List Observed} (one : OneActive store)
    (clear : observesUnobscured observed store = true) : OneActive (observed.foldl observe store) := by
  induction observed generalizing store with
  | nil => exact one
  | cons head rest ih =>
    simp only [observesUnobscured, Bool.and_eq_true] at clear
    exact ih (observe_oneActive one clear.1) clear.2

theorem reconcileActiveFindings_oneActive (one : OneActive store) {organizationId : String} {projectId : Option String}
    {recoveryThreshold : Int} {inputs : String → Reconciliation} :
    OneActive (reconcileActiveFindings store organizationId projectId recoveryThreshold inputs).store := by
  refine reconcileActiveFindings_invariant (fun reached _ => OneActive reached) ?_ one
  intro reached outcomes finding next result before _ stored _ _ _ reconciled
  obtain rfl | ⟨updated, rfl, same, active⟩ := (reconcileFinding_ok reconciled).saved
  · exact before
  · exact before.save_over stored same active

/-- A review keeps the identity, and leaves nothing active that was not. -/
theorem reviewCaseFinding_ok {next : FindingStore} {findingId actorId organizationId : String}
    {action : FindingReviewAction} {projectId note : Option String} {now : Instant} {reviewed : RuntimeFinding}
    (given : reviewCaseFinding store findingId action actorId organizationId projectId note now =
      .ok (next, reviewed)) :
    ∃ finding reviews status, store.byId.get? finding.record.findingId = some finding ∧ next = store.save reviewed ∧
      reviewed.record = { finding.record with status, reviews, updatedAt := now } ∧ status ≠ .isOpen ∧
      status ≠ .resolved ∧ finding.record.lifecycle = .caseReview ∧ (reviewed.isActive = true → finding.isActive = true) := by
  unfold reviewCaseFinding at given
  split at given
  · cases given
  · rename_i finding found
    have stored := FindingStore.get_eq_some found
    rw [← store.keyed stored] at stored
    obtain ⟨result, resultOk, saved⟩ := bind_ok given
    cases saved
    cases action with
    | acknowledge =>
      obtain ⟨lifecycle, status, reviews, record⟩ := acknowledge_ok resultOk
      exact ⟨finding, reviews, .acknowledged, stored, rfl, record, by decide, by decide, lifecycle,
        fun _ => by simp [RuntimeFinding.isActive, status]⟩
    | close =>
      obtain ⟨lifecycle, reviews, record⟩ := close_ok resultOk
      exact ⟨finding, reviews, .closed, stored, rfl, record, by decide, by decide, lifecycle,
        fun active => by simp [RuntimeFinding.isActive, record] at active⟩

theorem perform_oneActive (one : OneActive store) {operation : Operation} (clear : operation.unobscured store = true) :
    OneActive (operation.perform store) := by
  cases operation with
  | runDetection detectors =>
    rw [Operation.perform, runDetection_store]
    exact observeAll_oneActive one clear
  | reconcileActiveFindings => exact reconcileActiveFindings_oneActive one
  | reviewCaseFinding =>
    unfold Operation.perform
    dsimp only
    split
    · rename_i next reviewed given
      obtain ⟨finding, reviews, status, stored, rfl, record, -, -, -, active⟩ := reviewCaseFinding_ok given
      refine one.save_over stored ?_ active
      simp only [identity, record]
    · exact one

theorem performAll_oneActive {operations : List Operation} (one : OneActive store)
    (clear : runUnobscured operations store = true) : OneActive (performAll operations store) := by
  induction operations generalizing store with
  | nil => exact one
  | cons operation rest ih =>
    simp only [runUnobscured, Bool.and_eq_true] at clear
    exact ih (perform_oneActive one clear.1) clear.2

theorem oneActive_empty : OneActive .empty := by
  intro left right stored
  cases stored

/-- In every run whose detections find their condition unobscured, at most one stored finding of a
condition is active, and a further such detection updates the active one and adds no record. -/
theorem one_active_finding_per_condition (operations : List Operation)
    (clear : runUnobscured operations .empty = true) :
    OneActive (performAll operations .empty) ∧ ∀ (observed : Observed) {active : RuntimeFinding},
      unobscured (performAll operations .empty) observed.key = true →
      (performAll operations .empty).byId.get? active.record.findingId = some active → active.isActive = true →
      active.deduplicationKey = observed.key →
      ∃ updated, active.updateObservation observed.now = .ok updated ∧
        persistOrUpdateFinding (performAll operations .empty) observed.detection.finding observed.windows
          observed.now = .ok ((performAll operations .empty).save updated, updated) ∧
        ((performAll operations .empty).save updated).pageKeys = (performAll operations .empty).pageKeys := by
  have one := performAll_oneActive oneActive_empty clear
  refine ⟨one, fun observed {active} observedClear stored isActive key => ?_⟩
  generalize performAll operations .empty = store at one observedClear stored
  obtain ⟨first, found, firstActive⟩ := first_of_unobscured observedClear stored isActive key
  obtain ⟨firstStored, firstKey⟩ := findByDedupKey_some found
  obtain rfl : first = active := one firstStored stored firstActive isActive (firstKey.trans key.symm)
  obtain ⟨existing, updated, existingFound, -, updatedOk, persisted⟩ | ⟨inactive, -⟩ :=
    persistOrUpdateFinding_ok store observed.detection.finding observed.windows observed.now
  · unfold Observed.key at found
    obtain rfl : first = existing := Option.some.inj (found.symm.trans existingFound)
    have same := updateObservation_identity updatedOk
    refine ⟨updated, updatedOk, persisted, ?_⟩
    rw [← findingId_of_identity same] at stored
    exact FindingStore.pageKeys_save stored (pageKey_of_identity same)
  · unfold Observed.key at found
    rw [found] at inactive
    simp [firstActive] at inactive

/-! ## A condition that is resolved and comes back -/

/-- A tool whose calls fail, found on 2024-01-01. -/
def failureRateRecord (findingId : String) : RuntimeFindingRecord where
  findingId := findingId
  organizationId := "organization"
  findingType := "TOOL_FAILURE_RATE_INCREASE"
  subjectType := "tool"
  subjectId := "search"
  detectorId := "tool_failure_rate"
  createdAt := ⟨63839664000000000⟩
  updatedAt := ⟨63839664000000000⟩

theorem failureRateRecord_valid : (failureRateRecord "finding-1").violation = none := by decide

/-- The finding of the failing tool under an identifier. -/
def failureRate (findingId : String) (valid : (failureRateRecord findingId).violation = none) : Detection where
  finding := ⟨failureRateRecord findingId, valid, Nat.zero_le 20, Nat.zero_le 20⟩
  isOpen := rfl
  consecutiveNormalWindows := rfl
  healthyReconciliationWindows := rfl
  lastReconciliation := rfl

/-- The hours of a day. -/
def dayHours : PNat := 24

/-- A week of baseline, and two days to resolve. -/
def weeklySpans (observationHours : PNat) : WindowSettings := .detector 7 observationHours 48

/-- A run of the detector that finds the failing tool. -/
def detectFailureRate (detection : Detection) : Operation :=
  .runDetection [⟨windowsFor (weeklySpans dayHours), [(detection, ⟨63839664000000000⟩)], false⟩]

/-- A week later the tool is healthy, and one window is enough. -/
def reconcileHealthy : Operation :=
  .reconcileActiveFindings "organization" none 1 fun _ => {
    detectorIds := ["tool_failure_rate"]
    now := ⟨63840268800000000⟩
    allowedLatenessHours := 2
    windows := windowsFor (weeklySpans dayHours)
    runDetectorForSubject := fun _ _ => .ok {} }

/-- The condition is found, resolved and found again. -/
def returningCondition : List Operation :=
  [detectFailureRate (failureRate "finding-1" (by decide)), reconcileHealthy,
    detectFailureRate (failureRate "finding-2" (by decide))]

theorem one_active_finding_per_condition_returning :
    runUnobscured returningCondition .empty = true ∧ OneActive (performAll returningCondition .empty) :=
  ⟨by decide +kernel, (one_active_finding_per_condition returningCondition (by decide +kernel)).1⟩

/-- What a record is known by: its identifier, whether it is active, and its condition. -/
def RuntimeFinding.summary (finding : RuntimeFinding) : String × Bool × String :=
  (finding.record.findingId, finding.isActive, finding.deduplicationKey)

/-- After its return the condition is found once more. -/
def obscuredCondition : List Operation :=
  returningCondition ++ [detectFailureRate (failureRate "finding-3" (by decide))]

/-- The next detection meets the resolved record first and adds a second active finding. -/
theorem two_active_findings_of_one_condition :
    ¬ ∀ operations : List Operation, OneActive (performAll operations .empty) := by
  intro always
  have second : ((performAll obscuredCondition .empty).byId.get? "finding-2").map summary =
      some ("finding-2", true, "TOOL_FAILURE_RATE_INCREASE:organization::tool:search:1") := by decide +kernel
  have third : ((performAll obscuredCondition .empty).byId.get? "finding-3").map summary =
      some ("finding-3", true, "TOOL_FAILURE_RATE_INCREASE:organization::tool:search:1") := by decide +kernel
  rw [Option.map_eq_some_iff] at second third
  obtain ⟨left, leftStored, leftIs⟩ := second
  obtain ⟨right, rightStored, rightIs⟩ := third
  simp only [summary, Prod.mk.injEq] at leftIs rightIs
  obtain ⟨leftId, leftActive, leftKey⟩ := leftIs
  obtain ⟨rightId, rightActive, rightKey⟩ := rightIs
  rw [← leftId] at leftStored
  rw [← rightId] at rightStored
  have same := always obscuredCondition leftStored rightStored leftActive rightActive (leftKey.trans rightKey.symm)
  rw [same, rightId] at leftId
  exact absurd leftId (by decide)

end AiGovernance.Findings
