import AiGovernance.Repositories.RuntimeFindings
import AiGovernance.Std.Double
import AiGovernance.Std.Loop
import Mathlib.Data.PNat.Basic

/-!
# The runtime finding service

Detection, reconciliation and review of `services/runtime_finding_service.py`.
What the detectors find and how they judge a window come from outside, with the
clock readings and settings of each call; so does every exception they raise.
-/

namespace AiGovernance.Findings

open AiGovernance.Std Domain RuntimeFinding FindingStore

/-! ## Windows -/

/-- The spans a detector is configured with, or those of the local validation profile. The settings
registry admits positive spans only. -/
inductive WindowSettings where
  | detector (baselineWindowDays observationWindowHours resolutionWindowHours : PNat)
  | validationProfile (baselineMinutes observationMinutes resolutionMinutes : PNat)

/-- `RuntimeFindingWindows`, its spans in microseconds; the cadence is a second or more. -/
structure RuntimeFindingWindows where
  baseline : Nat
  observation : Nat
  resolution : Nat
  baselineLabel : String
  observationLabel : String
  secondOrMore : Instant.second ≤ resolution

/-- `_windows_for`. -/
def windowsFor : WindowSettings → RuntimeFindingWindows
  | .detector baseline observation resolution =>
    { baseline := baseline * Instant.day
      observation := observation * Instant.hour
      resolution := resolution * Instant.hour
      baselineLabel := toString (baseline : Nat) ++ "d"
      observationLabel := toString (observation : Nat) ++ "h"
      secondOrMore := Nat.le_trans (by decide) (Nat.le_mul_of_pos_left _ resolution.pos) }
  | .validationProfile baseline observation resolution =>
    { baseline := baseline * (60 * Instant.second)
      observation := observation * (60 * Instant.second)
      resolution := resolution * (60 * Instant.second)
      baselineLabel := toString (baseline : Nat) ++ "m"
      observationLabel := toString (observation : Nat) ++ "m"
      secondOrMore := Nat.le_trans (by decide) (Nat.le_mul_of_pos_left _ resolution.pos) }

/-- `int(windows.resolution.total_seconds())`. -/
def RuntimeFindingWindows.cadence (windows : RuntimeFindingWindows) : Nat :=
  Double.truncated windows.resolution Instant.second

theorem RuntimeFindingWindows.cadence_pos (windows : RuntimeFindingWindows) : 0 < windows.cadence :=
  Double.le_truncated (by decide) (by rw [Nat.one_mul]; exact windows.secondOrMore)

/-- `datetime.max`, in microseconds. -/
def latestMicros : Nat := 315537897599999999

/-- `instant - timedelta`. -/
def earlier (instant : Instant) (duration : Nat) : Except Raised Instant :=
  if duration ≤ instant.micros then .ok ⟨instant.micros - duration⟩
  else .error ⟨.overflowError, "date value out of range"⟩

/-- Subtracting a span leads back in time. -/
theorem earlier_lt {instant result : Instant} {duration : Nat} (positive : 0 < duration)
    (subtracted : earlier instant duration = .ok result) : result.micros < instant.micros := by
  unfold earlier at subtracted
  split at subtracted
  · cases subtracted
    dsimp only
    omega
  · cases subtracted

/-- `int(instant.timestamp())`. -/
def epochTimestamp (instant : Instant) : Int :=
  let micros : Int := instant.micros - Instant.epochSeconds * Instant.second
  micros.sign * Double.truncated micros.natAbs Instant.second

/-- The last cadence boundary since the epoch. -/
def cadenceBoundary (now : Instant) (cadence : Nat) : Except Raised Instant :=
  let boundary := epochTimestamp now / cadence * cadence + Instant.epochSeconds
  if boundary < 0 then .error ⟨.valueError, "year 0 is out of range"⟩
  else if latestMicros < boundary.toNat * Instant.second then .error ⟨.valueError, "year 10000 is out of range"⟩
  else .ok ⟨boundary.toNat * Instant.second⟩

/-- One round of the search for a final boundary. -/
def finalizedRound (policy : EvidenceWindowFinalizationPolicy) (now : Instant) (cadence : Nat) (boundary : Instant) :
    Instant ⊕ Except Raised Instant :=
  if latestMicros < (policy.finalizesAt boundary).micros then
    .inr (.error ⟨.overflowError, "date value out of range"⟩)
  else if policy.isFinalized boundary now then .inr (.ok boundary)
  else
    match earlier boundary (cadence * Instant.second) with
    | .ok next => .inl next
    | .error raised => .inr (.error raised)

variable {policy : EvidenceWindowFinalizationPolicy} {now : Instant}

theorem finalizedRound_falls {cadence : Nat} (positive : 0 < cadence) {boundary next : Instant}
    (continues : finalizedRound policy now cadence boundary = .inl next) : next.micros < boundary.micros := by
  have second : 0 < cadence * Instant.second := Nat.mul_pos positive (by decide)
  unfold finalizedRound at continues
  split_ifs at continues
  split at continues
  · rename_i subtracted
    cases continues
    exact earlier_lt second subtracted
  · cases continues

/-- The last boundary whose allowed lateness has elapsed. -/
def finalizedBoundary (policy : EvidenceWindowFinalizationPolicy) (now : Instant) (windows : RuntimeFindingWindows)
    (boundary : Instant) : Except Raised Instant :=
  Loop.complete (finalizedRound policy now windows.cadence) Instant.micros
    (finalizedRound_falls windows.cadence_pos) boundary

/-- `_completed_reconciliation_window`. -/
def completedReconciliationWindow (now : Instant) (windows : RuntimeFindingWindows)
    (policy : EvidenceWindowFinalizationPolicy) : Except Raised ReconciliationWindow := do
  let boundary ← cadenceBoundary now windows.cadence
  let observedEnd ← finalizedBoundary policy now windows boundary
  let observedStart ← earlier observedEnd windows.observation
  let baselineStart ← earlier observedStart windows.baseline
  Checked.create {
    observedStart, observedEnd, baselineStart
    baselineEnd := observedStart
    finalizationCutoffAt := some (policy.finalizesAt observedEnd)
    latenessPolicyHours := some policy.allowedLatenessHours }

/-- `_fallback_reconciliation_window`. -/
def fallbackReconciliationWindow (now : Instant) : Except Raised ReconciliationWindow := do
  let observedEnd : Instant := ⟨now.micros / Instant.hour * Instant.hour⟩
  let observedStart ← earlier observedEnd Instant.hour
  let baselineStart ← earlier observedStart Instant.day
  Checked.create { observedStart, observedEnd, baselineStart, baselineEnd := observedStart }

/-! ## Detection -/

/-- A finding as a detector builds it: open, and without reconciliations or reviews. -/
structure Detection where
  finding : RuntimeFinding
  isOpen : finding.record.status = .isOpen
  consecutiveNormalWindows : finding.record.consecutiveNormalWindows = 0
  healthyReconciliationWindows : finding.record.healthyReconciliationWindows = []
  lastReconciliation : finding.record.lastReconciliation = none

/-- One detector of a run: what it finds, with the clock reading of each update, and whether it raises
after that. -/
structure DetectorRun where
  windows : RuntimeFindingWindows
  detections : List (Detection × Instant)
  raises : Bool

/-- The labels of the windows replace those of the detector. -/
def labelled (finding : RuntimeFinding) (windows : RuntimeFindingWindows) : Except Raised RuntimeFinding :=
  RuntimeFinding.create { finding.record with
    baselineWindow := windows.baselineLabel
    observationWindow := windows.observationLabel }

/-- `_persist_or_update_finding`. -/
def persistOrUpdateFinding (store : FindingStore) (finding : RuntimeFinding) (windows : RuntimeFindingWindows)
    (now : Instant) : Except Raised (FindingStore × RuntimeFinding) := do
  let finding ← labelled finding windows
  match store.findByDedupKey finding.deduplicationKey with
  | some existing =>
    if existing.isActive then
      let updated ← existing.updateObservation now
      return (store.save updated, updated)
    else return (store.save finding, finding)
  | none => return (store.save finding, finding)

/-- The loop of one detector; an exception ends it and keeps what was saved. -/
def persistDetections (windows : RuntimeFindingWindows) :
    List (Detection × Instant) → FindingStore → List RuntimeFinding → FindingStore × Option (List RuntimeFinding)
  | [], store, findings => (store, some findings)
  | (detection, now) :: rest, store, findings =>
    match persistOrUpdateFinding store detection.finding windows now with
    | .ok (next, finding) => persistDetections windows rest next (findings ++ [finding])
    | .error _ => (store, none)

/-- `run_detection`: a detector that raises reports nothing and stops no other. -/
def runDetection : List DetectorRun → FindingStore → List RuntimeFinding → FindingStore × List RuntimeFinding
  | [], store, findings => (store, findings)
  | detector :: rest, store, findings =>
    let (next, found) := persistDetections detector.windows detector.detections store []
    runDetection rest next (if detector.raises then findings else findings ++ found.getD [])

/-! ### What a detection does -/

theorem labelled_ok (finding : RuntimeFinding) (windows : RuntimeFindingWindows) :
    ∃ saved, labelled finding windows = .ok saved ∧ saved.record = { finding.record with
      baselineWindow := windows.baselineLabel
      observationWindow := windows.observationLabel } := by
  obtain ⟨saved, created⟩ := create_of_valid
    (show RuntimeFindingRecord.violation { finding.record with
      baselineWindow := windows.baselineLabel
      observationWindow := windows.observationLabel } = none from finding.valid)
  refine ⟨saved, created, ?_⟩
  rw [create_ok created]
  simp only [bounded, take_relatedExecutionIds, drop_reviews]

/-- A detection always succeeds: it updates the first record of its condition, or adds a record where
that one is not active. -/
theorem persistOrUpdateFinding_ok (store : FindingStore) (finding : RuntimeFinding) (windows : RuntimeFindingWindows)
    (now : Instant) :
    (∃ existing updated, store.findByDedupKey finding.deduplicationKey = some existing ∧ existing.isActive = true ∧
      existing.updateObservation now = .ok updated ∧
      persistOrUpdateFinding store finding windows now = .ok (store.save updated, updated)) ∨
    ((store.findByDedupKey finding.deduplicationKey).all (!·.isActive) = true ∧
      ∃ saved, saved.record = { finding.record with
          baselineWindow := windows.baselineLabel
          observationWindow := windows.observationLabel } ∧
        persistOrUpdateFinding store finding windows now = .ok (store.save saved, saved)) := by
  obtain ⟨saved, created, record⟩ := labelled_ok finding windows
  have key : saved.deduplicationKey = finding.deduplicationKey := by
    simp only [deduplicationKey, record]
  have unfolded : persistOrUpdateFinding store finding windows now =
      match store.findByDedupKey finding.deduplicationKey with
      | some existing =>
        if existing.isActive then do
          let updated ← existing.updateObservation now
          return (store.save updated, updated)
        else return (store.save saved, saved)
      | none => return (store.save saved, saved) := by
    unfold persistOrUpdateFinding
    rw [created]
    simp only [← key]
    rfl
  rw [unfolded]
  split
  · rename_i existing found
    split
    · rename_i active
      obtain ⟨updated, updatedOk⟩ := existing.updateObservation_succeeds now
      refine .inl ⟨existing, updated, found, active, updatedOk, ?_⟩
      rw [updatedOk]
      rfl
    · rename_i inactive
      refine .inr ⟨?_, saved, record, rfl⟩
      simpa [found] using inactive
  · rename_i absent
    exact .inr ⟨by simp [absent], saved, record, rfl⟩

/-! ## Reconciliation -/

/-- Why a window could not be judged. -/
inductive EvaluationFailure where
  | unsupported (detail : String)
  | failed (className : String)

/-- `DetectorResult`. -/
structure DetectorResult where
  finding : Option RuntimeFinding := none
  insufficientData : Bool := false

/-- What the reconciliation of one finding meets: the registered detectors, the clock, the settings of
the finding's tenant, and the detector's judgement of a window at a cutoff. -/
structure Reconciliation where
  detectorIds : List String
  now : Instant
  allowedLatenessHours : Int
  windows : RuntimeFindingWindows
  runDetectorForSubject : ReconciliationWindow → Instant → Except EvaluationFailure DetectorResult

/-- `ReconciliationFindingResult`. -/
structure ReconciliationFindingResult where
  findingId : String
  outcome : ReconciliationOutcome
  consecutiveNormalWindows : Nat
  requiredNormalWindows : Int
  window : Option ReconciliationWindow := none
  detail : Option String := none
deriving DecidableEq

/-- A window that was reconciled before. -/
def alreadyReconciled (finding : RuntimeFinding) (recoveryThreshold : Int) (window : ReconciliationWindow)
    (detail : Option String) : ReconciliationFindingResult where
  findingId := finding.record.findingId
  outcome := .alreadyReconciled
  consecutiveNormalWindows := finding.record.consecutiveNormalWindows
  requiredNormalWindows := recoveryThreshold
  window := some window
  detail := detail

/-- `_record_non_evaluated_reconciliation`. -/
def recordNonEvaluatedReconciliation (store : FindingStore) (finding : RuntimeFinding) (now : Instant)
    (recoveryThreshold : Int) (outcome : ReconciliationOutcome) (detail : String)
    (window : ReconciliationWindow) : Except Raised (FindingStore × ReconciliationFindingResult) :=
  if finding.hasReconciled window then .ok (store, alreadyReconciled finding recoveryThreshold window none)
  else do
    let updated ← finding.recordReconciliationOutcome window outcome now (some detail) true
    return (store.save updated, {
      findingId := finding.record.findingId
      outcome
      consecutiveNormalWindows := updated.record.consecutiveNormalWindows
      requiredNormalWindows := recoveryThreshold
      window := some window
      detail := some detail })

/-- A judged window that is not healthy. -/
def recordUnhealthyWindow (store : FindingStore) (finding : RuntimeFinding) (now : Instant) (recoveryThreshold : Int)
    (outcome : ReconciliationOutcome) (detail : String) (window : ReconciliationWindow) :
    Except Raised (FindingStore × ReconciliationFindingResult) := do
  let updated ← finding.recordReconciliationOutcome window outcome now (some detail) true
  return (store.save updated, {
    findingId := finding.record.findingId
    outcome
    consecutiveNormalWindows := 0
    requiredNormalWindows := recoveryThreshold
    window := some window })

/-- A healthy window, which may be the last one needed. -/
def recordHealthyReconciliation (store : FindingStore) (finding : RuntimeFinding) (now : Instant)
    (recoveryThreshold : Int) (window : ReconciliationWindow) :
    Except Raised (FindingStore × ReconciliationFindingResult) := do
  let updated ← finding.recordHealthyWindow window now
  if recoveryThreshold ≤ updated.record.consecutiveNormalWindows then
    let resolved ← updated.markResolved now
    let resolved ← RuntimeFinding.create { resolved.record with
      lastReconciliation := some ⟨window, .resolved, now, none⟩ }
    return (store.save resolved, {
      findingId := finding.record.findingId
      outcome := .resolved
      consecutiveNormalWindows := resolved.record.consecutiveNormalWindows
      requiredNormalWindows := recoveryThreshold
      window := some window })
  else
    return (store.save updated, {
      findingId := finding.record.findingId
      outcome := .healthyAwaiting
      consecutiveNormalWindows := updated.record.consecutiveNormalWindows
      requiredNormalWindows := recoveryThreshold
      window := some window })

/-- The computed window, unless the last reconciliation was of a later one. -/
def RuntimeFinding.latestWindow (finding : RuntimeFinding) (window : ReconciliationWindow) : ReconciliationWindow :=
  match finding.record.lastReconciliation with
  | some last => if window.record.observedEnd < last.window.record.observedEnd then last.window else window
  | none => window

/-- What the judgement of a window makes of a finding. -/
def recordJudgement (store : FindingStore) (finding : RuntimeFinding) (now : Instant) (recoveryThreshold : Int)
    (window : ReconciliationWindow) : Except EvaluationFailure DetectorResult →
      Except Raised (FindingStore × ReconciliationFindingResult)
  | .error (.unsupported detail) =>
    recordNonEvaluatedReconciliation store finding now recoveryThreshold .unsupported detail window
  | .error (.failed className) =>
    recordNonEvaluatedReconciliation store finding now recoveryThreshold .failed
      ("Reconciliation evaluation failed: " ++ className ++ ".") window
  | .ok result =>
    if result.insufficientData then
      recordUnhealthyWindow store finding now recoveryThreshold .insufficientData
        "The completed observation window did not meet the detector minimum sample size." window
    else if result.finding.isSome then
      recordUnhealthyWindow store finding now recoveryThreshold
        (if finding.record.consecutiveNormalWindows ≠ 0 then .progressReset else .conditionPresent)
        "The detector condition remains present in this completed observation window." window
    else recordHealthyReconciliation store finding now recoveryThreshold window

/-- `_reconcile_finding`. -/
def reconcileFinding (store : FindingStore) (finding : RuntimeFinding) (recoveryThreshold : Int)
    (input : Reconciliation) : Except Raised (FindingStore × ReconciliationFindingResult) :=
  if input.detectorIds.contains finding.record.detectorId then do
    let policy ← EvidenceWindowFinalizationPolicy.create input.allowedLatenessHours
    let completed ← completedReconciliationWindow input.now input.windows policy
    let window := finding.latestWindow completed
    if finding.hasReconciled window then
      return (store, alreadyReconciled finding recoveryThreshold window
        (some "This completed observation window was already reconciled."))
    else
      recordJudgement store finding input.now recoveryThreshold window
        (input.runDetectorForSubject window (policy.finalizesAt window.record.observedEnd))
  else do
    let window ← fallbackReconciliationWindow input.now
    recordNonEvaluatedReconciliation store finding input.now recoveryThreshold .unsupported
      ("No reconciler is registered for detector '" ++ finding.record.detectorId ++ "'.") window

/-- Where a reconciliation call stands: the store, the outcomes so far, and the exception that ended it. -/
structure Pass where
  store : FindingStore
  outcomes : List ReconciliationFindingResult := []
  raised : Option Raised := none

/-- The findings of one page, each with the input of its identifier. -/
def reconcileItems (recoveryThreshold : Int) (inputs : String → Reconciliation) : List RuntimeFinding → Pass → Pass
  | [], pass => pass
  | finding :: rest, pass =>
    -- The conclusions of a case review are historical.
    if finding.record.lifecycle = .caseReview then reconcileItems recoveryThreshold inputs rest pass
    else
      match reconcileFinding pass.store finding recoveryThreshold (inputs finding.record.findingId) with
      | .ok (next, result) =>
        reconcileItems recoveryThreshold inputs rest
          { pass with store := next, outcomes := pass.outcomes ++ [result] }
      | .error raised => { pass with raised := some raised }

/-- One page of a reconciliation call. -/
def reconcilePage (organizationId : String) (projectId : Option String) (recoveryThreshold : Int)
    (inputs : String → Reconciliation) (state : Pass × Option RuntimeFindingCursor) :
    (Pass × Option RuntimeFindingCursor) ⊕ Pass :=
  let page := state.1.store.pageByStatus .isOpen organizationId projectId state.2 100
  let pass := reconcileItems recoveryThreshold inputs page.1 state.1
  match pass.raised, page.2 with
  | none, some cursor => .inl (pass, some cursor)
  | _, _ => .inr pass

/-! ### What the reconciliation of one finding does -/

theorem finalizedBoundary_ok {windows : RuntimeFindingWindows} {boundary final : Instant}
    (found : finalizedBoundary policy now windows boundary = .ok final) : policy.isFinalized final now = true := by
  refine Loop.complete_invariant (finalizedRound_falls windows.cadence_pos) (fun _ => True)
    (fun result => ∀ {reached}, result = .ok reached → policy.isFinalized reached now = true)
    (fun _ _ => trivial) ?_ trivial found
  intro state result _ round reached ended
  subst ended
  unfold finalizedRound at round
  split_ifs at round with late final
  · cases round
  · cases round
    exact final
  · split at round <;> cases round

/-- A completed window is final when it is computed, and says so. -/
theorem completedReconciliationWindow_ok {windows : RuntimeFindingWindows} {window : ReconciliationWindow}
    (completed : completedReconciliationWindow now windows policy = .ok window) :
    policy.isFinalized window.record.observedEnd now = true ∧
      window.record.finalizationCutoffAt = some (policy.finalizesAt window.record.observedEnd) ∧
      window.record.latenessPolicyHours = some (policy.allowedLatenessHours : Int) := by
  unfold completedReconciliationWindow at completed
  obtain ⟨boundary, -, completed⟩ := bind_ok completed
  obtain ⟨observedEnd, final, completed⟩ := bind_ok completed
  obtain ⟨observedStart, -, completed⟩ := bind_ok completed
  obtain ⟨baselineStart, -, completed⟩ := bind_ok completed
  rw [Checked.create_eq_ok_iff.mp completed]
  exact ⟨finalizedBoundary_ok final, rfl, rfl⟩

/-- An outcome that ends a healthy sequence. -/
def ReconciliationOutcome.resets : ReconciliationOutcome → Bool
  | .conditionPresent | .progressReset | .insufficientData | .unsupported | .failed => true
  | .healthyAwaiting | .resolved | .alreadyReconciled => false

/-- A window judged healthy: final at the clock reading, no earlier than the window before it, and not that
window again. -/
structure JudgedHealthy (finding : RuntimeFinding) (input : Reconciliation) (window : ReconciliationWindow) : Prop where
  computed : ∃ policy, EvidenceWindowFinalizationPolicy.create input.allowedLatenessHours = .ok policy ∧
    completedReconciliationWindow input.now input.windows policy = .ok window ∧
    ∃ result, input.runDetectorForSubject window (policy.finalizesAt window.record.observedEnd) = .ok result ∧
      result.insufficientData = false ∧ result.finding = none
  newest : ∀ {last}, finding.record.lastReconciliation = some last →
    last.window.record.observedEnd ≤ window.record.observedEnd
  fresh : finding.hasReconciled window = false

/-- Everything `reconcileFinding` can do to a store. -/
inductive Reconciled (store : FindingStore) (finding : RuntimeFinding) (recoveryThreshold : Int)
    (input : Reconciliation) : FindingStore → ReconciliationFindingResult → Prop
  | already {result : ReconciliationFindingResult} (named : result.findingId = finding.record.findingId)
      (outcome : result.outcome = .alreadyReconciled) : Reconciled store finding recoveryThreshold input store result
  | reset {updated : RuntimeFinding} {result : ReconciliationFindingResult} {last : ReconciliationRecord}
      {lastDetectedAt : Option Instant}
      (recorded : updated.record = { finding.record with
        consecutiveNormalWindows := 0
        healthyReconciliationWindows := []
        lastReconciliation := some last
        lastDetectedAt
        updatedAt := input.now })
      (named : result.findingId = finding.record.findingId) (outcome : result.outcome.resets = true) :
      Reconciled store finding recoveryThreshold input (store.save updated) result
  | healthy {window : ReconciliationWindow} {updated : RuntimeFinding} {result : ReconciliationFindingResult}
      (judged : JudgedHealthy finding input window)
      (recorded : updated.record = { finding.record with
        consecutiveNormalWindows := (finding.healthySequence ++ [window]).length
        healthyReconciliationWindows := finding.healthySequence ++ [window]
        lastReconciliation := some ⟨window, .healthyAwaiting, input.now, none⟩
        updatedAt := input.now })
      (named : result.findingId = finding.record.findingId) (outcome : result.outcome = .healthyAwaiting)
      (windowed : result.window = some window) :
      Reconciled store finding recoveryThreshold input (store.save updated) result
  | resolved {window : ReconciliationWindow} {updated : RuntimeFinding} {result : ReconciliationFindingResult}
      (judged : JudgedHealthy finding input window)
      (enough : recoveryThreshold ≤ ((finding.healthySequence ++ [window]).length : Int))
      (recorded : updated.record = { finding.record with
        status := .resolved
        consecutiveNormalWindows := (finding.healthySequence ++ [window]).length
        healthyReconciliationWindows := finding.healthySequence ++ [window]
        lastReconciliation := some ⟨window, .resolved, input.now, none⟩
        resolvedAt := some input.now
        updatedAt := input.now })
      (named : result.findingId = finding.record.findingId) (outcome : result.outcome = .resolved)
      (windowed : result.window = some window) :
      Reconciled store finding recoveryThreshold input (store.save updated) result

section ReconcileFinding

variable {store next : FindingStore} {finding : RuntimeFinding} {recoveryThreshold : Int} {input : Reconciliation}
  {outcome : ReconciliationOutcome} {detail : String} {window : ReconciliationWindow}
  {result : ReconciliationFindingResult}

theorem recordNonEvaluatedReconciliation_ok (resets : outcome.resets = true)
    (recorded : recordNonEvaluatedReconciliation store finding input.now recoveryThreshold outcome detail window =
      .ok (next, result)) : Reconciled store finding recoveryThreshold input next result := by
  unfold recordNonEvaluatedReconciliation at recorded
  split at recorded
  · cases recorded
    exact .already rfl rfl
  · obtain ⟨updated, updatedOk, saved⟩ := bind_ok recorded
    cases saved
    exact .reset (recordReconciliationOutcome_ok updatedOk).2 rfl resets

theorem recordUnhealthyWindow_ok (resets : outcome.resets = true)
    (recorded : recordUnhealthyWindow store finding input.now recoveryThreshold outcome detail window =
      .ok (next, result)) : Reconciled store finding recoveryThreshold input next result := by
  unfold recordUnhealthyWindow at recorded
  obtain ⟨updated, updatedOk, saved⟩ := bind_ok recorded
  cases saved
  exact .reset (recordReconciliationOutcome_ok updatedOk).2 rfl resets

theorem recordHealthyReconciliation_ok (judged : JudgedHealthy finding input window)
    (recorded : recordHealthyReconciliation store finding input.now recoveryThreshold window = .ok (next, result)) :
    Reconciled store finding recoveryThreshold input next result := by
  unfold recordHealthyReconciliation at recorded
  obtain ⟨updated, updatedOk, recorded⟩ := bind_ok recorded
  have kept := (recordHealthyWindow_ok updatedOk).2
  split at recorded
  · rename_i enough
    obtain ⟨marked, markedOk, recorded⟩ := bind_ok recorded
    obtain ⟨final, finalOk, saved⟩ := bind_ok recorded
    cases saved
    rw [kept] at enough
    refine .resolved judged enough ?_ rfl rfl rfl
    rw [create_ok finalOk]
    unfold bounded
    simp only [take_relatedExecutionIds, drop_reviews]
    rw [(markResolved_ok markedOk).2, kept]
  · cases recorded
    exact .healthy judged kept rfl rfl rfl

/-- The last window was reconciled. -/
theorem hasReconciled_last {last : ReconciliationRecord} (recorded : finding.record.lastReconciliation = some last) :
    finding.hasReconciled last.window = true := by
  unfold hasReconciled
  rw [recorded]
  simp [ReconciliationWindowRecord.sameEvidenceWindow]

/-- A window that is not the last one again is the computed one, and none was later. -/
theorem latestWindow_of_fresh (fresh : finding.hasReconciled (finding.latestWindow window) = false) :
    finding.latestWindow window = window ∧ ∀ {last}, finding.record.lastReconciliation = some last →
      last.window.record.observedEnd ≤ window.record.observedEnd := by
  unfold latestWindow at fresh ⊢
  split
  · rename_i last recorded
    rw [recorded] at fresh
    dsimp only at fresh
    split at fresh
    · rw [hasReconciled_last recorded] at fresh
      cases fresh
    · rename_i newest
      refine ⟨if_neg newest, fun same => ?_⟩
      cases recorded.symm.trans same
      exact Nat.not_lt.mp newest
  · rename_i absent
    refine ⟨rfl, fun same => ?_⟩
    rw [absent] at same
    cases same

theorem reconcileFinding_ok
    (reconciled : reconcileFinding store finding recoveryThreshold input = .ok (next, result)) :
    Reconciled store finding recoveryThreshold input next result := by
  unfold reconcileFinding at reconciled
  split at reconciled
  · obtain ⟨policy, policyOk, reconciled⟩ := bind_ok reconciled
    obtain ⟨completed, completedOk, reconciled⟩ := bind_ok reconciled
    dsimp only at reconciled
    split at reconciled
    · cases reconciled
      exact .already rfl rfl
    · rename_i fresh
      have fresh : finding.hasReconciled (finding.latestWindow completed) = false := by simpa using fresh
      obtain ⟨same, newest⟩ := latestWindow_of_fresh fresh
      rw [same] at reconciled fresh
      unfold recordJudgement at reconciled
      split at reconciled
      · exact recordNonEvaluatedReconciliation_ok rfl reconciled
      · exact recordNonEvaluatedReconciliation_ok rfl reconciled
      · rename_i judgement judgementOk
        split at reconciled
        · exact recordUnhealthyWindow_ok rfl reconciled
        · rename_i sufficient
          split at reconciled
          · refine recordUnhealthyWindow_ok ?_ reconciled
            split <;> rfl
          · rename_i absent
            have healthy : judgement.insufficientData = false ∧ judgement.finding = none := by
              simpa using And.intro sufficient absent
            exact recordHealthyReconciliation_ok
              ⟨⟨policy, policyOk, completedOk, judgement, judgementOk, healthy⟩, newest, fresh⟩ reconciled
  · obtain ⟨window, -, reconciled⟩ := bind_ok reconciled
    exact recordNonEvaluatedReconciliation_ok rfl reconciled

end ReconcileFinding

/-- A reconciliation writes nothing, or its finding with the same identity; what is active was active. -/
theorem Reconciled.saved {store next : FindingStore} {finding : RuntimeFinding} {recoveryThreshold : Int}
    {input : Reconciliation} {result : ReconciliationFindingResult}
    (reconciled : Reconciled store finding recoveryThreshold input next result) :
    next = store ∨ ∃ updated, next = store.save updated ∧ updated.identity = finding.identity ∧
      (updated.isActive = true → finding.isActive = true) := by
  cases reconciled with
  | already => exact .inl rfl
  | reset recorded =>
    refine .inr ⟨_, rfl, ?_, ?_⟩
    · simp only [identity, recorded]
    · simp only [isActive, recorded, imp_self]
  | healthy _ recorded =>
    refine .inr ⟨_, rfl, ?_, ?_⟩
    · simp only [identity, recorded]
    · simp only [isActive, recorded, imp_self]
  | resolved _ _ recorded =>
    refine .inr ⟨_, rfl, ?_, ?_⟩
    · simp only [identity, recorded]
    · simp [isActive, recorded]

/-! ### Pages -/

section Pages

variable {recoveryThreshold : Int} {inputs : String → Reconciliation}

variable {finding : RuntimeFinding}

theorem pageKey_of_identity {next : RuntimeFinding} (same : next.identity = finding.identity) :
    pageKey next = pageKey finding := by
  have createdAt : next.record.createdAt = finding.record.createdAt :=
    congrArg RuntimeFinding.Identity.createdAt same
  simp only [pageKey, createdAt, findingId_of_identity same]

/-- Another finding's record is not touched. -/
theorem get?_of_reconciled {store next : FindingStore} {input : Reconciliation} {result : ReconciliationFindingResult}
    (reconciled : reconcileFinding store finding recoveryThreshold input = .ok (next, result)) {findingId : String}
    (other : findingId ≠ finding.record.findingId) : next.byId.get? findingId = store.byId.get? findingId := by
  obtain same | ⟨updated, same, kept, -⟩ := (reconcileFinding_ok reconciled).saved
  · rw [same]
  · rw [same, get?_save, if_neg]
    rw [findingId_of_identity kept]
    exact other

variable {items : List RuntimeFinding} {pass : Pass}

/-- The invariant rule for a page: its items are distinct and stored, and each is still as the page has it
when its turn comes. -/
theorem reconcileItems_invariant (invariant : FindingStore → List ReconciliationFindingResult → Prop)
    (step : ∀ {store outcomes finding next result}, invariant store outcomes → finding ∈ items →
      store.byId.get? finding.record.findingId = some finding → finding.record.lifecycle ≠ .caseReview →
      reconcileFinding store finding recoveryThreshold (inputs finding.record.findingId) = .ok (next, result) →
      invariant next (outcomes ++ [result]))
    (stored : ∀ item ∈ items, pass.store.byId.get? item.record.findingId = some item) (distinct : items.Nodup)
    (holds : invariant pass.store pass.outcomes) :
    invariant (reconcileItems recoveryThreshold inputs items pass).store
      (reconcileItems recoveryThreshold inputs items pass).outcomes := by
  induction items generalizing pass with
  | nil => exact holds
  | cons finding rest ih =>
    have current := stored finding (by simp)
    have later : ∀ {store outcomes item next result}, invariant store outcomes → item ∈ rest →
        store.byId.get? item.record.findingId = some item → item.record.lifecycle ≠ .caseReview →
        reconcileFinding store item recoveryThreshold (inputs item.record.findingId) = .ok (next, result) →
        invariant next (outcomes ++ [result]) :=
      fun before member => step before (List.mem_cons_of_mem _ member)
    unfold reconcileItems
    split
    · exact ih later (fun item member => stored item (List.mem_cons_of_mem _ member))
        distinct.of_cons holds
    · rename_i operational
      split
      · rename_i next result reconciled
        refine ih later (fun item member => ?_) distinct.of_cons
          (step holds (by simp) current operational reconciled)
        have itemStored := stored item (List.mem_cons_of_mem _ member)
        have other : item.record.findingId ≠ finding.record.findingId := by
          intro same
          rw [same, current] at itemStored
          cases itemStored
          exact (List.nodup_cons.mp distinct).1 member
        exact (get?_of_reconciled reconciled other).trans itemStored
      · exact holds

/-- A page of findings changes no key. -/
theorem pageKeys_reconcileItems (stored : ∀ item ∈ items, pass.store.byId.get? item.record.findingId = some item)
    (distinct : items.Nodup) :
    (reconcileItems recoveryThreshold inputs items pass).store.pageKeys = pass.store.pageKeys := by
  refine reconcileItems_invariant (fun store _ => store.pageKeys = pass.store.pageKeys) ?_ stored distinct rfl
  intro store outcomes finding next result keys _ current _ reconciled
  obtain rfl | ⟨updated, rfl, kept, -⟩ := (reconcileFinding_ok reconciled).saved
  · exact keys
  · rw [← findingId_of_identity kept] at current
    rw [pageKeys_save current (pageKey_of_identity kept), keys]

/-- What is stored after a page was stored before, or has the key of an item. -/
theorem stored_reconcileItems (stored : ∀ item ∈ items, pass.store.byId.get? item.record.findingId = some item)
    (distinct : items.Nodup)
    (present : (reconcileItems recoveryThreshold inputs items pass).store.byId.get? finding.record.findingId =
      some finding) :
    pass.store.byId.get? finding.record.findingId = some finding ∨
      ∃ item ∈ items, pageKey finding = pageKey item := by
  refine reconcileItems_invariant (fun store _ => ∀ {finding : RuntimeFinding},
    store.byId.get? finding.record.findingId = some finding →
      pass.store.byId.get? finding.record.findingId = some finding ∨
        ∃ item ∈ items, pageKey finding = pageKey item) ?_ stored distinct .inl present
  intro store outcomes item next result before member _ _ reconciled finding found
  obtain rfl | ⟨updated, rfl, kept, -⟩ := (reconcileFinding_ok reconciled).saved
  · exact before found
  · rw [get?_save] at found
    split at found
    · cases found
      exact .inr ⟨item, member, pageKey_of_identity kept⟩
    · exact before found

variable {organizationId : String} {projectId : Option String}

/-- The next page starts further down. -/
theorem reconcilePage_falls {state next : Pass × Option RuntimeFindingCursor}
    (continues : reconcilePage organizationId projectId recoveryThreshold inputs state = .inl next) :
    next.1.store.remaining next.2 < state.1.store.remaining state.2 := by
  unfold reconcilePage at continues
  dsimp only at continues
  split at continues
  · rename_i cursor _ ended
    cases continues
    obtain ⟨⟨item, member, rfl⟩, -⟩ := pageByStatus_cursor ended
    have found := mem_pageByStatus member
    refine remaining_lt ?_ (List.mem_map_of_mem (mem_values.mpr found.1)) found.2.2.2
    exact pageKeys_reconcileItems (fun _ listed => (mem_pageByStatus listed).1)
      nodup_pageByStatus
  · cases continues

/-- `reconcile_active_findings`. -/
def reconcileActiveFindings (store : FindingStore) (organizationId : String) (projectId : Option String)
    (recoveryThreshold : Int) (inputs : String → Reconciliation) : Pass :=
  Loop.complete (reconcilePage organizationId projectId recoveryThreshold inputs)
    (fun state => state.1.store.remaining state.2) reconcilePage_falls ({ store }, none)

/-- The invariant rule for a call: every finding it reconciles is open, operational, of the tenant, and
as it was when the call began. -/
theorem reconcileActiveFindings_invariant {start : FindingStore}
    (invariant : FindingStore → List ReconciliationFindingResult → Prop)
    (step : ∀ {store outcomes finding next result}, invariant store outcomes →
      start.byId.get? finding.record.findingId = some finding →
      store.byId.get? finding.record.findingId = some finding →
      inScope organizationId projectId finding = true → finding.record.status = .isOpen →
      finding.record.lifecycle ≠ .caseReview →
      reconcileFinding store finding recoveryThreshold (inputs finding.record.findingId) = .ok (next, result) →
      invariant next (outcomes ++ [result]))
    (holds : invariant start []) :
    invariant (reconcileActiveFindings start organizationId projectId recoveryThreshold inputs).store
      (reconcileActiveFindings start organizationId projectId recoveryThreshold inputs).outcomes := by
  -- A finding beyond the cursor has not been reached.
  let untouched (state : Pass × Option RuntimeFindingCursor) : Prop := ∀ {finding : RuntimeFinding},
    state.1.store.byId.get? finding.record.findingId = some finding →
      beyond state.2 (pageKey finding) = true →
      start.byId.get? finding.record.findingId = some finding
  have page : ∀ {state : Pass × Option RuntimeFindingCursor}, invariant state.1.store state.1.outcomes →
      untouched state →
      let pass := reconcileItems recoveryThreshold inputs
        (state.1.store.pageByStatus .isOpen organizationId projectId state.2 100).1 state.1
      invariant pass.store pass.outcomes := by
    intro state before fresh
    refine reconcileItems_invariant invariant ?_ (fun _ listed => (mem_pageByStatus listed).1)
      nodup_pageByStatus before
    intro store outcomes finding next result reached member current operational reconciled
    obtain ⟨stored, tenant, status, further⟩ := mem_pageByStatus member
    exact step reached (fresh stored further) current tenant status operational reconciled
  refine Loop.complete_invariant reconcilePage_falls
    (fun state => invariant state.1.store state.1.outcomes ∧ untouched state)
    (fun pass => invariant pass.store pass.outcomes) ?_ ?_ ⟨holds, fun present _ => present⟩
  · rintro state next ⟨before, fresh⟩ continues
    unfold reconcilePage at continues
    dsimp only at continues
    split at continues
    · rename_i cursor _ ended
      cases continues
      refine ⟨page before fresh, fun present further => ?_⟩
      obtain ⟨⟨reached, member, same⟩, notBeyond⟩ := pageByStatus_cursor ended
      obtain earlier | ⟨item, listed, key⟩ := stored_reconcileItems
        (fun _ listed => (mem_pageByStatus listed).1) nodup_pageByStatus present
      · refine fresh earlier (beyond_trans ?_ further)
        rw [← same]
        exact (mem_pageByStatus member).2.2.2
      · rw [key, notBeyond item listed] at further
        cases further
    · cases continues
  · rintro state result ⟨before, fresh⟩ ended
    unfold reconcilePage at ended
    dsimp only at ended
    split at ended
    · cases ended
    · cases ended
      exact page before fresh

end Pages

/-! ## Review -/

/-- The transition a review action names. -/
def RuntimeFinding.review (finding : RuntimeFinding) (action : FindingReviewAction) (actorId : String)
    (note : Option String) (now : Instant) : Except Raised RuntimeFinding :=
  match action with
  | .acknowledge => finding.acknowledge actorId note now
  | .close => finding.close actorId note now

/-- `review_case_finding`. -/
def reviewCaseFinding (store : FindingStore) (findingId : String) (action : FindingReviewAction) (actorId : String)
    (organizationId : String) (projectId note : Option String) (now : Instant) :
    Except Raised (FindingStore × RuntimeFinding) :=
  match store.get findingId organizationId projectId with
  | none => .error ⟨.valueError, "Finding '" ++ findingId ++ "' not found."⟩
  | some finding => do
      let reviewed ← finding.review action actorId note now
      return (store.save reviewed, reviewed)

end AiGovernance.Findings
