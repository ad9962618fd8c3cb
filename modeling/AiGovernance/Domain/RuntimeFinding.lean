import AiGovernance.Domain.Errors
import AiGovernance.Std.Instant
import AiGovernance.Std.Text

/-!
# Runtime findings

The finding aggregate, its reconciliation windows and its transitions
(`domain/runtime_findings/finding.py`), and the policy that says when a window is
final (`domain/runtime_findings/evidence_window.py`). Metric values are the
numbers the floats stand for.
-/

namespace AiGovernance.Findings

open AiGovernance.Std Domain

/-- How severe a finding is. -/
inductive FindingSeverity where
  | info
  | low
  | medium
  | high
  | critical
deriving DecidableEq

/-- Where a finding stands. -/
inductive FindingStatus where
  | isOpen
  | resolved
  | acknowledged
  | closed
deriving DecidableEq

/-- How a finding reaches a terminal state. -/
inductive FindingLifecycle where
  | operational
  | caseReview
deriving DecidableEq

/-- What a reviewer does. -/
inductive FindingReviewAction where
  | acknowledge
  | close
deriving DecidableEq

/-- Result of reconciling one completed observation window. -/
inductive ReconciliationOutcome where
  | healthyAwaiting
  | conditionPresent
  | progressReset
  | insufficientData
  | unsupported
  | failed
  | resolved
  | alreadyReconciled
deriving DecidableEq

/-- One metric of a finding. -/
structure MetricSnapshot where
  name : String
  value : Rat
  sampleSize : Int
deriving DecidableEq

/-- One piece of evidence of a finding. -/
structure EvidenceReference where
  kind : String
  value : String
deriving DecidableEq

/-! ## Windows -/

/-- The fields of `ReconciliationWindow`. -/
structure ReconciliationWindowRecord where
  observedStart : Instant
  observedEnd : Instant
  baselineStart : Instant
  baselineEnd : Instant
  finalizationCutoffAt : Option Instant := none
  latenessPolicyHours : Option Int := none
deriving DecidableEq

/-- `ReconciliationWindow.__post_init__`. -/
def ReconciliationWindowRecord.violation (record : ReconciliationWindowRecord) : Option Raised :=
  firstViolation [
    rejectIf (record.observedEnd ≤ record.observedStart) .valueError
      "A reconciliation observation window must have positive duration.",
    rejectIf (record.baselineEnd ≤ record.baselineStart) .valueError
      "A reconciliation baseline window must have positive duration.",
    rejectIf (record.baselineEnd ≠ record.observedStart) .valueError
      "A reconciliation baseline must end when observation begins.",
    rejectIf (record.finalizationCutoffAt.isNone ≠ record.latenessPolicyHours.isNone) .valueError
      "A reconciliation finalization cutoff and lateness policy must be recorded together.",
    rejectIf (record.finalizationCutoffAt.any (· < record.observedEnd)) .valueError
      "A reconciliation finalization cutoff cannot precede observation end.",
    rejectIf (record.latenessPolicyHours.any (· < 0)) .valueError
      "A reconciliation lateness policy must be non-negative."]

/-- A closed, deterministic evidence window used for recovery progress. -/
abbrev ReconciliationWindow := Checked ReconciliationWindowRecord.violation

/-- `same_evidence_window`. -/
def ReconciliationWindowRecord.sameEvidenceWindow (left right : ReconciliationWindowRecord) : Bool :=
  left.observedStart = right.observedStart && left.observedEnd = right.observedEnd &&
    left.baselineStart = right.baselineStart && left.baselineEnd = right.baselineEnd

/-- The latest durable reconciliation result and its source window. -/
structure ReconciliationRecord where
  window : ReconciliationWindow
  outcome : ReconciliationOutcome
  reconciledAt : Instant
  detail : Option String := none
deriving DecidableEq

/-- `EvidenceWindowFinalizationPolicy`: how many hours late evidence may be. -/
structure EvidenceWindowFinalizationPolicy where
  allowedLatenessHours : Nat
  bounded : allowedLatenessHours ≤ 168
deriving DecidableEq

namespace EvidenceWindowFinalizationPolicy

/-- The construction check. -/
def create (hours : Int) : Except Raised EvidenceWindowFinalizationPolicy :=
  if within : 0 ≤ hours ∧ hours ≤ 168 then .ok ⟨hours.toNat, by omega⟩
  else .error ⟨.valueError, "allowed_lateness_hours must be between 0 and 168."⟩

/-- `finalizes_at`. -/
def finalizesAt (policy : EvidenceWindowFinalizationPolicy) (windowEnd : Instant) : Instant :=
  windowEnd.add (policy.allowedLatenessHours * Instant.hour)

/-- `is_finalized`. -/
def isFinalized (policy : EvidenceWindowFinalizationPolicy) (windowEnd now : Instant) : Bool :=
  policy.finalizesAt windowEnd ≤ now

end EvidenceWindowFinalizationPolicy

/-! ## Findings -/

/-- The fields of `FindingReview`. -/
structure FindingReviewRecord where
  action : FindingReviewAction
  actorId : String
  reviewedAt : Instant
  note : Option String := none
deriving DecidableEq

/-- `FindingReview.__post_init__`. -/
def FindingReviewRecord.violation (record : FindingReviewRecord) : Option Raised :=
  firstViolation [
    rejectIf (Text.isBlank record.actorId) .valueError "A finding review requires an actor.",
    rejectIf (record.note.any fun note => 2000 < (Text.strip note).length) .valueError
      "A finding review note must not exceed 2,000 characters."]

/-- A human review of a finding. -/
abbrev FindingReview := Checked FindingReviewRecord.violation

/-- The fields of `RuntimeFinding`. -/
structure RuntimeFindingRecord where
  findingId : String
  organizationId : String
  projectId : Option String := none
  findingType : String
  subjectType : String
  subjectId : String
  severity : FindingSeverity := .info
  status : FindingStatus := .isOpen
  lifecycle : FindingLifecycle := .operational
  baselineWindow : String := "7d"
  observationWindow : String := "24h"
  baselineMetrics : List MetricSnapshot := []
  observedMetrics : List MetricSnapshot := []
  observationCount : Int := 0
  consecutiveNormalWindows : Nat := 0
  healthyReconciliationWindows : List ReconciliationWindow := []
  lastReconciliation : Option ReconciliationRecord := none
  reviews : List FindingReview := []
  evidenceReferences : List EvidenceReference := []
  relatedExecutionIds : List String := []
  detectorId : String
  detectorVersion : String := "1"
  firstDetectedAt : Option Instant := none
  lastDetectedAt : Option Instant := none
  resolvedAt : Option Instant := none
  createdAt : Instant
  updatedAt : Instant
deriving DecidableEq

/-- The statuses of a lifecycle. -/
def FindingLifecycle.allows : FindingLifecycle → FindingStatus → Bool
  | .operational, status => status = .isOpen || status = .resolved
  | .caseReview, status => status = .isOpen || status = .acknowledged || status = .closed

/-- The checks of `RuntimeFinding.__post_init__`. -/
def RuntimeFindingRecord.violation (record : RuntimeFindingRecord) : Option Raised :=
  firstViolation [
    rejectIf (Text.isBlank record.findingId) .valueError "finding_id must not be empty.",
    rejectIf (Text.isBlank record.organizationId) .valueError "organization_id must not be empty.",
    rejectIf (Text.isBlank record.findingType) .valueError "finding_type must not be empty.",
    rejectIf (Text.isBlank record.subjectId) .valueError "subject_id must not be empty.",
    rejectIf (Text.isBlank record.detectorId) .valueError "detector_id must not be empty.",
    rejectIf (!record.healthyReconciliationWindows.isEmpty &&
        record.consecutiveNormalWindows ≠ record.healthyReconciliationWindows.length) .valueError
      "consecutive_normal_windows must equal retained healthy reconciliation windows.",
    rejectIf (record.lifecycle = .operational && !record.lifecycle.allows record.status) .valueError
      "Operational findings cannot use case-review statuses.",
    rejectIf (record.lifecycle = .caseReview && !record.lifecycle.allows record.status) .valueError
      "Case-review findings cannot use operational resolution.",
    rejectIf (!record.reviews.isEmpty && record.lifecycle ≠ .caseReview) .valueError
      "Only case-review findings can have review records."]

/-- A durable, deterministic observation about agent runtime behaviour: the checks hold, and at most
twenty executions and reviews are kept. -/
structure RuntimeFinding where
  record : RuntimeFindingRecord
  valid : record.violation = none
  fewExecutions : record.relatedExecutionIds.length ≤ 20
  fewReviews : record.reviews.length ≤ 20

namespace RuntimeFinding

@[ext] theorem ext {left right : RuntimeFinding} (equal : left.record = right.record) : left = right := by
  cases left
  cases right
  cases equal
  rfl

instance : DecidableEq RuntimeFinding := fun left right =>
  decidable_of_iff (left.record = right.record) ⟨ext, fun equal => congrArg record equal⟩

/-- The lists a finding keeps: the first twenty executions, the last twenty reviews. -/
def bounded (record : RuntimeFindingRecord) : RuntimeFindingRecord :=
  { record with
    relatedExecutionIds := record.relatedExecutionIds.take 20
    reviews := record.reviews.drop (record.reviews.length - 20) }

theorem violation_bounded (record : RuntimeFindingRecord) : (bounded record).violation = record.violation := by
  have reviews : (record.reviews.drop (record.reviews.length - 20)).isEmpty = record.reviews.isEmpty := by
    cases record.reviews with
    | nil => rfl
    | cons review rest =>
      have shorter : rest.length + 1 - 20 < rest.length + 1 := by omega
      simpa using shorter
  unfold RuntimeFindingRecord.violation bounded
  simp only [reviews]

/-- `__post_init__`: the checks, then the bounds on the lists. -/
def create (record : RuntimeFindingRecord) : Except Raised RuntimeFinding :=
  match valid : record.violation with
  | none => .ok {
      record := bounded record
      valid := (violation_bounded record).trans valid
      fewExecutions := by simp [bounded]
      fewReviews := by simp only [bounded, List.length_drop]; omega }
  | some raised => .error raised

variable {finding : RuntimeFinding}

theorem create_ok {record : RuntimeFindingRecord} (created : create record = .ok finding) :
    finding.record = bounded record := by
  unfold create at created
  split at created
  · cases created
    rfl
  · cases created

theorem create_of_valid {record : RuntimeFindingRecord} (valid : record.violation = none) :
    ∃ finding, create record = .ok finding := by
  unfold create
  split
  · exact ⟨_, rfl⟩
  · rename_i raised violated
    rw [valid] at violated
    cases violated

/-- `is_active`. -/
def isActive (finding : RuntimeFinding) : Bool :=
  finding.record.status = .isOpen || finding.record.status = .acknowledged

/-- `deduplication_key`. -/
def deduplicationKey (finding : RuntimeFinding) : String :=
  finding.record.findingType ++ ":" ++ finding.record.organizationId ++ ":" ++ finding.record.projectId.getD "" ++
    ":" ++ finding.record.subjectType ++ ":" ++ finding.record.subjectId ++ ":" ++ finding.record.detectorVersion

/-! ### Transitions -/

/-- `mark_resolved`. -/
def markResolved (finding : RuntimeFinding) (now : Instant) : Except Raised RuntimeFinding :=
  if finding.record.lifecycle ≠ .operational then
    .error ⟨.valueError, "Case-review findings must be closed by review, not reconciliation."⟩
  else create { finding.record with status := .resolved, resolvedAt := some now, updatedAt := now }

/-- `update_observation`. -/
def updateObservation (finding : RuntimeFinding) (now : Instant) : Except Raised RuntimeFinding :=
  create { finding.record with
    status := .isOpen
    consecutiveNormalWindows := 0
    healthyReconciliationWindows := []
    firstDetectedAt := some (finding.record.firstDetectedAt.getD now)
    lastDetectedAt := some now
    resolvedAt := none
    updatedAt := now }

/-- The review a finding is given. -/
def reviewed (finding : RuntimeFinding) (status : FindingStatus) (action : FindingReviewAction) (actorId : String)
    (note : Option String) (now : Instant) : Except Raised RuntimeFinding := do
  let review ← (Checked.create { action, actorId, reviewedAt := now, note } : Except Raised FindingReview)
  create { finding.record with status, reviews := finding.record.reviews ++ [review], updatedAt := now }

/-- `acknowledge`. -/
def acknowledge (finding : RuntimeFinding) (actorId : String) (note : Option String) (now : Instant) :
    Except Raised RuntimeFinding :=
  if finding.record.lifecycle ≠ .caseReview then
    .error ⟨.valueError, "Only case-review findings can be acknowledged."⟩
  else if finding.record.status ≠ .isOpen then
    .error ⟨.valueError, "Only open case-review findings can be acknowledged."⟩
  else finding.reviewed .acknowledged .acknowledge actorId note now

/-- `close`. -/
def close (finding : RuntimeFinding) (actorId : String) (note : Option String) (now : Instant) :
    Except Raised RuntimeFinding :=
  if finding.record.lifecycle ≠ .caseReview then
    .error ⟨.valueError, "Only case-review findings can be closed by review."⟩
  else if ¬ (finding.record.status = .isOpen ∨ finding.record.status = .acknowledged) then
    .error ⟨.valueError, "Only open or acknowledged case-review findings can be closed."⟩
  else finding.reviewed .closed .close actorId note now

/-- The window of the last reconciliation is this one. -/
def hasReconciled (finding : RuntimeFinding) (window : ReconciliationWindow) : Bool :=
  finding.record.lastReconciliation.any (·.window.record.sameEvidenceWindow window.record)

/-- The healthy windows a new one follows; an old counter without windows proves nothing. -/
def healthySequence (finding : RuntimeFinding) : List ReconciliationWindow :=
  if finding.record.healthyReconciliationWindows.length = finding.record.consecutiveNormalWindows then
    finding.record.healthyReconciliationWindows
  else []

/-- `record_healthy_window`. -/
def recordHealthyWindow (finding : RuntimeFinding) (window : ReconciliationWindow) (now : Instant) :
    Except Raised RuntimeFinding :=
  if finding.hasReconciled window then .error ⟨.valueError, "The reconciliation window was already recorded."⟩
  else
    let windows := finding.healthySequence ++ [window]
    create { finding.record with
      consecutiveNormalWindows := windows.length
      healthyReconciliationWindows := windows
      lastReconciliation := some ⟨window, .healthyAwaiting, now, none⟩
      updatedAt := now }

/-- `record_reconciliation_outcome`. -/
def recordReconciliationOutcome (finding : RuntimeFinding) (window : ReconciliationWindow)
    (outcome : ReconciliationOutcome) (now : Instant) (detail : Option String) (resetProgress : Bool) :
    Except Raised RuntimeFinding :=
  if finding.hasReconciled window then .error ⟨.valueError, "The reconciliation window was already recorded."⟩
  else
    create { finding.record with
      consecutiveNormalWindows := if resetProgress then 0 else finding.record.consecutiveNormalWindows
      healthyReconciliationWindows := if resetProgress then [] else finding.record.healthyReconciliationWindows
      lastReconciliation := some ⟨window, outcome, now, detail⟩
      lastDetectedAt :=
        if outcome = .conditionPresent ∨ outcome = .progressReset then some now else finding.record.lastDetectedAt
      updatedAt := now }

/-! ### What a transition keeps -/

/-- The fields no transition changes. -/
structure Identity where
  findingId : String
  organizationId : String
  projectId : Option String
  findingType : String
  subjectType : String
  subjectId : String
  lifecycle : FindingLifecycle
  severity : FindingSeverity
  baselineWindow : String
  observationWindow : String
  baselineMetrics : List MetricSnapshot
  observedMetrics : List MetricSnapshot
  observationCount : Int
  evidenceReferences : List EvidenceReference
  relatedExecutionIds : List String
  detectorId : String
  detectorVersion : String
  createdAt : Instant
deriving DecidableEq

/-- The fields of a finding that stay. -/
def identity (finding : RuntimeFinding) : Identity where
  findingId := finding.record.findingId
  organizationId := finding.record.organizationId
  projectId := finding.record.projectId
  findingType := finding.record.findingType
  subjectType := finding.record.subjectType
  subjectId := finding.record.subjectId
  lifecycle := finding.record.lifecycle
  severity := finding.record.severity
  baselineWindow := finding.record.baselineWindow
  observationWindow := finding.record.observationWindow
  baselineMetrics := finding.record.baselineMetrics
  observedMetrics := finding.record.observedMetrics
  observationCount := finding.record.observationCount
  evidenceReferences := finding.record.evidenceReferences
  relatedExecutionIds := finding.record.relatedExecutionIds
  detectorId := finding.record.detectorId
  detectorVersion := finding.record.detectorVersion
  createdAt := finding.record.createdAt

theorem deduplicationKey_of_identity {next : RuntimeFinding} (same : next.identity = finding.identity) :
    next.deduplicationKey = finding.deduplicationKey := by
  simp only [identity, Identity.mk.injEq] at same
  obtain ⟨-, organization, project, findingType, subjectType, subjectId, -, -, -, -, -, -, -, -, -, -, version, -⟩ := same
  simp only [deduplicationKey, organization, project, findingType, subjectType, subjectId, version]

theorem findingId_of_identity {next : RuntimeFinding} (same : next.identity = finding.identity) :
    next.record.findingId = finding.record.findingId := congrArg Identity.findingId same

variable {finding next : RuntimeFinding} {window : ReconciliationWindow} {now : Instant}

theorem take_relatedExecutionIds : finding.record.relatedExecutionIds.take 20 = finding.record.relatedExecutionIds :=
  List.take_of_length_le finding.fewExecutions

theorem drop_reviews : finding.record.reviews.drop (finding.record.reviews.length - 20) = finding.record.reviews := by
  rw [Nat.sub_eq_zero_of_le finding.fewReviews, List.drop_zero]

theorem create_record (finding : RuntimeFinding) : create finding.record = .ok finding := by
  obtain ⟨same, created⟩ := create_of_valid finding.valid
  have equal : same.record = finding.record := by
    rw [create_ok created]
    simp only [bounded, take_relatedExecutionIds, drop_reviews]
  rw [created, ext equal]

theorem consecutiveNormalWindows_eq (finding : RuntimeFinding)
    (retained : finding.record.healthyReconciliationWindows ≠ []) :
    finding.record.consecutiveNormalWindows = finding.record.healthyReconciliationWindows.length := by
  have valid := finding.valid
  unfold RuntimeFindingRecord.violation at valid
  simp only [firstViolation_eq_none, List.forall_mem_cons, rejectIf_eq_none] at valid
  obtain ⟨-, -, -, -, -, counted, -⟩ := valid
  simpa [retained] using counted

theorem markResolved_ok (marked : finding.markResolved now = .ok next) :
    finding.record.lifecycle = .operational ∧
      next.record = { finding.record with status := .resolved, resolvedAt := some now, updatedAt := now } := by
  unfold markResolved at marked
  split at marked
  · cases marked
  · rename_i operational
    refine ⟨not_not.mp operational, ?_⟩
    rw [create_ok marked]
    simp only [bounded, take_relatedExecutionIds, drop_reviews]

theorem updateObservation_ok (updated : finding.updateObservation now = .ok next) :
    next.record = { finding.record with
      status := .isOpen
      consecutiveNormalWindows := 0
      healthyReconciliationWindows := []
      firstDetectedAt := some (finding.record.firstDetectedAt.getD now)
      lastDetectedAt := some now
      resolvedAt := none
      updatedAt := now } := by
  rw [create_ok updated]
  simp only [bounded, take_relatedExecutionIds, drop_reviews]

theorem updateObservation_succeeds (finding : RuntimeFinding) (now : Instant) :
    ∃ next, finding.updateObservation now = .ok next := by
  refine create_of_valid ?_
  have valid := finding.valid
  unfold RuntimeFindingRecord.violation at valid ⊢
  simp only [firstViolation_eq_none, List.forall_mem_cons, rejectIf_eq_none] at valid ⊢
  obtain ⟨findingId, organizationId, findingType, subjectId, detectorId, -, -, -, reviews, rest⟩ := valid
  refine ⟨findingId, organizationId, findingType, subjectId, detectorId, rfl, ?_, ?_, reviews, rest⟩
  · cases finding.record.lifecycle <;> rfl
  · cases finding.record.lifecycle <;> rfl

theorem recordHealthyWindow_ok (recorded : finding.recordHealthyWindow window now = .ok next) :
    finding.hasReconciled window = false ∧
      next.record = { finding.record with
        consecutiveNormalWindows := (finding.healthySequence ++ [window]).length
        healthyReconciliationWindows := finding.healthySequence ++ [window]
        lastReconciliation := some ⟨window, .healthyAwaiting, now, none⟩
        updatedAt := now } := by
  unfold recordHealthyWindow at recorded
  split at recorded
  · cases recorded
  · rename_i fresh
    refine ⟨by simpa using fresh, ?_⟩
    rw [create_ok recorded]
    simp only [bounded, take_relatedExecutionIds, drop_reviews]

theorem recordReconciliationOutcome_ok {outcome : ReconciliationOutcome} {detail : Option String}
    (recorded : finding.recordReconciliationOutcome window outcome now detail true = .ok next) :
    finding.hasReconciled window = false ∧
      next.record = { finding.record with
        consecutiveNormalWindows := 0
        healthyReconciliationWindows := []
        lastReconciliation := some ⟨window, outcome, now, detail⟩
        lastDetectedAt :=
          if outcome = .conditionPresent ∨ outcome = .progressReset then some now else finding.record.lastDetectedAt
        updatedAt := now } := by
  unfold recordReconciliationOutcome at recorded
  split at recorded
  · cases recorded
  · rename_i fresh
    refine ⟨by simpa using fresh, ?_⟩
    rw [create_ok recorded]
    simp only [bounded, take_relatedExecutionIds, drop_reviews, if_true]

variable {actorId : String} {note : Option String}

theorem reviewed_ok {status : FindingStatus} {action : FindingReviewAction}
    (given : finding.reviewed status action actorId note now = .ok next) :
    ∃ reviews, next.record = { finding.record with status, reviews, updatedAt := now } := by
  unfold reviewed at given
  obtain ⟨review, -, created⟩ := bind_ok given
  refine ⟨(finding.record.reviews ++ [review]).drop ((finding.record.reviews ++ [review]).length - 20), ?_⟩
  rw [create_ok created]
  simp only [bounded, take_relatedExecutionIds]

/-- A review closes or acknowledges a case-review finding that is active. -/
theorem acknowledge_ok (given : finding.acknowledge actorId note now = .ok next) :
    finding.record.lifecycle = .caseReview ∧ finding.record.status = .isOpen ∧
      ∃ reviews, next.record = { finding.record with status := .acknowledged, reviews, updatedAt := now } := by
  unfold acknowledge at given
  split at given
  · cases given
  · rename_i lifecycle
    split at given
    · cases given
    · rename_i active
      exact ⟨not_not.mp lifecycle, not_not.mp active, reviewed_ok given⟩

theorem close_ok (given : finding.close actorId note now = .ok next) :
    finding.record.lifecycle = .caseReview ∧
      ∃ reviews, next.record = { finding.record with status := .closed, reviews, updatedAt := now } := by
  unfold close at given
  split at given
  · cases given
  · rename_i lifecycle
    split at given
    · cases given
    · exact ⟨not_not.mp lifecycle, reviewed_ok given⟩

end RuntimeFinding

end AiGovernance.Findings
