import AiGovernance.Repositories.RuntimeFindings

/-!
# The SQLite store of findings

`SQLiteRuntimeFindingRepository` over the `runtime_finding` table. A row has the
columns of the table: times are ISO text, enumerations their values, and a JSON
column the payload it was written from. The upsert overwrites the columns it
lists and no others, and the lookup by deduplication key takes the key apart at
its colons.
-/

namespace AiGovernance.Findings

open AiGovernance.Std Domain

/-! ## Values of enumerations -/

/-- `FindingSeverity.value`. -/
def FindingSeverity.value : FindingSeverity → String
  | .info => "INFO"
  | .low => "LOW"
  | .medium => "MEDIUM"
  | .high => "HIGH"
  | .critical => "CRITICAL"

/-- `FindingStatus.value`. -/
def FindingStatus.value : FindingStatus → String
  | .isOpen => "OPEN"
  | .resolved => "RESOLVED"
  | .acknowledged => "ACKNOWLEDGED"
  | .closed => "CLOSED"

/-- `FindingLifecycle.value`. -/
def FindingLifecycle.value : FindingLifecycle → String
  | .operational => "OPERATIONAL"
  | .caseReview => "CASE_REVIEW"

/-- `FindingReviewAction.value`. -/
def FindingReviewAction.value : FindingReviewAction → String
  | .acknowledge => "ACKNOWLEDGE"
  | .close => "CLOSE"

/-- `ReconciliationOutcome.value`. -/
def ReconciliationOutcome.value : ReconciliationOutcome → String
  | .healthyAwaiting => "HEALTHY_AWAITING"
  | .conditionPresent => "CONDITION_PRESENT"
  | .progressReset => "PROGRESS_RESET"
  | .insufficientData => "INSUFFICIENT_DATA"
  | .unsupported => "UNSUPPORTED"
  | .failed => "FAILED"
  | .resolved => "RESOLVED"
  | .alreadyReconciled => "ALREADY_RECONCILED"

/-- The member of an enumeration with a value. -/
def memberOf {Member : Type} (name : String) (members : List Member) (value : Member → String) (text : String) :
    Except Raised Member :=
  match members.find? fun member => value member = text with
  | some member => .ok member
  | none => .error ⟨.valueError, "'" ++ text ++ "' is not a valid " ++ name⟩

/-- `FindingSeverity(text)`. -/
def FindingSeverity.parse : String → Except Raised FindingSeverity :=
  memberOf "FindingSeverity" [.info, .low, .medium, .high, .critical] value

/-- `FindingStatus(text)`. -/
def FindingStatus.parse : String → Except Raised FindingStatus :=
  memberOf "FindingStatus" [.isOpen, .resolved, .acknowledged, .closed] value

/-- `FindingLifecycle(text)`. -/
def FindingLifecycle.parse : String → Except Raised FindingLifecycle :=
  memberOf "FindingLifecycle" [.operational, .caseReview] value

/-- `FindingReviewAction(text)`. -/
def FindingReviewAction.parse : String → Except Raised FindingReviewAction :=
  memberOf "FindingReviewAction" [.acknowledge, .close] value

/-- `ReconciliationOutcome(text)`. -/
def ReconciliationOutcome.parse : String → Except Raised ReconciliationOutcome :=
  memberOf "ReconciliationOutcome" [.healthyAwaiting, .conditionPresent, .progressReset, .insufficientData,
    .unsupported, .failed, .resolved, .alreadyReconciled] value

@[simp] theorem FindingSeverity.parse_value (member : FindingSeverity) : parse member.value = .ok member := by
  cases member <;> rfl

@[simp] theorem FindingStatus.parse_value (member : FindingStatus) : parse member.value = .ok member := by
  cases member <;> rfl

@[simp] theorem FindingReviewAction.parse_value (member : FindingReviewAction) : parse member.value = .ok member := by
  cases member <;> rfl

@[simp] theorem ReconciliationOutcome.parse_value (member : ReconciliationOutcome) :
    parse member.value = .ok member := by
  cases member <;> rfl

/-! ## Payloads -/

/-- `datetime.fromisoformat`, raising on other text. -/
def readInstant (text : String) : Except Raised Instant :=
  match Instant.fromisoformat text with
  | some instant => .ok instant
  | none => .error ⟨.valueError, "Invalid isoformat string: '" ++ text ++ "'"⟩

/-- A column or key that counts as absent when it is empty. -/
def readOptionalInstant : Option String → Except Raised (Option Instant)
  | none => .ok none
  | some text => if text = "" then .ok none else (readInstant text).map some

@[simp] theorem readInstant_isoformat (instant : Instant) : readInstant instant.isoformat = .ok instant := by
  simp only [readInstant, Instant.fromisoformat_isoformat]

@[simp] theorem readOptionalInstant_isoformat (instant : Option Instant) :
    readOptionalInstant (instant.map Instant.isoformat) = .ok instant := by
  cases instant with
  | none => rfl
  | some instant =>
    have written : instant.isoformat ≠ "" := by
      intro empty
      have read := Instant.fromisoformat_isoformat instant
      rw [empty] at read
      exact absurd read (by rw [show Instant.fromisoformat "" = none from by decide +kernel]; simp)
    simp [readOptionalInstant, written, Except.map]

/-- What `_window_to_payload` writes. -/
structure WindowPayload where
  observedStart : String
  observedEnd : String
  baselineStart : String
  baselineEnd : String
  finalizationCutoffAt : Option String
  latenessPolicyHours : Option Int
deriving DecidableEq

/-- `_window_to_payload`. -/
def windowToPayload (window : ReconciliationWindow) : WindowPayload where
  observedStart := window.record.observedStart.isoformat
  observedEnd := window.record.observedEnd.isoformat
  baselineStart := window.record.baselineStart.isoformat
  baselineEnd := window.record.baselineEnd.isoformat
  finalizationCutoffAt := window.record.finalizationCutoffAt.map Instant.isoformat
  latenessPolicyHours := window.record.latenessPolicyHours

/-- `_window_from_payload`. -/
def windowFromPayload (payload : WindowPayload) : Except Raised ReconciliationWindow := do
  let observedStart ← readInstant payload.observedStart
  let observedEnd ← readInstant payload.observedEnd
  let baselineStart ← readInstant payload.baselineStart
  let baselineEnd ← readInstant payload.baselineEnd
  let finalizationCutoffAt ← readOptionalInstant payload.finalizationCutoffAt
  Checked.create {
    observedStart, observedEnd, baselineStart, baselineEnd, finalizationCutoffAt
    latenessPolicyHours := payload.latenessPolicyHours }

@[simp] theorem windowFromPayload_windowToPayload (window : ReconciliationWindow) :
    windowFromPayload (windowToPayload window) = .ok window := by
  unfold windowFromPayload windowToPayload
  simp only [readInstant_isoformat, readOptionalInstant_isoformat]
  exact Checked.create_of_valid window.valid

/-- What `_record_to_payload` writes. -/
structure RecordPayload where
  window : WindowPayload
  outcome : String
  reconciledAt : String
  detail : Option String
deriving DecidableEq

/-- `_record_to_payload`. -/
def recordToPayload (record : ReconciliationRecord) : RecordPayload where
  window := windowToPayload record.window
  outcome := record.outcome.value
  reconciledAt := record.reconciledAt.isoformat
  detail := record.detail

/-- `_record_from_payload`. -/
def recordFromPayload (payload : RecordPayload) : Except Raised ReconciliationRecord := do
  let window ← windowFromPayload payload.window
  let outcome ← ReconciliationOutcome.parse payload.outcome
  let reconciledAt ← readInstant payload.reconciledAt
  return { window, outcome, reconciledAt, detail := payload.detail }

@[simp] theorem recordFromPayload_recordToPayload (record : ReconciliationRecord) :
    recordFromPayload (recordToPayload record) = .ok record := by
  unfold recordFromPayload recordToPayload
  simp only [windowFromPayload_windowToPayload, ReconciliationOutcome.parse_value, readInstant_isoformat]
  rfl

/-- What `_review_to_payload` writes. -/
structure ReviewPayload where
  action : String
  actorId : String
  reviewedAt : String
  note : Option String
deriving DecidableEq

/-- `_review_to_payload`. -/
def reviewToPayload (review : FindingReview) : ReviewPayload where
  action := review.record.action.value
  actorId := review.record.actorId
  reviewedAt := review.record.reviewedAt.isoformat
  note := review.record.note

/-- `_review_from_payload`. -/
def reviewFromPayload (payload : ReviewPayload) : Except Raised FindingReview := do
  let action ← FindingReviewAction.parse payload.action
  let reviewedAt ← readInstant payload.reviewedAt
  Checked.create { action, actorId := payload.actorId, reviewedAt, note := payload.note }

@[simp] theorem reviewFromPayload_reviewToPayload (review : FindingReview) :
    reviewFromPayload (reviewToPayload review) = .ok review := by
  unfold reviewFromPayload reviewToPayload
  simp only [FindingReviewAction.parse_value, readInstant_isoformat]
  exact Checked.create_of_valid review.valid

/-- Reading back every payload of a list, when each reads back. -/
theorem mapM_roundTrip {Value Payload : Type} {write : Value → Payload} {read : Payload → Except Raised Value}
    (roundTrip : ∀ value, read (write value) = .ok value) (values : List Value) :
    (values.map write).mapM read = .ok values := by
  induction values with
  | nil => rfl
  | cons value rest ih =>
    rw [List.map_cons, List.mapM_cons, roundTrip, ih]
    rfl

/-! ## Rows -/

/-- A row of `runtime_finding`. -/
structure FindingRow where
  findingId : String
  organizationId : String
  projectId : String
  findingType : String
  subjectType : String
  subjectId : String
  severity : String
  status : String
  lifecycle : String
  baselineWindow : String
  observationWindow : String
  baselineMetricsJson : List MetricSnapshot
  observedMetricsJson : List MetricSnapshot
  observationCount : Int
  consecutiveNormalWindows : Nat
  healthyReconciliationWindowsJson : List WindowPayload
  lastReconciliationJson : Option RecordPayload
  reviewsJson : List ReviewPayload
  evidenceReferencesJson : List EvidenceReference
  relatedExecutionIdsJson : List String
  detectorId : String
  detectorVersion : String
  firstDetectedAt : Option String
  lastDetectedAt : Option String
  resolvedAt : Option String
  createdAt : String
  updatedAt : String
deriving DecidableEq

/-- `PRIMARY KEY (organization_id, project_id, finding_id)`. -/
def FindingRow.primaryKey (row : FindingRow) : String × String × String :=
  (row.organizationId, row.projectId, row.findingId)

/-- `WHERE organization_id=? AND project_id=? AND finding_id=?`. -/
def FindingRow.hasKey (organizationId projectId findingId : String) (row : FindingRow) : Bool :=
  row.organizationId = organizationId && row.projectId = projectId && row.findingId = findingId

/-- `WHERE organization_id=? AND project_id=? AND finding_type=? AND subject_type=? AND subject_id=? AND
detector_version=?`. -/
def FindingRow.hasCondition (organizationId projectId findingType subjectType subjectId detectorVersion : String)
    (row : FindingRow) : Bool :=
  row.organizationId = organizationId && row.projectId = projectId && row.findingType = findingType &&
    row.subjectType = subjectType && row.subjectId = subjectId && row.detectorVersion = detectorVersion

/-- The values `save` inserts. -/
def rowOf (finding : RuntimeFinding) : FindingRow where
  findingId := finding.record.findingId
  organizationId := finding.record.organizationId
  projectId := finding.record.projectId.getD ""
  findingType := finding.record.findingType
  subjectType := finding.record.subjectType
  subjectId := finding.record.subjectId
  severity := finding.record.severity.value
  status := finding.record.status.value
  lifecycle := finding.record.lifecycle.value
  baselineWindow := finding.record.baselineWindow
  observationWindow := finding.record.observationWindow
  baselineMetricsJson := finding.record.baselineMetrics
  observedMetricsJson := finding.record.observedMetrics
  observationCount := finding.record.observationCount
  consecutiveNormalWindows := finding.record.consecutiveNormalWindows
  healthyReconciliationWindowsJson := finding.record.healthyReconciliationWindows.map windowToPayload
  lastReconciliationJson := finding.record.lastReconciliation.map recordToPayload
  reviewsJson := finding.record.reviews.map reviewToPayload
  evidenceReferencesJson := finding.record.evidenceReferences
  relatedExecutionIdsJson := finding.record.relatedExecutionIds
  detectorId := finding.record.detectorId
  detectorVersion := finding.record.detectorVersion
  firstDetectedAt := finding.record.firstDetectedAt.map Instant.isoformat
  lastDetectedAt := finding.record.lastDetectedAt.map Instant.isoformat
  resolvedAt := finding.record.resolvedAt.map Instant.isoformat
  createdAt := finding.record.createdAt.isoformat
  updatedAt := finding.record.updatedAt.isoformat

/-- `ON CONFLICT ... DO UPDATE SET`: the columns the statement lists. -/
def FindingRow.updateWith (row excluded : FindingRow) : FindingRow :=
  { row with
    status := excluded.status
    lifecycle := excluded.lifecycle
    severity := excluded.severity
    observedMetricsJson := excluded.observedMetricsJson
    observationCount := excluded.observationCount
    consecutiveNormalWindows := excluded.consecutiveNormalWindows
    healthyReconciliationWindowsJson := excluded.healthyReconciliationWindowsJson
    lastReconciliationJson := excluded.lastReconciliationJson
    reviewsJson := excluded.reviewsJson
    lastDetectedAt := excluded.lastDetectedAt
    updatedAt := excluded.updatedAt }

/-- A payload that cannot be read counts as the default. -/
def readOr {Value : Type} (default : Value) : Except Raised Value → Value
  | .ok value => value
  | .error _ => default

/-- The lifecycle of a row; rows from before the column was added name none. -/
def lifecycleOf (row : FindingRow) : Except Raised FindingLifecycle :=
  FindingLifecycle.parse (if row.lifecycle ≠ "" then row.lifecycle
    else if row.detectorId = "causal_audit" then "CASE_REVIEW" else "OPERATIONAL")

/-- `_finding_from_row`. -/
def findingFromRow (row : FindingRow) : Except Raised RuntimeFinding := do
  let healthyWindows := readOr [] (row.healthyReconciliationWindowsJson.mapM windowFromPayload)
  let lastReconciliation := readOr none
    (match row.lastReconciliationJson with
    | some payload => (recordFromPayload payload).map some
    | none => .ok none)
  let reviews := readOr [] (row.reviewsJson.mapM reviewFromPayload)
  let lifecycle ← lifecycleOf row
  let severity ← FindingSeverity.parse row.severity
  let status ← FindingStatus.parse row.status
  let firstDetectedAt ← readOptionalInstant row.firstDetectedAt
  let lastDetectedAt ← readOptionalInstant row.lastDetectedAt
  let resolvedAt ← readOptionalInstant row.resolvedAt
  let createdAt ← readInstant row.createdAt
  let updatedAt ← readInstant row.updatedAt
  RuntimeFinding.create {
    findingId := row.findingId
    organizationId := row.organizationId
    projectId := if row.projectId = "" then none else some row.projectId
    findingType := row.findingType
    subjectType := row.subjectType
    subjectId := row.subjectId
    severity, status, lifecycle
    baselineWindow := row.baselineWindow
    observationWindow := row.observationWindow
    baselineMetrics := row.baselineMetricsJson
    observedMetrics := row.observedMetricsJson
    observationCount := row.observationCount
    consecutiveNormalWindows :=
      if healthyWindows.isEmpty then row.consecutiveNormalWindows else healthyWindows.length
    healthyReconciliationWindows := healthyWindows
    lastReconciliation, reviews
    evidenceReferences := row.evidenceReferencesJson
    relatedExecutionIds := row.relatedExecutionIdsJson
    detectorId := row.detectorId
    detectorVersion := row.detectorVersion
    firstDetectedAt, lastDetectedAt, resolvedAt, createdAt, updatedAt }

theorem findingFromRow_rowOf {finding : RuntimeFinding} (named : finding.record.projectId ≠ some "") :
    findingFromRow (rowOf finding) = .ok finding := by
  have windows : readOr [] ((rowOf finding).healthyReconciliationWindowsJson.mapM windowFromPayload) =
      finding.record.healthyReconciliationWindows := by
    rw [rowOf, mapM_roundTrip windowFromPayload_windowToPayload]
    rfl
  have reviews : readOr [] ((rowOf finding).reviewsJson.mapM reviewFromPayload) = finding.record.reviews := by
    rw [rowOf, mapM_roundTrip reviewFromPayload_reviewToPayload]
    rfl
  have last : readOr none
      (match (rowOf finding).lastReconciliationJson with
      | some payload => (recordFromPayload payload).map some
      | none => .ok none) = finding.record.lastReconciliation := by
    unfold rowOf
    cases finding.record.lastReconciliation with
    | none => rfl
    | some record =>
      simp only [Option.map_some, recordFromPayload_recordToPayload]
      rfl
  have lifecycle : lifecycleOf (rowOf finding) = .ok finding.record.lifecycle := by
    unfold lifecycleOf rowOf
    cases finding.record.lifecycle <;> rfl
  have project : (if (rowOf finding).projectId = "" then none else some (rowOf finding).projectId) =
      finding.record.projectId := by
    unfold rowOf
    cases given : finding.record.projectId with
    | none => rfl
    | some project =>
      have present : project ≠ "" := fun empty => named (by rw [given, empty])
      simp [present]
  -- Retained windows are counted, by the construction check.
  have counted : (if finding.record.healthyReconciliationWindows.isEmpty then (rowOf finding).consecutiveNormalWindows
      else finding.record.healthyReconciliationWindows.length) = finding.record.consecutiveNormalWindows := by
    split
    · rfl
    · rename_i retained
      exact (finding.consecutiveNormalWindows_eq (by simpa using retained)).symm
  unfold findingFromRow
  simp only [windows, reviews, last, lifecycle, project, counted]
  simp only [rowOf, FindingSeverity.parse_value, FindingStatus.parse_value, readOptionalInstant_isoformat,
    readInstant_isoformat]
  exact finding.create_record

/-! ## The table -/

/-- The rows of `runtime_finding` by primary key. -/
structure FindingTable where
  rows : Dict (String × String × String) FindingRow
  keyed : ∀ {key row}, rows.get? key = some row → row.primaryKey = key

namespace FindingTable

/-- The empty table. -/
def empty : FindingTable := ⟨.empty, by simp⟩

/-- The row the upsert leaves. -/
def upserted (table : FindingTable) (excluded : FindingRow) : FindingRow :=
  match table.rows.get? excluded.primaryKey with
  | some row => row.updateWith excluded
  | none => excluded

/-- `save`. -/
def save (table : FindingTable) (finding : RuntimeFinding) : FindingTable where
  rows := table.rows.set (rowOf finding).primaryKey (table.upserted (rowOf finding))
  keyed := by
    intro key row found
    rw [Dict.get?_set] at found
    split at found
    · rename_i same
      cases found
      unfold upserted
      split
      · rename_i old present
        rw [same, ← table.keyed present]
        rfl
      · exact same.symm
    · exact table.keyed found

/-- Read the row a statement fetched, if any. -/
def fetch : Option FindingRow → Except Raised (Option RuntimeFinding)
  | none => .ok none
  | some row => (findingFromRow row).map some

/-- `get`. -/
def get (table : FindingTable) (findingId organizationId : String) (projectId : Option String) :
    Except Raised (Option RuntimeFinding) :=
  fetch (table.rows.values.find? (FindingRow.hasKey organizationId (projectId.getD "") findingId))

/-- `find_by_dedup_key`; a key with fewer than six parts names nothing. -/
def findByDedupKey (table : FindingTable) (dedupKey organizationId : String) (projectId : Option String) :
    Except Raised (Option RuntimeFinding) :=
  match Text.split ':' dedupKey with
  | findingType :: _ :: _ :: subjectType :: subjectId :: detectorVersion :: _ =>
    fetch (table.rows.values.find? (FindingRow.hasCondition organizationId (projectId.getD "") findingType subjectType
      subjectId detectorVersion))
  | _ => .ok none

end FindingTable

end AiGovernance.Findings
