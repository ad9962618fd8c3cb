import AiGovernance.Repositories.ReplayResults

/-!
# The SQLite replay result repository

`list` of `SQLiteReplayResultRepository` over the table `replay_result`, and
`ReplayResultPersistenceMapper`. A JSON column holds the document it parses to;
`created_at` is the text of the time, and is compared and sorted as text.
-/

namespace AiGovernance.Replays

open AiGovernance.Std Domain

/-- A row of `replay_result`. -/
structure ReplayResultRow where
  resultId : String
  replayId : String
  sourceExecutionId : String
  replayExecutionId : String
  baselineEvaluationId : String
  replayEvaluationId : String
  comparisonId : String
  driftId : String
  baselineStrategy : String
  comparisonSummaryJson : List (String × Json)
  driftSummaryJson : List (String × Json)
  organizationId : String
  projectId : String
  createdAt : Instant.Stamp
  metadataJson : List (String × Json)

/-! ## The mapper -/

namespace ReplayResultPersistenceMapper

/-- `comparison_summary.__dict__`. -/
def comparisonDocument (summary : ReplayComparisonSummary) : List (String × Json) :=
  [("metric_count", .int summary.metricCount), ("improved_metric_count", .int summary.improvedMetricCount),
    ("regressed_metric_count", .int summary.regressedMetricCount),
    ("unchanged_metric_count", .int summary.unchangedMetricCount), ("new_metric_count", .int summary.newMetricCount),
    ("removed_metric_count", .int summary.removedMetricCount),
    ("overall_score_delta", (summary.overallScoreDelta.map .float).getD .null)]

/-- The document of a drift summary. -/
def driftDocument (summary : ReplayDriftSummary) : List (String × Json) :=
  [("severity", .str summary.severity), ("changed_metrics", .arr (summary.changedMetrics.map .str)),
    ("new_metrics", .arr (summary.newMetrics.map .str)), ("removed_metrics", .arr (summary.removedMetrics.map .str)),
    ("analyzer_version", .str summary.analyzerVersion), ("threshold_policy", .obj summary.thresholdPolicy)]

/-- `to_persistence_record`. -/
def toPersistenceRecord (result : ReplayResult) : ReplayResultRow where
  resultId := result.record.resultId
  replayId := result.record.replayId
  sourceExecutionId := result.record.sourceExecutionId
  replayExecutionId := result.record.replayExecutionId
  baselineEvaluationId := result.record.baselineEvaluationId
  replayEvaluationId := result.record.replayEvaluationId
  comparisonId := result.record.comparisonId
  driftId := result.record.driftId
  baselineStrategy := result.record.baselineStrategy
  comparisonSummaryJson := comparisonDocument result.record.comparisonSummary
  driftSummaryJson := driftDocument result.record.driftSummary
  organizationId := result.record.organizationId
  projectId := result.record.projectId
  createdAt := result.record.createdAt
  metadataJson := result.record.metadata

/-- A value of a document; an absent one is a `KeyError`. -/
def valueOf (document : List (String × Json)) (name : String) : Except Raised Json :=
  match Json.field document name with
  | none => .error ⟨.keyError, name⟩
  | some value => .ok value

/-- A number of a document. -/
def countOf (document : List (String × Json)) (name : String) : Except Raised Int := do
  match ← valueOf document name with
  | .int value => .ok value
  | _ => .error ⟨.typeError, name⟩

/-- A text of a document. -/
def textOf (document : List (String × Json)) (name : String) : Except Raised String := do
  match ← valueOf document name with
  | .str value => .ok value
  | _ => .error ⟨.typeError, name⟩

/-- A text among others. -/
def itemOf : Json → Except Raised String
  | .str value => .ok value
  | _ => .error ⟨.typeError, "not a string"⟩

/-- The texts of a document. -/
def textsOf (document : List (String × Json)) (name : String) : Except Raised (List String) := do
  match ← valueOf document name with
  | .arr items => items.mapM itemOf
  | _ => .error ⟨.typeError, name⟩

/-- `ReplayComparisonSummary(**comparison)`. -/
def readComparison (document : List (String × Json)) : Except Raised ReplayComparisonSummary := do
  let overallScoreDelta ← match ← valueOf document "overall_score_delta" with
    | .null => .ok none
    | .float value => .ok (some value)
    | _ => .error ⟨.typeError, "overall_score_delta"⟩
  return {
    metricCount := ← countOf document "metric_count"
    improvedMetricCount := ← countOf document "improved_metric_count"
    regressedMetricCount := ← countOf document "regressed_metric_count"
    unchangedMetricCount := ← countOf document "unchanged_metric_count"
    newMetricCount := ← countOf document "new_metric_count"
    removedMetricCount := ← countOf document "removed_metric_count"
    overallScoreDelta }

/-- The drift summary of a document. -/
def readDrift (document : List (String × Json)) : Except Raised ReplayDriftSummary := do
  let thresholdPolicy ← match ← valueOf document "threshold_policy" with
    | .obj fields => .ok fields
    | _ => .error ⟨.typeError, "threshold_policy"⟩
  return {
    severity := ← textOf document "severity"
    changedMetrics := ← textsOf document "changed_metrics"
    newMetrics := ← textsOf document "new_metrics"
    removedMetrics := ← textsOf document "removed_metrics"
    analyzerVersion := ← textOf document "analyzer_version"
    thresholdPolicy }

/-- `from_persistence_record`. -/
def fromPersistenceRecord (row : ReplayResultRow) : Except Raised ReplayResult := do
  let comparisonSummary ← readComparison row.comparisonSummaryJson
  let driftSummary ← readDrift row.driftSummaryJson
  Checked.create {
    resultId := row.resultId
    replayId := row.replayId
    sourceExecutionId := row.sourceExecutionId
    replayExecutionId := row.replayExecutionId
    baselineEvaluationId := row.baselineEvaluationId
    replayEvaluationId := row.replayEvaluationId
    comparisonId := row.comparisonId
    driftId := row.driftId
    baselineStrategy := row.baselineStrategy
    comparisonSummary
    driftSummary
    organizationId := row.organizationId
    projectId := row.projectId
    createdAt := row.createdAt
    metadata := row.metadataJson }

theorem readComparison_document (summary : ReplayComparisonSummary) :
    readComparison (comparisonDocument summary) = .ok summary := by
  obtain ⟨metricCount, improved, regressed, unchanged, new, removed, delta⟩ := summary
  cases delta <;> rfl

theorem mapM_itemOf (texts : List String) : (texts.map Json.str).mapM itemOf = .ok texts := by
  induction texts with
  | nil => rfl
  | cons text rest ih =>
    rw [List.map_cons, List.mapM_cons, ih]
    rfl

theorem readDrift_document (summary : ReplayDriftSummary) : readDrift (driftDocument summary) = .ok summary := by
  have texts : ∀ {name : String} {texts : List String},
      Json.field (driftDocument summary) name = some (.arr (texts.map .str)) →
        textsOf (driftDocument summary) name = .ok texts := by
    intro name texts found
    unfold textsOf valueOf
    rw [found]
    exact mapM_itemOf texts
  have changed : textsOf (driftDocument summary) "changed_metrics" = .ok summary.changedMetrics := texts rfl
  have new : textsOf (driftDocument summary) "new_metrics" = .ok summary.newMetrics := texts rfl
  have removed : textsOf (driftDocument summary) "removed_metrics" = .ok summary.removedMetrics := texts rfl
  unfold readDrift
  rw [changed, new, removed]
  rfl

/-- A row gives back the result it was written for. -/
theorem fromPersistenceRecord_toPersistenceRecord (result : ReplayResult) :
    fromPersistenceRecord (toPersistenceRecord result) = .ok result := by
  unfold fromPersistenceRecord toPersistenceRecord
  rw [readComparison_document, readDrift_document]
  exact Checked.create_eq_ok_iff.mpr rfl

end ReplayResultPersistenceMapper

open ReplayResultPersistenceMapper

/-! ## The table -/

/-- The table `replay_result`. -/
abbrev ReplayResultTable := List ReplayResultRow

namespace ReplayResultTable

/-- The conditions of the `WHERE` clause but the cursor. -/
def selects (filters : ReplayResultListFilters) (organizationId projectId : String) (row : ReplayResultRow) : Bool :=
  row.organizationId = organizationId && row.projectId = projectId &&
    filters.sourceExecutionId.all (row.sourceExecutionId = ·) &&
    filters.replayExecutionId.all (row.replayExecutionId = ·) &&
    filters.driftSeverity.all (fun severity => Json.field row.driftSummaryJson "severity" = some (.str severity)) &&
    filters.createdAfter.all (·.isoformat ≤ row.createdAt.isoformat) &&
    filters.createdBefore.all (row.createdAt.isoformat ≤ ·.isoformat)

/-- The condition of the cursor; an empty cursor sets none. -/
def selectsBelow (cursor : Option String) (row : ReplayResultRow) : Bool :=
  cursor.all fun cursor => cursor = "" || row.resultId < cursor

/-- The columns rows are ordered by. -/
def orderKey (row : ReplayResultRow) : String ×ₗ String := toLex (row.createdAt.isoformat, row.resultId)

/-- `list`. -/
def list (table : ReplayResultTable) (filters : ReplayResultListFilters) (cursor : Option String)
    (organizationId projectId : String) : Except Raised (List ReplayResult) :=
  ((Ranking.descending orderKey (table.filter fun row =>
    selects filters organizationId projectId row && selectsBelow cursor row)).take filters.limit).mapM
      fromPersistenceRecord

end ReplayResultTable

end AiGovernance.Replays
