import AiGovernance.Domain.Errors
import AiGovernance.Std.Json
import AiGovernance.Std.Offset
import AiGovernance.Std.Text

/-!
# Replay results

The governed evidence of a completed replay
(`domain/replay/replay_result.py`). No identifier of a result is blank.
-/

namespace AiGovernance.Domain

open AiGovernance.Std

/-- `ReplayComparisonSummary`. -/
structure ReplayComparisonSummary where
  metricCount : Int
  improvedMetricCount : Int
  regressedMetricCount : Int
  unchangedMetricCount : Int
  newMetricCount : Int
  removedMetricCount : Int
  overallScoreDelta : Option Rat

/-- `ReplayDriftSummary`. -/
structure ReplayDriftSummary where
  severity : String
  changedMetrics : List String
  newMetrics : List String
  removedMetrics : List String
  analyzerVersion : String
  thresholdPolicy : List (String × Json)

/-- The fields of `ReplayResult`. -/
structure ReplayResultRecord where
  resultId : String
  replayId : String
  sourceExecutionId : String
  replayExecutionId : String
  baselineEvaluationId : String
  replayEvaluationId : String
  comparisonId : String
  driftId : String
  baselineStrategy : String
  comparisonSummary : ReplayComparisonSummary
  driftSummary : ReplayDriftSummary
  organizationId : String
  projectId : String
  createdAt : Instant.Stamp
  metadata : List (String × Json) := []

/-- A field of a result that must not be blank. -/
def requireResult (name value : String) : Option Raised :=
  rejectIf (Text.isBlank value) .valueError ("Replay result " ++ name ++ " is required.")

/-- `ReplayResult.__post_init__`. -/
def ReplayResultRecord.violation (record : ReplayResultRecord) : Option Raised :=
  firstViolation [
    requireResult "result_id" record.resultId,
    requireResult "replay_id" record.replayId,
    requireResult "source_execution_id" record.sourceExecutionId,
    requireResult "replay_execution_id" record.replayExecutionId,
    requireResult "baseline_evaluation_id" record.baselineEvaluationId,
    requireResult "replay_evaluation_id" record.replayEvaluationId,
    requireResult "comparison_id" record.comparisonId,
    requireResult "drift_id" record.driftId,
    requireResult "baseline_strategy" record.baselineStrategy,
    requireResult "organization_id" record.organizationId,
    requireResult "project_id" record.projectId]

/-- `ReplayResult`. -/
abbrev ReplayResult := Checked ReplayResultRecord.violation

theorem ReplayResult.resultId_ne_empty (result : ReplayResult) : result.record.resultId ≠ "" := by
  intro empty
  have passed := result.valid
  unfold ReplayResultRecord.violation requireResult at passed
  rw [empty] at passed
  cases passed

end AiGovernance.Domain
