import AiGovernance.Domain.Assets

/-!
# Experiments

The records of `domain/experiments`: experiments, their candidates, the runs
that evaluate a candidate, and the ranking of one candidate.
-/

namespace AiGovernance.Domain

open AiGovernance.Std

/-- The fields of `ExperimentCandidate`. -/
structure ExperimentCandidateFields where
  candidateId : String
  experimentId : String
  name : String
  promptId : String
  promptVersion : String
  modelId : String
  modelVersion : String
  datasetId : String
  datasetVersion : String
  evaluationProvider : String
  temperature : Rat
  topP : Rat
  maxTokens : Int
  metadata : List (String × Json)
  createdAt : Instant
deriving DecidableEq

/-- `ExperimentCandidate.__post_init__`. -/
def ExperimentCandidateFields.violation (candidate : ExperimentCandidateFields) : Option Raised :=
  firstViolation [
    requireRecordText "Experiment candidate" "candidate_id" candidate.candidateId,
    requireRecordText "Experiment candidate" "experiment_id" candidate.experimentId,
    requireRecordText "Experiment candidate" "name" candidate.name,
    requireRecordText "Experiment candidate" "prompt_id" candidate.promptId,
    requireRecordText "Experiment candidate" "prompt_version" candidate.promptVersion,
    requireRecordText "Experiment candidate" "model_id" candidate.modelId,
    requireRecordText "Experiment candidate" "model_version" candidate.modelVersion,
    requireRecordText "Experiment candidate" "dataset_id" candidate.datasetId,
    requireRecordText "Experiment candidate" "dataset_version" candidate.datasetVersion,
    requireRecordText "Experiment candidate" "evaluation_provider" candidate.evaluationProvider,
    rejectIf (candidate.temperature < 0) .valueError "Experiment candidate temperature must not be negative.",
    rejectIf (¬ (0 < candidate.topP ∧ candidate.topP ≤ 1)) .valueError
      "Experiment candidate top_p must be between 0 and 1.",
    rejectIf (candidate.maxTokens ≤ 0) .valueError "Experiment candidate max_tokens must be greater than zero."]

/-- `ExperimentCandidate`: fields that pass the check. -/
abbrev ExperimentCandidate := Checked ExperimentCandidateFields.violation

/-- `EvaluationRunStatus`. -/
inductive EvaluationRunStatus where
  | pending
  | running
  | completed
  | executionFailed
  | failed
  | cancelled
deriving DecidableEq

/-- The fields of `EvaluationRun`. -/
structure EvaluationRunFields where
  runId : String
  experimentId : String
  candidateId : String
  datasetVersion : String
  evaluationProvider : String
  evaluationResultId : Option String
  startedAt : Option Instant
  completedAt : Option Instant
  status : EvaluationRunStatus
  failureReason : Option String := none
  totalItemCount : Option Int := none
  completedItemCount : Int := 0
  evaluatedItemCount : Int := 0
  runnerProvenance : Option (List (String × Json)) := none
deriving DecidableEq

/-- The run has come to an end. -/
def EvaluationRunStatus.ended : EvaluationRunStatus → Bool
  | .completed | .executionFailed | .failed | .cancelled => true
  | .pending | .running => false

/-- `EvaluationRun.__post_init__`, of a failure reason that is stripped. -/
def EvaluationRunFields.violation (run : EvaluationRunFields) : Option Raised :=
  firstViolation [
    requireRecordText "EvaluationRun" "run_id" run.runId,
    requireRecordText "EvaluationRun" "experiment_id" run.experimentId,
    requireRecordText "EvaluationRun" "candidate_id" run.candidateId,
    requireRecordText "EvaluationRun" "dataset_version" run.datasetVersion,
    requireRecordText "EvaluationRun" "evaluation_provider" run.evaluationProvider,
    rejectIf (run.status = .running ∧ run.startedAt = none) .valueError "Running evaluation runs require started_at.",
    rejectIf (run.status.ended ∧ (run.startedAt = none ∨ run.completedAt = none)) .valueError
      "Completed and failed evaluation runs require timestamps.",
    rejectIf (run.startedAt.any fun started => run.completedAt.any fun completed => completed < started) .valueError
      "EvaluationRun completed_at must not be before started_at.",
    rejectIf (run.failureReason = some "") .valueError "EvaluationRun failure_reason must not be blank.",
    rejectIf (run.failureReason.any fun reason => reason.length > 500) .valueError
      "EvaluationRun failure_reason must be at most 500 characters.",
    rejectIf (run.totalItemCount.any (· < 0)) .valueError "EvaluationRun total_item_count must not be negative.",
    rejectIf (run.completedItemCount < 0) .valueError "EvaluationRun completed_item_count must not be negative.",
    rejectIf (run.evaluatedItemCount < 0) .valueError "EvaluationRun evaluated_item_count must not be negative.",
    rejectIf (run.totalItemCount.any fun total => run.completedItemCount > total) .valueError
      "EvaluationRun completed_item_count must not exceed total_item_count.",
    rejectIf (run.evaluatedItemCount > run.completedItemCount) .valueError
      "EvaluationRun evaluated_item_count must not exceed completed_item_count.",
    rejectIf (run.status = .completed ∧ run.evaluationResultId = none) .valueError
      "Completed evaluation runs require evaluation_result_id."]

/-- `EvaluationRun`: fields that pass the check. -/
abbrev EvaluationRun := Checked EvaluationRunFields.violation

/-- The fields of `CandidateRanking`. -/
structure CandidateRankingFields where
  experimentId : String
  candidate : ExperimentCandidate
  evaluationRunId : String
  evaluationResultId : String
  overallScore : Rat
  rank : Int
  reason : String := ""
  rankingStrategy : String := "overall_score"
deriving DecidableEq

/-- `CandidateRanking.__post_init__`. -/
def CandidateRankingFields.violation (ranking : CandidateRankingFields) : Option Raised :=
  firstViolation [
    rejectIf (ranking.rank < 0) .valueError "CandidateRanking rank must not be negative.",
    requireRecordText "CandidateRanking" "evaluation_run_id" ranking.evaluationRunId,
    requireRecordText "CandidateRanking" "evaluation_result_id" ranking.evaluationResultId]

/-- `CandidateRanking`: fields that pass the check. -/
abbrev CandidateRanking := Checked CandidateRankingFields.violation

theorem CandidateRanking.violation_withRank (ranking : CandidateRanking) (rank : Nat) :
    CandidateRankingFields.violation { ranking.record with rank } = none := by
  have valid := ranking.valid
  unfold CandidateRankingFields.violation at valid ⊢
  rw [firstViolation_eq_none] at valid ⊢
  intro test member
  rcases List.mem_cons.mp member with rfl | others
  · simp [rejectIf]
  · exact valid test (List.mem_cons_of_mem _ others)

/-- `replace(ranking, rank=rank)`. -/
def CandidateRanking.withRank (ranking : CandidateRanking) (rank : Nat) : CandidateRanking :=
  ⟨{ ranking.record with rank }, ranking.violation_withRank rank⟩

end AiGovernance.Domain
