import AiGovernance.Domain.Evaluation
import AiGovernance.Domain.Experiments
import AiGovernance.Std.Ranking
import Mathlib.Algebra.Order.Field.Rat
import Mathlib.Data.Prod.Lex

/-!
# Ranking the candidates of an experiment

`ExperimentEvaluationService.rank_candidates` and `RankingService.rank_candidates`
each take the latest completed run of every candidate, score its result and sort
by score and candidate. The first averages every metric of the result; the
strategies of the second choose theirs.
-/

namespace AiGovernance.Experiments

open AiGovernance.Std Domain

/-- What the in-memory repositories of an experiment hold: candidates and runs by their identifiers, results in the
order of their saves. -/
structure ExperimentStores where
  candidates : List ExperimentCandidate
  runs : List EvaluationRun
  results : List EvaluationResult
  models : Dict String Model
  candidateIds : (candidates.map (·.record.candidateId)).Nodup
  runIds : (runs.map (·.record.runId)).Nodup

namespace ExperimentStores

variable (stores : ExperimentStores)

/-- `ExperimentCandidateRepository.find_by_experiment_id`. -/
def findCandidates (experimentId : String) : List ExperimentCandidate :=
  stores.candidates.filter (·.record.experimentId = experimentId)

/-- `EvaluationRunRepository.find_by_candidate_id`. -/
def findRuns (candidateId : String) : List EvaluationRun := stores.runs.filter (·.record.candidateId = candidateId)

/-- `EvaluationRepository.find_by_evaluation_id`. -/
def findResult (evaluationId : String) : Option EvaluationResult :=
  stores.results.find? (·.evaluationId = evaluationId)

/-- The completed runs of a candidate in its experiment. -/
def completedRuns (experimentId candidateId : String) : List EvaluationRun :=
  (stores.findRuns candidateId).filter fun run =>
    run.record.experimentId = experimentId && run.record.status = .completed

/-- The key of the latest run; a run without an end counts from `datetime.min`. -/
def latestKey (run : EvaluationRun) : Nat ×ₗ String :=
  toLex ((run.record.completedAt.getD ⟨0⟩).micros, run.record.runId)

/-- The latest completed run of a candidate. -/
def latestCompletedRun (experimentId candidateId : String) : Option EvaluationRun :=
  (stores.completedRuns experimentId candidateId).argmax latestKey

end ExperimentStores

/-- The average of some numbers. -/
def average (values : List Rat) : Rat := values.sum / values.length

/-- The key the rankings are sorted by. -/
def rankingKey (ranking : CandidateRanking) : Rat ×ₗ String :=
  toLex (ranking.record.overallScore, ranking.record.candidate.record.candidateId)

/-- The rankings in their order, with their ranks. -/
def ranked (rankings : List CandidateRanking) : List CandidateRanking :=
  ((Ranking.descending rankingKey rankings).zipIdx 1).map fun entry => entry.1.withRank entry.2

/-! ## `ExperimentEvaluationService` -/

namespace ExperimentEvaluation

variable (stores : ExperimentStores)

/-- `_latest_completed_run_and_result`. -/
def latestCompletedRunAndResult (experimentId candidateId : String) : Except Raised (EvaluationRun × EvaluationResult) :=
  match stores.latestCompletedRun experimentId candidateId with
  | none => .error ⟨.experimentEvaluationError, "Candidate comparison requires completed evaluation runs."⟩
  | some run =>
    match run.record.evaluationResultId.bind stores.findResult with
    | none => .error ⟨.experimentEvaluationError,
        "Evaluation result '" ++ run.record.evaluationResultId.getD "None" ++ "' is missing."⟩
    | some result => .ok (run, result)

/-- `_overall_score`. -/
def overallScore (result : EvaluationResult) : Except Raised Rat :=
  if result.metrics.isEmpty then
    .error ⟨.experimentEvaluationError, "Cannot rank an evaluation result with no metrics."⟩
  else .ok (average (result.metrics.map (·.metricValue)))

/-- The ranking of one candidate, before it has its rank. -/
def rankingForCandidate (experimentId : String) (candidate : ExperimentCandidate) : Except Raised CandidateRanking := do
  let (run, result) ← latestCompletedRunAndResult stores experimentId candidate.record.candidateId
  Checked.create {
    experimentId
    candidate
    evaluationRunId := run.record.runId
    evaluationResultId := run.record.evaluationResultId.getD ""
    overallScore := ← overallScore result
    rank := 0 }

/-- `rank_candidates`. -/
def rankCandidates (experimentId : String) : Except Raised (List CandidateRanking) :=
  let candidates := stores.findCandidates experimentId
  if candidates.isEmpty then
    .error ⟨.experimentEvaluationError, "Experiment '" ++ experimentId ++ "' has no candidates."⟩
  else (candidates.mapM (rankingForCandidate stores experimentId)).map ranked

end ExperimentEvaluation

/-! ## `RankingService` -/

/-- `RankingStrategy`: its name, and how it scores a candidate. -/
structure RankingStrategy where
  strategyName : String
  scoreCandidate : EvaluationResult → Option Model → Except Raised (Rat × String)

/-- The names of the metrics that `OverallScoreRanking` averages. -/
def qualityMetrics : List String := ["overall_score", "score", "pass", "groundedness", "answer_relevance"]

/-- The values of the quality metrics of a result. -/
def qualityValues (result : EvaluationResult) : List Rat :=
  (result.metrics.filter fun metric => lowerText metric.metricName ∈ qualityMetrics).map (·.metricValue)

/-- `OverallScoreRanking`. -/
def overallScoreRanking : RankingStrategy where
  strategyName := "overall_score"
  scoreCandidate result _ :=
    if result.metrics.isEmpty then .error ⟨.valueError, "OverallScoreRanking requires evaluation metrics."⟩
    else if (qualityValues result).isEmpty then
      .error ⟨.valueError, "OverallScoreRanking requires a quality metric; operational counters such as tokens, " ++
        "duration, actions, and cost are not ranking points."⟩
    else .ok (average (qualityValues result), "Ranked by average quality metric score.")

/-- `_metric_value`. -/
def metricValue (result : EvaluationResult) (metricName : String) : Except Raised Rat :=
  match result.metrics.find? (·.metricName = metricName) with
  | some metric => .ok metric.metricValue
  | none => .error ⟨.valueError, "Ranking strategy requires metric '" ++ metricName ++ "'."⟩

/-- A strategy that scores by one metric, or by its negation. -/
def metricRanking (strategyName metricName reason : String) (sign : Rat) : RankingStrategy where
  strategyName
  scoreCandidate result _ := (metricValue result metricName).map fun value => (sign * value, reason)

/-- `GroundednessRanking`. -/
def groundednessRanking : RankingStrategy :=
  metricRanking "groundedness" "GROUNDEDNESS" "Ranked by GROUNDEDNESS metric." 1

/-- `AnswerRelevanceRanking`. -/
def answerRelevanceRanking : RankingStrategy :=
  metricRanking "answer_relevance" "ANSWER_RELEVANCE" "Ranked by ANSWER_RELEVANCE metric." 1

/-- `LowestLatencyRanking`. -/
def lowestLatencyRanking : RankingStrategy where
  strategyName := "lowest_latency"
  scoreCandidate _ model :=
    match model.bind (·.record.latency) with
    | some latency => .ok (-latency, "Ranked by lowest model latency.")
    | none => .error ⟨.valueError, "LowestLatencyRanking requires model latency."⟩

/-- `LowestCostRanking`. -/
def lowestCostRanking : RankingStrategy :=
  metricRanking "lowest_cost" "estimated_model_cost" "Ranked by lowest reported evaluation cost." (-1)

/-- `HallucinationRanking`. -/
def hallucinationRanking : RankingStrategy :=
  metricRanking "hallucination" "HALLUCINATION" "Ranked by lowest HALLUCINATION metric." (-1)

/-- The strategies a service has unless it is given others. -/
def strategies : List RankingStrategy :=
  [overallScoreRanking, groundednessRanking, answerRelevanceRanking, lowestLatencyRanking, lowestCostRanking,
    hallucinationRanking]

namespace RankingService

variable (stores : ExperimentStores)

/-- `_strategy`. -/
def strategy (rankingStrategy : String) : Except Raised RankingStrategy :=
  match strategies.find? (·.strategyName = rankingStrategy) with
  | some strategy => .ok strategy
  | none => .error ⟨.rankingError, "Unknown ranking strategy '" ++ rankingStrategy ++ "'."⟩

/-- `_result_by_id`. -/
def resultById (evaluationResultId : String) : Except Raised EvaluationResult :=
  match stores.findResult evaluationResultId with
  | some result => .ok result
  | none => .error ⟨.rankingError, "Evaluation result '" ++ evaluationResultId ++ "' is missing."⟩

/-- `_latest_completed_run_and_result`. -/
def latestCompletedRunAndResult (experimentId candidateId : String) : Except Raised (EvaluationRun × EvaluationResult) :=
  match stores.latestCompletedRun experimentId candidateId with
  | none => .error ⟨.rankingError, "Only completed evaluation runs participate in ranking."⟩
  | some run => (resultById stores (run.record.evaluationResultId.getD "")).map fun result => (run, result)

/-- A strategy's complaint as the service raises it. -/
def asRankingError {α : Type} : Except Raised α → Except Raised α
  | .ok value => .ok value
  | .error raised => .error (if raised.kind = .valueError then ⟨.rankingError, raised.message⟩ else raised)

/-- `_ranking_for_candidate`. -/
def rankingForCandidate (experimentId : String) (strategy : RankingStrategy) (candidate : ExperimentCandidate) :
    Except Raised CandidateRanking := do
  let (run, result) ← latestCompletedRunAndResult stores experimentId candidate.record.candidateId
  let model := stores.models.get? candidate.record.modelId
  let (overallScore, reason) ← asRankingError (strategy.scoreCandidate result model)
  Checked.create {
    experimentId
    candidate
    evaluationRunId := run.record.runId
    evaluationResultId := result.evaluationId
    overallScore
    rank := 0
    reason
    rankingStrategy := strategy.strategyName }

/-- `rank_candidates`. -/
def rankCandidates (experimentId rankingStrategy : String) : Except Raised (List CandidateRanking) := do
  let strategy ← strategy rankingStrategy
  let candidates := stores.findCandidates experimentId
  if candidates.isEmpty then
    .error ⟨.rankingError, "Experiment '" ++ experimentId ++ "' has no candidates."⟩
  else (candidates.mapM (rankingForCandidate stores experimentId strategy)).map ranked

end RankingService

end AiGovernance.Experiments
