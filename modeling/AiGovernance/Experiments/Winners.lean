import AiGovernance.Services.Ranking
import AiGovernance.Std.Steps
import Mathlib.Algebra.BigOperators.Group.List.Basic

/-!
# Winners of an experiment

Both rankings of an experiment take the same run of each candidate, number the
candidates from one along falling scores, and depend on the contents of the
stores alone. They name one order exactly when the averages they sort by, over
all metrics and over the quality metrics, compare every two candidates alike.
-/

namespace AiGovernance.Experiments

open AiGovernance.Std Domain List

variable {candidates : List ExperimentCandidate} {result : EvaluationResult}

/-! ## The property -/

/-- Where a ranking puts its candidate, and by which run. -/
def placement (ranking : CandidateRanking) : ExperimentCandidate × Int × String :=
  (ranking.record.candidate, ranking.record.rank, ranking.record.evaluationRunId)

/-- The same stores, with candidates, runs and metrics in another order. -/
structure ExperimentStores.Permuted (stores other : ExperimentStores) : Prop where
  candidates : stores.candidates.Perm other.candidates
  runs : stores.runs.Perm other.runs
  results : List.Forall₂ Shuffled stores.results other.results
  models : other.models = stores.models

/-- The ranks count from one, along falling scores. -/
structure Graded (rankings : List CandidateRanking) : Prop where
  ranks : rankings.map (·.record.rank) = (List.range' 1 rankings.length).map Int.ofNat
  falling : rankings.Pairwise fun left right => right.record.overallScore ≤ left.record.overallScore

/-- The rankings of both services agree on every candidate of the experiment, are graded, and stay the same when the
stores are permuted. -/
structure OneWinner (stores : ExperimentStores) (experimentId : String) (left right : List CandidateRanking) :
    Prop where
  alike : left.map placement = right.map placement
  complete : (left.map (·.record.candidate)).Perm (stores.findCandidates experimentId)
  evaluated : Graded left
  ranked : Graded right
  unmoved : ∀ other, stores.Permuted other →
    ExperimentEvaluation.rankCandidates other experimentId = .ok left ∧
      RankingService.rankCandidates other experimentId "overall_score" = .ok right

/-- The result of the latest completed run of a candidate. -/
def ExperimentStores.latestResult (stores : ExperimentStores) (experimentId candidateId : String) :
    Option EvaluationResult :=
  (stores.latestCompletedRun experimentId candidateId).bind fun run =>
    run.record.evaluationResultId.bind stores.findResult

/-- All values of a result. -/
def allValues (result : EvaluationResult) : List Rat := result.metrics.map (·.metricValue)

/-- A candidate with its result is below another: its average is less, or the same with a lesser identifier. -/
def Below (values : EvaluationResult → List Rat) (candidate : ExperimentCandidate) (result : EvaluationResult)
    (other : ExperimentCandidate) (otherResult : EvaluationResult) : Prop :=
  average (values result) < average (values otherResult) ∨
    average (values result) = average (values otherResult) ∧ candidate.record.candidateId < other.record.candidateId

/-- The averages over all metrics and over the quality metrics compare every two candidates alike. -/
def ComparedAlike (stores : ExperimentStores) (experimentId : String) : Prop :=
  ∀ candidate ∈ stores.findCandidates experimentId, ∀ other ∈ stores.findCandidates experimentId,
    ∀ result otherResult,
      stores.latestResult experimentId candidate.record.candidateId = some result →
      stores.latestResult experimentId other.record.candidateId = some otherResult →
        (Below allValues candidate result other otherResult ↔ Below qualityValues candidate result other otherResult)

/-! ## What a ranking is made of -/

variable {stores : ExperimentStores} {experimentId : String} {values : EvaluationResult → List Rat}

theorem latestCompletedRun_result {candidateId : String} {run : EvaluationRun}
    (latest : stores.latestCompletedRun experimentId candidateId = some run) :
    ∃ resultId, run.record.evaluationResultId = some resultId := by
  have member := argmax_mem latest
  unfold ExperimentStores.completedRuns at member
  rw [mem_filter, Bool.and_eq_true, decide_eq_true_eq, decide_eq_true_eq] at member
  have valid := run.valid
  unfold EvaluationRunFields.violation at valid
  rw [firstViolation_eq_none] at valid
  have named := valid (rejectIf (run.record.status = .completed ∧ run.record.evaluationResultId = none) .valueError
    "Completed evaluation runs require evaluation_result_id.") (by simp)
  rw [rejectIf_eq_none, decide_eq_false_iff_not] at named
  cases given : run.record.evaluationResultId with
  | none => exact absurd ⟨member.2.2, given⟩ named
  | some resultId => exact ⟨resultId, rfl⟩

variable (stores experimentId values) in
/-- A ranking of a candidate by its latest completed run and the average of some values of the run's result. -/
def Assessed (candidate : ExperimentCandidate) (ranking : CandidateRanking) : Prop :=
  ∃ run result, stores.latestCompletedRun experimentId candidate.record.candidateId = some run ∧
    stores.latestResult experimentId candidate.record.candidateId = some result ∧
      ranking.record.candidate = candidate ∧ ranking.record.evaluationRunId = run.record.runId ∧
        ranking.record.overallScore = average (values result)

variable {candidate : ExperimentCandidate} {ranking : CandidateRanking}

theorem ExperimentEvaluation.rankingForCandidate_assessed
    (made : rankingForCandidate stores experimentId candidate = .ok ranking) :
    Assessed stores experimentId allValues candidate ranking := by
  obtain ⟨⟨run, result⟩, found, made⟩ := bind_ok made
  obtain ⟨score, scored, made⟩ := bind_ok made
  unfold latestCompletedRunAndResult at found
  cases latest : stores.latestCompletedRun experimentId candidate.record.candidateId with
  | none =>
    rw [latest] at found
    cases found
  | some last =>
    rw [latest] at found
    dsimp only at found
    cases looked : last.record.evaluationResultId.bind stores.findResult with
    | none =>
      rw [looked] at found
      cases found
    | some stored =>
      rw [looked] at found
      cases found
      unfold overallScore at scored
      split at scored
      · cases scored
      · cases scored
        have record := Checked.create_eq_ok_iff.mp made
        refine ⟨run, result, latest, ?_, ?_, ?_, ?_⟩
        · unfold ExperimentStores.latestResult
          rw [latest]
          exact looked
        · rw [record]
        · rw [record]
        · rw [record]
          rfl

theorem RankingService.rankingForCandidate_assessed
    (made : rankingForCandidate stores experimentId overallScoreRanking candidate = .ok ranking) :
    Assessed stores experimentId qualityValues candidate ranking := by
  obtain ⟨⟨run, result⟩, found, made⟩ := bind_ok made
  obtain ⟨⟨score, reason⟩, scored, made⟩ := bind_ok made
  unfold latestCompletedRunAndResult at found
  cases latest : stores.latestCompletedRun experimentId candidate.record.candidateId with
  | none =>
    rw [latest] at found
    cases found
  | some last =>
    rw [latest] at found
    obtain ⟨stored, looked, same⟩ := map_ok found
    cases same
    obtain ⟨resultId, named⟩ := latestCompletedRun_result latest
    unfold resultById at looked
    rw [named, Option.getD_some] at looked
    cases read : stores.findResult resultId with
    | none =>
      rw [read] at looked
      cases looked
    | some result =>
      rw [read] at looked
      cases looked
      have averaged : score = average (qualityValues result) := by
        unfold overallScoreRanking asRankingError at scored
        dsimp only at scored
        split at scored
        · rename_i given
          split at given
          · cases given
          · split at given
            · cases given
            · cases given
              cases scored
              rfl
        · cases scored
      have record := Checked.create_eq_ok_iff.mp made
      refine ⟨run, result, latest, ?_, ?_, ?_, ?_⟩
      · unfold ExperimentStores.latestResult
        rw [latest, Option.bind_some, named, Option.bind_some, read]
      · rw [record]
      · rw [record]
      · rw [record]
        exact averaged

/-! ## Order -/

variable (stores experimentId values) in
/-- The average a candidate is sorted by. -/
def scoreOf (candidate : ExperimentCandidate) : Rat :=
  ((stores.latestResult experimentId candidate.record.candidateId).map fun result => average (values result)).getD 0

variable (stores experimentId values) in
/-- The key of a candidate. -/
def candidateKey (candidate : ExperimentCandidate) : Rat ×ₗ String :=
  toLex (scoreOf stores experimentId values candidate, candidate.record.candidateId)

variable (stores experimentId) in
/-- The run a candidate is ranked by. -/
def runOf (candidate : ExperimentCandidate) : String :=
  ((stores.latestCompletedRun experimentId candidate.record.candidateId).map (·.record.runId)).getD ""

theorem Assessed.key (assessed : Assessed stores experimentId values candidate ranking) :
    candidateKey stores experimentId values ranking.record.candidate = rankingKey ranking ∧
      runOf stores experimentId ranking.record.candidate = ranking.record.evaluationRunId := by
  obtain ⟨run, result, latest, found, rfl, ran, score⟩ := assessed
  unfold candidateKey rankingKey scoreOf runOf
  rw [latest, found, score, ran]
  exact ⟨rfl, rfl⟩

variable (stores experimentId values) in
theorem distinct_candidateKey :
    ((stores.findCandidates experimentId).map (candidateKey stores experimentId values)).Nodup := by
  have ids : ((stores.findCandidates experimentId).map (·.record.candidateId)).Nodup :=
    stores.candidateIds.sublist (List.filter_sublist.map _)
  apply List.Nodup.of_map (fun key : Rat ×ₗ String => (ofLex key).2)
  rw [map_map]
  exact ids

section Ranked

variable {rankings : List CandidateRanking}

/-- The rankings are of the candidates, in their order. -/
theorem assessed_candidates (assessed : List.Forall₂ (Assessed stores experimentId values) candidates rankings) :
    rankings.map (·.record.candidate) = candidates := by
  induction assessed with
  | nil => rfl
  | cons first _ ih =>
    obtain ⟨-, -, -, -, same, -⟩ := first
    rw [map_cons, same, ih]

theorem assessed_key (assessed : List.Forall₂ (Assessed stores experimentId values) candidates rankings) :
    ∀ ranking ∈ rankings,
      candidateKey stores experimentId values ranking.record.candidate = rankingKey ranking ∧
        runOf stores experimentId ranking.record.candidate = ranking.record.evaluationRunId := by
  induction assessed with
  | nil => nofun
  | cons first _ ih =>
    intro ranking member
    rcases mem_cons.mp member with rfl | later
    · exact first.key
    · exact ih ranking later

theorem map_zipIdx_congr {α β γ : Type} {first : α × Nat → γ} {second : β × Nat → γ} {image : α → β} {items : List α}
    (start : Nat) (same : ∀ item ∈ items, ∀ index, first (item, index) = second (image item, index)) :
    (items.zipIdx start).map first = ((items.map image).zipIdx start).map second := by
  induction items generalizing start with
  | nil => rfl
  | cons item rest ih =>
    rw [zipIdx_cons, map_cons, map_cons, zipIdx_cons, map_cons,
      same item mem_cons_self, ih]
    exact fun other member => same other (mem_cons_of_mem _ member)

/-- Who is where, and by which run: the candidates sorted by their keys. -/
theorem placements_ranked
    (assessed : List.Forall₂ (Assessed stores experimentId values) (stores.findCandidates experimentId) rankings) :
    (ranked rankings).map placement =
      ((Ranking.descending (candidateKey stores experimentId values) (stores.findCandidates experimentId)).zipIdx 1).map
        fun entry => (entry.1, (entry.2 : Int), runOf stores experimentId entry.1) := by
  have keys := assessed_key assessed
  have candidates : (Ranking.descending rankingKey rankings).map (·.record.candidate) =
      Ranking.descending (candidateKey stores experimentId values) (stores.findCandidates experimentId) := by
    rw [Ranking.map_descending fun ranking member => (keys ranking member).1, assessed_candidates assessed]
  unfold ranked
  rw [map_map, ← candidates]
  apply map_zipIdx_congr
  intro ranking member index
  have run := (keys ranking (Ranking.mem_descending.mp member)).2
  change (ranking.record.candidate, (index : Int), ranking.record.evaluationRunId) = _
  rw [run]

/-- Ranked rankings are graded. -/
theorem graded_ranked (rankings : List CandidateRanking) : Graded (ranked rankings) where
  ranks := by
    unfold ranked
    rw [map_map, length_map, length_zipIdx, ← zipIdx_map_snd, map_map]
    rfl
  falling := by
    unfold ranked
    rw [pairwise_map]
    have sorted : (((Ranking.descending rankingKey rankings).zipIdx 1).map Prod.fst).Pairwise
        fun left right => rankingKey right ≤ rankingKey left := by
      rw [zipIdx_map_fst]
      exact Ranking.pairwise_descending
    rw [pairwise_map] at sorted
    apply sorted.imp
    intro left right order
    rcases Prod.Lex.toLex_le_toLex.mp order with less | ⟨same, -⟩
    · exact le_of_lt less
    · exact le_of_eq same

end Ranked

variable {rankings : List CandidateRanking}

theorem ExperimentEvaluation.rankCandidates_eq_ok :
    rankCandidates stores experimentId = .ok rankings ↔ (stores.findCandidates experimentId).isEmpty = false ∧
      ∃ unranked, (stores.findCandidates experimentId).mapM (rankingForCandidate stores experimentId) = .ok unranked ∧
        ranked unranked = rankings := by
  unfold rankCandidates
  dsimp only
  constructor
  · intro returned
    split at returned
    · cases returned
    · rename_i some
      exact ⟨by simpa using some, map_ok returned⟩
  · rintro ⟨some, unranked, collected, rfl⟩
    rw [some, collected]
    rfl

theorem RankingService.rankCandidates_eq_ok :
    rankCandidates stores experimentId "overall_score" = .ok rankings ↔
      (stores.findCandidates experimentId).isEmpty = false ∧
        ∃ unranked, (stores.findCandidates experimentId).mapM
            (rankingForCandidate stores experimentId overallScoreRanking) = .ok unranked ∧
          ranked unranked = rankings := by
  have found : strategy "overall_score" = .ok overallScoreRanking := rfl
  unfold rankCandidates
  rw [found]
  constructor
  · intro returned
    obtain ⟨_, same, returned⟩ := bind_ok returned
    cases same
    dsimp only at returned
    split at returned
    · cases returned
    · rename_i some
      exact ⟨by simpa using some, map_ok returned⟩
  · rintro ⟨some, unranked, collected, rfl⟩
    change (if (stores.findCandidates experimentId).isEmpty then _ else _) = _
    rw [some, collected]
    rfl

/-- The two keys compare as the two averages do. -/
theorem candidateKey_lt_iff {other : ExperimentCandidate} {otherResult : EvaluationResult}
    (found : stores.latestResult experimentId candidate.record.candidateId = some result)
    (otherFound : stores.latestResult experimentId other.record.candidateId = some otherResult) :
    candidateKey stores experimentId values candidate < candidateKey stores experimentId values other ↔
      Below values candidate result other otherResult := by
  unfold candidateKey scoreOf
  rw [found, otherFound, Prod.Lex.toLex_lt_toLex]
  rfl

/-- The placements agree exactly when the averages compare every two candidates alike. -/
theorem placements_eq_iff {left right : List CandidateRanking}
    (first : List.Forall₂ (Assessed stores experimentId allValues) (stores.findCandidates experimentId) left)
    (second : List.Forall₂ (Assessed stores experimentId qualityValues) (stores.findCandidates experimentId) right) :
    (ranked left).map placement = (ranked right).map placement ↔ ComparedAlike stores experimentId := by
  have results : ∀ candidate ∈ stores.findCandidates experimentId,
      ∃ result, stores.latestResult experimentId candidate.record.candidateId = some result := by
    intro candidate member
    rw [← assessed_candidates first, mem_map] at member
    obtain ⟨ranking, among, rfl⟩ := member
    obtain ⟨index, bound, rfl⟩ := getElem_of_mem among
    obtain ⟨run, result, -, found, same, -⟩ := first.get (by rw [first.length_eq]; exact bound) bound
    rw [← same] at found
    exact ⟨result, found⟩
  rw [placements_ranked first, placements_ranked second]
  have orders := Ranking.descending_eq_iff
    (distinct_candidateKey stores experimentId allValues) (distinct_candidateKey stores experimentId qualityValues)
  trans Ranking.descending (candidateKey stores experimentId allValues) (stores.findCandidates experimentId) =
    Ranking.descending (candidateKey stores experimentId qualityValues) (stores.findCandidates experimentId)
  · constructor
    · intro same
      have candidates := congrArg (List.map Prod.fst) same
      simp only [map_map] at candidates
      have plain : ∀ items : List ExperimentCandidate, (items.zipIdx 1).map (Prod.fst ∘ fun entry =>
          (entry.1, (entry.2 : Int), runOf stores experimentId entry.1)) = items :=
        fun items => zipIdx_map_fst 1 items
      rw [plain, plain] at candidates
      exact candidates
    · intro same
      rw [same]
  · refine orders.trans ?_
    constructor
    · intro alike candidate member other otherMember result otherResult found otherFound
      rw [← candidateKey_lt_iff found otherFound, ← candidateKey_lt_iff found otherFound]
      exact alike candidate member other otherMember
    · intro alike candidate member other otherMember
      obtain ⟨result, found⟩ := results candidate member
      obtain ⟨otherResult, otherFound⟩ := results other otherMember
      rw [candidateKey_lt_iff found otherFound, candidateKey_lt_iff found otherFound]
      exact alike candidate member other otherMember result otherResult found otherFound

/-! ## Other orders of the same contents -/

section Permuted

variable {other : ExperimentStores}

/-- What is found among shuffled results is the shuffled find. -/
theorem find?_shuffled {results others : List EvaluationResult} (shuffled : List.Forall₂ Shuffled results others)
    (evaluationId : String) :
    Option.Rel Shuffled (results.find? (·.evaluationId = evaluationId))
      (others.find? (·.evaluationId = evaluationId)) := by
  induction shuffled with
  | nil => exact .none
  | @cons result shuffledResult _ _ same _ ih =>
    have id : shuffledResult.evaluationId = result.evaluationId := by
      obtain ⟨metrics, -, rfl⟩ := same
      rfl
    rw [find?_cons, find?_cons, id]
    by_cases found : result.evaluationId = evaluationId
    · rw [decide_eq_true found]
      exact .some same
    · rw [decide_eq_false found]
      exact ih

theorem ExperimentStores.Permuted.findResult (permuted : stores.Permuted other) (evaluationId : String) :
    Option.Rel Shuffled (stores.findResult evaluationId) (other.findResult evaluationId) :=
  find?_shuffled permuted.results evaluationId

theorem ExperimentStores.Permuted.latestCompletedRun (permuted : stores.Permuted other)
    (experimentId candidateId : String) :
    other.latestCompletedRun experimentId candidateId = stores.latestCompletedRun experimentId candidateId := by
  have runs : (stores.completedRuns experimentId candidateId).Perm (other.completedRuns experimentId candidateId) :=
    (permuted.runs.filter _).filter _
  have distinct : ((stores.completedRuns experimentId candidateId).map ExperimentStores.latestKey).Nodup := by
    apply List.Nodup.of_map (fun key : Nat ×ₗ String => (ofLex key).2)
    rw [map_map]
    have sublist : (stores.completedRuns experimentId candidateId).Sublist stores.runs :=
      filter_sublist.trans filter_sublist
    exact stores.runIds.sublist (sublist.map (·.record.runId))
  exact (Ranking.argmax_of_perm distinct runs).symm

theorem average_of_perm {left right : List Rat} (perm : left.Perm right) : average left = average right := by
  unfold average
  rw [perm.sum_eq, perm.length_eq]

theorem Shuffled.overallScore {shuffled : EvaluationResult} (same : Shuffled result shuffled) :
    ExperimentEvaluation.overallScore shuffled = ExperimentEvaluation.overallScore result := by
  obtain ⟨metrics, perm, rfl⟩ := same
  unfold ExperimentEvaluation.overallScore EvaluationResult.withMetrics
  dsimp only
  rw [perm.symm.isEmpty_eq, average_of_perm (perm.symm.map _)]

theorem Shuffled.scoreCandidate {shuffled : EvaluationResult} (same : Shuffled result shuffled)
    (model : Option Model) :
    overallScoreRanking.scoreCandidate shuffled model = overallScoreRanking.scoreCandidate result model := by
  obtain ⟨metrics, perm, rfl⟩ := same
  have quality : (qualityValues (result.withMetrics metrics)).Perm (qualityValues result) :=
    (perm.symm.filter _).map _
  unfold overallScoreRanking
  dsimp only
  rw [quality.isEmpty_eq, average_of_perm quality]
  unfold EvaluationResult.withMetrics
  dsimp only
  rw [perm.symm.isEmpty_eq]

theorem ExperimentEvaluation.rankingForCandidate_permuted (permuted : stores.Permuted other)
    (candidate : ExperimentCandidate) :
    rankingForCandidate other experimentId candidate = rankingForCandidate stores experimentId candidate := by
  unfold rankingForCandidate latestCompletedRunAndResult
  rw [permuted.latestCompletedRun]
  cases stores.latestCompletedRun experimentId candidate.record.candidateId with
  | none => rfl
  | some run =>
    dsimp only
    cases run.record.evaluationResultId with
    | none => rfl
    | some resultId =>
      rw [Option.bind_some, Option.bind_some]
      have found := permuted.findResult resultId
      cases first : stores.findResult resultId with
      | none =>
        rw [first] at found
        cases second : other.findResult resultId with
        | none => rfl
        | some shuffled =>
          rw [second] at found
          cases found
      | some result =>
        rw [first] at found
        cases second : other.findResult resultId with
        | none =>
          rw [second] at found
          cases found
        | some shuffled =>
          rw [second] at found
          cases found with
          | some same =>
            change ((overallScore shuffled).bind _) = ((overallScore result).bind _)
            rw [Shuffled.overallScore same]

theorem RankingService.rankingForCandidate_permuted (permuted : stores.Permuted other)
    (candidate : ExperimentCandidate) :
    rankingForCandidate other experimentId overallScoreRanking candidate =
      rankingForCandidate stores experimentId overallScoreRanking candidate := by
  unfold rankingForCandidate latestCompletedRunAndResult resultById
  rw [permuted.latestCompletedRun, permuted.models]
  cases stores.latestCompletedRun experimentId candidate.record.candidateId with
  | none => rfl
  | some run =>
    dsimp only
    have found := permuted.findResult (run.record.evaluationResultId.getD "")
    cases first : stores.findResult (run.record.evaluationResultId.getD "") with
    | none =>
      rw [first] at found
      cases second : other.findResult (run.record.evaluationResultId.getD "") with
      | none => rfl
      | some shuffled =>
        rw [second] at found
        cases found
    | some result =>
      rw [first] at found
      cases second : other.findResult (run.record.evaluationResultId.getD "") with
      | none =>
        rw [second] at found
        cases found
      | some shuffled =>
        rw [second] at found
        cases found with
        | some same =>
          have id : shuffled.evaluationId = result.evaluationId := by
            obtain ⟨metrics, -, rfl⟩ := same
            rfl
          change ((asRankingError (overallScoreRanking.scoreCandidate shuffled _)).bind _) =
            ((asRankingError (overallScoreRanking.scoreCandidate result _)).bind _)
          rw [Shuffled.scoreCandidate same, id]

end Permuted

theorem forall₂_imp_mapM {step : ExperimentCandidate → Except Raised CandidateRanking}
    (assessed : ∀ {candidate ranking}, step candidate = .ok ranking →
      Assessed stores experimentId values candidate ranking)
    (collected : candidates.mapM step = .ok rankings) :
    List.Forall₂ (Assessed stores experimentId values) candidates rankings :=
  (mapM_eq_ok_iff.mp collected).imp fun _ _ made => assessed made

/-- What a permuted sequence of rankings is ranked as. -/
theorem ranked_of_perm {others : List CandidateRanking}
    (assessed : List.Forall₂ (Assessed stores experimentId values) (stores.findCandidates experimentId) rankings)
    (perm : rankings.Perm others) : ranked rankings = ranked others := by
  have keys : rankings.map rankingKey =
      (stores.findCandidates experimentId).map (candidateKey stores experimentId values) := by
    rw [← assessed_candidates assessed, map_map]
    exact map_congr_left fun ranking member => (assessed_key assessed ranking member).1.symm
  have distinct : (rankings.map rankingKey).Nodup := by
    rw [keys]
    exact distinct_candidateKey stores experimentId values
  unfold ranked
  rw [Ranking.descending_of_perm distinct perm]

/-- Both services name one winner exactly when their averages compare every two candidates alike. -/
theorem one_winner_iff (stores : ExperimentStores) (experimentId : String) (left right : List CandidateRanking)
    (evaluation : ExperimentEvaluation.rankCandidates stores experimentId = .ok left)
    (ranking : RankingService.rankCandidates stores experimentId "overall_score" = .ok right) :
    OneWinner stores experimentId left right ↔ ComparedAlike stores experimentId := by
  obtain ⟨some, first, collectedFirst, rfl⟩ := ExperimentEvaluation.rankCandidates_eq_ok.mp evaluation
  obtain ⟨-, second, collectedSecond, rfl⟩ := RankingService.rankCandidates_eq_ok.mp ranking
  have assessedFirst := forall₂_imp_mapM ExperimentEvaluation.rankingForCandidate_assessed collectedFirst
  have assessedSecond := forall₂_imp_mapM RankingService.rankingForCandidate_assessed collectedSecond
  have alike := placements_eq_iff assessedFirst assessedSecond
  constructor
  · exact fun winner => alike.mp winner.alike
  · intro compared
    refine ⟨alike.mpr compared, ?_, graded_ranked first, graded_ranked second, ?_⟩
    · -- Ranking sorts the rankings, which are of the candidates.
      have candidates : (ranked first).map (·.record.candidate) =
          (Ranking.descending rankingKey first).map (·.record.candidate) := by
        unfold ranked
        rw [map_map]
        have plain := congrArg (List.map (·.record.candidate)) (zipIdx_map_fst 1
          (Ranking.descending rankingKey first))
        rw [map_map] at plain
        exact plain
      rw [candidates, ← assessed_candidates assessedFirst]
      exact Ranking.perm_descending.map _
    · intro other permuted
      have candidates : (stores.findCandidates experimentId).Perm (other.findCandidates experimentId) :=
        permuted.candidates.filter _
      have present : (other.findCandidates experimentId).isEmpty = false := by
        rw [← candidates.isEmpty_eq]
        exact some
      constructor
      · obtain ⟨rest, collected, perm⟩ := mapM_of_perm candidates collectedFirst
        rw [ExperimentEvaluation.rankCandidates_eq_ok]
        refine ⟨present, rest, ?_, (ranked_of_perm assessedFirst perm).symm⟩
        rw [← collected]
        congr 1
        exact funext fun candidate => ExperimentEvaluation.rankingForCandidate_permuted permuted candidate
      · obtain ⟨rest, collected, perm⟩ := mapM_of_perm candidates collectedSecond
        rw [RankingService.rankCandidates_eq_ok]
        refine ⟨present, rest, ?_, (ranked_of_perm assessedSecond perm).symm⟩
        rw [← collected]
        congr 1
        exact funext fun candidate => RankingService.rankingForCandidate_permuted permuted candidate

/-! ## Quality and tokens -/

/-- A candidate of the experiment. -/
def triageCandidate (candidateId : String) : ExperimentCandidateFields where
  candidateId
  experimentId := "triage"
  name := "candidate"
  promptId := "prompt"
  promptVersion := "1"
  modelId := "model"
  modelVersion := "1"
  datasetId := "dataset"
  datasetVersion := "1"
  evaluationProvider := "provider"
  temperature := 0
  topP := 1
  maxTokens := 100
  metadata := []
  createdAt := ⟨0⟩

/-- A completed run of a candidate. -/
def triageRun (runId candidateId resultId : String) : EvaluationRunFields where
  runId
  experimentId := "triage"
  candidateId
  datasetVersion := "1"
  evaluationProvider := "provider"
  evaluationResultId := some resultId
  startedAt := some ⟨1⟩
  completedAt := some ⟨2⟩
  status := .completed

/-- A result with a score and the tokens it took. -/
def triageResult (evaluationId : String) (score tokens : Rat) : EvaluationResult where
  evaluationId
  executionId := evaluationId
  evaluatorType := "provider"
  evaluatorVersion := "1"
  metrics := [⟨"score", score, none⟩, ⟨"total_tokens", tokens, none⟩]
  metadata := []
  artifacts := []
  providerMetadata := []
  providerDescriptorSnapshot := none
  createdAt := ⟨2⟩
  organizationId := "org"
  projectId := "project"
  shared := rfl

/-- The better candidate takes fewer tokens. -/
def triage : ExperimentStores where
  candidates := [⟨triageCandidate "brief", by decide +kernel⟩, ⟨triageCandidate "wordy", by decide +kernel⟩]
  runs := [⟨triageRun "run-1" "brief" "result-1", by decide +kernel⟩,
    ⟨triageRun "run-2" "wordy" "result-2", by decide +kernel⟩]
  results := [triageResult "result-1" 1 100, triageResult "result-2" 0 1000]
  models := .empty
  candidateIds := by decide +kernel
  runIds := by decide +kernel

/-- What a service has returned. -/
def returned (result : Except Raised (List CandidateRanking)) : List CandidateRanking := result.toOption.getD []

theorem triage_evaluated : ExperimentEvaluation.rankCandidates triage "triage" =
    .ok (returned (ExperimentEvaluation.rankCandidates triage "triage")) := by
  decide +kernel

theorem triage_ranked : RankingService.rankCandidates triage "triage" "overall_score" =
    .ok (returned (RankingService.rankCandidates triage "triage" "overall_score")) := by
  decide +kernel

theorem one_winner_iff_triage :
    OneWinner triage "triage" (returned (ExperimentEvaluation.rankCandidates triage "triage"))
        (returned (RankingService.rankCandidates triage "triage" "overall_score")) ↔
      ComparedAlike triage "triage" :=
  one_winner_iff triage "triage" _ _ triage_evaluated triage_ranked

/-- The candidate with the better score wins one ranking, the one that takes more tokens the other. -/
theorem two_winners : ¬ ∀ (stores : ExperimentStores) (experimentId : String) (left right : List CandidateRanking),
    ExperimentEvaluation.rankCandidates stores experimentId = .ok left →
      RankingService.rankCandidates stores experimentId "overall_score" = .ok right →
        OneWinner stores experimentId left right := by
  intro always
  have winner := always triage "triage" _ _ triage_evaluated triage_ranked
  have apart : (returned (ExperimentEvaluation.rankCandidates triage "triage")).map placement ≠
      (returned (RankingService.rankCandidates triage "triage" "overall_score")).map placement := by
    decide +kernel
  exact apart winner.alike

end AiGovernance.Experiments
