import AiGovernance.Decisions.GovernancePolicies

/-!
# What a simulation reports

`simulate_version` shows the result of `evaluate_with_trace` as what
enforcement by `evaluate` would do. The outcome, the matched conditions and the
trace are those of the rules examined: every rule by priority up to and
including the first match. The unmatched conditions are not. After a match the
report lists none, also when earlier rules failed; without one it lists the
conditions of every rule, also those that hold.
-/

namespace AiGovernance.Decisions.GovernancePolicy

open AiGovernance.Std Domain List
open Decisions.GovernancePolicyEvaluator (conditionMatches ruleMatches traceCondition resolveFieldPath)

/-- The rules up to and including the first matching one. -/
def upToMatch (evidence : List (String × Json)) (rules : List PolicyRule) : List PolicyRule :=
  rules.takeWhile (!ruleMatches · evidence) ++ (rules.find? (ruleMatches · evidence)).toList

/-- The rules an evaluation examines, in order: none when the policy is about other targets. -/
def examinedRules (policy : GovernancePolicy) (context : PolicyEvaluationContext) : List PolicyRule :=
  if context.record.targetType ∈ policy.record.targetTypes then
    upToMatch context.record.evidence (sortedRules policy)
  else []

/-- What the trace has to say of one condition of a rule. -/
def verdictOn (evidence : List (String × Json)) (rule : PolicyRule) (condition : PolicyCondition) :
    PolicyEvaluationTraceItem :=
  { ruleId := rule.record.ruleId
    ruleName := rule.record.name
    conditionFieldPath := condition.record.fieldPath
    operator := condition.record.operator
    expectedValue := condition.record.expectedValue
    actualValue := resolveFieldPath evidence condition.record.fieldPath
    matched := conditionMatches condition evidence
    reason := if conditionMatches condition evidence then none else some "Condition did not match." }

/-- The report agrees with enforcement and with the evidence. -/
structure TellsTruth (policy : GovernancePolicy) (context : PolicyEvaluationContext)
    (report : PolicyEvaluationTraceOutcome) : Prop where
  outcome : report.outcome = evaluate policy context
  matched : ∀ condition ∈ report.matchedConditions, conditionMatches condition context.record.evidence = true
  unmatched : ∀ condition, condition ∈ report.unmatchedConditions ↔
    ∃ rule ∈ examinedRules policy context, condition ∈ rule.record.conditions ∧
      conditionMatches condition context.record.evidence = false
  trace : report.evaluationTrace = (examinedRules policy context).flatMap fun rule =>
    rule.record.conditions.map (verdictOn context.record.evidence rule)

section UpToMatch

variable {evidence : List (String × Json)} {rule : PolicyRule} {rest : List PolicyRule}

theorem upToMatch_cons_of_matches (matched : ruleMatches rule evidence = true) :
    upToMatch evidence (rule :: rest) = [rule] := by
  simp [upToMatch, matched]

theorem upToMatch_cons_of_fails (failed : ¬ ruleMatches rule evidence = true) :
    upToMatch evidence (rule :: rest) = rule :: upToMatch evidence rest := by
  simp [upToMatch, failed]

theorem upToMatch_of_none {rules : List PolicyRule} (fails : ∀ rule ∈ rules, ¬ ruleMatches rule evidence = true) :
    upToMatch evidence rules = rules := by
  induction rules with
  | nil => rfl
  | cons rule rest ih =>
    rw [upToMatch_cons_of_fails (fails rule mem_cons_self),
      ih fun other member => fails other (mem_cons_of_mem _ member)]

end UpToMatch

variable {policy : GovernancePolicy} {context : PolicyEvaluationContext} {evidence : List (String × Json)}

theorem traced_all {rule : PolicyRule} :
    (rule.record.conditions.map (traceCondition rule evidence)).all (·.matched) = ruleMatches rule evidence := by
  rw [all_map]
  rfl

/-- The tracing loop reaches the outcome of the short-circuiting one. -/
theorem traceRules_outcome (rules : List PolicyRule) (trace : List PolicyEvaluationTraceItem) :
    (traceRules policy evidence rules trace).outcome = evaluateRules policy evidence rules := by
  induction rules generalizing trace with
  | nil => rfl
  | cons rule rest ih =>
    simp only [traceRules, evaluateRules, traced_all]
    by_cases matched : ruleMatches rule evidence = true
    · rw [if_pos matched, if_pos matched]
    · rw [if_neg matched, if_neg matched]
      exact ih _

theorem traceRules_trace (rules : List PolicyRule) (trace : List PolicyEvaluationTraceItem) :
    (traceRules policy evidence rules trace).evaluationTrace =
      trace ++ (upToMatch evidence rules).flatMap fun rule => rule.record.conditions.map (verdictOn evidence rule) := by
  induction rules generalizing trace with
  | nil => simp [traceRules, upToMatch]
  | cons rule rest ih =>
    simp only [traceRules, traced_all]
    by_cases matched : ruleMatches rule evidence = true
    · rw [if_pos matched, upToMatch_cons_of_matches matched, flatMap_singleton]
      rfl
    · rw [if_neg matched, ih, upToMatch_cons_of_fails matched, flatMap_cons, append_assoc]
      rfl

/-- The conditions reported as matched are those of a matching rule. -/
theorem traceRules_matched (rules : List PolicyRule) (trace : List PolicyEvaluationTraceItem) :
    ∀ condition ∈ (traceRules policy evidence rules trace).matchedConditions,
      conditionMatches condition evidence = true := by
  induction rules generalizing trace with
  | nil => exact fun _ member => absurd member not_mem_nil
  | cons rule rest ih =>
    simp only [traceRules, traced_all]
    by_cases matched : ruleMatches rule evidence = true
    · rw [if_pos matched]
      exact fun condition member => all_eq_true.mp matched condition member
    · rw [if_neg matched]
      exact ih _

/-- The conditions reported as unmatched: none after a match, all of them without one. -/
theorem traceRules_unmatched (rules : List PolicyRule) (trace : List PolicyEvaluationTraceItem) :
    (traceRules policy evidence rules trace).unmatchedConditions =
      if rules.any (ruleMatches · evidence) then [] else (sortedRules policy).flatMap (·.record.conditions) := by
  induction rules generalizing trace with
  | nil => rfl
  | cons rule rest ih =>
    simp only [traceRules, traced_all]
    by_cases matched : ruleMatches rule evidence = true
    · simp [matched]
    · rw [if_neg matched, ih]
      simp [matched]

/-- Outcome, matched conditions and trace always tell the truth. -/
theorem tellsTruth_iff_unmatched : TellsTruth policy context (evaluateWithTrace policy context) ↔
    ∀ condition, condition ∈ (evaluateWithTrace policy context).unmatchedConditions ↔
      ∃ rule ∈ examinedRules policy context, condition ∈ rule.record.conditions ∧
        conditionMatches condition context.record.evidence = false := by
  refine ⟨TellsTruth.unmatched, fun unmatched => ?_⟩
  by_cases targets : context.record.targetType ∈ policy.record.targetTypes
  · have report : evaluateWithTrace policy context =
        traceRules policy context.record.evidence (sortedRules policy) [] := if_neg (not_not.mpr targets)
    constructor
    · rw [report, traceRules_outcome]
      exact (if_neg (not_not.mpr targets)).symm
    · rw [report]
      exact traceRules_matched _ _
    · exact unmatched
    · rw [report, traceRules_trace, nil_append, examinedRules, if_pos targets]
  · have report : evaluateWithTrace policy context =
        { outcome := noDecision policy "Policy does not target this entity type."
          matchedConditions := [], unmatchedConditions := [], evaluationTrace := [] } := if_pos targets
    constructor
    · rw [report]
      exact (if_pos targets).symm
    · rw [report]
      exact fun _ member => absurd member not_mem_nil
    · exact unmatched
    · rw [report, examinedRules, if_neg targets]
      rfl

theorem exists_condition (rule : PolicyRule) : ∃ condition, condition ∈ rule.record.conditions := by
  have valid := rule.valid
  simp only [PolicyRuleRecord.violation, firstViolation_eq_none, forall_mem_cons, rejectIf_eq_none] at valid
  exact exists_mem_of_ne_nil _ fun empty => by simp [empty] at valid

/-- A rule that does not match has a condition that does not hold. -/
theorem exists_unmatched {rule : PolicyRule} (failed : ¬ ruleMatches rule evidence = true) :
    ∃ condition ∈ rule.record.conditions, conditionMatches condition evidence = false := by
  by_contra none
  push Not at none
  exact failed (all_eq_true.mpr fun condition member => by simpa using none condition member)

/-- The first rule by priority matches. -/
def FirstMatches (policy : GovernancePolicy) (evidence : List (String × Json)) : Prop :=
  ∃ rule, (sortedRules policy).head? = some rule ∧ ruleMatches rule evidence = true

/-- After a match nothing is reported as unmatched, which is right only for the first rule. -/
theorem unmatched_right_of_match (found : (sortedRules policy).any (ruleMatches · evidence) = true) :
    (∀ condition, condition ∈ ([] : List PolicyCondition) ↔
      ∃ rule ∈ upToMatch evidence (sortedRules policy), condition ∈ rule.record.conditions ∧
        conditionMatches condition evidence = false) ↔ FirstMatches policy evidence := by
  unfold FirstMatches
  cases sorted : sortedRules policy with
  | nil => simp [sorted] at found
  | cons first rest =>
    by_cases matched : ruleMatches first evidence = true
    · rw [upToMatch_cons_of_matches matched]
      have holds : ∀ condition ∈ first.record.conditions, conditionMatches condition evidence = true :=
        fun condition member => all_eq_true.mp matched condition member
      constructor
      · exact fun _ => ⟨first, rfl, matched⟩
      · intro _ condition
        simp only [not_mem_nil, mem_singleton, exists_eq_left, false_iff, not_and]
        intro member
        simp [holds condition member]
    · rw [upToMatch_cons_of_fails matched]
      constructor
      · intro right
        obtain ⟨condition, member, fails⟩ := exists_unmatched matched
        exact absurd ((right condition).mpr ⟨first, mem_cons_self, member, fails⟩) not_mem_nil
      · rintro ⟨rule, head, accepted⟩
        cases head
        exact absurd accepted matched

/-- Without a match every condition is reported as unmatched, which is right if none holds. -/
theorem unmatched_right_of_none (none : ∀ rule ∈ sortedRules policy, ¬ ruleMatches rule evidence = true) :
    (∀ condition, condition ∈ (sortedRules policy).flatMap (·.record.conditions) ↔
      ∃ rule ∈ upToMatch evidence (sortedRules policy), condition ∈ rule.record.conditions ∧
        conditionMatches condition evidence = false) ↔
      ∀ rule ∈ policy.record.rules, ∀ condition ∈ rule.record.conditions,
        conditionMatches condition evidence = false := by
  rw [upToMatch_of_none none]
  constructor
  · intro right rule among condition member
    have reported : condition ∈ (sortedRules policy).flatMap (·.record.conditions) :=
      mem_flatMap.mpr ⟨rule, mem_sortedRules.mpr among, member⟩
    obtain ⟨_, _, _, fails⟩ := (right condition).mp reported
    exact fails
  · intro fails condition
    rw [mem_flatMap]
    constructor
    · rintro ⟨rule, among, member⟩
      exact ⟨rule, among, member, fails rule (mem_sortedRules.mp among) condition member⟩
    · rintro ⟨rule, among, member, -⟩
      exact ⟨rule, among, member⟩

/-- A simulation tells the truth exactly when the policy is about other targets, or its first
rule by priority matches, or no condition of any rule holds. -/
theorem evaluateWithTrace_tellsTruth_iff (policy : GovernancePolicy) (context : PolicyEvaluationContext) :
    TellsTruth policy context (evaluateWithTrace policy context) ↔
      context.record.targetType ∉ policy.record.targetTypes ∨ FirstMatches policy context.record.evidence ∨
        ∀ rule ∈ policy.record.rules, ∀ condition ∈ rule.record.conditions,
          conditionMatches condition context.record.evidence = false := by
  rw [tellsTruth_iff_unmatched]
  by_cases targets : context.record.targetType ∈ policy.record.targetTypes
  · have report : evaluateWithTrace policy context =
        traceRules policy context.record.evidence (sortedRules policy) [] := if_neg (not_not.mpr targets)
    rw [report, traceRules_unmatched, examinedRules, if_pos targets]
    simp only [targets, not_true_eq_false, false_or]
    by_cases found : (sortedRules policy).any (ruleMatches · context.record.evidence) = true
    · rw [if_pos found, unmatched_right_of_match found, or_iff_left]
      -- A matching rule has a condition that holds.
      intro fails
      obtain ⟨rule, among, matched⟩ := any_eq_true.mp found
      obtain ⟨condition, member⟩ := exists_condition rule
      have holds := all_eq_true.mp matched condition member
      simp [fails rule (mem_sortedRules.mp among) condition member] at holds
    · have none : ∀ rule ∈ sortedRules policy, ¬ ruleMatches rule context.record.evidence = true :=
        fun rule among matched => found (any_eq_true.mpr ⟨rule, among, matched⟩)
      rw [if_neg found, unmatched_right_of_none none, or_iff_right]
      rintro ⟨rule, head, matched⟩
      exact none rule (mem_of_head? head) matched
  · have report : (evaluateWithTrace policy context).unmatchedConditions = [] := by
      unfold evaluateWithTrace
      rw [if_pos targets]
    rw [report, examinedRules, if_neg targets]
    simp [targets]

/-- A rule that approves above a score. -/
private def scoreRule (ruleId : String) (conditions : List PolicyCondition)
    (valid : PolicyRuleRecord.violation {
      ruleId, name := ruleId, conditions, effect := .approve, reasonTemplate := ruleId, priority := 1 } = none) :
    PolicyRule :=
  ⟨_, valid⟩

/-- The score is above a bound. -/
private def scoreAbove (bound : Int) : PolicyCondition :=
  ⟨{ fieldPath := "score", operator := .greaterThan, expectedValue := .int bound }, by
    simp only [PolicyConditionRecord.violation, firstViolation_eq_none, List.forall_mem_cons, rejectIf_eq_none]
    exact ⟨by decide, by simp, by simp⟩⟩

private def scoredContext : PolicyEvaluationContext :=
  ⟨{ targetType := .candidate, targetId := "candidate-1", evidence := [("score", .int 7)] }, by decide⟩

/-- One rule, which asks for a score above 5 and one above 9. -/
private def demandingPolicy : GovernancePolicy :=
  ⟨{ policyId := "policy-1", version := "1", name := "Scores", description := none, status := .active
     targetTypes := [.candidate]
     rules := [scoreRule "demanding" [scoreAbove 5, scoreAbove 9] (by decide)]
     createdBy := "author" }, by decide⟩

/-- A score of 7 is reported as not being above 5. -/
theorem unmatched_condition_holds :
    ¬ TellsTruth demandingPolicy scoredContext (evaluateWithTrace demandingPolicy scoredContext) := by
  intro truth
  have reported : scoreAbove 5 ∈ (evaluateWithTrace demandingPolicy scoredContext).unmatchedConditions := by
    decide +kernel
  obtain ⟨_, _, _, fails⟩ := (truth.unmatched _).mp reported
  have holds : conditionMatches (scoreAbove 5) scoredContext.record.evidence = true := by decide +kernel
  rw [holds] at fails
  cases fails

end AiGovernance.Decisions.GovernancePolicy
