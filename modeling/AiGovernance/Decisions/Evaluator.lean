import AiGovernance.Decisions.Policies
import AiGovernance.Std.Ranking

/-!
# The deciding rule of a policy

`evaluate_with_trace` goes through the rules by priority and stops at the first
one whose conditions all hold. The deciding rule is thus the matching rule of
least priority number, and among those of one number the earliest; and none of
the checks that run on what the evaluation builds can fail.
-/

namespace AiGovernance.Decisions

open AiGovernance.Std Domain

/-- The rule decides the version over the evidence: it matches, every matching rule before
it has a greater priority number, and no matching rule after it a smaller one. -/
def Decides (version : PolicyVersion) (evidence : List (String × Json)) (rule : PolicyRule) : Prop :=
  Ranking.Leads (·.record.priority) (GovernancePolicyEvaluator.ruleMatches · evidence) version.record.rules rule

/-! ## Construction checks -/

/-- The checks of `to_governance_policy` and of `PolicyEvaluationContext`. A name and a
creator pass the check they passed when the definition and the version were built. -/
def rejectEvaluation (version : PolicyVersion) (targetId : String) : Option Raised :=
  firstViolation [
    requireNonEmpty "policy_id" version.record.policyId,
    requireNonEmpty "policy version" version.record.version,
    rejectIf version.record.targetTypes.isEmpty .decisionValidationError
      "Decision policy target_types must not be empty.",
    rejectIf version.record.rules.isEmpty .decisionValidationError
      "Decision policy rules must not be empty.",
    requireNonEmpty "policy evaluation target_id" targetId]

/-- `PolicyEvaluationTraceItem.__post_init__`. -/
def rejectTraceItem (item : PolicyEvaluationTraceItem) : Option Raised :=
  firstViolation [
    requireNonEmpty "policy trace rule_id" item.ruleId,
    requireNonEmpty "policy trace rule_name" item.ruleName,
    requireNonEmpty "policy trace condition_field_path" item.conditionFieldPath]

/-- `PolicyEvaluationOutcome.__post_init__`. -/
def rejectOutcome (outcome : PolicyEvaluationOutcome) : Option Raised :=
  firstViolation [
    requireNonEmpty "policy outcome policy_id" outcome.policyId,
    requireNonEmpty "policy outcome policy_version" outcome.policyVersion,
    requireNonEmpty "policy outcome reason" outcome.reason]

/-- Evaluate a version as a policy, with the checks of everything that is built. -/
def evaluatePolicy (version : PolicyVersion) (targetType : DecisionTargetType) (targetId : String)
    (evidence : List (String × Json)) : Except Raised PolicyEvaluationTraceOutcome :=
  let trace := GovernancePolicyEvaluator.evaluateWithTrace version targetType evidence
  match firstViolation ([rejectEvaluation version targetId] ++ trace.evaluationTrace.map rejectTraceItem ++
      [rejectOutcome trace.outcome]) with
  | some raised => .error raised
  | none => .ok trace

namespace GovernancePolicyEvaluator

variable {version : PolicyVersion} {evidence : List (String × Json)}

variable {rule : PolicyRule}

theorem traceCondition_all :
    (rule.record.conditions.map (traceCondition rule evidence)).all (·.matched) = ruleMatches rule evidence := by
  rw [List.all_map]
  rfl

/-- The loop stops at the first matching rule. -/
theorem evaluateRules_outcome (rules : List PolicyRule) (trace : List PolicyEvaluationTraceItem) :
    (evaluateRules version evidence rules trace).outcome =
      ((rules.find? (ruleMatches · evidence)).map (ruleOutcome version)).getD
        (noDecision version "No policy rule matched.") := by
  induction rules generalizing trace with
  | nil => rfl
  | cons rule rest ih =>
    simp only [evaluateRules, traceCondition_all]
    by_cases matched : ruleMatches rule evidence = true
    · simp [matched]
    · rw [if_neg matched, List.find?_cons]
      simp only [matched]
      exact ih _

/-- Every trace item is about a condition of one of the rules. -/
theorem evaluateRules_trace {rules : List PolicyRule} {trace : List PolicyEvaluationTraceItem}
    {item : PolicyEvaluationTraceItem}
    (member : item ∈ (evaluateRules version evidence rules trace).evaluationTrace) :
    item ∈ trace ∨ ∃ rule ∈ rules, ∃ condition ∈ rule.record.conditions,
      item = traceCondition rule evidence condition := by
  induction rules generalizing trace with
  | nil => exact .inl member
  | cons rule rest ih =>
    have added : item ∈ trace ++ rule.record.conditions.map (traceCondition rule evidence) →
        item ∈ trace ∨ ∃ other ∈ rule :: rest, ∃ condition ∈ other.record.conditions,
          item = traceCondition other evidence condition := by
      intro member
      rcases List.mem_append.mp member with member | member
      · exact .inl member
      · obtain ⟨condition, among, rfl⟩ := List.mem_map.mp member
        exact .inr ⟨rule, List.mem_cons_self, condition, among, rfl⟩
    simp only [evaluateRules] at member
    split at member
    · exact added member
    · rcases ih member with member | ⟨other, among, found⟩
      · exact added member
      · exact .inr ⟨other, List.mem_cons_of_mem _ among, found⟩

theorem mem_sortedRules : rule ∈ sortedRules version ↔ rule ∈ version.record.rules :=
  Ranking.mem_ascending

/-- The deciding rule is the one the search over the sorted rules finds. -/
theorem decides_iff :
    Decides version evidence rule ↔ (sortedRules version).find? (ruleMatches · evidence) = some rule :=
  Ranking.find?_ascending.symm

variable {targetType : DecisionTargetType}

theorem evaluateWithTrace_outcome (targets : targetType ∈ version.record.targetTypes) :
    (evaluateWithTrace version targetType evidence).outcome =
      (((sortedRules version).find? (ruleMatches · evidence)).map (ruleOutcome version)).getD
        (noDecision version "No policy rule matched.") := by
  unfold evaluateWithTrace
  rw [if_neg (not_not.mpr targets)]
  exact evaluateRules_outcome (sortedRules version) []

theorem matched_iff (targets : targetType ∈ version.record.targetTypes) :
    (evaluateWithTrace version targetType evidence).outcome.matched = true ↔
      ∃ rule, Decides version evidence rule := by
  rw [evaluateWithTrace_outcome targets]
  simp only [decides_iff]
  cases (sortedRules version).find? (ruleMatches · evidence) with
  | none => simp [noDecision]
  | some rule => simp [ruleOutcome]

end GovernancePolicyEvaluator

theorem condition_named (condition : PolicyCondition) :
    Text.isBlank condition.record.fieldPath = false := by
  have valid := condition.valid
  simp only [PolicyConditionRecord.violation, firstViolation_eq_none, List.forall_mem_cons,
    requireNonEmpty_eq_none] at valid
  exact valid.1

theorem rule_named (rule : PolicyRule) :
    Text.isBlank rule.record.ruleId = false ∧ Text.isBlank rule.record.name = false ∧
      Text.isBlank rule.record.reasonTemplate = false := by
  have valid := rule.valid
  simp only [PolicyRuleRecord.violation, firstViolation_eq_none, List.forall_mem_cons,
    requireNonEmpty_eq_none] at valid
  exact ⟨valid.1, valid.2.1, valid.2.2.1⟩

theorem outcome_accepted (version : PolicyVersion) (targetType : DecisionTargetType)
    (evidence : List (String × Json)) (identified : Text.isBlank version.record.policyId = false)
    (numbered : Text.isBlank version.record.version = false) :
    rejectOutcome (GovernancePolicyEvaluator.evaluateWithTrace version targetType evidence).outcome = none := by
  have undecided : ∀ reason, Text.isBlank reason = false →
      rejectOutcome (GovernancePolicyEvaluator.noDecision version reason) = none := by
    intro reason given
    simp [rejectOutcome, GovernancePolicyEvaluator.noDecision, identified, numbered, given]
  by_cases targets : targetType ∈ version.record.targetTypes
  · rw [GovernancePolicyEvaluator.evaluateWithTrace_outcome targets]
    cases (GovernancePolicyEvaluator.sortedRules version).find? (GovernancePolicyEvaluator.ruleMatches · evidence) with
    | none => exact undecided _ (by decide)
    | some rule =>
      simp [rejectOutcome, GovernancePolicyEvaluator.ruleOutcome, identified, numbered, rule_named rule]
  · unfold GovernancePolicyEvaluator.evaluateWithTrace
    rw [if_pos targets]
    exact undecided _ (by decide)

/-- No check fails: a stored version evaluates over any evidence about a named target. -/
theorem evaluatePolicy_ok (version : PolicyVersion) (targetType : DecisionTargetType) {targetId : String}
    (named : Text.isBlank targetId = false) (evidence : List (String × Json)) :
    evaluatePolicy version targetType targetId evidence =
      .ok (GovernancePolicyEvaluator.evaluateWithTrace version targetType evidence) := by
  have valid := version.valid
  simp only [PolicyVersionRecord.violation, firstViolation_eq_none, List.forall_mem_cons,
    requireNonEmpty_eq_none] at valid
  obtain ⟨identified, numbered, targets, ruled, -⟩ := valid
  have start : rejectEvaluation version targetId = none := by
    simp only [rejectEvaluation, firstViolation_eq_none, List.forall_mem_cons, requireNonEmpty_eq_none]
    exact ⟨identified, numbered, targets, ruled, named, by simp⟩
  have items : ∀ item ∈ (GovernancePolicyEvaluator.evaluateWithTrace version targetType evidence).evaluationTrace,
      rejectTraceItem item = none := by
    intro item member
    unfold GovernancePolicyEvaluator.evaluateWithTrace at member
    split at member
    · cases member
    · rcases GovernancePolicyEvaluator.evaluateRules_trace member with member | ⟨rule, -, condition, -, rfl⟩
      · cases member
      · simp [rejectTraceItem, GovernancePolicyEvaluator.traceCondition, rule_named rule, condition_named condition]
  have clean : firstViolation ([rejectEvaluation version targetId] ++
      (GovernancePolicyEvaluator.evaluateWithTrace version targetType evidence).evaluationTrace.map rejectTraceItem ++
      [rejectOutcome (GovernancePolicyEvaluator.evaluateWithTrace version targetType evidence).outcome]) = none := by
    simp only [firstViolation_eq_none, List.forall_mem_append, List.forall_mem_singleton, List.forall_mem_map]
    exact ⟨⟨start, items⟩, outcome_accepted version targetType evidence identified numbered⟩
  unfold evaluatePolicy
  simp only [clean]

end AiGovernance.Decisions
