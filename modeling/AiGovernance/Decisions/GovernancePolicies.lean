import AiGovernance.Decisions.PolicyAdministration
import AiGovernance.Std.Ranking

/-!
# Governance policies and their two evaluations

A `GovernancePolicy` is what the evaluator runs: the content of a version under
the name of its definition (`decisions/policies.py`). `evaluate` stops at the
first condition of a rule that fails; `evaluate_with_trace` checks every
condition of every rule it reaches and says what it found. What neither reads
of a policy (its creation time and metadata) is left out.
-/

namespace AiGovernance.Decisions

open AiGovernance.Std Domain

/-- The fields of `GovernancePolicy`. -/
structure GovernancePolicyRecord where
  policyId : String
  version : String
  name : String
  description : Option String
  status : PolicyStatus
  targetTypes : List DecisionTargetType
  rules : List PolicyRule
  createdBy : String
deriving DecidableEq

/-- `GovernancePolicy.__post_init__`. -/
def GovernancePolicyRecord.violation (record : GovernancePolicyRecord) : Option Raised :=
  firstViolation [
    requireNonEmpty "policy_id" record.policyId,
    requireNonEmpty "policy version" record.version,
    requireNonEmpty "policy name" record.name,
    requireNonEmpty "policy created_by" record.createdBy,
    rejectIf record.targetTypes.isEmpty .decisionValidationError
      "Decision policy target_types must not be empty.",
    rejectIf record.rules.isEmpty .decisionValidationError
      "Decision policy rules must not be empty."]

/-- Versioned deterministic policy definition for governance decisions. -/
abbrev GovernancePolicy := Checked GovernancePolicyRecord.violation

/-- The fields of `PolicyEvaluationContext`. -/
structure PolicyEvaluationContextRecord where
  targetType : DecisionTargetType
  targetId : String
  evidence : List (String × Json)
deriving DecidableEq

/-- `PolicyEvaluationContext.__post_init__`. -/
def PolicyEvaluationContextRecord.violation (record : PolicyEvaluationContextRecord) : Option Raised :=
  firstViolation [requireNonEmpty "policy evaluation target_id" record.targetId]

/-- Flattened evidence available to governance policy evaluation. -/
abbrev PolicyEvaluationContext := Checked PolicyEvaluationContextRecord.violation

namespace GovernancePolicy

open GovernancePolicyEvaluator (conditionMatches ruleMatches traceCondition)

/-- `sorted(policy.rules, key=lambda item: item.priority)`. -/
def sortedRules (policy : GovernancePolicy) : List PolicyRule :=
  Ranking.ascending (·.record.priority) policy.record.rules

/-- `_no_decision`. -/
def noDecision (policy : GovernancePolicy) (reason : String) : PolicyEvaluationOutcome :=
  { policyId := policy.record.policyId
    policyVersion := policy.record.version
    matchedRuleId := none
    effect := .noDecision
    reason
    matched := false
    rulePriority := none }

/-- The outcome of a matching rule. -/
def ruleOutcome (policy : GovernancePolicy) (rule : PolicyRule) : PolicyEvaluationOutcome :=
  { policyId := policy.record.policyId
    policyVersion := policy.record.version
    matchedRuleId := some rule.record.ruleId
    effect := rule.record.effect
    reason := rule.record.reasonTemplate
    matched := true
    rulePriority := some rule.record.priority }

/-- The loop of `evaluate` over the sorted rules. -/
def evaluateRules (policy : GovernancePolicy) (evidence : List (String × Json)) :
    List PolicyRule → PolicyEvaluationOutcome
  | [] => noDecision policy "No policy rule matched."
  | rule :: rest =>
    if ruleMatches rule evidence then ruleOutcome policy rule else evaluateRules policy evidence rest

/-- `evaluate`. -/
def evaluate (policy : GovernancePolicy) (context : PolicyEvaluationContext) : PolicyEvaluationOutcome :=
  if context.record.targetType ∉ policy.record.targetTypes then
    noDecision policy "Policy does not target this entity type."
  else evaluateRules policy context.record.evidence (sortedRules policy)

/-- The loop of `evaluate_with_trace` over the sorted rules, with the trace so far. -/
def traceRules (policy : GovernancePolicy) (evidence : List (String × Json)) :
    List PolicyRule → List PolicyEvaluationTraceItem → PolicyEvaluationTraceOutcome
  | [], trace =>
    { outcome := noDecision policy "No policy rule matched."
      matchedConditions := []
      unmatchedConditions := (sortedRules policy).flatMap (·.record.conditions)
      evaluationTrace := trace }
  | rule :: rest, trace =>
    let ruleTrace := rule.record.conditions.map (traceCondition rule evidence)
    if ruleTrace.all (·.matched) then
      { outcome := ruleOutcome policy rule
        matchedConditions := rule.record.conditions
        unmatchedConditions := []
        evaluationTrace := trace ++ ruleTrace }
    else traceRules policy evidence rest (trace ++ ruleTrace)

/-- `evaluate_with_trace`. -/
def evaluateWithTrace (policy : GovernancePolicy) (context : PolicyEvaluationContext) :
    PolicyEvaluationTraceOutcome :=
  if context.record.targetType ∉ policy.record.targetTypes then
    { outcome := noDecision policy "Policy does not target this entity type."
      matchedConditions := []
      unmatchedConditions := []
      evaluationTrace := [] }
  else traceRules policy context.record.evidence (sortedRules policy) []

variable {policy : GovernancePolicy} {context : PolicyEvaluationContext} {evidence : List (String × Json)}

@[simp] theorem mem_sortedRules {rule : PolicyRule} : rule ∈ sortedRules policy ↔ rule ∈ policy.record.rules :=
  Ranking.mem_ascending

/-- `evaluate` gives the outcome of the first matching rule. -/
theorem evaluateRules_eq (rules : List PolicyRule) :
    evaluateRules policy evidence rules =
      ((rules.find? (ruleMatches · evidence)).map (ruleOutcome policy)).getD
        (noDecision policy "No policy rule matched.") := by
  induction rules with
  | nil => rfl
  | cons rule rest ih =>
    by_cases matched : ruleMatches rule evidence = true
    · simp [evaluateRules, matched]
    · simp [evaluateRules, matched, ih]

theorem evaluate_of_targets (targets : context.record.targetType ∈ policy.record.targetTypes) :
    evaluate policy context =
      (((sortedRules policy).find? (ruleMatches · context.record.evidence)).map (ruleOutcome policy)).getD
        (noDecision policy "No policy rule matched.") := by
  unfold evaluate
  rw [if_neg (not_not.mpr targets)]
  exact evaluateRules_eq (sortedRules policy)

theorem evaluate_matched (matched : (evaluate policy context).matched = true) :
    context.record.targetType ∈ policy.record.targetTypes ∧
      ∃ rule ∈ policy.record.rules, ruleMatches rule context.record.evidence = true ∧
        evaluate policy context = ruleOutcome policy rule := by
  by_cases targets : context.record.targetType ∈ policy.record.targetTypes
  · refine ⟨targets, ?_⟩
    have outcome := evaluate_of_targets targets
    cases found : (sortedRules policy).find? (ruleMatches · context.record.evidence) with
    | none =>
      rw [outcome, found] at matched
      exact absurd matched Bool.false_ne_true
    | some rule =>
      rw [found] at outcome
      have accepted := List.find?_some found
      exact ⟨rule, mem_sortedRules.mp (List.mem_of_find?_eq_some found), accepted, outcome⟩
  · unfold evaluate at matched
    rw [if_pos targets] at matched
    exact absurd matched Bool.false_ne_true

@[simp] theorem evaluate_policyId : (evaluate policy context).policyId = policy.record.policyId := by
  unfold evaluate
  split
  · rfl
  · rw [evaluateRules_eq]
    cases (sortedRules policy).find? (ruleMatches · context.record.evidence) <;> rfl

@[simp] theorem evaluate_policyVersion : (evaluate policy context).policyVersion = policy.record.version := by
  unfold evaluate
  split
  · rfl
  · rw [evaluateRules_eq]
    cases (sortedRules policy).find? (ruleMatches · context.record.evidence) <;> rfl

section Versions

variable {version : PolicyVersion}

end Versions

end GovernancePolicy

end AiGovernance.Decisions
