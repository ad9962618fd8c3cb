import AiGovernance.Domain.AgentExecution
import Mathlib.Data.List.Sort

/-!
# Governance policies

Structured policies and their deterministic evaluation
(`decisions/policies.py`), and the administered definitions and versions the
services select them from (`decisions/policy_administration.py`). Evaluation
over JSON evidence is total: a comparison the language rejects with a
`TypeError` is caught and counts as no match.
-/

namespace AiGovernance.Decisions

open AiGovernance.Std Domain

/-- Lifecycle state of a policy version. -/
inductive PolicyStatus where
  | draft
  | active
  | deprecated
  | archived
deriving DecidableEq

/-- Decision effect produced by a matching rule. -/
inductive PolicyEffect where
  | approve
  | reject
  | block
  | recommend
  | investigate
  | noDecision
deriving DecidableEq

/-- Structured comparison operators of policy conditions. -/
inductive PolicyConditionOperator where
  | greaterThan
  | greaterThanOrEqual
  | lessThan
  | lessThanOrEqual
  | equals
  | notEquals
  | isIn
  | notIn
  | present
  | missing
deriving DecidableEq

/-- Entity types a governance decision can target. -/
inductive DecisionTargetType where
  | candidate
  | experiment
  | promptVersion
  | modelVersion
  | datasetVersion
  | evaluationRun
  | evaluationResult
  | job
  | agentExecution
  | governanceDecision
deriving DecidableEq

/-- `require_non_empty` of the decision domain. -/
def requireNonEmpty (name value : String) : Option Raised :=
  rejectIf (Text.isBlank value) .decisionValidationError ("Decision " ++ name ++ " must not be empty.")

@[simp] theorem requireNonEmpty_eq_none {name value : String} :
    requireNonEmpty name value = none ↔ Text.isBlank value = false := rejectIf_eq_none

/-! ## Conditions and rules -/

/-- The fields of `PolicyCondition`; `null` is the absent expected value. -/
structure PolicyConditionRecord where
  fieldPath : String
  operator : PolicyConditionOperator
  expectedValue : Json
deriving DecidableEq

/-- `PolicyCondition.__post_init__`. -/
def PolicyConditionRecord.violation (record : PolicyConditionRecord) : Option Raised :=
  firstViolation [
    requireNonEmpty "policy condition field_path" record.fieldPath,
    rejectIf (record.expectedValue = .null && record.operator ≠ .present &&
        record.operator ≠ .missing) .decisionValidationError
      ("Decision policy condition expected_value may be None only for " ++
        "EXISTS and MISSING operators.")]

/-- Structured condition evaluated against policy evidence. -/
abbrev PolicyCondition := Checked PolicyConditionRecord.violation

/-- The fields of `PolicyRule`. -/
structure PolicyRuleRecord where
  ruleId : String
  name : String
  conditions : List PolicyCondition
  effect : PolicyEffect
  reasonTemplate : String
  priority : Nat
deriving DecidableEq

/-- `PolicyRule.__post_init__`. -/
def PolicyRuleRecord.violation (record : PolicyRuleRecord) : Option Raised :=
  firstViolation [
    requireNonEmpty "policy rule rule_id" record.ruleId,
    requireNonEmpty "policy rule name" record.name,
    requireNonEmpty "policy rule reason_template" record.reasonTemplate,
    rejectIf record.conditions.isEmpty .decisionValidationError
      "Decision policy rule conditions must not be empty."]

/-- Ordered policy rule with all-match structured conditions. -/
abbrev PolicyRule := Checked PolicyRuleRecord.violation

/-! ## Definitions and versions -/

/-- The fields of `PolicyDefinition` that selection and evaluation read. -/
structure PolicyDefinition where
  policyId : String
  organizationId : String
  projectId : String
  createdAt : Instant
  metadata : List (String × Json)
deriving DecidableEq

/-- The fields of `PolicyVersion` that selection and evaluation read. -/
structure PolicyVersionRecord where
  policyId : String
  version : String
  status : PolicyStatus
  targetTypes : List DecisionTargetType
  rules : List PolicyRule
deriving DecidableEq

/-- `PolicyVersion.__post_init__`. -/
def PolicyVersionRecord.violation (record : PolicyVersionRecord) : Option Raised :=
  firstViolation [
    requireNonEmpty "policy version policy_id" record.policyId,
    requireNonEmpty "policy version" record.version,
    rejectIf record.targetTypes.isEmpty .decisionValidationError
      "Decision policy target_types must not be empty.",
    rejectIf record.rules.isEmpty .decisionValidationError
      "Decision policy rules must not be empty.",
    rejectIf (¬ (record.rules.map (·.record.ruleId)).Nodup) .decisionValidationError
      "Decision policy rule IDs must be unique within a version."]

/-- Immutable executable policy content once it leaves draft state. -/
abbrev PolicyVersion := Checked PolicyVersionRecord.violation

/-! ## Evaluation -/

/-- The fields of `PolicyEvaluationOutcome`; `rulePriority` is its only metadata. -/
structure PolicyEvaluationOutcome where
  policyId : String
  policyVersion : String
  matchedRuleId : Option String
  effect : PolicyEffect
  reason : String
  matched : Bool
  rulePriority : Option Nat
deriving DecidableEq

/-- The fields of `PolicyEvaluationTraceItem`. -/
structure PolicyEvaluationTraceItem where
  ruleId : String
  ruleName : String
  conditionFieldPath : String
  operator : PolicyConditionOperator
  expectedValue : Json
  actualValue : Option Json
  matched : Bool
  reason : Option String
deriving DecidableEq

/-- The fields of `PolicyEvaluationTraceOutcome`. -/
structure PolicyEvaluationTraceOutcome where
  outcome : PolicyEvaluationOutcome
  matchedConditions : List PolicyCondition
  unmatchedConditions : List PolicyCondition
  evaluationTrace : List PolicyEvaluationTraceItem

namespace GovernancePolicyEvaluator

/-- The loop of `_resolve_field_path` over the remaining segments. -/
def resolveSegments : List String → Json → Option Json
  | [], current => some current
  | segment :: rest, .obj fields => (Json.field fields segment).bind (resolveSegments rest)
  | _ :: _, _ => none

/-- `_resolve_field_path`. -/
def resolveFieldPath (evidence : List (String × Json)) (fieldPath : String) : Option Json :=
  resolveSegments (Text.split '.' fieldPath) (.obj evidence)

/-- `_compare`; an uncomparable pair is a caught `TypeError`. -/
def compare (actual expected : Json) (accepts : Ordering → Bool) : Bool :=
  (Json.order actual.canonical expected.canonical).any accepts

/-- `_condition_matches`. -/
def conditionMatches (condition : PolicyCondition) (evidence : List (String × Json)) : Bool :=
  let expected := condition.record.expectedValue
  match condition.record.operator, resolveFieldPath evidence condition.record.fieldPath with
  | .present, actual => actual.isSome
  | .missing, actual => actual.isNone
  | _, none => false
  | .greaterThan, some actual => compare actual expected (· = .gt)
  | .greaterThanOrEqual, some actual => compare actual expected (· ≠ .lt)
  | .lessThan, some actual => compare actual expected (· = .lt)
  | .lessThanOrEqual, some actual => compare actual expected (· ≠ .gt)
  | .equals, some actual => Json.same actual expected
  | .notEquals, some actual => !Json.same actual expected
  | .isIn, some actual => Json.contains expected actual
  | .notIn, some actual => !Json.contains expected actual

/-- `_rule_matches`. -/
def ruleMatches (rule : PolicyRule) (evidence : List (String × Json)) : Bool :=
  rule.record.conditions.all (conditionMatches · evidence)

/-- `_trace_condition`. -/
def traceCondition (rule : PolicyRule) (evidence : List (String × Json))
    (condition : PolicyCondition) : PolicyEvaluationTraceItem :=
  let matched := conditionMatches condition evidence
  { ruleId := rule.record.ruleId
    ruleName := rule.record.name
    conditionFieldPath := condition.record.fieldPath
    operator := condition.record.operator
    expectedValue := condition.record.expectedValue
    actualValue := resolveFieldPath evidence condition.record.fieldPath
    matched
    reason := if matched then none else some "Condition did not match." }

/-- `_no_decision`. -/
def noDecision (policy : PolicyVersion) (reason : String) : PolicyEvaluationOutcome :=
  { policyId := policy.record.policyId
    policyVersion := policy.record.version
    matchedRuleId := none
    effect := .noDecision
    reason
    matched := false
    rulePriority := none }

/-- The outcome of a matching rule. -/
def ruleOutcome (policy : PolicyVersion) (rule : PolicyRule) : PolicyEvaluationOutcome :=
  { policyId := policy.record.policyId
    policyVersion := policy.record.version
    matchedRuleId := some rule.record.ruleId
    effect := rule.record.effect
    reason := rule.record.reasonTemplate
    matched := true
    rulePriority := some rule.record.priority }

/-- `sorted(policy.rules, key=lambda item: item.priority)`; the sort is stable. -/
def sortedRules (policy : PolicyVersion) : List PolicyRule :=
  policy.record.rules.insertionSort (fun left right => left.record.priority ≤ right.record.priority)

/-- The loop of `evaluate_with_trace` over the sorted rules, with the trace so far. -/
def evaluateRules (policy : PolicyVersion) (evidence : List (String × Json)) :
    List PolicyRule → List PolicyEvaluationTraceItem → PolicyEvaluationTraceOutcome
  | [], trace =>
    { outcome := noDecision policy "No policy rule matched."
      matchedConditions := []
      unmatchedConditions := (sortedRules policy).flatMap (·.record.conditions)
      evaluationTrace := trace }
  | rule :: rest, trace =>
    let ruleTrace := rule.record.conditions.map (traceCondition rule evidence)
    if ruleTrace.all (·.matched) then
      { outcome := ruleOutcome policy rule
        matchedConditions := rule.record.conditions
        unmatchedConditions := []
        evaluationTrace := trace ++ ruleTrace }
    else evaluateRules policy evidence rest (trace ++ ruleTrace)

/-- `evaluate_with_trace`. -/
def evaluateWithTrace (policy : PolicyVersion) (targetType : DecisionTargetType)
    (evidence : List (String × Json)) : PolicyEvaluationTraceOutcome :=
  if targetType ∉ policy.record.targetTypes then
    { outcome := noDecision policy "Policy does not target this entity type."
      matchedConditions := []
      unmatchedConditions := []
      evaluationTrace := [] }
  else evaluateRules policy evidence (sortedRules policy) []

end GovernancePolicyEvaluator

end AiGovernance.Decisions
