import AiGovernance.Decisions.Policies
import AiGovernance.Std.Dict

/-!
# Administered policies

The records the Studio administers (`decisions/policy_administration.py`), the
operators the policy schema supports for each evidence field, and the check a
version has to pass before it may grant runtime authority
(`services/policies/policy_administration_service.py`). The metadata of rules
and conditions is read by nothing here and left out.
-/

namespace AiGovernance.PolicyAdministration

open AiGovernance.Std Domain
open Decisions (DecisionTargetType PolicyCondition PolicyConditionOperator PolicyRule PolicyStatus
  requireNonEmpty)

/-- Studio-facing category of a policy. -/
inductive PolicyCategory where
  | security
  | compliance
  | dataQuality
  | modelRisk
  | promptSafety
  | cost
  | operationalReliability
  | custom
deriving DecidableEq

/-- The fields of `PolicyDefinition`. -/
structure PolicyDefinitionRecord where
  policyId : String
  organizationId : String
  projectId : String
  name : String
  description : Option String
  category : PolicyCategory
  owner : String
  createdBy : String
  createdAt : Instant
  updatedAt : Instant
  metadata : List (String × Json)
deriving DecidableEq

/-- `PolicyDefinition.__post_init__`. -/
def PolicyDefinitionRecord.violation (record : PolicyDefinitionRecord) : Option Raised :=
  firstViolation [
    requireNonEmpty "policy_id" record.policyId,
    requireNonEmpty "policy organization_id" record.organizationId,
    requireNonEmpty "policy project_id" record.projectId,
    requireNonEmpty "policy name" record.name,
    requireNonEmpty "policy owner" record.owner,
    requireNonEmpty "policy created_by" record.createdBy]

/-- Stable identity of a governed policy. -/
abbrev PolicyDefinition := Checked PolicyDefinitionRecord.violation

/-- The fields of `PolicyVersion`. -/
structure PolicyVersionRecord where
  policyId : String
  version : String
  status : PolicyStatus
  targetTypes : List DecisionTargetType
  rules : List PolicyRule
  createdBy : String
  createdAt : Instant
  activatedAt : Option Instant := none
  deprecatedAt : Option Instant := none
  archivedAt : Option Instant := none
  metadata : List (String × Json) := []
deriving DecidableEq

/-- `PolicyVersion.__post_init__`. -/
def PolicyVersionRecord.violation (record : PolicyVersionRecord) : Option Raised :=
  firstViolation [
    requireNonEmpty "policy version policy_id" record.policyId,
    requireNonEmpty "policy version" record.version,
    requireNonEmpty "policy version created_by" record.createdBy,
    rejectIf record.targetTypes.isEmpty .decisionValidationError
      "Decision policy target_types must not be empty.",
    rejectIf record.rules.isEmpty .decisionValidationError
      "Decision policy rules must not be empty.",
    rejectIf (¬ (record.rules.map (·.record.ruleId)).Nodup) .decisionValidationError
      "Decision policy rule IDs must be unique within a version."]

/-- Immutable executable policy content once it leaves draft state. -/
abbrev PolicyVersion := Checked PolicyVersionRecord.violation

/-- `{**fields, **updates}`. -/
def merged (fields updates : List (String × Json)) : List (String × Json) :=
  updates.foldl (fun fields entry => Dict.write fields entry.1 entry.2) fields

/-! ## The policy schema -/

/-- The operators of numeric fields. -/
def comparisonOperators : List PolicyConditionOperator :=
  [.greaterThan, .greaterThanOrEqual, .lessThan, .lessThanOrEqual, .equals, .notEquals, .present, .missing]

/-- The operators of text fields. -/
def stringOperators : List PolicyConditionOperator := [.equals, .notEquals, .isIn, .notIn, .present, .missing]

/-- The fields of `_policy_schema` with the operators each supports. -/
def schemaFields : List (String × List PolicyConditionOperator) := [
  ("action.id", stringOperators),
  ("resource.type", stringOperators),
  ("resource.reference", stringOperators),
  ("actor.id", stringOperators),
  ("issuer.id", stringOperators),
  ("runtime_actor.id", stringOperators),
  ("delegation.id", stringOperators),
  ("delegation.issuer_id", stringOperators),
  ("metrics.groundedness.score", comparisonOperators),
  ("metrics.answer_relevance.score", comparisonOperators),
  ("cost.estimated_usd", comparisonOperators),
  ("drift.severity", stringOperators),
  ("prompt.status", stringOperators),
  ("prompt.variables.count", comparisonOperators),
  ("model.provider", stringOperators),
  ("model.risk_tier", stringOperators)]

/-- A condition on a field of the schema with an operator the field does not support. -/
def unsupported (condition : PolicyCondition) : Bool :=
  (schemaFields.lookup condition.record.fieldPath).any (!·.contains condition.record.operator)

/-- `_validate_version`. -/
def validateVersion (version : PolicyVersion) : Except Raised Unit :=
  match (version.record.rules.flatMap (·.record.conditions)).find? unsupported with
  | some condition =>
    .error ⟨.policyValidationFailedError,
      "Operator is not supported for policy field '" ++ condition.record.fieldPath ++ "'."⟩
  | none => .ok ()

/-! ## Runtime authorization -/

/-- The policy is registered for runtime action authorization. -/
def registered (definition : PolicyDefinition) : Bool :=
  match Json.field definition.record.metadata "runtime_action_authorization" with
  | some (.obj registration) => Json.field registration "purpose" = some (.str "runtime_action_authorization")
  | _ => false

/-- A path below the context an agent supplies. -/
def agentControlled (condition : PolicyCondition) : Bool :=
  Text.startsWith "context." condition.record.fieldPath ||
    Text.startsWith "agent_context." condition.record.fieldPath

/-- A rule that approves on what an agent claims. -/
def approvesOnContext (rule : PolicyRule) : Bool :=
  rule.record.effect = .approve && rule.record.conditions.any agentControlled

/-- `_validate_runtime_authorization_activation`. -/
def validateRuntimeAuthorizationActivation (definition : PolicyDefinition) (version : PolicyVersion) :
    Except Raised Unit :=
  if registered definition && version.record.rules.any approvesOnContext then
    .error ⟨.policyActivationFailedError,
      "Runtime authorization ALLOW rules cannot depend on agent-controlled context."⟩
  else .ok ()

end AiGovernance.PolicyAdministration
