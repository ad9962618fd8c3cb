import AiGovernance.Domain.AgentExecution

/-!
# Organizations, members and roles

The records of `tenancy/domain.py` and the permission table of
`tenancy/permissions.py`.
-/

namespace AiGovernance.Tenancy

open AiGovernance.Std Domain

/-- `OrganizationStatus`. -/
inductive OrganizationStatus where
  | active
  | suspended
  | archived
deriving DecidableEq

/-- `ProjectStatus`. -/
inductive ProjectStatus where
  | active
  | suspended
  | archived
deriving DecidableEq

/-- `MembershipStatus`. -/
inductive MembershipStatus where
  | active
  | suspended
  | removed
deriving DecidableEq

/-- `BuiltInRole`. -/
inductive BuiltInRole where
  | organizationAdmin
  | governanceAdmin
  | governanceReviewer
  | platformOperator
  | externalRuntimeOperator
  | externalRuntimeTestOperator
  | viewer
deriving DecidableEq

namespace BuiltInRole

/-- `role.value.lower()`. -/
def lowered : BuiltInRole → String
  | organizationAdmin => "organization_admin"
  | governanceAdmin => "governance_admin"
  | governanceReviewer => "governance_reviewer"
  | platformOperator => "platform_operator"
  | externalRuntimeOperator => "external_runtime_operator"
  | externalRuntimeTestOperator => "external_runtime_test_operator"
  | viewer => "viewer"

/-- The roles in the order of their texts. -/
def sorted : List BuiltInRole :=
  [externalRuntimeOperator, externalRuntimeTestOperator, governanceAdmin, governanceReviewer, organizationAdmin,
    platformOperator, viewer]

end BuiltInRole

/-- `Permission`. -/
inductive Permission where
  | organizationRead | organizationUpdate
  | projectCreate | projectRead | projectUpdate | projectArchive
  | membershipRead | membershipManage
  | roleAssignmentRead | roleAssignmentManage
  | policyCreate | policyRead | policyUpdate | policyValidate | policySimulate | policyReview | policyPublish
  | policyDeprecate
  | decisionEvaluate | decisionRead | decisionExplain
  | evaluationExecute | evaluationRead
  | jobSubmit | jobRead | jobCancel | jobRetry
  | ontologyRead | ontologySynchronize | ontologyReconcile
  | auditRead | mcpAuditRead | platformHealthRead
  | assetManage | runtimeConnectionManage
  | settingsRead | settingsManage
  | replayRead | replayCreate | replayArchive | replayExecute | replayCancel | replayEvaluate | replayResultRead
  | agentExecutionIngest | agentExecutionRead
  | runtimeActionDelegationIssue
  | runtimeFindingRead | runtimeFindingDetect | runtimeFindingReconcile | runtimeFindingReview
  | causalAuditCreate | causalAuditRead
  | enterpriseRecommendationsRead | enterpriseRecommendationsSynthesize
deriving DecidableEq

namespace Permission

/-- The text of a permission. -/
def value : Permission → String
  | organizationRead => "organization.read"
  | organizationUpdate => "organization.update"
  | projectCreate => "project.create"
  | projectRead => "project.read"
  | projectUpdate => "project.update"
  | projectArchive => "project.archive"
  | membershipRead => "membership.read"
  | membershipManage => "membership.manage"
  | roleAssignmentRead => "role_assignment.read"
  | roleAssignmentManage => "role_assignment.manage"
  | policyCreate => "policy.create"
  | policyRead => "policy.read"
  | policyUpdate => "policy.update"
  | policyValidate => "policy.validate"
  | policySimulate => "policy.simulate"
  | policyReview => "policy.review"
  | policyPublish => "policy.publish"
  | policyDeprecate => "policy.deprecate"
  | decisionEvaluate => "decision.evaluate"
  | decisionRead => "decision.read"
  | decisionExplain => "decision.explain"
  | evaluationExecute => "evaluation.execute"
  | evaluationRead => "evaluation.read"
  | jobSubmit => "job.submit"
  | jobRead => "job.read"
  | jobCancel => "job.cancel"
  | jobRetry => "job.retry"
  | ontologyRead => "ontology.read"
  | ontologySynchronize => "ontology.synchronize"
  | ontologyReconcile => "ontology.reconcile"
  | auditRead => "audit.read"
  | mcpAuditRead => "mcp_audit.read"
  | platformHealthRead => "platform_health.read"
  | assetManage => "asset.manage"
  | runtimeConnectionManage => "runtime_connection.manage"
  | settingsRead => "settings.read"
  | settingsManage => "settings.manage"
  | replayRead => "replay.read"
  | replayCreate => "replay.create"
  | replayArchive => "replay.archive"
  | replayExecute => "replay.execute"
  | replayCancel => "replay.cancel"
  | replayEvaluate => "replay.evaluate"
  | replayResultRead => "replay.result.read"
  | agentExecutionIngest => "agent_execution.ingest"
  | agentExecutionRead => "agent_execution.read"
  | runtimeActionDelegationIssue => "runtime_action_delegation.issue"
  | runtimeFindingRead => "runtime_finding.read"
  | runtimeFindingDetect => "runtime_finding.detect"
  | runtimeFindingReconcile => "runtime_finding.reconcile"
  | runtimeFindingReview => "runtime_finding.review"
  | causalAuditCreate => "causal_audit.create"
  | causalAuditRead => "causal_audit.read"
  | enterpriseRecommendationsRead => "enterprise.recommendations.read"
  | enterpriseRecommendationsSynthesize => "enterprise.recommendations.synthesize"

end Permission

/-- A permission as it is asked for: a member of the enumeration, or the text of an extension. -/
inductive PermissionName where
  | builtIn (permission : Permission)
  | extension (name : String)
deriving DecidableEq

/-- The text a permission is compared by. -/
def PermissionName.text : PermissionName → String
  | builtIn permission => permission.value
  | extension name => name

section Table

open Permission

private def viewerPermissions : List Permission :=
  [policyRead, decisionRead, decisionExplain, evaluationRead, jobRead, ontologyRead, auditRead, platformHealthRead,
    settingsRead, replayRead, replayResultRead, agentExecutionRead, enterpriseRecommendationsRead]

private def operatorPermissions : List Permission :=
  [jobSubmit, jobRead, jobCancel, jobRetry, evaluationExecute, evaluationRead, ontologyRead, ontologyReconcile,
    platformHealthRead, mcpAuditRead, settingsRead, settingsManage, replayRead, agentExecutionIngest,
    agentExecutionRead, runtimeFindingRead, runtimeFindingDetect, enterpriseRecommendationsRead]

private def governanceAdminPermissions : List Permission :=
  [assetManage, runtimeConnectionManage, policyCreate, policyRead, policyUpdate, policyValidate, policySimulate,
    policyReview, policyPublish, policyDeprecate, decisionEvaluate, decisionRead, decisionExplain, evaluationExecute,
    evaluationRead, jobSubmit, jobRead, ontologyRead, ontologySynchronize, auditRead, settingsRead, replayRead,
    replayCreate, replayArchive, replayExecute, replayCancel, replayEvaluate, replayResultRead, settingsManage,
    agentExecutionIngest, agentExecutionRead, runtimeActionDelegationIssue, runtimeFindingRead, runtimeFindingDetect,
    runtimeFindingReconcile, runtimeFindingReview, causalAuditCreate, causalAuditRead, enterpriseRecommendationsRead,
    enterpriseRecommendationsSynthesize]

private def externalRuntimeOperatorPermissions : List Permission :=
  [jobSubmit, agentExecutionIngest, agentExecutionRead, runtimeFindingRead, runtimeFindingDetect,
    runtimeFindingReconcile, causalAuditCreate, causalAuditRead, replayCreate, replayRead, replayResultRead,
    settingsRead]

/-- `permission in role_permissions(role)`; an administrator holds every permission and every registered extension. -/
def BuiltInRole.grants (extensions : List String) (role : BuiltInRole) (permission : PermissionName) : Bool :=
  let listed (permissions : List Permission) : Bool := (permissions.map Permission.value).contains permission.text
  match role with
  | .organizationAdmin =>
    (match permission with
      | .builtIn _ => true
      | .extension name => extensions.contains name ||
          listed (organizationRead :: organizationUpdate :: projectCreate :: projectRead :: projectUpdate ::
            projectArchive :: membershipRead :: membershipManage :: roleAssignmentRead :: roleAssignmentManage ::
            jobCancel :: jobRetry :: ontologyReconcile :: mcpAuditRead :: platformHealthRead ::
            governanceAdminPermissions))
  | .governanceAdmin => listed governanceAdminPermissions
  | .governanceReviewer => listed (policyReview :: policyPublish :: viewerPermissions)
  | .platformOperator => listed operatorPermissions
  | .externalRuntimeOperator => listed externalRuntimeOperatorPermissions
  | .externalRuntimeTestOperator => listed (settingsManage :: externalRuntimeOperatorPermissions)
  | .viewer => listed viewerPermissions

end Table

/-! ## Records -/

/-- A letter or digit of a slug. -/
def isSlugChar (c : Char) : Bool := c.isLower || c.isDigit

/-- The texts `_SLUG` matches: groups of lower-case letters and digits, joined by single hyphens. -/
def isSlug (text : String) : Bool :=
  (Text.split '-' text).all fun group => !group.isEmpty && group.toList.all isSlugChar

/-- `validate_slug`. -/
@[irreducible] def validateSlug (value : String) : Except Raised String :=
  let slug := Text.strip value
  if 1 ≤ slug.length && slug.length ≤ 63 && isSlug slug then .ok slug
  else .error ⟨.valueError, "slug must contain lowercase letters, numbers, and single hyphens"⟩

/-- The fields of `Organization`. -/
structure OrganizationRecord where
  organizationId : String
  name : String
  slug : String
  status : OrganizationStatus
  createdAt : Instant
  updatedAt : Instant
deriving DecidableEq

/-- `Organization.__post_init__`. -/
def OrganizationRecord.violation (record : OrganizationRecord) : Option Raised :=
  firstViolation [
    rejectIf (Text.isBlank record.organizationId || Text.isBlank record.name) .valueError
      "organization id and name are required",
    (match validateSlug record.slug with | .ok _ => none | .error raised => some raised)]

/-- An organization. -/
abbrev Organization := Checked OrganizationRecord.violation

/-- The fields of `Project`. -/
structure ProjectRecord where
  projectId : String
  organizationId : String
  name : String
  slug : String
  description : Option String
  status : ProjectStatus
  createdAt : Instant
  updatedAt : Instant
deriving DecidableEq

/-- `Project.__post_init__`. -/
def ProjectRecord.violation (record : ProjectRecord) : Option Raised :=
  firstViolation [
    rejectIf (Text.isBlank record.projectId || Text.isBlank record.organizationId || Text.isBlank record.name)
      .valueError "project id, organization id, and name are required",
    (match validateSlug record.slug with | .ok _ => none | .error raised => some raised)]

/-- A project of an organization. -/
abbrev Project := Checked ProjectRecord.violation

/-- `OrganizationMembership`. -/
structure OrganizationMembership where
  organizationId : String
  actorId : String
  status : MembershipStatus
  createdAt : Instant
  updatedAt : Instant
  displayName : Option String := none
deriving DecidableEq

/-- `RoleAssignment`. -/
structure RoleAssignment where
  assignmentId : String
  organizationId : String
  projectId : Option String
  actorId : String
  role : BuiltInRole
  createdAt : Instant
  createdBy : String
deriving DecidableEq

/-- Two assignments that grant the same. -/
def RoleAssignment.sameGrant (left right : RoleAssignment) : Bool :=
  left.organizationId = right.organizationId && left.projectId = right.projectId && left.actorId = right.actorId &&
    left.role = right.role

theorem RoleAssignment.sameGrant_comm (left right : RoleAssignment) : left.sameGrant right = right.sameGrant left := by
  simp only [RoleAssignment.sameGrant, eq_comm]

/-- The digits of a random identifier, `uuid4().hex`. -/
structure Uuid where
  hex : String
  digits : hex.toList.all Text.isHex = true
deriving DecidableEq

/-- `f"role_{uuid4().hex}"`. -/
def Uuid.roleId (uuid : Uuid) : String := "role_" ++ uuid.hex

/-- `f"role_{role_prefix}_{role.value.lower()}_{actor_id.replace('-', '')}"`. -/
def provisionedRoleId (rolePrefix : String) (role : BuiltInRole) (actorId : String) : String :=
  "role_" ++ rolePrefix ++ "_" ++ role.lowered ++ "_" ++ String.ofList (actorId.toList.filter (· ≠ '-'))

end AiGovernance.Tenancy
