import AiGovernance.Domain.Errors
import AiGovernance.Std.Instant
import AiGovernance.Std.Json
import AiGovernance.Std.Text

/-!
# Agent executions

The durable, tenant-scoped record of one externally executed agent run
(`domain/agent_execution/agent_execution.py`) and the tenant context a request
is made in (`tenancy/domain.py`).
-/

namespace AiGovernance.Domain

open AiGovernance.Std

/-- Lifecycle states of an agent execution trace. -/
inductive AgentExecutionStatus where
  | received
  | running
  | succeeded
  | failed
  | cancelled
deriving DecidableEq

namespace AgentExecutionStatus

/-- The stored text of a status. -/
def value : AgentExecutionStatus → String
  | received => "RECEIVED"
  | running => "RUNNING"
  | succeeded => "SUCCEEDED"
  | failed => "FAILED"
  | cancelled => "CANCELLED"

/-- Membership in `_TERMINAL_STATES`. -/
def isTerminal : AgentExecutionStatus → Bool
  | succeeded | failed | cancelled => true
  | received | running => false

end AgentExecutionStatus

/-- The fields of `AgentExecution`. -/
structure AgentExecutionRecord where
  executionId : String
  organizationId : String
  projectId : Option String
  agentId : String
  agentName : String
  agentVersion : String
  externalExecutionId : String
  runtimeProvider : String
  status : AgentExecutionStatus
  startedAt : Instant
  completedAt : Option Instant
  correlationId : Option String
  parentExecutionId : Option String
  createdAt : Instant
  updatedAt : Instant
  metadata : List (String × Json)
  version : Nat
deriving DecidableEq

/-- An identifier field that must not be blank. -/
def requireText (name value : String) : Option Raised :=
  rejectIf (Text.isBlank value) .valueError (name ++ " must not be empty.")

/-- A project scope is absent or not blank. -/
def requireProject (projectId : Option String) : Option Raised :=
  rejectIf (projectId.any Text.isBlank) .valueError "project_id must not be blank."

/-- `AgentExecution.__post_init__`. -/
def AgentExecutionRecord.violation (record : AgentExecutionRecord) : Option Raised :=
  firstViolation [
    requireText "execution_id" record.executionId,
    requireText "organization_id" record.organizationId,
    requireText "agent_id" record.agentId,
    requireText "agent_name" record.agentName,
    requireText "agent_version" record.agentVersion,
    requireText "external_execution_id" record.externalExecutionId,
    requireText "runtime_provider" record.runtimeProvider,
    requireProject record.projectId,
    rejectIf (record.completedAt.any (· < record.startedAt)) .valueError
      "completed_at must not precede started_at.",
    rejectIf (record.updatedAt < record.createdAt) .valueError
      "updated_at must not precede created_at."]

/-- A durable, tenant-scoped record of one externally executed agent run. -/
abbrev AgentExecution := Checked AgentExecutionRecord.violation

namespace AgentExecution

/-- `AgentExecution.is_terminal`. -/
def isTerminal (execution : AgentExecution) : Bool := execution.record.status.isTerminal

/-- `AgentExecution.duration_seconds`, as a value of event attributes. -/
def durationSeconds (execution : AgentExecution) : Json :=
  match execution.record.completedAt with
  | none => .null
  | some completed =>
    .float (((completed.micros - execution.record.startedAt.micros : Nat) : Rat) / Instant.second)

end AgentExecution

/-- The tenant part of a request: organization and optional project. -/
structure Scope where
  organizationId : String
  projectId : Option String
deriving DecidableEq

namespace Scope

/-- A record is visible to a caller: the organization is equal, and so is the project
unless the caller names none. -/
def sees (scope : Scope) (organizationId : String) (projectId : Option String) : Bool :=
  organizationId = scope.organizationId && (scope.projectId.isNone || projectId = scope.projectId)

/-- `project_id or ""`, the project part of a stored key. -/
def projectKey (scope : Scope) : String := scope.projectId.getD ""

theorem sees_iff {scope : Scope} {organizationId : String} {projectId : Option String} :
    scope.sees organizationId projectId = true ↔
      organizationId = scope.organizationId ∧
        (scope.projectId = none ∨ projectId = scope.projectId) := by
  simp [sees, Option.isNone_iff_eq_none]

@[simp] theorem sees_self (scope : Scope) :
    scope.sees scope.organizationId scope.projectId = true := by
  simp [sees]

end Scope

/-- Who a request is made for: tenant, actor and correlation. -/
structure TenantContext where
  scope : Scope
  actorId : String
  correlationId : Option String
deriving DecidableEq

end AiGovernance.Domain
