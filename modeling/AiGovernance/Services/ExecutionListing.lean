import AiGovernance.Services.AgentExecution

/-!
# Listing agent executions

`list_executions` of `AgentExecutionService`: one page of the executions of a
tenant, and the cursor of the next one
(`services/agent_execution_service.py`).
-/

namespace AiGovernance.Services

open AiGovernance.Std Domain Repositories Semantics

/-- The arguments of `list_executions` but the cursor. -/
structure ExecutionListRequest where
  agentId : Option String := none
  status : Option AgentExecutionStatus := none
  runtimeProvider : Option String := none
  createdAfter : Option Instant := none
  createdBefore : Option Instant := none
  limit : Nat := 20
deriving DecidableEq

/-- `AgentExecutionSummary`. -/
structure AgentExecutionSummary where
  executionId : String
  agentId : String
  agentName : String
  runtimeProvider : String
  externalExecutionId : String
  status : String
  startedAt : Instant
  completedAt : Option Instant
  eventCount : Nat
deriving DecidableEq

/-- `AgentExecutionListPage`. -/
structure AgentExecutionListPage where
  items : List AgentExecutionSummary
  nextCursor : Option String
deriving DecidableEq

/-- `_encode_cursor`. -/
def encodeCursor (primitives : Primitives) (timestamp executionId : String) : String :=
  String.ofList ((primitives.sha256 (timestamp ++ ":" ++ executionId)).toList.take 32)

/-- The filters of a request; one more is fetched to see whether there is a next page. -/
def ExecutionListRequest.filters (request : ExecutionListRequest) : ExecutionListFilters where
  agentId := request.agentId
  status := request.status
  runtimeProvider := request.runtimeProvider
  createdAfter := request.createdAfter
  createdBefore := request.createdBefore
  limit := request.limit + 1

/-- The summary of an execution with so many events. -/
def summaryOf (execution : AgentExecution) (eventCount : Nat) : AgentExecutionSummary where
  executionId := execution.record.executionId
  agentId := execution.record.agentId
  agentName := execution.record.agentName
  runtimeProvider := execution.record.runtimeProvider
  externalExecutionId := execution.record.externalExecutionId
  status := execution.record.status.value
  startedAt := execution.record.startedAt
  completedAt := execution.record.completedAt
  eventCount := eventCount

/-- The loop over the executions of a page. -/
def summarize (scope : Scope) : List AgentExecution → Operation (List AgentExecutionSummary)
  | [] => .done []
  | execution :: rest => do
      let highest ← issue (.maxSequenceNumber execution.record.executionId scope)
      let others ← summarize scope rest
      return summaryOf execution (highest + 1) :: others

/-- `list_executions`; the cursor it is given is not read. -/
def listExecutions (primitives : Primitives) (request : ExecutionListRequest) (_cursor : Option String)
    (context : TenantContext) (ambient : Ambient) : Operation AgentExecutionListPage := do
  enforce ambient
  let executions ← issue (.listExecutions request.filters context.scope)
  let hasMore := decide (request.limit < executions.length)
  let items ← summarize context.scope (if hasMore then executions.take request.limit else executions)
  return {
    items
    nextCursor :=
      if hasMore then items.getLast?.map fun last =>
        encodeCursor primitives last.startedAt.isoformat last.executionId
      else none }

end AiGovernance.Services
