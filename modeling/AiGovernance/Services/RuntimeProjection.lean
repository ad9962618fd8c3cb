import AiGovernance.Repositories.Commands
import AiGovernance.Repositories.RuntimeProjections

/-!
# The ontology projection service

`OntologyProjectionService`: read an execution and its events, and project them
into the graph (`services/ontology_projection_service.py`). The events come from
a listing without filters.
-/

namespace AiGovernance.Services

open AiGovernance.Std Domain Repositories

/-- What the service raises: `ProjectionNotFound`, and `Neo4jWriteError` with its cause. -/
inductive ProjectionError where
  | projectionNotFound (executionId : String)
  | neo4jWriteError (executionId : String) (cause : Raised)

/-- The clock readings of one projection. -/
structure ProjectionClock where
  now : Instant
  createdAt : Instant

/-- `_do_project`. -/
def doProject (graph : ProjectionStore) (execution : AgentExecution) (events : List AgentExecutionEvent)
    (clock : ProjectionClock) : Except ProjectionError RuntimeOntologyProjection × ProjectionStore :=
  let outcome := graph.projectExecution execution events execution.record.version clock.now clock.createdAt
  (outcome.1.mapError (.neo4jWriteError execution.record.executionId), outcome.2)

/-- `project_execution`. -/
def projectExecution (stores : Stores) (graph : ProjectionStore) (executionId : String) (scope : Scope)
    (clock : ProjectionClock) : Except ProjectionError RuntimeOntologyProjection × ProjectionStore :=
  match stores.executions.get executionId scope with
  | none => (.error (.projectionNotFound executionId), graph)
  | some execution => doProject graph execution (stores.events.listByExecution executionId scope none) clock

/-- The test of `reconcile_execution` on a projection it found. -/
def needsRebuild (existing : RuntimeOntologyProjection) (execution : AgentExecution) : Bool :=
  existing.isStale execution.record.version || existing.record.status = .failed

/-- `reconcile_execution`. -/
def reconcileExecution (stores : Stores) (graph : ProjectionStore) (executionId : String) (scope : Scope)
    (clock : ProjectionClock) : Except ProjectionError RuntimeOntologyProjection × ProjectionStore :=
  match stores.executions.get executionId scope with
  | none => (.error (.projectionNotFound executionId), graph)
  | some execution =>
    let events := stores.events.listByExecution executionId scope none
    match graph.getProjection executionId scope with
    | none => doProject graph execution events clock
    | some existing =>
      if needsRebuild existing execution then
        doProject (graph.deleteProjection executionId) execution events clock
      else (.ok existing, graph)

end AiGovernance.Services
