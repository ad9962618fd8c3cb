import AiGovernance.Domain.RuntimeProjection
import AiGovernance.Std.Dict

/-!
# The in-memory projection repository

`InMemoryProjectionRepository`: projections and nodes by execution, and one list
of edges. A projection adds the edges it does not find; a target that has no
hash stops it where it stands.
-/

namespace AiGovernance.Repositories

open AiGovernance.Std Domain

/-- One stored edge. -/
structure ProjectedEdge where
  source : String
  reference : EdgeTarget
deriving DecidableEq

/-- The stored properties of an execution node. -/
structure ProjectedNode where
  executionId : String
  agentId : String
  status : AgentExecutionStatus
deriving DecidableEq

/-- The repository. -/
structure ProjectionStore where
  projections : Dict String RuntimeOntologyProjection
  graphNodes : Dict String ProjectedNode
  graphEdges : List ProjectedEdge

/-- What a `TypeError` of `hash` says of a value; scalars have a hash. -/
def unhashable : Json → Option Raised
  | .arr _ => some ⟨.typeError, "unhashable type: 'list'"⟩
  | .obj _ => some ⟨.typeError, "unhashable type: 'dict'"⟩
  | .null | .bool _ | .int _ | .float _ | .str _ => none

/-- An edge of the source under that key is stored. -/
def hasEdge (edges : List ProjectedEdge) (source : String) (reference : EdgeTarget) : Bool :=
  edges.any fun edge => edge.source = source && edge.reference.key = reference.key

/-- The loop over the references: the edges it leaves, and how many it added or what it raised. -/
def addEdges (source : String) : List EdgeTarget → List ProjectedEdge → Nat → Except Raised Nat × List ProjectedEdge
  | [], edges, added => (.ok added, edges)
  | reference :: rest, edges, added =>
    match unhashable reference.target with
    | some raised => (.error raised, edges)
    | none =>
      if hasEdge edges source reference then addEdges source rest edges added
      else addEdges source rest (edges ++ [⟨source, reference⟩]) (added + 1)

namespace ProjectionStore

/-- A new repository. -/
def empty : ProjectionStore := ⟨.empty, .empty, []⟩

/-- `get_projection`; the tenant is not looked at. -/
def getProjection (store : ProjectionStore) (executionId : String) (_scope : Scope) :
    Option RuntimeOntologyProjection :=
  store.projections.get? executionId

/-- The count a projection is stored with: a projected one keeps its count when it is the larger. -/
def projectedCount (store : ProjectionStore) (executionId : String) (added : Nat) : Nat :=
  match store.projections.get? executionId with
  | some existing =>
    if existing.record.status = .projected then max added existing.record.relationshipsProjected else added
  | none => added

/-- The projection `project_execution` builds. -/
def projectionRecord (execution : AgentExecution) (sourceVersion count : Nat) (now createdAt : Instant) :
    RuntimeOntologyProjectionRecord :=
  { executionId := execution.record.executionId
    organizationId := execution.record.organizationId
    projectId := execution.record.projectId
    status := .projected
    sourceVersion
    relationshipsProjected := count
    lastProjectedAt := some now
    createdAt
    updatedAt := now }

/-- `project_execution`: what it wrote stays when it raises. -/
def projectExecution (store : ProjectionStore) (execution : AgentExecution) (events : List AgentExecutionEvent)
    (sourceVersion : Nat) (now createdAt : Instant) : Except Raised RuntimeOntologyProjection × ProjectionStore :=
  let source := execution.record.executionId
  let graphNodes := store.graphNodes.set source ⟨source, execution.record.agentId, execution.record.status⟩
  let outcome := addEdges source (events.flatMap edgeTargets) store.graphEdges 0
  let store := { store with graphNodes := graphNodes, graphEdges := outcome.2 }
  match outcome.1 with
  | .error raised => (.error raised, store)
  | .ok added =>
    match (Checked.create (projectionRecord execution sourceVersion (store.projectedCount source added) now
        createdAt) : Except Raised RuntimeOntologyProjection) with
    | .error raised => (.error raised, store)
    | .ok projection =>
      (.ok projection, { store with projections := store.projections.set source projection })

/-- `delete_projection`. -/
def deleteProjection (store : ProjectionStore) (executionId : String) : ProjectionStore where
  projections := store.projections.erase executionId
  graphNodes := store.graphNodes.erase executionId
  graphEdges := store.graphEdges.filter (·.source ≠ executionId)

end ProjectionStore

end AiGovernance.Repositories
