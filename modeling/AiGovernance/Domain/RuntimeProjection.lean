import AiGovernance.Domain.AgentExecutionEvent

/-!
# Runtime projections

The state of the projection of one execution into the graph
(`agent_execution/projection.py`), and what an event refers to: the edges that
the projection rules derive from it.
-/

namespace AiGovernance.Domain

open AiGovernance.Std

/-- Lifecycle of a runtime-to-graph projection. -/
inductive ProjectionStatus where
  | pending
  | projected
  | failed
deriving DecidableEq

/-- A reference found in events that could not be resolved to a graph entity. -/
structure UnresolvedReference where
  referenceType : String
  referenceId : String
  sourceEventId : String
deriving DecidableEq

/-- The fields of `RuntimeOntologyProjection`. -/
structure RuntimeOntologyProjectionRecord where
  executionId : String
  organizationId : String
  projectId : Option String := none
  status : ProjectionStatus := .pending
  projectionVersion : String := "1"
  sourceVersion : Nat := 0
  relationshipsProjected : Nat := 0
  unresolvedReferences : List UnresolvedReference := []
  lastProjectedAt : Option Instant := none
  createdAt : Instant
  updatedAt : Instant
deriving DecidableEq

/-- `RuntimeOntologyProjection.__post_init__`. -/
def RuntimeOntologyProjectionRecord.violation (record : RuntimeOntologyProjectionRecord) : Option Raised :=
  firstViolation [
    requireText "execution_id" record.executionId,
    requireText "organization_id" record.organizationId]

/-- Projection state for one execution. -/
abbrev RuntimeOntologyProjection := Checked RuntimeOntologyProjectionRecord.violation

/-- `is_stale`: projected from an earlier version of the execution. -/
def RuntimeOntologyProjection.isStale (projection : RuntimeOntologyProjection) (sourceVersion : Nat) : Bool :=
  projection.record.status = .projected && projection.record.sourceVersion < sourceVersion

/-! ## Edges -/

/-- The types of projected edges. -/
inductive RelationshipType where
  | usedModel
  | calledTool
  | produced
  | governedBy
  | evaluatedBy
  | accessed
deriving DecidableEq

/-- A typed reference to what an edge points at. -/
structure EdgeTarget where
  target : Json
  type : RelationshipType
deriving DecidableEq

/-- Two targets are the same key when the language compares them as equal. -/
def EdgeTarget.key (reference : EdgeTarget) : Json × RelationshipType :=
  (reference.target.canonical, reference.type)

/-- The truth value of a JSON value. -/
def isTruthy : Json → Bool
  | .null => false
  | .bool value => value
  | .int value => value ≠ 0
  | .float value => value ≠ 0
  | .str text => text ≠ ""
  | .arr items => !items.isEmpty
  | .obj fields => !fields.isEmpty

/-- `attributes.get(…) or attributes.get(…)`: the first of the attributes that is truthy. -/
def firstAttribute (event : AgentExecutionEvent) (type : RelationshipType) (names : List String) : List EdgeTarget :=
  (((names.filterMap (Json.field event.record.attributes ·)).find? isTruthy).map (⟨·, type⟩)).toList

/-- What an event refers to, in the order the projection visits it. -/
def edgeTargets (event : AgentExecutionEvent) : List EdgeTarget :=
  let referred :=
    match event.record.eventType with
    | .modelCall => firstAttribute event .usedModel ["model", "model_reference"]
    | .toolCall => firstAttribute event .calledTool ["tool", "tool_id", "tool_identity"]
    | .governanceDecision =>
      firstAttribute event .produced ["decision_id", "governance_decision_id"] ++
        firstAttribute event .governedBy ["policy_id", "policy_reference"]
    | .evaluation => firstAttribute event .evaluatedBy ["evaluation_result_id", "evaluation_id"]
    | .executionStarted | .runtimeActionAuthorization | .runtimeActionExecutionReceipt | .workflowStep
    | .error | .executionCompleted => []
  referred ++ (event.record.resourceReferences.filter (!Text.isBlank ·)).map fun reference =>
    ⟨.str reference, .accessed⟩

end AiGovernance.Domain
