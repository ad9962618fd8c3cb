import AiGovernance.Repositories.OntologyGraphQuery
import AiGovernance.Std.Steps

/-!
# The graph query service

`OntologyGraphQueryService` (`ontology/query.py`) checks the arguments of a
query before the repository sees them. Of its queries these are the ones
evidence is built from.
-/

namespace AiGovernance.Services.OntologyGraphQueryService

open AiGovernance.Std Ontology
open Domain (Raised)

/-- `_validate_entity_type`. -/
def validateEntityType (text : TextFunctions) (value : String) : Except Raised String :=
  match EntityType.parse value with
  | some member => .ok member.value
  | none => .error ⟨.valueError, "Unknown ontology entity type: " ++ text.repr value ++ "."⟩

/-- `_validate_relationship_type`. -/
def validateRelationshipType (text : TextFunctions) (value : String) : Except Raised String :=
  match RelationshipType.parse value with
  | some member => .ok member.value
  | none => .error ⟨.valueError, "Unknown ontology relationship type: " ++ text.repr value ++ "."⟩

/-- `_validate_depth`. -/
def validateDepth (value : Int) : Except Raised Int :=
  if 1 ≤ value ∧ value ≤ 5 then .ok value else .error ⟨.valueError, "depth must be between 1 and 5."⟩

/-- `_validate_limit`. -/
def validateLimit (value : Int) : Except Raised Int :=
  if 1 ≤ value ∧ value ≤ 500 then .ok value else .error ⟨.valueError, "limit must be between 1 and 500."⟩

/-- `get_entity`. -/
def getEntity (text : TextFunctions) (store : GraphStore) (entityType entityId : String) :
    Except Raised (Option GraphEntity) := do
  let entityType ← validateEntityType text entityType
  return store.queryEntity entityType entityId

/-- `get_neighbourhood`. -/
def getNeighbourhood (text : TextFunctions) (store : GraphStore) (entityType entityId : String) (depth : Int)
    (relationshipTypes entityTypes : List String) (limit : Int) : Except Raised GraphSubgraph := do
  let entityType ← validateEntityType text entityType
  let depth ← validateDepth depth
  let relationshipTypes ← relationshipTypes.mapM (validateRelationshipType text)
  let entityTypes ← entityTypes.mapM (validateEntityType text)
  let limit ← validateLimit limit
  store.subgraph text entityType entityId depth .both (some relationshipTypes) (some entityTypes) limit

section Named

variable (text : TextFunctions)

theorem validateEntityType_value (entityType : EntityType) :
    validateEntityType text entityType.value = .ok entityType.value := by
  unfold validateEntityType
  rw [EntityType.parse_value]

theorem validateRelationshipTypes_values (relationshipTypes : List RelationshipType) :
    (relationshipTypes.map RelationshipType.value).mapM (validateRelationshipType text) =
      .ok (relationshipTypes.map RelationshipType.value) := by
  apply mapM_written
  intro relationshipType _
  unfold validateRelationshipType
  rw [RelationshipType.parse_value]

theorem entityTypeSet_values (entityTypes : List EntityType) :
    entityTypeSet text (some (entityTypes.map EntityType.value)) = .ok entityTypes := by
  apply mapM_readBack
  intro entityType _
  rw [EntityType.parse_value]

theorem relationshipTypeSet_values (relationshipTypes : List RelationshipType) :
    relationshipTypeSet text (some (relationshipTypes.map RelationshipType.value)) = .ok relationshipTypes := by
  apply mapM_readBack
  intro relationshipType _
  rw [RelationshipType.parse_value]

/-- Arguments the service accepts reach the repository as they are. -/
theorem getNeighbourhood_eq (store : GraphStore) (start : NodeKey) {depth limit : Int} (deep : 1 ≤ depth ∧ depth ≤ 5)
    (few : 1 ≤ limit ∧ limit ≤ 500) (relationshipTypes : List RelationshipType) (entityTypes : List EntityType) :
    getNeighbourhood text store start.1.value start.2 depth (relationshipTypes.map RelationshipType.value)
        (entityTypes.map EntityType.value) limit =
      store.subgraph text start.1.value start.2 depth .both (some (relationshipTypes.map RelationshipType.value))
        (some (entityTypes.map EntityType.value)) limit := by
  unfold getNeighbourhood validateDepth validateLimit
  rw [validateEntityType_value, mapM_written fun entityType _ => validateEntityType_value text entityType,
    validateRelationshipTypes_values, if_pos deep, if_pos few]
  rfl

end Named

end AiGovernance.Services.OntologyGraphQueryService
