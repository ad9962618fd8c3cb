import AiGovernance.Domain.Ontology
import AiGovernance.Std.Dict

/-!
# The in-memory ontology graph

`InMemoryOntologyGraphRepository` (`ontology/repositories.py`): entities and
relationships of every tenant in two dictionaries. Deleting leaves a tombstone,
and an edge counts only while it and both its ends are live.
-/

namespace AiGovernance.Ontology

open AiGovernance.Std Domain

/-- `InMemoryOntologyGraphRepository`; every record stands under its own key. -/
structure GraphStore where
  entities : Dict (Tenant × NodeKey) OntologyEntity
  relationships : Dict (Tenant × String) OntologyRelationship
  entityKeyed : ∀ {key entity}, entities.get? key = some entity →
    (entity.record.tenant, entity.record.node) = key
  relationshipKeyed : ∀ {key relationship}, relationships.get? key = some relationship →
    (relationship.record.tenant, relationship.record.relationshipId) = key

namespace GraphStore

/-- The empty graph. -/
def empty : GraphStore := ⟨.empty, .empty, by simp, by simp⟩

/-- `save_entity`. -/
def saveEntity (store : GraphStore) (entity : OntologyEntity) : GraphStore where
  entities := store.entities.set (entity.record.tenant, entity.record.node) entity
  relationships := store.relationships
  entityKeyed := store.entities.keyed_set store.entityKeyed rfl
  relationshipKeyed := store.relationshipKeyed

/-- `save_relationship`. -/
def saveRelationship (store : GraphStore) (relationship : OntologyRelationship) : GraphStore where
  entities := store.entities
  relationships :=
    store.relationships.set (relationship.record.tenant, relationship.record.relationshipId) relationship
  entityKeyed := store.entityKeyed
  relationshipKeyed := store.relationships.keyed_set store.relationshipKeyed rfl

/-- An entity as it is deleted. -/
def tombstone (entity : OntologyEntity) (now : Instant) : OntologyEntity where
  record := { entity.record with lifecycle := "ARCHIVED", isDeleted := true, deletedAt := some now }
  valid := by
    have valid := entity.valid
    simp only [OntologyEntityRecord.violation, requireNonEmpty, firstViolation_eq_none, List.forall_mem_cons,
      rejectIf_eq_none, List.not_mem_nil, false_implies, implies_true, and_true] at valid ⊢
    obtain ⟨entityId, owner, -, version, organization, project⟩ := valid
    exact ⟨entityId, owner, by decide, version, organization, project⟩

/-- `delete_entity`. -/
def deleteEntity (store : GraphStore) (tenant : Tenant) (node : NodeKey) (now : Instant) : GraphStore :=
  match store.entities.get? (tenant, node) with
  | some entity => store.saveEntity (tombstone entity now)
  | none => store

/-- A relationship as it is deleted. -/
def severed (relationship : OntologyRelationship) (now : Instant) : OntologyRelationship :=
  ⟨{ relationship.record with isDeleted := true, deletedAt := some now }, relationship.valid⟩

/-- `delete_relationship`. -/
def deleteRelationship (store : GraphStore) (tenant : Tenant) (relationshipId : String) (now : Instant) :
    GraphStore :=
  match store.relationships.get? (tenant, relationshipId) with
  | some relationship => store.saveRelationship (severed relationship now)
  | none => store

/-- A stored entity that is not deleted. -/
def holds (store : GraphStore) (tenant : Tenant) (node : NodeKey) : Bool :=
  (store.entities.get? (tenant, node)).any (!·.record.isDeleted)

/-- Both ends of a relationship are live in a tenant. -/
def endpointsLive (store : GraphStore) (tenant : Tenant) (relationship : OntologyRelationship) : Bool :=
  store.holds tenant relationship.record.source && store.holds tenant relationship.record.target

/-- Everything in the graph belongs to the default tenant. -/
def SingleTenant (store : GraphStore) : Prop :=
  (∀ entity ∈ store.entities.values, entity.record.tenant = {}) ∧
    ∀ relationship ∈ store.relationships.values, relationship.record.tenant = {}

/-- Which end of an edge an entity is. -/
inductive Direction where
  | incoming
  | outgoing
  | both
deriving DecidableEq

/-- `_normalize_direction`. -/
def normalizeDirection : Option String → Except Raised Direction
  | none => .ok .both
  | some direction =>
    match direction.toLower with
    | "incoming" => .ok .incoming
    | "outgoing" => .ok .outgoing
    | "both" => .ok .both
    | _ => .error ⟨.valueError, "Relationship direction must be incoming, outgoing, both, or None."⟩

/-- A relationship meets an entity in a direction. -/
def Direction.meets (direction : Direction) (node : NodeKey) (relationship : OntologyRelationship) : Bool :=
  match direction with
  | .outgoing => relationship.record.source = node
  | .incoming => relationship.record.target = node
  | .both => relationship.record.source = node || relationship.record.target = node

/-- The order of two relationships in a listing. -/
def sortsBefore (left right : OntologyRelationship) : Bool :=
  left.record.relationshipId ≤ right.record.relationshipId

/-- `find_relationships`. -/
def findRelationships (store : GraphStore) (node : NodeKey) (direction : Direction)
    (relationshipType : Option RelationshipType) (tenant : Tenant) : List OntologyRelationship :=
  (store.relationships.values.filter fun relationship =>
    relationship.record.tenant = tenant && relationshipType.all (relationship.record.relationshipType = ·) &&
      !relationship.record.isDeleted && store.endpointsLive tenant relationship &&
      direction.meets node relationship).insertionSort (sortsBefore · ·)

/-! ## Lookups -/

/-- A stored relationship is found under its own tenant and identifier. -/
theorem get?_of_mem_values {store : GraphStore} {relationship : OntologyRelationship}
    (stored : relationship ∈ store.relationships.values) :
    store.relationships.get? (relationship.record.tenant, relationship.record.relationshipId) =
      some relationship := by
  obtain ⟨key, found⟩ := (Dict.mem_values_iff _ _).mp stored
  rw [store.relationshipKeyed found]
  exact found

theorem mem_findRelationships {store : GraphStore} {node : NodeKey} {direction : Direction}
    {relationshipType : Option RelationshipType} {tenant : Tenant} {relationship : OntologyRelationship} :
    relationship ∈ store.findRelationships node direction relationshipType tenant ↔
      relationship ∈ store.relationships.values ∧ relationship.record.tenant = tenant ∧
        relationshipType.all (relationship.record.relationshipType = ·) = true ∧
        relationship.record.isDeleted = false ∧ store.endpointsLive tenant relationship = true ∧
        direction.meets node relationship = true := by
  simp only [findRelationships, List.mem_insertionSort, List.mem_filter, Bool.and_eq_true, decide_eq_true_eq,
    Bool.not_eq_true', and_assoc]

end GraphStore

end AiGovernance.Ontology
