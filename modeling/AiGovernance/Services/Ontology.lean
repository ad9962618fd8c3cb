import AiGovernance.Domain.OntologyRules
import AiGovernance.Repositories.OntologyGraph

/-!
# Writes to the ontology graph

`OntologyService` (`ontology/service.py`): entities are stored as given,
relationships after the rules of their type, their ends and the edges already
there have been looked at.
-/

namespace AiGovernance.Ontology

open AiGovernance.Std Domain

/-- `_require_entity`. -/
def requireEntity (store : GraphStore) (tenant : Tenant) (node : NodeKey) : Except Raised Unit :=
  if store.holds tenant node then .ok ()
  else .error ⟨.ontologyEntityNotFoundError,
    "Ontology entity not found: " ++ node.1.value ++ "/" ++ node.2 ++ "."⟩

/-- A call is refused when some edge is in its way. -/
def refuseIfAny (edges : List OntologyRelationship) (inTheWay : OntologyRelationship → Bool) (message : String) :
    Except Raised Unit :=
  if edges.any inTheWay then .error ⟨.duplicateOntologyRelationshipError, message⟩ else .ok ()

/-- The live edges of the relationship's type that leave its source. -/
def outgoingEdges (store : GraphStore) (relationship : OntologyRelationship) : List OntologyRelationship :=
  store.findRelationships relationship.record.source .outgoing (some relationship.record.relationshipType)
    relationship.record.tenant

/-- The live edges of the relationship's type that enter its target. -/
def incomingEdges (store : GraphStore) (relationship : OntologyRelationship) : List OntologyRelationship :=
  store.findRelationships relationship.record.target .incoming (some relationship.record.relationshipType)
    relationship.record.tenant

/-- `_reject_duplicate_relationship`. -/
def rejectDuplicateRelationship (store : GraphStore) (relationship : OntologyRelationship) : Except Raised Unit :=
  refuseIfAny (outgoingEdges store relationship)
    (fun item => item.record.relationshipId ≠ relationship.record.relationshipId &&
      item.record.target = relationship.record.target)
    ("Duplicate ontology relationship: " ++ relationship.record.sourceEntityType.value ++ "/" ++
      relationship.record.sourceEntityId ++ " " ++ relationship.record.relationshipType.value ++ " " ++
      relationship.record.targetEntityType.value ++ "/" ++ relationship.record.targetEntityId ++ ".")

/-- A check that is made only where a flag asks for it. -/
def checkWhen (flag : Bool) (check : Except Raised Unit) : Except Raised Unit := if flag then check else .ok ()

/-- `_reject_cardinality_conflict`. -/
def rejectCardinalityConflict (validator : RelationshipValidator) (store : GraphStore)
    (relationship : OntologyRelationship) : Except Raised Unit := do
  let endpointRule ← validator.endpointRuleFor relationship
  let typeName := relationship.record.relationshipType.value
  checkWhen endpointRule.uniquePerSource
    (refuseIfAny (outgoingEdges store relationship)
      (fun item => item.record.relationshipId ≠ relationship.record.relationshipId)
      (typeName ++ " allows only one target for this source."))
  checkWhen endpointRule.uniquePerTarget
    (refuseIfAny (incomingEdges store relationship)
      (fun item => item.record.relationshipId ≠ relationship.record.relationshipId)
      (typeName ++ " allows only one source for this target."))
  checkWhen endpointRule.uniquePerSourceTargetType
    (refuseIfAny (outgoingEdges store relationship)
      (fun item => item.record.relationshipId ≠ relationship.record.relationshipId &&
        item.record.targetEntityType = relationship.record.targetEntityType)
      (typeName ++ " allows only one " ++ relationship.record.targetEntityType.value ++ " target for this source."))

/-- The checks of `save_relationship`. -/
def checkRelationship (validator : RelationshipValidator) (store : GraphStore)
    (relationship : OntologyRelationship) : Except Raised Unit := do
  validator.validate relationship
  requireEntity store relationship.record.tenant relationship.record.source
  requireEntity store relationship.record.tenant relationship.record.target
  rejectDuplicateRelationship store relationship
  rejectCardinalityConflict validator store relationship

/-- A write of `OntologyService`; a type is given as text. -/
inductive GraphWrite where
  | saveEntity (entity : OntologyEntity)
  | deleteEntity (entityType entityId : String) (tenant : Tenant) (now : Instant)
  | saveRelationship (relationship : OntologyRelationship)
  | deleteRelationship (relationshipId : String) (tenant : Tenant) (now : Instant)

/-- What a write answers and leaves. -/
def GraphWrite.perform (validator : RelationshipValidator) (store : GraphStore) :
    GraphWrite → Except Raised Unit × GraphStore
  | saveEntity entity => (.ok (), store.saveEntity entity)
  | deleteEntity entityType entityId tenant now =>
    match EntityType.parse entityType with
    | some member => (.ok (), store.deleteEntity tenant (member, entityId) now)
    | none => (.ok (), store)
  | saveRelationship relationship =>
    match checkRelationship validator store relationship with
    | .ok () => (.ok (), store.saveRelationship relationship)
    | .error raised => (.error raised, store)
  | deleteRelationship relationshipId tenant now => (.ok (), store.deleteRelationship tenant relationshipId now)

/-- The graph after a run of writes. -/
def afterWrites (validator : RelationshipValidator) (store : GraphStore) (writes : List GraphWrite) : GraphStore :=
  writes.foldl (fun store write => (write.perform validator store).2) store

end AiGovernance.Ontology
