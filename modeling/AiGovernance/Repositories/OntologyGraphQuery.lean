import AiGovernance.Repositories.OntologyGraph
import AiGovernance.Std.Loop
import Mathlib.Data.List.Infix

/-!
# Queries of the ontology graph

`InMemoryOntologyGraphQueryRepository` (`ontology/repositories.py`) over the
graph of all tenants, with the projections and pages of `ontology/query.py`.
Entities are looked up in the default tenant; the edges a traversal follows are
scanned without one.
-/

namespace AiGovernance.Ontology

open AiGovernance.Std Domain List

/-- Read-only ontology entity projection for graph query APIs. -/
structure GraphEntity where
  entityId : String
  entityType : EntityType
  lifecycle : String
  owner : String
  ontologyVersion : String
  createdAt : Instant
  metadata : List (String × Json)
  immutableAttributes : List (String × Json)
  mutableAttributes : List (String × Json)
deriving DecidableEq

/-- `GraphEntity.from_ontology_entity`. -/
def GraphEntity.ofOntologyEntity (entity : OntologyEntity) : GraphEntity where
  entityId := entity.record.entityId
  entityType := entity.record.entityType
  lifecycle := entity.record.lifecycle
  owner := entity.record.owner
  ontologyVersion := entity.record.ontologyVersion
  createdAt := entity.record.createdAt
  metadata := entity.record.metadata
  immutableAttributes := entity.record.immutableAttributes
  mutableAttributes := entity.record.mutableAttributes

/-- Read-only ontology relationship projection for graph query APIs. -/
structure GraphRelationship where
  relationshipId : String
  relationshipType : RelationshipType
  sourceEntityId : String
  sourceEntityType : EntityType
  targetEntityId : String
  targetEntityType : EntityType
  ontologyVersion : String
  createdAt : Instant
  createdBy : String
  metadata : List (String × Json)
deriving DecidableEq

/-- `GraphRelationship.from_ontology_relationship`. -/
def GraphRelationship.ofOntologyRelationship (relationship : OntologyRelationship) : GraphRelationship where
  relationshipId := relationship.record.relationshipId
  relationshipType := relationship.record.relationshipType
  sourceEntityId := relationship.record.sourceEntityId
  sourceEntityType := relationship.record.sourceEntityType
  targetEntityId := relationship.record.targetEntityId
  targetEntityType := relationship.record.targetEntityType
  ontologyVersion := relationship.record.ontologyVersion
  createdAt := relationship.record.createdAt
  createdBy := relationship.record.createdBy
  metadata := relationship.record.metadata

/-- Node in a returned graph subgraph or path; an edge is its relationship. -/
structure GraphNode where
  entity : GraphEntity
  depth : Nat
deriving DecidableEq

/-- Bounded graph query result containing nodes and edges. -/
structure GraphSubgraph where
  nodes : List GraphNode := []
  edges : List GraphRelationship := []
deriving DecidableEq

/-- Ordered graph path between two ontology entities. -/
structure GraphPath where
  nodes : List GraphNode
  edges : List GraphRelationship
deriving DecidableEq

/-- Cursor-paginated graph query result. -/
structure GraphQueryPage (T : Type) where
  items : List T
  limit : Int
  nextCursor : Option String := none
deriving DecidableEq

/-- The operations on text a query uses. -/
structure TextFunctions where
  casefold : String → String
  str : Json → String
  repr : String → String

/-! ## Arguments and pages -/

/-- `_decode_cursor`. -/
def decodeCursor : Option String → Except Raised Nat
  | none => .ok 0
  | some cursor =>
    match Text.parseInt cursor with
    | none => .error ⟨.valueError, "cursor must be an integer offset."⟩
    | some offset =>
      if offset < 0 then .error ⟨.valueError, "cursor must not be negative."⟩ else .ok offset.toNat

/-- The slice `items[start:stop]`; a negative stop counts from the end. -/
def slice {T : Type} (items : List T) (start : Nat) (stop : Int) : List T :=
  (items.take (if stop < 0 then stop + items.length else stop).toNat).drop start

/-- `page_items`. -/
def pageItems {T : Type} (items : List T) (limit : Int) (cursor : Option String) :
    Except Raised (GraphQueryPage T) := do
  let offset ← decodeCursor cursor
  let page := slice items offset (offset + limit)
  let nextOffset := offset + page.length
  return { items := page, limit, nextCursor := if nextOffset < items.length then some (toString nextOffset) else none }

/-- `relationship_type_set`. -/
def relationshipTypeSet (text : TextFunctions) (relationshipTypes : Option (List String)) :
    Except Raised (List RelationshipType) :=
  (relationshipTypes.getD []).mapM fun value =>
    match RelationshipType.parse value with
    | some member => .ok member
    | none => .error ⟨.valueError, "Unknown ontology relationship type: " ++ text.repr value ++ "."⟩

/-- `entity_type_set`. -/
def entityTypeSet (text : TextFunctions) (entityTypes : Option (List String)) : Except Raised (List EntityType) :=
  (entityTypes.getD []).mapM fun value =>
    match EntityType.parse value with
    | some member => .ok member
    | none => .error ⟨.valueError, "Unknown ontology entity type: " ++ text.repr value ++ "."⟩

/-- An empty filter lets everything pass. -/
def passes {T : Type} [DecidableEq T] (filter : List T) (item : T) : Bool := filter.isEmpty || filter.contains item

theorem EntityType.parse_value (entityType : EntityType) : EntityType.parse entityType.value = some entityType := by
  cases entityType <;> decide

theorem RelationshipType.parse_value (relationshipType : RelationshipType) :
    RelationshipType.parse relationshipType.value = some relationshipType := by
  cases relationshipType <;> decide

/-- The key of an entity given as text; an unknown type names none. -/
def nodeKey? (entityType entityId : String) : Option NodeKey :=
  (EntityType.parse entityType).map fun member => (member, entityId)

namespace GraphStore

/-- An entity of the default tenant. -/
def ownEntity? (store : GraphStore) (node : NodeKey) : Option OntologyEntity := store.entities.get? ({}, node)

/-- A relationship of the default tenant. -/
def ownRelationship? (store : GraphStore) (relationshipId : String) : Option OntologyRelationship :=
  store.relationships.get? ({}, relationshipId)

/-! ## Entities -/

/-- `get_entity`. -/
def queryEntity (store : GraphStore) (entityType entityId : String) : Option GraphEntity :=
  ((nodeKey? entityType entityId).bind store.ownEntity?).bind fun entity =>
    if entity.record.isDeleted then none else some (.ofOntologyEntity entity)

mutual

/-- `_searchable_values`. -/
def searchableValues (text : TextFunctions) : Json → List String
  | .obj fields => searchableFields text fields
  | .arr items => searchableItems text items
  | value => [text.str value]

/-- The searchable values of a mapping. -/
def searchableFields (text : TextFunctions) : List (String × Json) → List String
  | [] => []
  | (_, value) :: rest => searchableValues text value ++ searchableFields text rest

/-- The searchable values of a sequence. -/
def searchableItems (text : TextFunctions) : List Json → List String
  | [] => []
  | value :: rest => searchableValues text value ++ searchableItems text rest

end

/-- `_entity_matches_query`. -/
def entityMatchesQuery (text : TextFunctions) (query : String) (entity : OntologyEntity) : Bool :=
  let searchable := [entity.record.entityId, entity.record.entityType.value, entity.record.owner] ++
    searchableFields text entity.record.immutableAttributes ++
    searchableFields text entity.record.mutableAttributes ++ searchableFields text entity.record.metadata
  searchable.any fun value => (text.casefold query).toList <:+: (text.casefold value).toList

/-- The key search results are sorted by: an exact identifier first, then one that starts as asked. -/
def searchRank (text : TextFunctions) (query : String) (entity : GraphEntity) : Nat × Nat :=
  (if text.casefold entity.entityId = text.casefold query then 0 else 1,
    if Text.startsWith (text.casefold query) (text.casefold entity.entityId) then 0 else 1)

/-- The order of two search results. -/
def ranksBefore (text : TextFunctions) (query : String) (left right : GraphEntity) : Bool :=
  let first := searchRank text query left
  let second := searchRank text query right
  first.1 < second.1 || (first.1 = second.1 && (first.2 < second.2 || (first.2 = second.2 &&
    (left.entityType.value < right.entityType.value ||
      (left.entityType = right.entityType && left.entityId ≤ right.entityId)))))

/-- `search_entities`. -/
def searchEntities (text : TextFunctions) (store : GraphStore) (query : String)
    (entityTypes : Option (List String)) (limit : Int) (cursor : Option String) :
    Except Raised (GraphQueryPage GraphEntity) := do
  let entityFilter ← entityTypeSet text entityTypes
  let found := (store.entities.values.filter fun entity =>
    entity.record.tenant = {} && !entity.record.isDeleted && passes entityFilter entity.record.entityType &&
      entityMatchesQuery text query entity).map GraphEntity.ofOntologyEntity
  pageItems (found.insertionSort (ranksBefore text query · ·)) limit cursor

/-! ## Relationships -/

/-- `find_relationships`; a type that is given as text and unknown matches nothing. -/
def queryRelationships (store : GraphStore) (entityType entityId : String) (direction relationshipType : Option String)
    (limit : Int) (cursor : Option String) : Except Raised (GraphQueryPage GraphRelationship) := do
  let direction ← normalizeDirection direction
  let found :=
    match nodeKey? entityType entityId, relationshipType with
    | none, _ => []
    | some node, none => store.findRelationships node direction none {}
    | some node, some value =>
      match RelationshipType.parse value with
      | some member => store.findRelationships node direction (some member) {}
      | none => []
  pageItems (found.map GraphRelationship.ofOntologyRelationship) limit cursor

/-- A relationship a traversal may follow: not deleted, and between live entities of its tenant. -/
def visible (store : GraphStore) (relationship : OntologyRelationship) : Bool :=
  !relationship.record.isDeleted && store.endpointsLive relationship.record.tenant relationship

/-- `_matching_relationships`. -/
def matchingRelationships (store : GraphStore) (current : NodeKey) (direction : Direction)
    (relationshipFilter : List RelationshipType) : List OntologyRelationship :=
  (store.relationships.values.filter fun relationship =>
    store.visible relationship && passes relationshipFilter relationship.record.relationshipType &&
      direction.meets current relationship).insertionSort (sortsBefore · ·)

/-- `_other_key`. -/
def otherKey (current : NodeKey) (relationship : OntologyRelationship) : NodeKey :=
  if current = relationship.record.source then relationship.record.target else relationship.record.source

/-! ## Subgraphs -/

/-- The state of a breadth-first traversal. -/
structure Traversal where
  queue : List (NodeKey × Nat)
  nodes : Dict NodeKey GraphNode
  edges : Dict String GraphRelationship

/-- The inner loop of `_subgraph`: the edges of one node, until the limit is reached. -/
def visit (store : GraphStore) (entityFilter : List EntityType) (limit : Int) (current : NodeKey) (depth : Nat) :
    List OntologyRelationship → Traversal → Traversal
  | [], state => state
  | relationship :: rest, state =>
    let nextKey := otherKey current relationship
    match store.ownEntity? nextKey with
    | none => visit store entityFilter limit current depth rest state
    | some entity =>
      if entity.record.isDeleted || !passes entityFilter entity.record.entityType then
        visit store entityFilter limit current depth rest state
      else
        let edges := state.edges.set relationship.record.relationshipId (.ofOntologyRelationship relationship)
        if (state.nodes.get? nextKey).isSome then
          visit store entityFilter limit current depth rest { state with edges }
        else if ¬ state.nodes.entries.length < limit then { state with edges }
        else
          visit store entityFilter limit current depth rest
            { queue := state.queue ++ [(nextKey, depth + 1)]
              nodes := state.nodes.set nextKey ⟨.ofOntologyEntity entity, depth + 1⟩
              edges }

/-- One round of the loop of `_subgraph`. -/
def subgraphRound (store : GraphStore) (direction : Direction) (relationshipFilter : List RelationshipType)
    (entityFilter : List EntityType) (depth limit : Int) (state : Traversal) : Traversal ⊕ Traversal :=
  match state.queue with
  | [] => .inr state
  | (current, currentDepth) :: rest =>
    if ¬ state.nodes.entries.length < limit then .inr state
    else if depth ≤ currentDepth then .inl { state with queue := rest }
    else .inl (visit store entityFilter limit current currentDepth
      (store.matchingRelationships current direction relationshipFilter) { state with queue := rest })

/-- Entities of the default tenant a traversal has not reached. -/
def unreached (store : GraphStore) (nodes : Dict NodeKey GraphNode) : Nat :=
  store.entities.values.countP fun entity =>
    entity.record.tenant = {} && (nodes.get? entity.record.node).isNone

/-- What a traversal has before it: its queue, and what may still be added to it. -/
def pending (store : GraphStore) (state : Traversal) : Nat := state.queue.length + store.unreached state.nodes

variable {store : GraphStore}

theorem unreached_set {nodes : Dict NodeKey GraphNode} {key : NodeKey} {entity : OntologyEntity}
    (found : store.ownEntity? key = some entity) (fresh : (nodes.get? key).isSome = false) (node : GraphNode) :
    store.unreached (nodes.set key node) + 1 ≤ store.unreached nodes := by
  have keyed := store.entityKeyed found
  obtain ⟨sameTenant, sameNode⟩ := Prod.mk.inj keyed
  have member : entity ∈ store.entities.values := (Dict.mem_values_iff _ _).mpr ⟨_, found⟩
  obtain ⟨before, after, shape⟩ := append_of_mem member
  have fewer : ∀ items : List OntologyEntity,
      items.countP (fun item => item.record.tenant = {} && ((nodes.set key node).get? item.record.node).isNone) ≤
        items.countP fun item => item.record.tenant = {} && (nodes.get? item.record.node).isNone := by
    intro items
    refine countP_mono_left fun item _ counted => ?_
    simp only [Bool.and_eq_true, decide_eq_true_eq] at counted ⊢
    refine ⟨counted.1, ?_⟩
    have absent := counted.2
    rw [Dict.get?_set] at absent
    split at absent
    · cases absent
    · exact absent
  unfold unreached
  rw [shape]
  simp only [countP_append, countP_cons, sameTenant, sameNode, Dict.get?_set_self]
  have first := fewer before
  have second := fewer after
  have absent : (nodes.get? key).isNone = true := by simpa using fresh
  simp only [absent, Option.isNone_some, decide_true, Bool.and_false, Bool.and_true, Bool.false_eq_true, if_false,
    if_true]
  omega

theorem pending_visit (entityFilter : List EntityType) (limit : Int) (current : NodeKey) (depth : Nat)
    (relationships : List OntologyRelationship) (state : Traversal) :
    store.pending (visit store entityFilter limit current depth relationships state) ≤ store.pending state := by
  induction relationships generalizing state with
  | nil => exact Nat.le_refl _
  | cons relationship rest ih =>
    unfold visit
    dsimp only
    split
    · exact ih state
    · rename_i entity found
      split
      · exact ih state
      · split
        · exact ih _
        · rename_i fresh
          split
          · exact Nat.le_refl _
          · refine Nat.le_trans (ih _) ?_
            have less := unreached_set found (by simpa using fresh) ⟨.ofOntologyEntity entity, depth + 1⟩
            simp only [pending, length_append, length_singleton]
            omega

variable {limit : Int}

theorem pending_subgraphRound {direction : Direction} {relationshipFilter : List RelationshipType}
    {entityFilter : List EntityType} {depth : Int} {state next : Traversal}
    (continues : store.subgraphRound direction relationshipFilter entityFilter depth limit state = .inl next) :
    store.pending next < store.pending state := by
  unfold subgraphRound at continues
  split at continues
  · cases continues
  · rename_i current currentDepth rest shape
    have shorter : store.pending { state with queue := rest } < store.pending state := by
      simp only [pending, shape, length_cons]
      omega
    split at continues
    · cases continues
    · split at continues
      · cases continues
        exact shorter
      · cases continues
        exact Nat.lt_of_le_of_lt (pending_visit ..) shorter

/-- The order of nodes in a subgraph. -/
def nodeSortsBefore (left right : GraphNode) : Bool :=
  left.depth < right.depth || (left.depth = right.depth &&
    (left.entity.entityType.value < right.entity.entityType.value ||
      (left.entity.entityType = right.entity.entityType && left.entity.entityId ≤ right.entity.entityId)))

/-- `_subgraph`; the filters are looked at only when the start is there. -/
def subgraph (text : TextFunctions) (store : GraphStore) (entityType entityId : String) (depth : Int)
    (direction : Direction) (relationshipTypes entityTypes : Option (List String)) (limit : Int) :
    Except Raised GraphSubgraph :=
  match (nodeKey? entityType entityId).bind fun start => (store.ownEntity? start).map (start, ·) with
  | none => .ok {}
  | some (start, startEntity) =>
    if startEntity.record.isDeleted then .ok {}
    else do
      let relationshipFilter ← relationshipTypeSet text relationshipTypes
      let entityFilter ← entityTypeSet text entityTypes
      let reached := Loop.complete (store.subgraphRound direction relationshipFilter entityFilter depth limit)
        store.pending pending_subgraphRound
        { queue := [(start, 0)], nodes := Dict.empty.set start ⟨.ofOntologyEntity startEntity, 0⟩, edges := .empty }
      return {
        nodes := reached.nodes.values.insertionSort (nodeSortsBefore · ·)
        edges := reached.edges.values.insertionSort fun left right => left.relationshipId ≤ right.relationshipId }

/-! ## Paths -/

/-- A dictionary was asked for a key it does not have. -/
def missingKey (text : TextFunctions) (parts : List String) : Raised :=
  ⟨.keyError, "(" ++ ", ".intercalate ((["org_default", "project_default"] ++ parts).map text.repr) ++ ")"⟩

/-- `_relationships[("org_default", "project_default", relationship_id)]`. -/
def relationshipAt (text : TextFunctions) (store : GraphStore) (relationshipId : String) :
    Except Raised OntologyRelationship :=
  match store.ownRelationship? relationshipId with
  | some relationship => .ok relationship
  | none => .error (missingKey text [relationshipId])

/-- `_entities[("org_default", "project_default", *node_key)]`. -/
def entityAt (text : TextFunctions) (store : GraphStore) (node : NodeKey) : Except Raised OntologyEntity :=
  match store.ownEntity? node with
  | some entity => .ok entity
  | none => .error (missingKey text [node.1.value, node.2])

/-- `_path_revisits_node`. -/
def pathRevisitsNode (text : TextFunctions) (store : GraphStore) (source : NodeKey) (relationshipPath : List String)
    (nextKey : NodeKey) : Except Raised Bool := do
  let relationships ← relationshipPath.mapM (relationshipAt text store)
  return (source :: relationships.map (·.record.target)).contains nextKey

/-- `_path_from_relationship_ids`. -/
def pathFromRelationshipIds (text : TextFunctions) (store : GraphStore) (source : NodeKey)
    (relationshipIds : List String) : Except Raised GraphPath := do
  let relationships ← relationshipIds.mapM (relationshipAt text store)
  let entities ← (source :: relationships.map (·.record.target)).mapM (entityAt text store)
  return {
    nodes := entities.zipIdx.map fun entry => ⟨.ofOntologyEntity entry.1, entry.2⟩
    edges := relationships.map .ofOntologyRelationship }

/-- The state of a search for paths. -/
structure PathSearch where
  queue : List (NodeKey × List String)
  paths : List GraphPath

/-- The inner loop of `find_paths`: the edges that leave the last node of a path, until the limit is
reached. -/
def extendPath (text : TextFunctions) (store : GraphStore) (source target : NodeKey) (limit : Int)
    (relationshipPath : List String) : List OntologyRelationship → PathSearch → Except Raised PathSearch
  | [], state => .ok state
  | relationship :: rest, state => do
      let nextKey := relationship.record.target
      let nextPath := relationshipPath ++ [relationship.record.relationshipId]
      if ← pathRevisitsNode text store source relationshipPath nextKey then
        extendPath text store source target limit relationshipPath rest state
      else if nextKey = target then do
        let path ← pathFromRelationshipIds text store source nextPath
        let paths := state.paths ++ [path]
        if limit ≤ paths.length then return { state with paths }
        else extendPath text store source target limit relationshipPath rest { state with paths }
      else
        extendPath text store source target limit relationshipPath rest
          { state with queue := state.queue ++ [(nextKey, nextPath)] }

/-- One round of the loop of `find_paths`. -/
def pathRound (text : TextFunctions) (store : GraphStore) (source target : NodeKey) (maxDepth : Int)
    (relationshipFilter : List RelationshipType) (limit : Int) (state : PathSearch) :
    PathSearch ⊕ Except Raised (List GraphPath) :=
  match state.queue with
  | [] => .inr (.ok state.paths)
  | (current, relationshipPath) :: rest =>
    if ¬ state.paths.length < limit then .inr (.ok state.paths)
    else if maxDepth ≤ relationshipPath.length then .inl { state with queue := rest }
    else
      match extendPath text store source target limit relationshipPath
        (store.matchingRelationships current .outgoing relationshipFilter) { state with queue := rest } with
      | .ok next => .inl next
      | .error raised => .inr (.error raised)

/-- What a search has before it: every path in the queue stands for all its extensions. -/
def openPaths (store : GraphStore) (maxDepth : Int) (state : PathSearch) : Nat :=
  (state.queue.map fun entry =>
    (store.relationships.values.length + 1) ^ (maxDepth.toNat - entry.2.length)).sum

theorem openPaths_extendPath {text : TextFunctions} {source target : NodeKey} {relationshipPath : List String}
    (maxDepth : Int) {relationships : List OntologyRelationship} {state next : PathSearch}
    (extended : extendPath text store source target limit relationshipPath relationships state = .ok next) :
    store.openPaths maxDepth next ≤ store.openPaths maxDepth state +
      relationships.length *
        (store.relationships.values.length + 1) ^ (maxDepth.toNat - (relationshipPath.length + 1)) := by
  induction relationships generalizing state with
  | nil =>
    cases extended
    exact Nat.le_add_right ..
  | cons relationship rest ih =>
    unfold extendPath at extended
    obtain ⟨revisits, -, extended⟩ := bind_ok extended
    rw [length_cons, Nat.succ_mul]
    split at extended
    · have bound := ih extended
      omega
    · split at extended
      · obtain ⟨path, -, extended⟩ := bind_ok extended
        dsimp only at extended
        split at extended
        · cases extended
          exact Nat.le_add_right ..
        · have bound := ih extended
          simp only [openPaths] at bound ⊢
          omega
      · have bound := ih extended
        simp only [openPaths, map_append, sum_append, map_cons, map_nil, sum_cons,
          sum_nil, length_append, length_singleton] at bound ⊢
        omega

theorem length_matchingRelationships_le (store : GraphStore) (current : NodeKey) (direction : Direction)
    (relationshipFilter : List RelationshipType) :
    (store.matchingRelationships current direction relationshipFilter).length ≤
      store.relationships.values.length := by
  unfold matchingRelationships
  rw [length_insertionSort]
  exact length_filter_le ..

theorem openPaths_pathRound {text : TextFunctions} {source target : NodeKey} {maxDepth : Int}
    {relationshipFilter : List RelationshipType} {state next : PathSearch}
    (continues : store.pathRound text source target maxDepth relationshipFilter limit state = .inl next) :
    store.openPaths maxDepth next < store.openPaths maxDepth state := by
  unfold pathRound at continues
  split at continues
  · cases continues
  · rename_i current relationshipPath rest shape
    have popped : store.openPaths maxDepth state =
        (store.relationships.values.length + 1) ^ (maxDepth.toNat - relationshipPath.length) +
          store.openPaths maxDepth { state with queue := rest } := by
      simp only [openPaths, shape, map_cons, sum_cons]
    have positive : 0 < (store.relationships.values.length + 1) ^ (maxDepth.toNat - relationshipPath.length) :=
      Nat.pow_pos (Nat.succ_pos _)
    split at continues
    · cases continues
    · split at continues
      · cases continues
        omega
      · rename_i shallow
        split at continues
        · rename_i extended
          cases continues
          have bound := openPaths_extendPath maxDepth extended
          have few := length_matchingRelationships_le store current .outgoing relationshipFilter
          have deeper : maxDepth.toNat - relationshipPath.length =
              (maxDepth.toNat - (relationshipPath.length + 1)) + 1 := by omega
          rw [deeper, Nat.pow_succ] at popped positive
          have least : 0 < (store.relationships.values.length + 1) ^
              (maxDepth.toNat - (relationshipPath.length + 1)) := Nat.pow_pos (Nat.succ_pos _)
          have wide := Nat.mul_le_mul_right ((store.relationships.values.length + 1) ^
              (maxDepth.toNat - (relationshipPath.length + 1))) few
          rw [Nat.mul_comm _ (store.relationships.values.length + 1), Nat.succ_mul] at popped
          omega
        · cases continues

/-- `find_paths`; the filter is looked at first. -/
def findPaths (text : TextFunctions) (store : GraphStore) (sourceType sourceId targetType targetId : String)
    (maxDepth : Int) (relationshipTypes : Option (List String)) (limit : Int) : Except Raised (List GraphPath) := do
  let relationshipFilter ← relationshipTypeSet text relationshipTypes
  match nodeKey? sourceType sourceId, nodeKey? targetType targetId with
  | some source, some target =>
    if (store.ownEntity? source).isNone || (store.ownEntity? target).isNone then return []
    else
      Loop.complete (store.pathRound text source target maxDepth relationshipFilter limit)
        (store.openPaths maxDepth) openPaths_pathRound { queue := [(source, [])], paths := [] }
  | _, _ => return []

end GraphStore

/-! ## All queries -/

/-- A query. -/
inductive GraphQuery where
  | getEntity (entityType entityId : String)
  | searchEntities (query : String) (entityTypes : Option (List String)) (limit : Int) (cursor : Option String)
  | findRelationships (entityType entityId : String) (direction relationshipType : Option String) (limit : Int)
      (cursor : Option String)
  | getNeighbourhood (entityType entityId : String) (depth : Int) (relationshipTypes entityTypes : Option (List String))
      (limit : Int)
  | getUpstream (entityType entityId : String) (depth : Int) (relationshipTypes : Option (List String)) (limit : Int)
  | getDownstream (entityType entityId : String) (depth : Int) (relationshipTypes : Option (List String)) (limit : Int)
  | findPaths (sourceType sourceId targetType targetId : String) (maxDepth : Int)
      (relationshipTypes : Option (List String)) (limit : Int)

/-- What a query answers. -/
inductive GraphAnswer where
  | entity (found : Option GraphEntity)
  | entities (page : GraphQueryPage GraphEntity)
  | relationships (page : GraphQueryPage GraphRelationship)
  | subgraph (found : GraphSubgraph)
  | paths (found : List GraphPath)
deriving DecidableEq

/-- `InMemoryOntologyGraphQueryRepository`. -/
def GraphQuery.answer (text : TextFunctions) (store : GraphStore) : GraphQuery → Except Raised GraphAnswer
  | getEntity entityType entityId => .ok (.entity (store.queryEntity entityType entityId))
  | searchEntities query entityTypes limit cursor =>
    (store.searchEntities text query entityTypes limit cursor).map .entities
  | findRelationships entityType entityId direction relationshipType limit cursor =>
    (store.queryRelationships entityType entityId direction relationshipType limit cursor).map .relationships
  | getNeighbourhood entityType entityId depth relationshipTypes entityTypes limit =>
    (store.subgraph text entityType entityId depth .both relationshipTypes entityTypes limit).map .subgraph
  | getUpstream entityType entityId depth relationshipTypes limit =>
    (store.subgraph text entityType entityId depth .incoming relationshipTypes none limit).map .subgraph
  | getDownstream entityType entityId depth relationshipTypes limit =>
    (store.subgraph text entityType entityId depth .outgoing relationshipTypes none limit).map .subgraph
  | findPaths sourceType sourceId targetType targetId maxDepth relationshipTypes limit =>
    (store.findPaths text sourceType sourceId targetType targetId maxDepth relationshipTypes limit).map .paths

end AiGovernance.Ontology
