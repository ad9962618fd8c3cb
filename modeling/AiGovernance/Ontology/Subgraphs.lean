import AiGovernance.Ontology.Lineage

/-!
# Bounded subgraphs

`_subgraph` collects nodes breadth first until its limit. Its nodes are labelled
with their distance from the start, at the limit too; below the limit they are
all nodes within the depth, and its edges all edges that lead from one of them,
before the depth is reached, to another. At the limit an edge is recorded before
it is found that its end has no place any more.
-/

namespace AiGovernance.Ontology.GraphStore

open AiGovernance.Std AiGovernance.Std.Search Domain List

variable {edge : OntologyRelationship} {state : Traversal} {right left : NodeKey} {shown : GraphNode}

/-- What a traversal is asked for. -/
structure TraversalQuery where
  direction : Direction
  relationshipFilter : List RelationshipType
  entityFilter : List EntityType
  depth : Int
  limit : Int

/-- A live edge of a passing type leads, in the direction of the traversal, to a node of a passing type. -/
structure Passing (store : GraphStore) (query : TraversalQuery) (edge : OntologyRelationship) (left right : NodeKey) :
    Prop where
  stored : edge ∈ store.relationships.values
  live : store.visible edge = true
  typed : passes query.relationshipFilter edge.record.relationshipType = true
  joins : Joins query.direction edge left right
  admitted : passes query.entityFilter right.1 = true

/-- One step of a traversal. -/
def Hops (store : GraphStore) (query : TraversalQuery) (left right : NodeKey) : Prop :=
  ∃ edge, store.Passing query edge left right

theorem joins_iff {direction : Direction} :
    Joins direction edge left right ↔ direction.meets left edge = true ∧ otherKey left edge = right := by
  unfold otherKey
  cases direction with
  | outgoing =>
    simp only [Joins, Direction.meets, decide_eq_true_eq]
    apply and_congr_right
    rintro rfl
    rw [if_pos rfl]
  | incoming =>
    simp only [Joins, Direction.meets, decide_eq_true_eq]
    apply and_congr_right
    rintro rfl
    by_cases loop : edge.record.target = edge.record.source
    · simp [loop]
    · simp [loop]
  | both =>
    simp only [Joins, Direction.meets, Bool.or_eq_true, decide_eq_true_eq]
    by_cases leaves : left = edge.record.source
    · subst leaves
      simp only [true_and, true_or, if_true]
      constructor
      · rintro (same | ⟨loop, same⟩)
        · exact same
        · rw [loop, same]
      · exact Or.inl
    · simp [leaves, Ne.symm leaves]

theorem mem_matching {store : GraphStore} {query : TraversalQuery} :
    store.Passing query edge left right ↔
      edge ∈ store.matchingRelationships left query.direction query.relationshipFilter ∧
        otherKey left edge = right ∧ passes query.entityFilter right.1 = true := by
  unfold matchingRelationships
  rw [mem_insertionSort, mem_filter, Bool.and_eq_true, Bool.and_eq_true]
  constructor
  · rintro ⟨stored, live, typed, joins, admitted⟩
    obtain ⟨meets, same⟩ := joins_iff.mp joins
    exact ⟨⟨stored, ⟨live, typed⟩, meets⟩, same, admitted⟩
  · rintro ⟨⟨stored, ⟨live, typed⟩, meets⟩, same, admitted⟩
    exact ⟨stored, live, typed, joins_iff.mpr ⟨meets, same⟩, admitted⟩

/-! ## The invariant -/

/-- The depth a node was reached at. -/
def depthOf (nodes : Dict NodeKey GraphNode) (node : NodeKey) : Option Nat := (nodes.get? node).map (·.depth)

/-- What holds of a traversal, with the nodes whose edges are still to be followed. -/
structure Traversed (store : GraphStore) (query : TraversalQuery) (start : NodeKey) (queue : List (NodeKey × Nat))
    (nodes : Dict NodeKey GraphNode) (edges : Dict String GraphRelationship) : Prop where
  explored : Explored (store.Hops query) query.depth start (depthOf nodes) queue
  shown : ∀ {node shown}, nodes.get? node = some shown →
    ∃ entity, store.ownEntity? node = some entity ∧ entity.record.isDeleted = false ∧
      shown.entity = .ofOntologyEntity entity
  /-- An edge was followed from a node before the depth; its end is a node, but for the limit. -/
  followed : ∀ {name edge}, edges.get? name = some edge → ∃ relationship left right length,
    relationship.record.relationshipId = name ∧ edge = .ofOntologyRelationship relationship ∧
      store.Passing query relationship left right ∧ depthOf nodes left = some length ∧ (length : Int) < query.depth ∧
      ((depthOf nodes right).isSome = true ∨ query.limit ≤ nodes.entries.length)
  recorded : ∀ {left length}, depthOf nodes left = some length → (length : Int) < query.depth →
    (left, length) ∉ queue → ∀ {relationship right}, store.Passing query relationship left right →
      edges.get? relationship.record.relationshipId = some (.ofOntologyRelationship relationship)

section Visit

variable {store : GraphStore} {query : TraversalQuery} {start front : NodeKey} {reached : Nat}

variable {node : NodeKey} {nodes : Dict NodeKey GraphNode}

theorem depthOf_set {other : NodeKey} :
    depthOf (nodes.set node shown) other = if other = node then some shown.depth else depthOf nodes other := by
  unfold depthOf
  rw [Dict.get?_set]
  split <;> rfl

theorem depthOf_isSome : (depthOf nodes node).isSome = (nodes.get? node).isSome := by
  unfold depthOf
  rw [Option.isSome_map]

theorem length_set_of_absent (shown : GraphNode) (absent : nodes.get? node = none) :
    (nodes.set node shown).entries.length = nodes.entries.length + 1 := by
  have values : (nodes.set node shown).values.length = (nodes.values ++ [shown]).length :=
    congrArg List.length (Dict.values_set_of_absent absent)
  simpa [Dict.values] using values

theorem Passing.end_stored (single : store.SingleTenant) (passing : store.Passing query edge left right) :
    ∃ entity, store.ownEntity? right = some entity ∧ entity.record.isDeleted = false ∧
      entity.record.entityType = right.1 := by
  have live := passing.live
  unfold visible endpointsLive GraphStore.holds at live
  rw [single.2 edge passing.stored, Bool.and_eq_true, Bool.and_eq_true, Option.any_eq_true, Option.any_eq_true] at live
  obtain ⟨-, ⟨source, atSource, sourceLive⟩, target, atTarget, targetLive⟩ := live
  have named : ∀ {node entity}, store.entities.get? ({}, node) = some entity → entity.record.entityType = node.1 :=
    fun found => congrArg (fun key : Tenant × NodeKey => key.2.1) (store.entityKeyed found)
  have joins := passing.joins
  have ends : right = edge.record.source ∨ right = edge.record.target := by
    unfold Joins at joins
    cases direction : query.direction with
    | outgoing => rw [direction] at joins; exact Or.inr joins.2.symm
    | incoming => rw [direction] at joins; exact Or.inl joins.2.symm
    | both =>
      rw [direction] at joins
      exact joins.elim (fun joins => Or.inr joins.2.symm) fun joins => Or.inl joins.2.symm
  rcases ends with rfl | rfl
  · exact ⟨source, atSource, by simpa using sourceLive, named atSource⟩
  · exact ⟨target, atTarget, by simpa using targetLive, named atTarget⟩

theorem SingleTenant.edge_eq (single : store.SingleTenant) {first second : OntologyRelationship}
    (firstStored : first ∈ store.relationships.values) (secondStored : second ∈ store.relationships.values)
    (same : first.record.relationshipId = second.record.relationshipId) : first = second := by
  have found := get?_of_mem_values firstStored
  have other := get?_of_mem_values secondStored
  rw [single.2 first firstStored, same] at found
  rw [single.2 second secondStored, found] at other
  exact Option.some.inj other

variable {rest : List (NodeKey × Nat)} {nodes : Dict NodeKey GraphNode} {edges : Dict String GraphRelationship}
  {edge : OntologyRelationship} {right : NodeKey}

/-- A node an edge leads to is added, one further than the front. -/
theorem Traversed.addNode (traversed : Traversed store query start ((front, reached) :: rest) nodes edges)
    (passing : store.Passing query edge front right) (within : (reached : Int) < query.depth)
    (fresh : nodes.get? right = none) {entity : OntologyEntity} (stored : store.ownEntity? right = some entity)
    (live : entity.record.isDeleted = false) :
    Traversed store query start ((front, reached) :: (rest ++ [(right, reached + 1)]))
      (nodes.set right ⟨.ofOntologyEntity entity, reached + 1⟩) edges := by
  have unlabelled : depthOf nodes right = none := by simp [depthOf, fresh]
  have grown := length_set_of_absent ⟨.ofOntologyEntity entity, reached + 1⟩ fresh
  have kept : ∀ {node length}, depthOf nodes node = some length →
      depthOf (nodes.set right ⟨.ofOntologyEntity entity, reached + 1⟩) node = some length := by
    intro node length labelled
    rw [depthOf_set, if_neg]
    · exact labelled
    · rintro rfl
      rw [unlabelled] at labelled
      cases labelled
  constructor
  · refine traversed.explored.discover ⟨edge, passing⟩ within unlabelled ?_ fun node other => ?_
    · rw [depthOf_set, if_pos rfl]
    · rw [depthOf_set, if_neg other]
  · intro node shown found
    rw [Dict.get?_set] at found
    split at found
    · rename_i same
      cases found
      exact ⟨entity, same ▸ stored, live, rfl⟩
    · exact traversed.shown found
  · intro name other found
    obtain ⟨relationship, left, last, length, named, same, leads, labelled, less, ends⟩ := traversed.followed found
    refine ⟨relationship, left, last, length, named, same, leads, kept labelled, less, ?_⟩
    rcases ends with known | full
    · obtain ⟨further, known⟩ := Option.isSome_iff_exists.mp known
      exact Or.inl (by rw [kept known]; rfl)
    · exact Or.inr (by omega)
  · intro left length labelled less absent relationship last leads
    rw [depthOf_set] at labelled
    split at labelled
    · rename_i same
      cases labelled
      exact absurd (by simp [same]) absent
    · refine traversed.recorded labelled less (fun member => absent ?_) leads
      rw [← cons_append]
      exact mem_append_left _ member

theorem Traversed.addEdge (single : store.SingleTenant)
    (traversed : Traversed store query start ((front, reached) :: rest) nodes edges)
    (passing : store.Passing query edge front right) (within : (reached : Int) < query.depth)
    (ends : (depthOf nodes right).isSome = true ∨ query.limit ≤ nodes.entries.length) :
    Traversed store query start ((front, reached) :: rest) nodes
      (edges.set edge.record.relationshipId (.ofOntologyRelationship edge)) := by
  refine ⟨traversed.explored, traversed.shown, fun {name other} found => ?_, ?_⟩
  · rw [Dict.get?_set] at found
    split at found
    · rename_i same
      cases found
      exact ⟨edge, front, right, reached, same.symm, rfl, passing,
        traversed.explored.labelled (front, reached) mem_cons_self, within, ends⟩
    · exact traversed.followed found
  · intro left length labelled less absent relationship last leads
    have known := traversed.recorded labelled less absent leads
    rw [Dict.get?_set]
    split
    · rename_i same
      rw [single.edge_eq leads.stored passing.stored same]
    · exact known

/-- What the edges of the front do to a traversal. -/
structure Advances (store : GraphStore) (query : TraversalQuery) (start front : NodeKey) (reached : Nat)
    (followed : List OntologyRelationship) (before after : Traversal) : Prop where
  traversed : Traversed store query start ((front, reached) :: after.queue) after.nodes after.edges
  bounded : (before.nodes.entries.length : Int) ≤ query.limit → (after.nodes.entries.length : Int) ≤ query.limit
  keepsNode : ∀ {node shown}, before.nodes.get? node = some shown → after.nodes.get? node = some shown
  keepsEdge : ∀ {relationship}, relationship ∈ store.relationships.values →
    before.edges.get? relationship.record.relationshipId = some (.ofOntologyRelationship relationship) →
    after.edges.get? relationship.record.relationshipId = some (.ofOntologyRelationship relationship)
  follows : (∀ edge ∈ followed, ∀ right, store.Passing query edge front right →
      after.edges.get? edge.record.relationshipId = some (.ofOntologyRelationship edge) ∧
        (after.nodes.get? right).isSome = true) ∨ query.limit ≤ after.nodes.entries.length

theorem edges_set_keeps (single : store.SingleTenant) (stored : edge ∈ store.relationships.values)
    {relationship : OntologyRelationship} (other : relationship ∈ store.relationships.values)
    (known : edges.get? relationship.record.relationshipId = some (.ofOntologyRelationship relationship)) :
    (edges.set edge.record.relationshipId (.ofOntologyRelationship edge)).get? relationship.record.relationshipId =
      some (.ofOntologyRelationship relationship) := by
  rw [Dict.get?_set]
  split
  · rename_i same
    rw [single.edge_eq other stored same]
  · exact known

/-- The first edge of the front, and then the others. -/
theorem Advances.cons (others : List OntologyRelationship) (middle : Traversal) {before after : Traversal}
    (stored : edge ∈ store.relationships.values)
    (bounded : (before.nodes.entries.length : Int) ≤ query.limit → (middle.nodes.entries.length : Int) ≤ query.limit)
    (keepsNode : ∀ {node shown}, before.nodes.get? node = some shown → middle.nodes.get? node = some shown)
    (keepsEdge : ∀ {relationship}, relationship ∈ store.relationships.values →
      before.edges.get? relationship.record.relationshipId = some (.ofOntologyRelationship relationship) →
      middle.edges.get? relationship.record.relationshipId = some (.ofOntologyRelationship relationship))
    (first : ∀ right, store.Passing query edge front right →
      middle.edges.get? edge.record.relationshipId = some (.ofOntologyRelationship edge) ∧
        (middle.nodes.get? right).isSome = true)
    (advances : Advances store query start front reached others middle after) :
    Advances store query start front reached (edge :: others) before after := by
  refine ⟨advances.traversed, fun few => advances.bounded (bounded few), fun found => advances.keepsNode (keepsNode found),
    fun other known => advances.keepsEdge other (keepsEdge other known), ?_⟩
  rcases advances.follows with follows | full
  · refine Or.inl fun other member right passing => ?_
    rcases mem_cons.mp member with rfl | member
    · obtain ⟨recorded, known⟩ := first right passing
      obtain ⟨shown, found⟩ := Option.isSome_iff_exists.mp known
      exact ⟨advances.keepsEdge stored recorded, by rw [advances.keepsNode found]; rfl⟩
    · exact follows other member right passing
  · exact Or.inr full

/-- The inner loop keeps the invariant, and follows every edge below the limit. -/
theorem advances_visit (single : store.SingleTenant) (within : (reached : Int) < query.depth)
    (relationships : List OntologyRelationship)
    (matching : ∀ edge ∈ relationships, edge ∈ store.matchingRelationships front query.direction query.relationshipFilter)
    (traversed : Traversed store query start ((front, reached) :: state.queue) state.nodes state.edges) :
    Advances store query start front reached relationships state
      (visit store query.entityFilter query.limit front reached relationships state) := by
  induction relationships generalizing state with
  | nil => exact ⟨traversed, id, id, fun _ => id, Or.inl fun _ member => absurd member not_mem_nil⟩
  | cons edge others ih =>
    have further := fun other member => matching other (mem_cons_of_mem _ member)
    have stored : edge ∈ store.relationships.values :=
      (mem_filter.mp ((mem_insertionSort _).mp (matching edge mem_cons_self))).1
    -- An edge that does not pass is skipped.
    have skip : (∀ right, ¬ store.Passing query edge front right) →
        Advances store query start front reached (edge :: others) state
          (visit store query.entityFilter query.limit front reached others state) := fun idle =>
      .cons others state stored id id (fun _ => id) (fun right passing => absurd passing (idle right))
        (ih further traversed)
    unfold visit
    dsimp only
    cases found : store.ownEntity? (otherKey front edge) with
    | none =>
      apply skip
      intro right passing
      obtain ⟨entity, known, -, -⟩ := passing.end_stored single
      rw [← (mem_matching.mp passing).2.1, found] at known
      cases known
    | some entity =>
      dsimp only
      by_cases excluded : (entity.record.isDeleted || !passes query.entityFilter entity.record.entityType) = true
      · rw [if_pos excluded]
        apply skip
        intro right passing
        obtain ⟨known, present, live, typed⟩ := passing.end_stored single
        obtain ⟨-, same, admitted⟩ := mem_matching.mp passing
        rw [← same, found] at present
        cases present
        rw [live, typed, admitted] at excluded
        cases excluded
      · rw [if_neg excluded]
        have live : entity.record.isDeleted = false := by
          cases deleted : entity.record.isDeleted <;> simp [deleted] at excluded ⊢
        have admitted : passes query.entityFilter (otherKey front edge).1 = true := by
          have typed : entity.record.entityType = (otherKey front edge).1 :=
            congrArg (fun key : Tenant × NodeKey => key.2.1) (store.entityKeyed found)
          rw [live, typed] at excluded
          simpa using excluded
        have passing : store.Passing query edge front (otherKey front edge) :=
          mem_matching.mpr ⟨matching edge mem_cons_self, rfl, admitted⟩
        have only : ∀ right, store.Passing query edge front right → right = otherKey front edge :=
          fun right other => (mem_matching.mp other).2.1.symm
        by_cases known : (state.nodes.get? (otherKey front edge)).isSome = true
        · rw [if_pos known]
          let middle : Traversal :=
            { state with edges := state.edges.set edge.record.relationshipId (.ofOntologyRelationship edge) }
          refine .cons others middle stored id id (fun other => edges_set_keeps single stored other) (fun right other => ?_)
            (ih further
              (traversed.addEdge single passing within (Or.inl (by rw [depthOf_isSome]; exact known))))
          rw [only right other]
          exact ⟨Dict.get?_set_self _, known⟩
        · rw [if_neg known]
          have fresh : state.nodes.get? (otherKey front edge) = none := by simpa using known
          by_cases room : (state.nodes.entries.length : Int) < query.limit
          · rw [if_neg (not_not.mpr room)]
            have added := (traversed.addNode passing within fresh found live).addEdge single passing within
              (Or.inl (by rw [depthOf_set, if_pos rfl]; rfl))
            have grown := length_set_of_absent ⟨GraphEntity.ofOntologyEntity entity, reached + 1⟩ fresh
            let middle : Traversal :=
              { queue := state.queue ++ [(otherKey front edge, reached + 1)]
                nodes := state.nodes.set (otherKey front edge) ⟨.ofOntologyEntity entity, reached + 1⟩
                edges := state.edges.set edge.record.relationshipId (.ofOntologyRelationship edge) }
            refine .cons others middle stored (fun _ => ?_) (fun found => Dict.get?_set_of_some fresh found)
              (fun other => edges_set_keeps single stored other) (fun right other => ?_)
              (ih further added)
            · dsimp only [middle]
              omega
            · rw [only right other]
              exact ⟨Dict.get?_set_self _, by dsimp only [middle]; rw [Dict.get?_set_self]; rfl⟩
          · rw [if_pos room]
            have full : query.limit ≤ (state.nodes.entries.length : Int) := by omega
            exact ⟨traversed.addEdge single passing within (Or.inr full), id, id,
              fun other => edges_set_keeps single stored other, Or.inr full⟩

/-- The front leaves the queue when it is as deep as the traversal goes. -/
theorem Traversed.dropDeep (traversed : Traversed store query start ((front, reached) :: rest) nodes edges)
    (deep : query.depth ≤ reached) : Traversed store query start rest nodes edges := by
  refine ⟨traversed.explored.drop fun within => absurd within (by omega), traversed.shown, traversed.followed, ?_⟩
  intro left length labelled less absent relationship right leads
  refine traversed.recorded labelled less (fun member => ?_) leads
  rcases mem_cons.mp member with same | member
  · cases same
    omega
  · exact absent member

theorem Traversed.dropFollowed (traversed : Traversed store query start ((front, reached) :: rest) nodes edges)
    (follows : ∀ edge ∈ store.matchingRelationships front query.direction query.relationshipFilter, ∀ right,
      store.Passing query edge front right →
        edges.get? edge.record.relationshipId = some (.ofOntologyRelationship edge) ∧
          (nodes.get? right).isSome = true) : Traversed store query start rest nodes edges := by
  refine ⟨traversed.explored.drop fun _ next hop => ?_, traversed.shown, traversed.followed, ?_⟩
  · obtain ⟨edge, passing⟩ := hop
    rw [depthOf_isSome]
    exact (follows edge (mem_matching.mp passing).1 next passing).2
  · intro left length labelled less absent relationship right leads
    by_cases same : (left, length) = (front, reached)
    · cases same
      exact (follows relationship (mem_matching.mp leads).1 right leads).1
    · refine traversed.recorded labelled less (fun member => ?_) leads
      rcases mem_cons.mp member with equal | member
      · exact same equal
      · exact absent member

end Visit

/-! ## The whole traversal -/

section Runs

variable {store : GraphStore} {query : TraversalQuery} {start : NodeKey}

/-- The invariant of the loop; at the limit a node whose edges were not all followed may have left
the queue. -/
def Traversing (store : GraphStore) (query : TraversalQuery) (start : NodeKey) (state : Traversal) : Prop :=
  ∃ queue, Traversed store query start queue state.nodes state.edges ∧
    (queue = state.queue ∨ query.limit ≤ state.nodes.entries.length) ∧
    (state.nodes.entries.length : Int) ≤ query.limit

/-- What the loop leaves. -/
def Collected (store : GraphStore) (query : TraversalQuery) (start : NodeKey) (state : Traversal) : Prop :=
  ∃ queue, Traversed store query start queue state.nodes state.edges ∧
    (queue = [] ∨ query.limit ≤ state.nodes.entries.length) ∧
    (state.nodes.entries.length : Int) ≤ query.limit

theorem traversing_round (single : store.SingleTenant) {next : Traversal}
    (traversing : Traversing store query start state)
    (continues : store.subgraphRound query.direction query.relationshipFilter query.entityFilter query.depth query.limit
      state = .inl next) : Traversing store query start next := by
  obtain ⟨queue, traversed, still, few⟩ := traversing
  unfold subgraphRound at continues
  split at continues
  · cases continues
  · rename_i front reached rest shape
    split at continues
    · cases continues
    · rename_i room
      have same := still.resolve_right (by omega)
      rw [same, shape] at traversed
      split at continues
      · rename_i deep
        cases continues
        exact ⟨rest, traversed.dropDeep deep, Or.inl rfl, few⟩
      · rename_i shallow
        cases continues
        have within : (reached : Int) < query.depth := by omega
        have advances := advances_visit single within _ (fun edge member => member)
          (show Traversed store query start ((front, reached) :: { state with queue := rest }.queue)
            { state with queue := rest }.nodes { state with queue := rest }.edges from traversed)
        rcases advances.follows with follows | full
        · exact ⟨_, advances.traversed.dropFollowed follows, Or.inl rfl, advances.bounded few⟩
        · exact ⟨_, advances.traversed, Or.inr full, advances.bounded few⟩

theorem collected_round {result : Traversal} (traversing : Traversing store query start state)
    (ends : store.subgraphRound query.direction query.relationshipFilter query.entityFilter query.depth query.limit
      state = .inr result) : Collected store query start result := by
  obtain ⟨queue, traversed, still, few⟩ := traversing
  unfold subgraphRound at ends
  split at ends
  · rename_i empty
    cases ends
    rw [empty] at still
    exact ⟨queue, traversed, still, few⟩
  · split at ends
    · rename_i full
      cases ends
      exact ⟨queue, traversed, Or.inr (by omega), few⟩
    · split at ends <;> cases ends

theorem traversing_init {entity : OntologyEntity} (stored : store.ownEntity? start = some entity)
    (live : entity.record.isDeleted = false) (positive : 1 ≤ query.limit) :
    Traversing store query start
      { queue := [(start, 0)], nodes := Dict.empty.set start ⟨.ofOntologyEntity entity, 0⟩, edges := .empty } := by
  have labels : depthOf (Dict.empty.set start ⟨.ofOntologyEntity entity, 0⟩) =
      fun node => if node = start then some 0 else none := by
    funext node
    rw [depthOf_set]
    rfl
  refine ⟨[(start, 0)], ⟨?_, fun {node shown} found => ?_, fun found => ?_, ?_⟩, Or.inl rfl, ?_⟩
  · rw [labels]
    exact Explored.init
  · rw [Dict.get?_set] at found
    split at found
    · rename_i same
      cases found
      exact ⟨entity, same ▸ stored, live, rfl⟩
    · cases found
  · cases found
  · intro left length labelled less absent
    rw [labels] at labelled
    dsimp only at labelled
    split at labelled
    · rename_i same
      cases labelled
      exact absurd (by simp [same]) absent
    · cases labelled
  · have grown : (Dict.empty.set start (⟨GraphEntity.ofOntologyEntity entity, 0⟩ : GraphNode)).entries.length = _ :=
      length_set_of_absent _ Dict.get?_empty
    have single : (Dict.empty : Dict NodeKey GraphNode).entries.length = 0 := rfl
    dsimp only
    omega

end Runs

/-! ## Results -/

/-- The key of a node that is shown. -/
def nodeKey (node : GraphNode) : NodeKey := (node.entity.entityType, node.entity.entityId)

/-- A subgraph answers a query: it has at most as many nodes as asked for, each a live entity at
its distance from the start, and edges that leave them; and below the limit it has all nodes within
the depth, and all passing edges between them that leave a node before the depth. -/
structure Answers (store : GraphStore) (query : TraversalQuery) (start : NodeKey) (result : GraphSubgraph) : Prop where
  few : (result.nodes.length : Int) ≤ query.limit
  once : (result.nodes.map nodeKey).Nodup
  genuine : ∀ node ∈ result.nodes, ∃ entity, store.ownEntity? (nodeKey node) = some entity ∧
    entity.record.isDeleted = false ∧ node.entity = .ofOntologyEntity entity
  distances : ∀ node ∈ result.nodes, Distance (store.Hops query) start (nodeKey node) node.depth
  leaves : ∀ edge ∈ result.edges, ∃ relationship left right length, edge = .ofOntologyRelationship relationship ∧
    store.Passing query relationship left right ∧ Distance (store.Hops query) start left length ∧
    (length : Int) < query.depth ∧ left ∈ result.nodes.map nodeKey
  nodes : (result.nodes.length : Int) < query.limit → ∀ key length,
    (∃ node ∈ result.nodes, nodeKey node = key ∧ node.depth = length) ↔
      store.holds {} key = true ∧ Distance (store.Hops query) start key length ∧ (length : Int) ≤ query.depth
  edges : (result.nodes.length : Int) < query.limit → ∀ edge, edge ∈ result.edges ↔
    ∃ relationship left right length, edge = .ofOntologyRelationship relationship ∧
      store.Passing query relationship left right ∧ Distance (store.Hops query) start left length ∧
      (length : Int) < query.depth ∧ left ∈ result.nodes.map nodeKey ∧ right ∈ result.nodes.map nodeKey
  distinct : result.edges.Nodup

section Results

variable {store : GraphStore} {query : TraversalQuery} {start : NodeKey} {queue : List (NodeKey × Nat)}
  {nodes : Dict NodeKey GraphNode} {edges : Dict String GraphRelationship}

theorem Traversed.keyed (traversed : Traversed store query start queue nodes edges) {node : NodeKey}
    (found : nodes.get? node = some shown) : nodeKey shown = node := by
  obtain ⟨entity, stored, -, same⟩ := traversed.shown found
  unfold nodeKey
  rw [same]
  exact congrArg Prod.snd (store.entityKeyed stored)

theorem Traversed.mem_nodes (traversed : Traversed store query start queue nodes edges) :
    shown ∈ nodes.values ↔ nodes.get? (nodeKey shown) = some shown := by
  rw [Dict.mem_values_iff]
  constructor
  · rintro ⟨node, found⟩
    rw [traversed.keyed found]
    exact found
  · exact fun found => ⟨_, found⟩

theorem Traversed.nodup_keys (traversed : Traversed store query start queue nodes edges) :
    (nodes.values.map nodeKey).Nodup := by
  have keys : nodes.values.map nodeKey = nodes.entries.map Prod.fst := by
    rw [Dict.values, map_map]
    exact map_congr_left fun entry member => traversed.keyed (Dict.get?_of_mem member)
  rw [keys]
  exact nodes.nodup

theorem Traversed.labelled_iff (traversed : Traversed store query start queue nodes edges) {key : NodeKey}
    {length : Nat} : depthOf nodes key = some length ↔
      ∃ shown ∈ nodes.values, nodeKey shown = key ∧ shown.depth = length := by
  unfold depthOf
  rw [Option.map_eq_some_iff]
  constructor
  · rintro ⟨shown, found, same⟩
    have keyed := traversed.keyed found
    exact ⟨shown, traversed.mem_nodes.mpr (by rw [keyed]; exact found), keyed, same⟩
  · rintro ⟨shown, member, rfl, same⟩
    exact ⟨shown, traversed.mem_nodes.mp member, same⟩

variable {key : NodeKey} {length : Nat}

theorem Traversed.holds (traversed : Traversed store query start queue nodes edges)
    (labelled : depthOf nodes key = some length) : store.holds {} key = true := by
  obtain ⟨shown, found, -⟩ := Option.map_eq_some_iff.mp labelled
  obtain ⟨entity, stored, live, -⟩ := traversed.shown found
  unfold GraphStore.holds
  change Option.any _ (store.ownEntity? key) = true
  rw [stored, Option.any_some, live]
  rfl

theorem Traversed.mem_keys (traversed : Traversed store query start queue nodes edges) :
    key ∈ nodes.values.map nodeKey ↔ (depthOf nodes key).isSome = true := by
  rw [mem_map, Option.isSome_iff_exists]
  constructor
  · rintro ⟨shown, member, same⟩
    exact ⟨shown.depth, traversed.labelled_iff.mpr ⟨shown, member, same, rfl⟩⟩
  · rintro ⟨length, labelled⟩
    obtain ⟨shown, member, same, -⟩ := traversed.labelled_iff.mp labelled
    exact ⟨shown, member, same⟩

theorem length_values (dict : Dict NodeKey GraphNode) : dict.values.length = dict.entries.length := by
  unfold Dict.values
  rw [length_map]

/-- What the loop leaves answers the query. -/
theorem answers_of_collected (deep : 0 ≤ query.depth) (collected : Collected store query start state)
    {shown : List GraphNode} {listed : List GraphRelationship} (arranged : shown.Perm state.nodes.values)
    (gathered : listed.Perm state.edges.values) : Answers store query start ⟨shown, listed⟩ := by
  obtain ⟨queue, traversed, still, few⟩ := collected
  have measured : shown.length = state.nodes.entries.length := arranged.length_eq.trans (length_values _)
  have keys : ∀ key, key ∈ shown.map nodeKey ↔ (depthOf state.nodes key).isSome = true := fun key =>
    (arranged.map nodeKey).mem_iff.trans traversed.mem_keys
  have complete : (shown.length : Int) < query.limit → Traversed store query start [] state.nodes state.edges := by
    intro below
    obtain rfl := still.resolve_right (by omega)
    exact traversed
  constructor
  · dsimp only
    omega
  · exact (arranged.map nodeKey).nodup_iff.mpr traversed.nodup_keys
  · intro node member
    exact traversed.shown (traversed.mem_nodes.mp (arranged.mem_iff.mp member))
  · intro node member
    exact traversed.explored.distance (traversed.labelled_iff.mpr ⟨node, arranged.mem_iff.mp member, rfl, rfl⟩)
  · intro edge member
    obtain ⟨name, found⟩ := (Dict.mem_values_iff _ _).mp (gathered.mem_iff.mp member)
    obtain ⟨relationship, left, right, length, -, same, passing, labelled, less, -⟩ := traversed.followed found
    exact ⟨relationship, left, right, length, same, passing, traversed.explored.distance labelled, less,
      (keys left).mpr (by rw [labelled]; rfl)⟩
  · intro below key length
    have ended := complete below
    have labelled : (∃ node ∈ shown, nodeKey node = key ∧ node.depth = length) ↔
        depthOf state.nodes key = some length := by
      rw [traversed.labelled_iff]
      exact exists_congr fun node => and_congr_left fun _ => arranged.mem_iff
    dsimp only
    rw [labelled]
    constructor
    · intro known
      obtain ⟨distance, within⟩ := ended.explored.complete.mp known
      exact ⟨traversed.holds known, distance, by omega⟩
    · rintro ⟨-, distance, within⟩
      exact ended.explored.complete.mpr ⟨distance, Or.inr within⟩
  · intro below edge
    have ended := complete below
    dsimp only at below ⊢
    rw [gathered.mem_iff, Dict.mem_values_iff]
    constructor
    · rintro ⟨name, found⟩
      obtain ⟨relationship, left, right, length, -, same, passing, labelled, less, ends⟩ := traversed.followed found
      refine ⟨relationship, left, right, length, same, passing, traversed.explored.distance labelled, less, ?_, ?_⟩
      · exact (keys left).mpr (by rw [labelled]; rfl)
      · exact (keys right).mpr (ends.resolve_right (by omega))
    · rintro ⟨relationship, left, right, length, rfl, passing, distance, less, -⟩
      have labelled := ended.explored.complete.mpr ⟨distance, Or.inr (by omega)⟩
      exact ⟨_, ended.recorded labelled less not_mem_nil passing⟩
  · refine gathered.nodup_iff.mpr (Dict.nodup_values_of_keyed (·.relationshipId) fun {name edge} found => ?_)
    obtain ⟨relationship, -, -, -, named, same, -⟩ := traversed.followed found
    rw [same]
    exact named

/-- An edge that may be followed starts at a live node. -/
theorem Passing.start_live (single : store.SingleTenant) (passing : store.Passing query edge left right) :
    store.holds {} left = true := by
  have live := passing.live
  unfold visible endpointsLive at live
  rw [single.2 edge passing.stored, Bool.and_eq_true, Bool.and_eq_true] at live
  have joins := passing.joins
  unfold Joins at joins
  cases direction : query.direction with
  | outgoing => rw [direction] at joins; exact joins.1 ▸ live.2.1
  | incoming => rw [direction] at joins; exact joins.1 ▸ live.2.2
  | both =>
    rw [direction] at joins
    exact joins.elim (fun joins => joins.1 ▸ live.2.1) fun joins => joins.1 ▸ live.2.2

/-- From a start that is not live nothing is reached. -/
theorem walk_from_gone (single : store.SingleTenant) (gone : store.holds {} start = false) {node : NodeKey}
    (walk : Walk (store.Hops query) length start node) : node = start := by
  induction walk with
  | here => rfl
  | onward _ next ih =>
    obtain rfl := ih gone
    obtain ⟨edge, passing⟩ := next
    rw [passing.start_live single] at gone
    cases gone

theorem answers_of_gone (single : store.SingleTenant) (gone : store.holds {} start = false)
    (positive : 0 ≤ query.limit) : Answers store query start {} := by
  refine ⟨positive, nodup_nil, by simp, by simp, by simp, fun _ key length => ?_, fun _ edge => ?_, nodup_nil⟩
  · constructor
    · simp
    · rintro ⟨live, ⟨walk, -⟩, -⟩
      rw [walk_from_gone single gone walk, gone] at live
      cases live
  · simp

theorem subgraph_answers (text : TextFunctions) (single : store.SingleTenant) (start : NodeKey) (query : TraversalQuery)
    (deep : 1 ≤ query.depth) (positive : 1 ≤ query.limit) {relationshipTypes entityTypes : Option (List String)}
    (typed : relationshipTypeSet text relationshipTypes = .ok query.relationshipFilter)
    (admitted : entityTypeSet text entityTypes = .ok query.entityFilter) :
    ∃ result, store.subgraph text start.1.value start.2 query.depth query.direction relationshipTypes entityTypes
        query.limit = .ok result ∧ Answers store query start result := by
  have named : nodeKey? start.1.value start.2 = some start := by simp [nodeKey?, EntityType.parse_value]
  unfold subgraph
  rw [named, Option.bind_some]
  cases stored : store.ownEntity? start with
  | none =>
    have gone : store.holds {} start = false := by
      unfold GraphStore.holds
      change Option.any _ (store.ownEntity? start) = false
      rw [stored]
      rfl
    exact ⟨{}, rfl, answers_of_gone single gone (by omega)⟩
  | some entity =>
    dsimp only [Option.map_some]
    by_cases deleted : entity.record.isDeleted = true
    · have gone : store.holds {} start = false := by
        unfold GraphStore.holds
        change Option.any _ (store.ownEntity? start) = false
        rw [stored, Option.any_some, deleted]
        rfl
      rw [if_pos deleted]
      exact ⟨{}, rfl, answers_of_gone single gone (by omega)⟩
    · rw [if_neg deleted, typed, admitted]
      simp only [bind, Except.bind]
      have collected := Loop.complete_invariant pending_subgraphRound (Traversing store query start)
        (Collected store query start) (fun traversing continues => traversing_round single traversing continues)
        (fun traversing ends => collected_round traversing ends)
        (traversing_init stored (Bool.not_eq_true _ ▸ deleted) positive)
      exact ⟨_, rfl, answers_of_collected (by omega) collected (perm_insertionSort _ _)
        (perm_insertionSort _ _)⟩

end Results

end AiGovernance.Ontology.GraphStore
