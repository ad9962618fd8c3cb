import AiGovernance.Repositories.OntologyGraph
import AiGovernance.Std.Loop

/-!
# Lineage of the ontology graph

`find_upstream`, `find_downstream` and `find_neighbors` of
`InMemoryOntologyGraphRepository` (`ontology/repositories.py`): one traversal,
which marks a node as visited before it looks whether the node is there and
live.
-/

namespace AiGovernance.Ontology

open AiGovernance.Std Domain

/-- The state of `_traverse`. -/
structure Lineage where
  queue : List (NodeKey × Nat)
  visited : List NodeKey
  found : Dict NodeKey OntologyEntity

namespace GraphStore

/-- `next_keys`: where an edge leads from a node. -/
def nextKeys (direction : Direction) (current : NodeKey) (relationship : OntologyRelationship) : List NodeKey :=
  (if (direction = .outgoing ∨ direction = .both) ∧ relationship.record.source = current then
      [relationship.record.target] else []) ++
    if (direction = .incoming ∨ direction = .both) ∧ relationship.record.target = current then
      [relationship.record.source] else []

/-- The innermost loop of `_traverse`: one key an edge leads to. -/
def enter (store : GraphStore) (tenant : Tenant) (depth : Nat) (state : Lineage) (nextKey : NodeKey) : Lineage :=
  if nextKey ∈ state.visited then state
  else
    match store.entities.get? (tenant, nextKey) with
    | none => { state with visited := nextKey :: state.visited }
    | some entity =>
      if entity.record.isDeleted then { state with visited := nextKey :: state.visited }
      else {
        queue := state.queue ++ [(nextKey, depth + 1)]
        visited := nextKey :: state.visited
        found := state.found.set nextKey entity }

/-- The loop of `_traverse` over the relationships of the graph. -/
def follow (store : GraphStore) (tenant : Tenant) (direction : Direction) (current : NodeKey) (depth : Nat)
    (state : Lineage) : Lineage :=
  store.relationships.values.foldl (fun state relationship =>
    if relationship.record.tenant ≠ tenant then state
    else if relationship.record.isDeleted then state
    else (nextKeys direction current relationship).foldl (store.enter tenant depth) state) state

/-- One round of the loop of `_traverse`. -/
def lineageRound (store : GraphStore) (tenant : Tenant) (direction : Direction) (depth : Int) (state : Lineage) :
    Lineage ⊕ Lineage :=
  match state.queue with
  | [] => .inr state
  | (current, currentDepth) :: rest =>
    if depth ≤ currentDepth then .inl { state with queue := rest }
    else .inl (store.follow tenant direction current currentDepth { state with queue := rest })

/-- The keys `follow` enters, in order. -/
def edgeKeys (store : GraphStore) (tenant : Tenant) (direction : Direction) (current : NodeKey) : List NodeKey :=
  store.relationships.values.flatMap fun relationship =>
    if relationship.record.tenant ≠ tenant then []
    else if relationship.record.isDeleted then []
    else nextKeys direction current relationship

theorem follow_eq (store : GraphStore) (tenant : Tenant) (direction : Direction) (current : NodeKey) (depth : Nat)
    (state : Lineage) :
    store.follow tenant direction current depth state =
      (store.edgeKeys tenant direction current).foldl (store.enter tenant depth) state := by
  unfold follow edgeKeys
  rw [List.foldl_flatMap]
  congr 1
  funext state relationship
  split
  · rfl
  · split <;> rfl

/-! ## Termination -/

/-- Entities of a tenant a traversal has not come to. -/
def unvisited (store : GraphStore) (tenant : Tenant) (visited : List NodeKey) : Nat :=
  store.entities.values.countP fun entity =>
    entity.record.tenant = tenant && decide (entity.record.node ∉ visited)

/-- What a traversal has before it: its queue, and what may still be added to it. -/
def awaiting (store : GraphStore) (tenant : Tenant) (state : Lineage) : Nat :=
  state.queue.length + store.unvisited tenant state.visited

theorem unvisited_cons_le (store : GraphStore) (tenant : Tenant) (visited : List NodeKey) (key : NodeKey) :
    store.unvisited tenant (key :: visited) ≤ store.unvisited tenant visited := by
  apply List.countP_mono_left
  intro entity _ counted
  simp only [Bool.and_eq_true, decide_eq_true_eq, List.mem_cons, not_or] at counted ⊢
  exact ⟨counted.1, counted.2.2⟩

theorem unvisited_cons_lt {store : GraphStore} {tenant : Tenant} {visited : List NodeKey} {key : NodeKey}
    {entity : OntologyEntity} (found : store.entities.get? (tenant, key) = some entity) (fresh : key ∉ visited) :
    store.unvisited tenant (key :: visited) < store.unvisited tenant visited := by
  obtain ⟨sameTenant, sameNode⟩ := Prod.mk.inj (store.entityKeyed found)
  have member : entity ∈ store.entities.values := (Dict.mem_values_iff _ _).mpr ⟨_, found⟩
  obtain ⟨before, after, shape⟩ := List.append_of_mem member
  have fewer : ∀ items : List OntologyEntity,
      items.countP (fun item => item.record.tenant = tenant && decide (item.record.node ∉ key :: visited)) ≤
        items.countP fun item => item.record.tenant = tenant && decide (item.record.node ∉ visited) := by
    intro items
    apply List.countP_mono_left
    intro item _ counted
    simp only [Bool.and_eq_true, decide_eq_true_eq, List.mem_cons, not_or] at counted ⊢
    exact ⟨counted.1, counted.2.2⟩
  have first := fewer before
  have second := fewer after
  unfold unvisited
  rw [shape]
  simp only [List.countP_append, List.countP_cons, sameTenant, sameNode, List.mem_cons_self, fresh, not_true_eq_false,
    not_false_eq_true, decide_true, decide_false, Bool.and_self, Bool.and_false, Bool.false_eq_true, if_true, if_false]
  omega

theorem awaiting_enter (store : GraphStore) (tenant : Tenant) (depth : Nat) (state : Lineage) (key : NodeKey) :
    store.awaiting tenant (store.enter tenant depth state key) ≤ store.awaiting tenant state := by
  have less := store.unvisited_cons_le tenant state.visited key
  unfold enter
  split
  · exact Nat.le_refl _
  · rename_i fresh
    split
    · simp only [awaiting]
      omega
    · rename_i entity found
      split
      · simp only [awaiting]
        omega
      · have fewer := unvisited_cons_lt found fresh
        simp only [awaiting, List.length_append, List.length_singleton]
        omega

theorem awaiting_foldl_enter (store : GraphStore) (tenant : Tenant) (depth : Nat) (keys : List NodeKey)
    (state : Lineage) :
    store.awaiting tenant (keys.foldl (store.enter tenant depth) state) ≤ store.awaiting tenant state := by
  induction keys generalizing state with
  | nil => exact Nat.le_refl _
  | cons key rest ih =>
    exact Nat.le_trans (ih _) (store.awaiting_enter tenant depth state key)

theorem awaiting_lineageRound {store : GraphStore} {tenant : Tenant} {direction : Direction} {depth : Int}
    {state next : Lineage} (continues : store.lineageRound tenant direction depth state = .inl next) :
    store.awaiting tenant next < store.awaiting tenant state := by
  unfold lineageRound at continues
  split at continues
  · cases continues
  · rename_i current currentDepth rest shape
    have shorter : store.awaiting tenant { state with queue := rest } < store.awaiting tenant state := by
      simp only [awaiting, shape, List.length_cons]
      omega
    split at continues
    · cases continues
      exact shorter
    · cases continues
      rw [follow_eq]
      exact Nat.lt_of_le_of_lt (store.awaiting_foldl_enter ..) shorter

/-! ## Queries -/

/-- The order of the entities in a result. -/
def entitySortsBefore (left right : OntologyEntity) : Bool :=
  left.record.entityType.value < right.record.entityType.value ||
    (left.record.entityType = right.record.entityType && left.record.entityId ≤ right.record.entityId)

/-- `_traverse`. -/
def traverse (store : GraphStore) (start : NodeKey) (depth : Int) (direction : Direction) (tenant : Tenant) :
    List OntologyEntity :=
  if depth < 1 then []
  else
    let ended := Loop.complete (store.lineageRound tenant direction depth) (store.awaiting tenant)
      awaiting_lineageRound { queue := [(start, 0)], visited := [start], found := .empty }
    ended.found.values.insertionSort (entitySortsBefore · ·)

/-- `find_upstream`. -/
def findUpstream (store : GraphStore) (node : NodeKey) (depth : Int) (tenant : Tenant) : List OntologyEntity :=
  store.traverse node depth .incoming tenant

/-- `find_downstream`. -/
def findDownstream (store : GraphStore) (node : NodeKey) (depth : Int) (tenant : Tenant) : List OntologyEntity :=
  store.traverse node depth .outgoing tenant

/-- `find_neighbors`. -/
def findNeighbors (store : GraphStore) (node : NodeKey) (depth : Int) (tenant : Tenant) : List OntologyEntity :=
  store.traverse node depth .both tenant

end GraphStore

end AiGovernance.Ontology
