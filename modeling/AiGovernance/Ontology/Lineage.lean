import AiGovernance.Ontology.Noninterference
import AiGovernance.Repositories.OntologyLineage
import AiGovernance.Std.Search

/-!
# Lineage is bounded reachability

What `_traverse` returns from a node, up to a depth: the live entities other
than the node that walks of at most that many live edges lead to, through live
entities. Upstream and downstream are therefore dual, and a deeper search finds
no less.
-/

namespace AiGovernance.Ontology.GraphStore

open AiGovernance.Std AiGovernance.Std.Search Domain List

/-- An edge joins one node to another in a direction. -/
def Joins (direction : Direction) (relationship : OntologyRelationship) (left right : NodeKey) : Prop :=
  match direction with
  | .outgoing => relationship.record.source = left ∧ relationship.record.target = right
  | .incoming => relationship.record.target = left ∧ relationship.record.source = right
  | .both => (relationship.record.source = left ∧ relationship.record.target = right) ∨
      (relationship.record.target = left ∧ relationship.record.source = right)

/-- A live edge of a tenant joins one node to another. -/
def Adjacent (store : GraphStore) (tenant : Tenant) (direction : Direction) (left right : NodeKey) : Prop :=
  ∃ relationship ∈ store.relationships.values, relationship.record.tenant = tenant ∧
    relationship.record.isDeleted = false ∧ Joins direction relationship left right

/-- One step of a lineage: a live edge to a live entity. -/
def Leads (store : GraphStore) (tenant : Tenant) (direction : Direction) (left right : NodeKey) : Prop :=
  store.Adjacent tenant direction left right ∧ store.holds tenant right = true

variable {right left : NodeKey}

/-- An edge along which one goes is one against which one comes back. -/
theorem Joins.turn {relationship : OntologyRelationship} :
    Joins .outgoing relationship left right ↔ Joins .incoming relationship right left := and_comm

theorem mem_nextKeys {direction : Direction} {relationship : OntologyRelationship} :
    right ∈ nextKeys direction left relationship ↔ Joins direction relationship left right := by
  cases direction <;> simp [nextKeys, Joins, eq_comm]

theorem mem_edgeKeys {store : GraphStore} {tenant : Tenant} {direction : Direction} :
    right ∈ store.edgeKeys tenant direction left ↔ store.Adjacent tenant direction left right := by
  unfold edgeKeys Adjacent
  rw [mem_flatMap]
  apply exists_congr
  intro relationship
  apply and_congr_right
  intro _
  by_cases own : relationship.record.tenant = tenant
  · by_cases deleted : relationship.record.isDeleted = true
    · simp [own, deleted]
    · rw [if_neg (not_not.mpr own), if_neg deleted, mem_nextKeys]
      simp [own, deleted]
  · simp [own]

/-! ## The invariant of the traversal -/

/-- The records of a traversal beside its queue: what is visited, and what is found. -/
structure Recorded (store : GraphStore) (tenant : Tenant) (start : NodeKey) (label : NodeKey → Option Nat)
    (visited : List NodeKey) (found : Dict NodeKey OntologyEntity) : Prop where
  labelled : ∀ node, (label node).isSome = true ↔ node = start ∨ (found.get? node).isSome = true
  kept : ∀ {node entity}, found.get? node = some entity →
    node ≠ start ∧ store.entities.get? (tenant, node) = some entity ∧ entity.record.isDeleted = false
  met : ∀ {node}, (label node).isSome = true → node ∈ visited
  live : ∀ {node}, node ∈ visited → store.holds tenant node = true → (label node).isSome = true

/-- The invariant: some labels explain the state. -/
def Tracked (store : GraphStore) (tenant : Tenant) (direction : Direction) (depth : Int) (start : NodeKey)
    (queue : List (NodeKey × Nat)) (visited : List NodeKey) (found : Dict NodeKey OntologyEntity) : Prop :=
  ∃ label, Explored (store.Leads tenant direction) depth start label queue ∧
    Recorded store tenant start label visited found

section Rounds

variable {store : GraphStore} {tenant : Tenant} {direction : Direction} {depth : Int} {start : NodeKey}

theorem tracked_init : Tracked store tenant direction depth start [(start, 0)] [start] .empty := by
  refine ⟨_, Explored.init, ?_⟩
  constructor
  · intro node
    by_cases same : node = start <;> simp [same]
  · intro node entity found
    cases found
  · intro node labelled
    by_cases same : node = start
    · exact mem_singleton.mpr same
    · simp [same] at labelled
  · intro node visited _
    simp [mem_singleton.mp visited]

variable {key : NodeKey}

theorem Tracked.mark {queue : List (NodeKey × Nat)} {visited : List NodeKey} {found : Dict NodeKey OntologyEntity}
    (tracked : Tracked store tenant direction depth start queue visited found) (gone : store.holds tenant key = false) :
    Tracked store tenant direction depth start queue (key :: visited) found := by
  obtain ⟨label, explored, recorded⟩ := tracked
  refine ⟨label, explored, recorded.labelled, recorded.kept, fun labelled => ?_, fun {node} member live => ?_⟩
  · exact mem_cons_of_mem _ (recorded.met labelled)
  · rcases mem_cons.mp member with rfl | member
    · rw [gone] at live
      cases live
    · exact recorded.live member live

variable {front : NodeKey} {reached : Nat}

/-- A live node that is not visited is found, one further than the front. -/
theorem Tracked.find {rest : List (NodeKey × Nat)} {visited : List NodeKey} {found : Dict NodeKey OntologyEntity}
    {entity : OntologyEntity}
    (tracked : Tracked store tenant direction depth start ((front, reached) :: rest) visited found)
    (onto : store.Adjacent tenant direction front key) (within : (reached : Int) < depth) (fresh : key ∉ visited)
    (stored : store.entities.get? (tenant, key) = some entity) (live : entity.record.isDeleted = false) :
    Tracked store tenant direction depth start ((front, reached) :: (rest ++ [(key, reached + 1)])) (key :: visited)
      (found.set key entity) := by
  obtain ⟨label, explored, recorded⟩ := tracked
  have holds : store.holds tenant key = true := by simp [GraphStore.holds, stored, live]
  have unlabelled : label key = none := by
    rw [← Option.not_isSome_iff_eq_none]
    exact fun labelled => fresh (recorded.met labelled)
  have apart : key ≠ start := by
    rintro rfl
    exact fresh (recorded.met ((recorded.labelled key).mpr (Or.inl rfl)))
  refine ⟨fun node => if node = key then some (reached + 1) else label node,
    explored.discover ⟨onto, holds⟩ within unlabelled (if_pos rfl) fun _ other => if_neg other, ?_⟩
  constructor
  · intro node
    rw [Dict.get?_set]
    by_cases same : node = key
    · simp [same]
    · simp only [same, if_false]
      exact recorded.labelled node
  · intro node other present
    rw [Dict.get?_set] at present
    split at present
    · rename_i same
      cases present
      subst same
      exact ⟨apart, stored, live⟩
    · exact recorded.kept present
  · intro node labelled
    by_cases same : node = key
    · exact same ▸ mem_cons_self
    · simp only [same, if_false] at labelled
      exact mem_cons_of_mem _ (recorded.met labelled)
  · intro node member live
    by_cases same : node = key
    · simp [same]
    · simp only [same, if_false]
      exact recorded.live ((mem_cons.mp member).resolve_left same) live

variable {state : Lineage}

theorem tracked_enter
    (tracked : Tracked store tenant direction depth start ((front, reached) :: state.queue) state.visited state.found)
    (onto : store.Adjacent tenant direction front key) (within : (reached : Int) < depth) :
    let next := store.enter tenant reached state key
    Tracked store tenant direction depth start ((front, reached) :: next.queue) next.visited next.found ∧
      key ∈ next.visited ∧ ∀ node ∈ state.visited, node ∈ next.visited := by
  intro next
  unfold next enter
  split
  · rename_i seen
    exact ⟨tracked, seen, fun _ member => member⟩
  · rename_i fresh
    have more : ∀ node ∈ state.visited, node ∈ key :: state.visited := fun _ member => mem_cons_of_mem _ member
    cases stored : store.entities.get? (tenant, key) with
    | none => exact ⟨tracked.mark (by simp [GraphStore.holds, stored]), mem_cons_self, more⟩
    | some entity =>
      dsimp only
      split
      · rename_i deleted
        exact ⟨tracked.mark (by simp [GraphStore.holds, stored, deleted]), mem_cons_self, more⟩
      · rename_i live
        exact ⟨tracked.find onto within fresh stored (Bool.not_eq_true _ ▸ live), mem_cons_self, more⟩

/-- The keys of a node keep the invariant and are visited then. -/
theorem tracked_foldl_enter (within : (reached : Int) < depth) (keys : List NodeKey)
    (onto : ∀ key ∈ keys, store.Adjacent tenant direction front key)
    (tracked : Tracked store tenant direction depth start ((front, reached) :: state.queue) state.visited state.found) :
    let next := keys.foldl (store.enter tenant reached) state
    Tracked store tenant direction depth start ((front, reached) :: next.queue) next.visited next.found ∧
      (∀ key ∈ keys, key ∈ next.visited) ∧ ∀ node ∈ state.visited, node ∈ next.visited := by
  induction keys generalizing state with
  | nil => exact ⟨tracked, fun _ member => absurd member not_mem_nil, fun _ member => member⟩
  | cons key rest ih =>
    obtain ⟨stepped, seen, more⟩ := tracked_enter tracked (onto key mem_cons_self) within
    obtain ⟨ended, all, further⟩ :=
      ih (fun other member => onto other (mem_cons_of_mem _ member)) stepped
    refine ⟨ended, fun other member => ?_, fun node member => further node (more node member)⟩
    rcases mem_cons.mp member with rfl | member
    · exact further other seen
    · exact all other member

theorem tracked_lineageRound {next : Lineage}
    (tracked : Tracked store tenant direction depth start state.queue state.visited state.found)
    (continues : store.lineageRound tenant direction depth state = .inl next) :
    Tracked store tenant direction depth start next.queue next.visited next.found := by
  unfold lineageRound at continues
  split at continues
  · cases continues
  · rename_i front reached rest shape
    rw [shape] at tracked
    split at continues
    · rename_i deep
      cases continues
      obtain ⟨label, explored, recorded⟩ := tracked
      exact ⟨label, explored.drop fun within => absurd within (by omega), recorded⟩
    · rename_i shallow
      cases continues
      have within : (reached : Int) < depth := by omega
      rw [follow_eq]
      have started : Tracked store tenant direction depth start
          ((front, reached) :: { state with queue := rest }.queue) { state with queue := rest }.visited
          { state with queue := rest }.found := tracked
      obtain ⟨⟨label, explored, recorded⟩, all, -⟩ :=
        tracked_foldl_enter within _ (fun key member => mem_edgeKeys.mp member) started
      refine ⟨label, explored.drop fun _ node leads => ?_, recorded⟩
      exact recorded.live (all node (mem_edgeKeys.mpr leads.1)) leads.2

/-- Where the traversal ends, the labels are the distances up to the depth. -/
theorem tracked_complete (store : GraphStore) (tenant : Tenant) (direction : Direction) (depth : Int) (start : NodeKey) :
    let ended := Loop.complete (store.lineageRound tenant direction depth) (store.awaiting tenant)
      awaiting_lineageRound { queue := [(start, 0)], visited := [start], found := .empty }
    Tracked store tenant direction depth start [] ended.visited ended.found := by
  refine Loop.complete_invariant awaiting_lineageRound
    (fun state => Tracked store tenant direction depth start state.queue state.visited state.found)
    (fun state => Tracked store tenant direction depth start [] state.visited state.found)
    (fun tracked continues => tracked_lineageRound tracked continues) (fun {state result} tracked ends => ?_) tracked_init
  unfold lineageRound at ends
  split at ends
  · rename_i empty
    cases ends
    rw [← empty]
    exact tracked
  · split at ends <;> cases ends

end Rounds

/-! ## Results -/

/-- A live entity of the tenant, other than the start, at a distance of at least one and at
most the depth. -/
def WithinReach (store : GraphStore) (tenant : Tenant) (direction : Direction) (depth : Int) (start : NodeKey)
    (entity : OntologyEntity) : Prop :=
  store.entities.get? (tenant, entity.record.node) = some entity ∧ entity.record.isDeleted = false ∧
    entity.record.node ≠ start ∧
    ∃ length : Nat, 1 ≤ length ∧ (length : Int) ≤ depth ∧
      Distance (store.Leads tenant direction) start entity.record.node length

/-- An entity of that key is in a listing. -/
def Lists (entities : List OntologyEntity) (node : NodeKey) : Prop := ∃ entity ∈ entities, entity.record.node = node

section Results

variable {store : GraphStore} {tenant : Tenant} {direction : Direction} {depth : Int} {start : NodeKey}

theorem mem_traverse {entity : OntologyEntity} :
    entity ∈ store.traverse start depth direction tenant ↔ store.WithinReach tenant direction depth start entity := by
  unfold traverse
  split
  · rename_i shallow
    refine ⟨fun member => absurd member not_mem_nil, ?_⟩
    rintro ⟨-, -, -, length, far, near, -⟩
    omega
  · rename_i deep
    obtain ⟨label, explored, recorded⟩ := tracked_complete store tenant direction depth start
    rw [mem_insertionSort, Dict.mem_values_iff]
    constructor
    · rintro ⟨node, found⟩
      obtain ⟨apart, stored, live⟩ := recorded.kept found
      have named : entity.record.node = node := congrArg Prod.snd (store.entityKeyed stored)
      have labelled : (label node).isSome = true := (recorded.labelled node).mpr (Or.inr (by rw [found]; rfl))
      obtain ⟨length, reached⟩ := Option.isSome_iff_exists.mp labelled
      obtain ⟨distance, within⟩ := explored.complete.mp reached
      subst named
      have positive : length ≠ 0 := by
        rintro rfl
        exact apart distance.1.eq_of_zero.symm
      exact ⟨stored, live, apart, length, by omega, by omega, distance⟩
    · rintro ⟨stored, live, apart, length, -, within, distance⟩
      have labelled : label entity.record.node = some length := explored.complete.mpr ⟨distance, Or.inr within⟩
      have present := (recorded.labelled entity.record.node).mp (by rw [labelled]; rfl)
      obtain ⟨other, found⟩ := Option.isSome_iff_exists.mp (present.resolve_left apart)
      obtain ⟨-, same, -⟩ := recorded.kept found
      rw [stored] at same
      cases same
      exact ⟨_, found⟩

theorem nodup_traverse : (store.traverse start depth direction tenant).Nodup := by
  unfold traverse
  split
  · exact nodup_nil
  · obtain ⟨label, explored, recorded⟩ := tracked_complete store tenant direction depth start
    refine (perm_insertionSort _ _).nodup_iff.mpr ?_
    refine Dict.nodup_values_of_keyed (·.record.node) fun {node entity} found => ?_
    exact congrArg Prod.snd (store.entityKeyed (recorded.kept found).2.1)

theorem lists_traverse {node : NodeKey} : Lists (store.traverse start depth direction tenant) node ↔
    store.holds tenant node = true ∧ node ≠ start ∧
      ∃ length : Nat, 1 ≤ length ∧ (length : Int) ≤ depth ∧ Walk (store.Leads tenant direction) length start node := by
  unfold Lists
  constructor
  · rintro ⟨entity, member, rfl⟩
    obtain ⟨stored, live, apart, length, far, near, distance⟩ := mem_traverse.mp member
    exact ⟨by simp [GraphStore.holds, stored, live], apart, length, far, near, distance.1⟩
  · rintro ⟨live, apart, length, -, near, walk⟩
    unfold GraphStore.holds at live
    rw [Option.any_eq_true] at live
    obtain ⟨entity, stored, present⟩ := live
    have named : entity.record.node = node := congrArg Prod.snd (store.entityKeyed stored)
    obtain ⟨least, small, distance⟩ := exists_distance walk
    have positive : least ≠ 0 := by
      rintro rfl
      exact apart distance.1.eq_of_zero.symm
    subst named
    exact ⟨entity, mem_traverse.mpr ⟨stored, by simpa using present, apart, least, by omega, by omega, distance⟩, rfl⟩

theorem traverse_mono {more : Int} (deeper : depth ≤ more) :
    store.traverse start depth direction tenant ⊆ store.traverse start more direction tenant := by
  intro entity member
  obtain ⟨stored, live, apart, length, far, near, distance⟩ := mem_traverse.mp member
  exact mem_traverse.mpr ⟨stored, live, apart, length, far, near.trans deeper, distance⟩

/-- From a live node a walk with the edges comes back against them. -/
theorem walk_against {length : Nat} {first last : NodeKey} {away back : Direction}
    (turned : ∀ {relationship left right}, Joins away relationship left right → Joins back relationship right left)
    (live : store.holds tenant first = true) (walk : Walk (store.Leads tenant away) length first last) :
    Walk (store.Leads tenant back) length last first := by
  refine (Walk.reverse (fun node => store.holds tenant node = true) (fun {left right} stands leads => ?_)
    live walk).1
  obtain ⟨⟨relationship, member, own, present, joins⟩, holds⟩ := leads
  exact ⟨⟨⟨relationship, member, own, present, turned joins⟩, stands⟩, holds⟩

theorem downstream_iff_upstream {first last : NodeKey} (liveFirst : store.holds tenant first = true)
    (liveLast : store.holds tenant last = true) :
    Lists (store.findDownstream first depth tenant) last ↔ Lists (store.findUpstream last depth tenant) first := by
  unfold findDownstream findUpstream
  rw [lists_traverse, lists_traverse]
  constructor
  · rintro ⟨-, apart, length, far, near, walk⟩
    exact ⟨liveFirst, apart.symm, length, far, near, walk_against Joins.turn.mp liveFirst walk⟩
  · rintro ⟨-, apart, length, far, near, walk⟩
    exact ⟨liveLast, apart.symm, length, far, near, walk_against Joins.turn.mpr liveLast walk⟩

end Results

/-- Downstream, upstream and neighbours are bounded reachability along, against and in both
directions of the live edges; the first two are dual, and all grow with the depth. -/
theorem lineage_bounded_reachability (store : GraphStore) (tenant : Tenant) :
    (∀ start depth entity,
      (entity ∈ store.findDownstream start depth tenant ↔ store.WithinReach tenant .outgoing depth start entity) ∧
      (entity ∈ store.findUpstream start depth tenant ↔ store.WithinReach tenant .incoming depth start entity) ∧
      (entity ∈ store.findNeighbors start depth tenant ↔ store.WithinReach tenant .both depth start entity)) ∧
    (∀ start depth, (store.findDownstream start depth tenant).Nodup ∧ (store.findUpstream start depth tenant).Nodup ∧
      (store.findNeighbors start depth tenant).Nodup) ∧
    (∀ first last depth, store.holds tenant first = true → store.holds tenant last = true →
      (Lists (store.findDownstream first depth tenant) last ↔ Lists (store.findUpstream last depth tenant) first)) ∧
    ∀ start depth more, depth ≤ more →
      store.findDownstream start depth tenant ⊆ store.findDownstream start more tenant ∧
      store.findUpstream start depth tenant ⊆ store.findUpstream start more tenant ∧
      store.findNeighbors start depth tenant ⊆ store.findNeighbors start more tenant := by
  refine ⟨fun start depth entity => ⟨mem_traverse, mem_traverse, mem_traverse⟩,
    fun start depth => ⟨nodup_traverse, nodup_traverse, nodup_traverse⟩,
    fun first last depth liveFirst liveLast => downstream_iff_upstream liveFirst liveLast, ?_⟩
  intro start depth more deeper
  exact ⟨traverse_mono deeper, traverse_mono deeper, traverse_mono deeper⟩

/-- A prompt and its version, one downstream of the other. -/
theorem lineage_bounded_reachability_prompt :
    Lists (besideOther.findDownstream (.prompt, "prompt-1") 1 otherTenant) (.promptVersion, "version-1") ↔
      Lists (besideOther.findUpstream (.promptVersion, "version-1") 1 otherTenant) (.prompt, "prompt-1") :=
  (lineage_bounded_reachability besideOther otherTenant).2.2.1 (.prompt, "prompt-1") (.promptVersion, "version-1") 1
    (by decide +kernel) (by decide +kernel)

end AiGovernance.Ontology.GraphStore
