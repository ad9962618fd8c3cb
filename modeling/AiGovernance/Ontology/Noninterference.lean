import AiGovernance.Repositories.OntologyGraphQuery

/-!
# Queries beside other tenants

A traversal scans the edges of all tenants. Where no edge of another tenant that
is visible there starts at an entity of the default tenant or ends at a live
one, every query answers as on the default tenant's part of the graph. Where one
joins two entities of the default tenant, some query does not.
-/

namespace AiGovernance.Ontology

open AiGovernance.Std Domain List

variable {relationships : List OntologyRelationship} {edge : OntologyRelationship} {store : GraphStore}

namespace GraphStore

/-- The entities and relationships of the default tenant. -/
def ownPart (store : GraphStore) : GraphStore where
  entities := store.entities.restrict (·.record.tenant = {})
  relationships := store.relationships.restrict (·.record.tenant = {})
  entityKeyed := by
    intro key entity found
    rw [Dict.get?_restrict] at found
    exact store.entityKeyed (Option.eq_some_of_filter_eq_some found)
  relationshipKeyed := by
    intro key relationship found
    rw [Dict.get?_restrict] at found
    exact store.relationshipKeyed (Option.eq_some_of_filter_eq_some found)

@[simp] theorem ownEntity?_ownPart (node : NodeKey) : store.ownPart.ownEntity? node = store.ownEntity? node := by
  unfold ownEntity? ownPart
  rw [Dict.get?_restrict]
  cases found : store.entities.get? ({}, node) with
  | none => rfl
  | some entity =>
    have own : entity.record.tenant = {} := (Prod.mk.inj (store.entityKeyed found)).1
    simp [Option.filter, own]

@[simp] theorem ownRelationship?_ownPart (relationshipId : String) :
    store.ownPart.ownRelationship? relationshipId = store.ownRelationship? relationshipId := by
  unfold ownRelationship? ownPart
  rw [Dict.get?_restrict]
  cases found : store.relationships.get? ({}, relationshipId) with
  | none => rfl
  | some relationship =>
    have own : relationship.record.tenant = {} := (Prod.mk.inj (store.relationshipKeyed found)).1
    simp [Option.filter, own]

theorem holds_eq_any (node : NodeKey) : store.holds {} node = (store.ownEntity? node).any (!·.record.isDeleted) := rfl

@[simp] theorem holds_ownPart (node : NodeKey) : store.ownPart.holds {} node = store.holds {} node := by
  rw [holds_eq_any, holds_eq_any, ownEntity?_ownPart]

@[simp] theorem endpointsLive_ownPart (relationship : OntologyRelationship) :
    store.ownPart.endpointsLive {} relationship = store.endpointsLive {} relationship := by
  simp [endpointsLive]

/-! ## Lookups and listings -/

theorem queryEntity_ownPart (entityType entityId : String) :
    store.ownPart.queryEntity entityType entityId = store.queryEntity entityType entityId := by
  unfold queryEntity
  cases nodeKey? entityType entityId with
  | none => rfl
  | some node => simp

theorem searchEntities_ownPart (text : TextFunctions) (query : String) (entityTypes : Option (List String))
    (limit : Int) (cursor : Option String) :
    store.ownPart.searchEntities text query entityTypes limit cursor =
      store.searchEntities text query entityTypes limit cursor := by
  have same : ∀ keep : OntologyEntity → Bool,
      (store.ownPart.entities.values.filter fun entity => entity.record.tenant = {} && keep entity) =
        store.entities.values.filter fun entity => entity.record.tenant = {} && keep entity := by
    intro keep
    simp only [ownPart, Dict.values_restrict, filter_filter]
    congr 1
    funext entity
    cases decide (entity.record.tenant = {}) <;> simp
  unfold searchEntities
  simp only [Bool.and_assoc, same]

theorem findRelationships_ownPart (node : NodeKey) (direction : Direction)
    (relationshipType : Option RelationshipType) :
    store.ownPart.findRelationships node direction relationshipType {} =
      store.findRelationships node direction relationshipType {} := by
  unfold findRelationships
  congr 1
  simp only [endpointsLive_ownPart, Bool.and_assoc]
  simp only [ownPart, Dict.values_restrict, filter_filter]
  congr 1
  funext relationship
  cases decide (relationship.record.tenant = {}) <;> simp

/-! ## Edges of other tenants -/

/-- No edge of another tenant that is visible there starts at an entity the default tenant stores, or
ends at one that is live in it. -/
def Isolated (store : GraphStore) : Prop :=
  ∀ edge ∈ store.relationships.values, edge.record.tenant ≠ {} → store.visible edge = true →
    store.ownEntity? edge.record.source = none ∧ store.holds {} edge.record.target = false

/-- Where a traversal stands: on an entity the default tenant stores, and on a live one when it looks
at incoming edges. -/
def StandsOn (store : GraphStore) (direction : Direction) (node : NodeKey) : Prop :=
  (store.ownEntity? node).isSome ∧ (direction ≠ .outgoing → store.holds {} node = true)

variable {store : GraphStore}

theorem isSome_of_holds {node : NodeKey} (held : store.holds {} node = true) : (store.ownEntity? node).isSome := by
  rw [holds_eq_any, Option.any_eq_true] at held
  obtain ⟨entity, found, -⟩ := held
  simp [found]

variable {current : NodeKey} {direction : Direction}

/-- No edge of another tenant meets a node of a traversal. -/
theorem meets_own (isolated : store.Isolated) (stands : store.StandsOn direction current)
    (stored : edge ∈ store.relationships.values) (seen : store.visible edge = true)
    (meets : direction.meets current edge = true) : edge.record.tenant = {} := by
  by_contra foreign
  obtain ⟨noSource, noTarget⟩ := isolated edge stored foreign seen
  obtain ⟨present, live⟩ := stands
  have notSource : edge.record.source ≠ current := by
    rintro rfl
    simp [noSource] at present
  have notTarget : direction ≠ .outgoing → edge.record.target ≠ current := by
    rintro looking rfl
    simp [live looking] at noTarget
  cases direction with
  | outgoing => exact notSource (of_decide_eq_true meets)
  | incoming => exact notTarget (by decide) (of_decide_eq_true meets)
  | both =>
    simp only [Direction.meets, Bool.or_eq_true, decide_eq_true_eq] at meets
    rcases meets with source | target
    · exact notSource source
    · exact notTarget (by decide) target

theorem visible_ownPart (own : edge.record.tenant = {}) : store.ownPart.visible edge = store.visible edge := by
  simp [visible, own]

theorem matchingRelationships_ownPart (isolated : store.Isolated) (stands : store.StandsOn direction current)
    (relationshipFilter : List RelationshipType) :
    store.ownPart.matchingRelationships current direction relationshipFilter =
      store.matchingRelationships current direction relationshipFilter := by
  unfold matchingRelationships
  congr 1
  simp only [ownPart, Dict.values_restrict, filter_filter]
  refine filter_congr fun edge stored => ?_
  by_cases own : edge.record.tenant = {}
  · have same : store.ownPart.visible edge = store.visible edge := visible_ownPart own
    unfold ownPart at same
    rw [same]
    simp [own]
  · have unseen : (store.visible edge && passes relationshipFilter edge.record.relationshipType &&
        direction.meets current edge) = false := by
      by_contra seen
      simp only [Bool.not_eq_false, Bool.and_eq_true] at seen
      exact own (meets_own isolated stands stored seen.1.1 seen.2)
    rw [unseen]
    simp [own]

/-! ## Traversals -/

theorem visit_ownPart (entityFilter : List EntityType) (limit : Int) (depth : Nat) (state : Traversal) :
    visit store.ownPart entityFilter limit current depth relationships state =
      visit store entityFilter limit current depth relationships state := by
  induction relationships generalizing state with
  | nil => rfl
  | cons relationship rest ih =>
    unfold visit
    simp only [ownEntity?_ownPart, ih]

/-- Every entity in the queue is live in the default tenant. -/
def QueueLive (store : GraphStore) (state : Traversal) : Prop :=
  ∀ entry ∈ state.queue, store.holds {} entry.1 = true

variable {limit : Int} {state : Traversal} {entityFilter : List EntityType}

theorem QueueLive.visit {depth : Nat} (live : store.QueueLive state) :
    store.QueueLive (visit store entityFilter limit current depth relationships state) := by
  induction relationships generalizing state with
  | nil => exact live
  | cons relationship rest ih =>
    unfold GraphStore.visit
    dsimp only
    split
    · exact ih live
    · rename_i entity found
      split
      · exact ih live
      · rename_i kept
        split
        · exact ih live
        · split
          · exact live
          · refine ih fun entry member => ?_
            rcases mem_append.mp member with old | new
            · exact live entry old
            · obtain rfl := mem_singleton.mp new
              have present : entity.record.isDeleted = false := by
                cases deleted : entity.record.isDeleted with
                | false => rfl
                | true => simp [deleted] at kept
              simp [holds_eq_any, found, present]

variable {relationshipFilter : List RelationshipType}

theorem subgraphRound_ownPart (isolated : store.Isolated) {depth : Int} (live : store.QueueLive state) :
    store.subgraphRound direction relationshipFilter entityFilter depth limit state =
      store.ownPart.subgraphRound direction relationshipFilter entityFilter depth limit state := by
  unfold subgraphRound
  split
  · rfl
  · rename_i current currentDepth rest shape
    have held : store.holds {} current = true := live (current, currentDepth) (by simp [shape])
    rw [matchingRelationships_ownPart isolated ⟨isSome_of_holds held, fun _ => held⟩, visit_ownPart]

theorem QueueLive.round {depth : Int} {next : Traversal} (live : store.QueueLive state)
    (continues : store.subgraphRound direction relationshipFilter entityFilter depth limit state = .inl next) :
    store.QueueLive next := by
  unfold subgraphRound at continues
  split at continues
  · cases continues
  · rename_i current currentDepth rest shape
    have popped : store.QueueLive { state with queue := rest } := fun entry member =>
      live entry (by rw [shape]; exact mem_cons_of_mem _ member)
    split at continues
    · cases continues
    · split at continues
      · cases continues
        exact popped
      · cases continues
        exact popped.visit

theorem subgraph_ownPart (isolated : store.Isolated) (text : TextFunctions) (entityType entityId : String)
    (depth : Int) (relationshipTypes entityTypes : Option (List String)) :
    store.ownPart.subgraph text entityType entityId depth direction relationshipTypes entityTypes limit =
      store.subgraph text entityType entityId depth direction relationshipTypes entityTypes limit := by
  unfold subgraph
  simp only [ownEntity?_ownPart]
  split
  · rfl
  · rename_i start startEntity found
    split
    · rfl
    · rename_i kept
      have live : ∀ state : Traversal, state.queue = [(start, 0)] → store.QueueLive state := by
        intro state queued entry member
        rw [queued] at member
        obtain rfl := mem_singleton.mp member
        obtain ⟨node, -, looked⟩ := Option.bind_eq_some_iff.mp found
        obtain ⟨entity, stored, same⟩ := Option.map_eq_some_iff.mp looked
        cases same
        simp only [holds_eq_any, stored, Option.any_some]
        simpa using kept
      congr 1
      funext relationshipFilter
      congr 1
      funext entityFilter
      rw [Loop.complete_congr (fun holds => subgraphRound_ownPart isolated holds) (fun holds => holds.round)
        pending_subgraphRound pending_subgraphRound (live _ rfl)]

/-! ## Paths -/

theorem extendPath_ownPart (text : TextFunctions) (source target : NodeKey) (relationshipPath : List String)
    (state : PathSearch) :
    store.ownPart.extendPath text source target limit relationshipPath relationships state =
      store.extendPath text source target limit relationshipPath relationships state := by
  have sameRelationship : store.ownPart.relationshipAt text = store.relationshipAt text := by
    funext relationshipId
    simp only [relationshipAt, ownRelationship?_ownPart]
  have sameEntity : store.ownPart.entityAt text = store.entityAt text := by
    funext node
    simp only [entityAt, ownEntity?_ownPart]
  induction relationships generalizing state with
  | nil => rfl
  | cons relationship rest ih =>
    unfold extendPath
    simp only [pathRevisitsNode, pathFromRelationshipIds, sameRelationship, sameEntity, ih]

/-- Every path in the queue ends at an entity the default tenant stores. -/
def QueueStored (store : GraphStore) (state : PathSearch) : Prop :=
  ∀ entry ∈ state.queue, (store.ownEntity? entry.1).isSome

variable {target source : NodeKey} {text : TextFunctions} {state next : PathSearch}

theorem QueueStored.extend {relationshipPath : List String} (stored : store.QueueStored state)
    (ends : ∀ relationship ∈ relationships, (store.ownEntity? relationship.record.target).isSome)
    (extended : extendPath text store source target limit relationshipPath relationships state = .ok next) :
    store.QueueStored next := by
  induction relationships generalizing state with
  | nil =>
    cases extended
    exact stored
  | cons relationship rest ih =>
    have later := fun item member => ends item (mem_cons_of_mem _ member)
    unfold extendPath at extended
    obtain ⟨revisits, -, extended⟩ := bind_ok extended
    split at extended
    · exact ih stored later extended
    · split at extended
      · obtain ⟨path, -, extended⟩ := bind_ok extended
        dsimp only at extended
        split at extended
        · cases extended
          exact stored
        · have kept : store.QueueStored { state with paths := state.paths ++ [path] } := stored
          exact ih kept later extended
      · refine ih (fun entry member => ?_) later extended
        rcases mem_append.mp member with old | new
        · exact stored entry old
        · obtain rfl := mem_singleton.mp new
          exact ends relationship (mem_cons_self ..)

theorem target_stored (isolated : store.Isolated) (stands : store.StandsOn .outgoing current)
    {relationship : OntologyRelationship}
    (member : relationship ∈ store.matchingRelationships current .outgoing relationshipFilter) :
    (store.ownEntity? relationship.record.target).isSome := by
  unfold matchingRelationships at member
  rw [mem_insertionSort, mem_filter] at member
  obtain ⟨stored, seen⟩ := member
  simp only [Bool.and_eq_true] at seen
  have own := meets_own isolated stands stored seen.1.1 seen.2
  have live := seen.1.1
  simp only [visible, own, endpointsLive, Bool.and_eq_true] at live
  exact isSome_of_holds live.2.2

theorem pathRound_ownPart (isolated : store.Isolated) {maxDepth : Int} (stored : store.QueueStored state) :
    store.pathRound text source target maxDepth relationshipFilter limit state =
      store.ownPart.pathRound text source target maxDepth relationshipFilter limit state := by
  unfold pathRound
  split
  · rfl
  · rename_i current relationshipPath rest shape
    have present : (store.ownEntity? current).isSome := stored (current, relationshipPath) (by simp [shape])
    rw [matchingRelationships_ownPart isolated ⟨present, fun looking => absurd rfl looking⟩, extendPath_ownPart]

theorem QueueStored.round (isolated : store.Isolated) {maxDepth : Int} (stored : store.QueueStored state)
    (continues : store.pathRound text source target maxDepth relationshipFilter limit state = .inl next) :
    store.QueueStored next := by
  unfold pathRound at continues
  split at continues
  · cases continues
  · rename_i current relationshipPath rest shape
    have present : (store.ownEntity? current).isSome := stored (current, relationshipPath) (by simp [shape])
    have popped : store.QueueStored { state with queue := rest } := fun entry member =>
      stored entry (by rw [shape]; exact mem_cons_of_mem _ member)
    split at continues
    · cases continues
    · split at continues
      · cases continues
        exact popped
      · split at continues
        · rename_i extended
          cases continues
          exact popped.extend
            (fun _ member => target_stored isolated ⟨present, fun looking => absurd rfl looking⟩ member) extended
        · cases continues

theorem findPaths_ownPart (isolated : store.Isolated) (sourceType sourceId targetType targetId : String)
    (maxDepth : Int) (relationshipTypes : Option (List String)) :
    store.ownPart.findPaths text sourceType sourceId targetType targetId maxDepth relationshipTypes limit =
      store.findPaths text sourceType sourceId targetType targetId maxDepth relationshipTypes limit := by
  unfold findPaths
  congr 1
  funext relationshipFilter
  split
  · rename_i source target sourceKey targetKey
    simp only [ownEntity?_ownPart]
    split
    · rfl
    · rename_i found
      have stored : store.QueueStored { queue := [(source, [])], paths := [] } := by
        intro entry member
        obtain rfl := mem_singleton.mp member
        simp only [Bool.or_eq_true, Option.isNone_iff_eq_none, not_or] at found
        exact Option.isSome_iff_ne_none.mpr found.1
      exact (Loop.complete_congr (fun holds => pathRound_ownPart isolated holds)
        (fun holds => holds.round isolated) openPaths_pathRound openPaths_pathRound stored).symm
  · rfl

end GraphStore

open GraphStore

/-- No query sees another tenant's part of an isolated graph. -/
theorem answer_ownPart (isolated : store.Isolated) (text : TextFunctions) (query : GraphQuery) :
    query.answer text store.ownPart = query.answer text store := by
  cases query with
  | getEntity entityType entityId => simp only [GraphQuery.answer, queryEntity_ownPart]
  | searchEntities query entityTypes limit cursor => simp only [GraphQuery.answer, searchEntities_ownPart]
  | findRelationships entityType entityId direction relationshipType limit cursor =>
    simp only [GraphQuery.answer, queryRelationships, findRelationships_ownPart]
  | getNeighbourhood entityType entityId depth relationshipTypes entityTypes limit =>
    simp only [GraphQuery.answer, subgraph_ownPart isolated]
  | getUpstream entityType entityId depth relationshipTypes limit =>
    simp only [GraphQuery.answer, subgraph_ownPart isolated]
  | getDownstream entityType entityId depth relationshipTypes limit =>
    simp only [GraphQuery.answer, subgraph_ownPart isolated]
  | findPaths sourceType sourceId targetType targetId maxDepth relationshipTypes limit =>
    simp only [GraphQuery.answer, findPaths_ownPart isolated]

/-! ## An edge of another tenant between entities of the default one -/

namespace GraphStore

/-- An edge that is a path to the target by itself. -/
def direct (source target : NodeKey) (relationship : OntologyRelationship) : Bool :=
  relationship.record.target = target && relationship.record.target ≠ source

section OneEdge

variable {text : TextFunctions} {store : GraphStore} {source target : NodeKey} {limit : Int}

theorem pathRevisitsNode_nil (nextKey : NodeKey) :
    store.pathRevisitsNode text source [] nextKey = .ok (decide (nextKey = source)) := by
  change Except.ok ([source].contains nextKey) = _
  by_cases same : nextKey = source <;> simp [same]

theorem extendPath_nil_cons (relationship : OntologyRelationship) (rest : List OntologyRelationship)
    (state : PathSearch) :
    store.extendPath text source target limit [] (relationship :: rest) state =
      if relationship.record.target = source then store.extendPath text source target limit [] rest state
      else if relationship.record.target = target then do
        let path ← store.pathFromRelationshipIds text source [relationship.record.relationshipId]
        if limit ≤ (state.paths.length + 1 : Nat) then return { state with paths := state.paths ++ [path] }
        else store.extendPath text source target limit [] rest { state with paths := state.paths ++ [path] }
      else
        store.extendPath text source target limit [] rest
          { state with
            queue := state.queue ++ [(relationship.record.target, [relationship.record.relationshipId])] } := by
  rw [extendPath]
  dsimp only
  rw [pathRevisitsNode_nil]
  change (if decide (relationship.record.target = source) = true then _ else _) = _
  simp only [decide_eq_true_eq, nil_append, length_append, length_singleton]

variable {state next : PathSearch}

/-- From the source, a search that does not fail finds one path for every direct edge. -/
theorem extendPath_nil_ok (room : (state.paths.length + relationships.length : Int) < limit)
    (extended : store.extendPath text source target limit [] relationships state = .ok next) :
    next.paths.length = state.paths.length + relationships.countP (direct source target) ∧
      ∀ entry ∈ next.queue, entry ∈ state.queue ∨ entry.2.length = 1 := by
  induction relationships generalizing state with
  | nil =>
    cases extended
    exact ⟨rfl, fun entry member => Or.inl member⟩
  | cons relationship rest ih =>
    rw [extendPath_nil_cons] at extended
    simp only [length_cons, Nat.cast_add, Nat.cast_one] at room
    rw [countP_cons]
    split at extended
    · rename_i revisits
      have loop : direct source target relationship = false := by simp [direct, revisits]
      rw [loop]
      exact ih (by omega) extended
    · rename_i away
      split at extended
      · rename_i reached
        have isDirect : direct source target relationship = true := by
          simp only [direct, Bool.and_eq_true, decide_eq_true_eq]
          exact ⟨reached, away⟩
        obtain ⟨path, -, extended⟩ := bind_ok extended
        split at extended
        · omega
        · have rest := ih (by simp only [length_append, length_singleton]; omega) extended
          simp only [length_append, length_singleton] at rest
          rw [isDirect, if_pos rfl]
          exact ⟨by omega, rest.2⟩
      · rename_i elsewhere
        have notDirect : direct source target relationship = false := by simp [direct, elsewhere]
        rw [notDirect]
        have rest := ih (by dsimp only; omega) extended
        refine ⟨rest.1, fun entry member => ?_⟩
        rcases rest.2 entry member with old | short
        · rcases mem_append.mp old with before | new
          · exact Or.inl before
          · obtain rfl := mem_singleton.mp new
            exact Or.inr rfl
        · exact Or.inr short

/-- It does not fail where every edge is found again under its identifier and ends at a stored entity. -/
theorem extendPath_nil_succeeds (sourceStored : (store.ownEntity? source).isSome)
    (found : ∀ relationship ∈ relationships,
      store.ownRelationship? relationship.record.relationshipId = some relationship ∧
        (store.ownEntity? relationship.record.target).isSome) :
    ∃ next, store.extendPath text source target limit [] relationships state = .ok next := by
  induction relationships generalizing state with
  | nil => exact ⟨state, rfl⟩
  | cons relationship rest ih =>
    have later : ∀ state, ∃ next, store.extendPath text source target limit [] rest state = .ok next :=
      fun state => ih fun item member => found item (mem_cons_of_mem _ member)
    obtain ⟨again, targetStored⟩ := found relationship (mem_cons_self ..)
    obtain ⟨sourceEntity, sourceFound⟩ := Option.isSome_iff_exists.mp sourceStored
    obtain ⟨targetEntity, targetFound⟩ := Option.isSome_iff_exists.mp targetStored
    obtain ⟨path, built⟩ : ∃ path,
        store.pathFromRelationshipIds text source [relationship.record.relationshipId] = .ok path := by
      unfold pathFromRelationshipIds
      simp [relationshipAt, again, entityAt, sourceFound, targetFound, bind, Except.bind, pure, Except.pure]
    rw [extendPath_nil_cons]
    split
    · exact later state
    · split
      · rw [built]
        change ∃ next, (if limit ≤ _ then _ else _) = _
        split
        · exact ⟨_, rfl⟩
        · exact later _
      · exact later _

/-- Paths of one edge are not followed further than one edge. -/
theorem complete_drained {relationshipFilter : List RelationshipType} (long : ∀ entry ∈ state.queue, entry.2.length = 1)
    (room : (state.paths.length : Int) < limit) :
    Loop.complete (store.pathRound text source target 1 relationshipFilter limit) (store.openPaths 1)
      openPaths_pathRound state = .ok state.paths := by
  obtain ⟨queue, paths⟩ := state
  induction queue with
  | nil => exact Loop.complete_end _ rfl
  | cons entry rest ih =>
    have popped : store.pathRound text source target 1 relationshipFilter limit ⟨entry :: rest, paths⟩ =
        .inl ⟨rest, paths⟩ := by
      have one := long entry (mem_cons_self ..)
      simp only [pathRound]
      rw [if_neg (by simpa using room), if_pos (by rw [one]; decide)]
    rw [Loop.complete_again _ popped]
    exact ih (fun other member => long other (mem_cons_of_mem _ member)) room

end OneEdge

/-- The query for paths of one edge. -/
def oneEdgePaths (source target : NodeKey) (limit : Int) : GraphQuery :=
  .findPaths source.1.value source.2 target.1.value target.2 1 none limit

theorem oneEdgePaths_answer (text : TextFunctions) {source target : NodeKey}
    (sourceStored : (store.ownEntity? source).isSome) (targetStored : (store.ownEntity? target).isSome) {limit : Int}
    (room : (store.relationships.values.length : Int) < limit) :
    (oneEdgePaths source target limit).answer text store =
      (store.extendPath text source target limit [] (store.matchingRelationships source .outgoing []) ⟨[], []⟩).map
        fun next => .paths next.paths := by
  have found : ((store.ownEntity? source).isNone || (store.ownEntity? target).isNone) = false := by
    simp [Option.isNone_eq_false_iff, sourceStored, targetStored]
  have few := store.length_matchingRelationships_le source .outgoing []
  have start : (oneEdgePaths source target limit).answer text store =
      (Loop.complete (store.pathRound text source target 1 [] limit) (store.openPaths 1) openPaths_pathRound
        ⟨[(source, [])], []⟩).map .paths := by
    simp only [oneEdgePaths, GraphQuery.answer, findPaths, nodeKey?, EntityType.parse_value, Option.map_some]
    change Except.map _ (if _ then _ else _) = _
    rw [if_neg (by rw [found]; decide)]
    rfl
  rw [start]
  cases extended : store.extendPath text source target limit [] (store.matchingRelationships source .outgoing [])
      ⟨[], []⟩ with
  | error raised =>
    have first : store.pathRound text source target 1 [] limit ⟨[(source, [])], []⟩ = .inr (.error raised) := by
      simp only [pathRound, extended]
      refine (if_neg (not_not_intro ?_)).trans (if_neg (by decide))
      simp only [length_nil]
      omega
    rw [Loop.complete_end _ first]
    rfl
  | ok next =>
    have first : store.pathRound text source target 1 [] limit ⟨[(source, [])], []⟩ = .inl next := by
      simp only [pathRound, extended]
      refine (if_neg (not_not_intro ?_)).trans (if_neg (by decide))
      simp only [length_nil]
      omega
    have grown := extendPath_nil_ok (by simp only [length_nil]; omega) extended
    have counted := countP_le_length (p := direct source target)
      (l := store.matchingRelationships source .outgoing [])
    rw [Loop.complete_again _ first, complete_drained]
    · rfl
    · intro entry member
      rcases grown.2 entry member with old | one
      · cases old
      · exact one
    · rw [grown.1]
      simp only [length_nil]
      omega

/-- The default tenant's part has strictly fewer edges from the source to the target. -/
theorem countP_direct_ownPart (stored : edge ∈ store.relationships.values) (foreign : edge.record.tenant ≠ {})
    (seen : store.visible edge = true) (apart : edge.record.source ≠ edge.record.target) :
    (store.ownPart.matchingRelationships edge.record.source .outgoing []).countP
        (direct edge.record.source edge.record.target) <
      (store.matchingRelationships edge.record.source .outgoing []).countP
        (direct edge.record.source edge.record.target) := by
  unfold matchingRelationships
  rw [(perm_insertionSort _ _).countP_eq, (perm_insertionSort _ _).countP_eq, countP_filter, countP_filter]
  simp only [ownPart, Dict.values_restrict, countP_filter]
  obtain ⟨before, after, shape⟩ := append_of_mem stored
  have fewer : ∀ items : List OntologyRelationship,
      items.countP (fun item => (direct edge.record.source edge.record.target item &&
          (store.ownPart.visible item && passes [] item.record.relationshipType &&
            Direction.outgoing.meets edge.record.source item)) && decide (item.record.tenant = {})) ≤
        items.countP fun item => direct edge.record.source edge.record.target item &&
          (store.visible item && passes [] item.record.relationshipType &&
            Direction.outgoing.meets edge.record.source item) := by
    intro items
    refine countP_mono_left fun item _ counted => ?_
    simp only [Bool.and_eq_true, decide_eq_true_eq] at counted ⊢
    obtain ⟨⟨isDirect, ⟨itemSeen, passed⟩, meets⟩, own⟩ := counted
    rw [visible_ownPart own] at itemSeen
    exact ⟨isDirect, ⟨itemSeen, passed⟩, meets⟩
  have first := fewer before
  have second := fewer after
  have here : (direct edge.record.source edge.record.target edge &&
      (store.visible edge && passes [] edge.record.relationshipType &&
        Direction.outgoing.meets edge.record.source edge)) = true := by
    simp [direct, seen, passes, Direction.meets, apart.symm]
  unfold ownPart at first second
  rw [shape]
  simp only [countP_append, countP_cons, here, foreign, decide_false, Bool.and_false, if_true,
    Bool.false_eq_true, if_false]
  omega

end GraphStore

/-- A visible edge of another tenant that joins two entities the default tenant stores is seen. -/
theorem foreign_edge_seen (text : TextFunctions) (stored : edge ∈ store.relationships.values)
    (foreign : edge.record.tenant ≠ {}) (seen : store.visible edge = true)
    (apart : edge.record.source ≠ edge.record.target) (sourceStored : (store.ownEntity? edge.record.source).isSome)
    (targetStored : (store.ownEntity? edge.record.target).isSome) :
    ∃ query : GraphQuery, query.answer text store.ownPart ≠ query.answer text store := by
  have smaller : store.ownPart.relationships.values.length ≤ store.relationships.values.length := by
    simp only [ownPart, Dict.values_restrict]
    exact length_filter_le ..
  refine ⟨oneEdgePaths edge.record.source edge.record.target (store.relationships.values.length + 1), ?_⟩
  rw [oneEdgePaths_answer text (by simpa using sourceStored) (by simpa using targetStored) (by omega),
    oneEdgePaths_answer text sourceStored targetStored (by omega)]
  -- the default tenant's part answers without an error, with one path for each of its own edges
  obtain ⟨own, ownExtended⟩ : ∃ next, store.ownPart.extendPath text edge.record.source edge.record.target
      (store.relationships.values.length + 1) []
      (store.ownPart.matchingRelationships edge.record.source .outgoing []) ⟨[], []⟩ = .ok next := by
    refine extendPath_nil_succeeds (by simpa using sourceStored) fun relationship member => ?_
    unfold matchingRelationships at member
    rw [mem_insertionSort, mem_filter] at member
    obtain ⟨ownStored, passed⟩ := member
    have ours : relationship.record.tenant = {} := by
      simp only [ownPart, Dict.values_restrict, mem_filter, decide_eq_true_eq] at ownStored
      exact ownStored.2
    have again := get?_of_mem_values ownStored
    rw [ours] at again
    simp only [visible, ours, endpointsLive, Bool.and_eq_true] at passed
    exact ⟨again, isSome_of_holds passed.1.1.2.2⟩
  rw [ownExtended]
  cases extended : store.extendPath text edge.record.source edge.record.target
      (store.relationships.values.length + 1) [] (store.matchingRelationships edge.record.source .outgoing [])
      ⟨[], []⟩ with
  | error raised => exact fun same => by cases same
  | ok next =>
    intro same
    have samePaths : own.paths = next.paths := GraphAnswer.paths.inj (Except.ok.inj same)
    have few := store.length_matchingRelationships_le edge.record.source .outgoing []
    have ownFew := store.ownPart.length_matchingRelationships_le edge.record.source .outgoing []
    have counted := (extendPath_nil_ok (by simp only [length_nil]; omega) extended).1
    have ownCounted := (extendPath_nil_ok (by simp only [length_nil]; omega) ownExtended).1
    have less := countP_direct_ownPart stored foreign seen apart
    simp only [length_nil] at counted ownCounted
    rw [samePaths] at ownCounted
    omega

/-- Every query answers as on the default tenant's part of the graph where no visible edge of another
tenant touches it, and some query does not where one joins two of its entities. -/
theorem graph_queries_isolated (text : TextFunctions) (store : GraphStore) :
    (store.Isolated → ∀ query : GraphQuery, query.answer text store.ownPart = query.answer text store) ∧
      ((∃ edge ∈ store.relationships.values, edge.record.tenant ≠ {} ∧ store.visible edge = true ∧
          edge.record.source ≠ edge.record.target ∧ (store.ownEntity? edge.record.source).isSome ∧
          (store.ownEntity? edge.record.target).isSome) →
        ∃ query : GraphQuery, query.answer text store.ownPart ≠ query.answer text store) := by
  refine ⟨fun isolated query => answer_ownPart isolated text query, ?_⟩
  rintro ⟨edge, stored, foreign, seen, apart, sourceStored, targetStored⟩
  exact foreign_edge_seen text stored foreign seen apart sourceStored targetStored

/-! ## A shared prompt -/

/-- A prompt of a tenant. -/
def promptOf (tenant : Tenant) (named : Text.isBlank tenant.organizationId = false)
    (inProject : Text.isBlank tenant.projectId = false) : OntologyEntity where
  record :=
    { entityId := "prompt-1", entityType := .prompt, owner := "team", lifecycle := "ACTIVE", createdAt := ⟨1⟩
      organizationId := tenant.organizationId, projectId := tenant.projectId }
  valid := by
    simp only [OntologyEntityRecord.violation, requireNonEmpty, named, inProject]
    decide

theorem defaultTenant_named : Text.isBlank ({} : Tenant).organizationId = false := by decide

theorem defaultTenant_inProject : Text.isBlank ({} : Tenant).projectId = false := by decide

/-- A version of it. -/
def versionOf (tenant : Tenant) (named : Text.isBlank tenant.organizationId = false)
    (inProject : Text.isBlank tenant.projectId = false) : OntologyEntity where
  record :=
    { entityId := "version-1", entityType := .promptVersion, owner := "team", lifecycle := "ACTIVE", createdAt := ⟨1⟩
      organizationId := tenant.organizationId, projectId := tenant.projectId }
  valid := by
    simp only [OntologyEntityRecord.violation, requireNonEmpty, named, inProject]
    decide

/-- Another tenant. -/
def otherTenant : Tenant := ⟨"org_other", "project_other"⟩

/-- The other tenant's version belongs to its prompt. -/
def otherHasVersion : OntologyRelationship where
  record :=
    { relationshipType := .hasVersion, sourceEntityId := "prompt-1", sourceEntityType := .prompt
      targetEntityId := "version-1", targetEntityType := .promptVersion, createdBy := "system"
      relationshipId := "edge-9", createdAt := ⟨2⟩, organizationId := "org_other", projectId := "project_other" }
  valid := by decide

/-- A prompt of the default tenant by another name. -/
def ownPrompt : OntologyEntity where
  record := { entityId := "prompt-2", entityType := .prompt, owner := "team", lifecycle := "ACTIVE", createdAt := ⟨1⟩ }
  valid := by decide

/-- The default tenant holds one prompt; the other one a prompt, its version and the edge between them. -/
def besideOther : GraphStore :=
  (((GraphStore.empty.saveEntity ownPrompt).saveEntity (promptOf otherTenant (by decide) (by decide))).saveEntity
    (versionOf otherTenant (by decide) (by decide))).saveRelationship otherHasVersion

/-- The default tenant holds a prompt and a version of the same names, without an edge. -/
def sharedNames : GraphStore :=
  (besideOther.saveEntity (promptOf {} defaultTenant_named defaultTenant_inProject)).saveEntity
    (versionOf {} defaultTenant_named defaultTenant_inProject)

/-- The operations on text, for ASCII text and attributes that are text. -/
def asciiText : TextFunctions where
  casefold := String.toLower
  str
    | .str value => value
    | _ => ""
  repr value := "'" ++ value ++ "'"

/-- Tenants without a name in common do not meet; over shared names the other tenant's edge is seen. -/
theorem graph_queries_isolated_besideOther :
    besideOther.Isolated ∧
      (∀ query : GraphQuery, query.answer asciiText besideOther.ownPart = query.answer asciiText besideOther) ∧
      ∃ query : GraphQuery, query.answer asciiText sharedNames.ownPart ≠ query.answer asciiText sharedNames := by
  have isolated : besideOther.Isolated := by
    unfold Isolated
    decide +kernel
  refine ⟨isolated, (graph_queries_isolated asciiText besideOther).1 isolated, ?_⟩
  refine (graph_queries_isolated asciiText sharedNames).2 ⟨otherHasVersion, ?_⟩
  decide +kernel

/-- The other tenant's edge is part of the neighbourhood of the default tenant's prompt, and the search
for paths between its two entities fails. -/
theorem foreign_edge_in_neighbourhood :
    (GraphQuery.getNeighbourhood "Prompt" "prompt-1" 1 none none 100).answer asciiText sharedNames ≠
        (GraphQuery.getNeighbourhood "Prompt" "prompt-1" 1 none none 100).answer asciiText sharedNames.ownPart ∧
      (GraphQuery.findPaths "Prompt" "prompt-1" "PromptVersion" "version-1" 5 none 10).answer asciiText sharedNames =
        .error ⟨.keyError, "('org_default', 'project_default', 'edge-9')"⟩ ∧
      (GraphQuery.findPaths "Prompt" "prompt-1" "PromptVersion" "version-1" 5 none 10).answer asciiText
        sharedNames.ownPart = .ok (.paths []) := by
  decide +kernel

end AiGovernance.Ontology
