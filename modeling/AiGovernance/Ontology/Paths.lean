import AiGovernance.Ontology.Noninterference
import AiGovernance.Std.Enumeration
import AiGovernance.Std.Steps

/-!
# Path enumeration

`find_paths` extends sequences of edges breadth first. In a graph of one tenant
it returns simple live paths from the source to the target, each once, shorter
ones first, and all of them up to the depth unless the limit stops it.
-/

namespace AiGovernance.Ontology.GraphStore

open AiGovernance.Std AiGovernance.Std.Enumeration Domain List

/-- Every edge starts where the one before it ends, the first at a node. -/
def Chained (first : NodeKey) : List OntologyRelationship → Prop
  | [] => True
  | edge :: rest => edge.record.source = first ∧ Chained edge.record.target rest

/-- Where a sequence of edges from a node ends. -/
def lastNode (source : NodeKey) (edges : List OntologyRelationship) : NodeKey :=
  (edges.getLast?.map (·.record.target)).getD source

/-- A live directed path from a node that meets no node twice. -/
structure Trail (store : GraphStore) (filter : List RelationshipType) (source : NodeKey)
    (edges : List OntologyRelationship) : Prop where
  live : ∀ edge ∈ edges, edge ∈ store.relationships.values ∧ store.visible edge = true ∧
    passes filter edge.record.relationshipType = true
  chained : Chained source edges
  simple : (source :: edges.map (·.record.target)).Nodup

/-- A path `find_paths` is asked for. -/
structure PathBetween (store : GraphStore) (filter : List RelationshipType) (source target : NodeKey) (maxDepth : Int)
    (edges : List OntologyRelationship) : Prop where
  trail : store.Trail filter source edges
  ends : lastNode source edges = target
  nonempty : 1 ≤ edges.length
  short : (edges.length : Int) ≤ maxDepth

/-- A path as it is returned. -/
def graphPath (store : GraphStore) (source : NodeKey) (edges : List OntologyRelationship) : GraphPath where
  nodes := ((source :: edges.map (·.record.target)).filterMap store.ownEntity?).zipIdx.map fun entry =>
    ⟨.ofOntologyEntity entry.1, entry.2⟩
  edges := edges.map .ofOntologyRelationship

/-! ## Sequences of edges -/

section Edges

variable {source : NodeKey} {edges rest : List OntologyRelationship} {edge : OntologyRelationship}

@[simp] theorem lastNode_append : lastNode source (edges ++ [edge]) = edge.record.target := by
  simp [lastNode]

theorem lastNode_cons : lastNode source (edge :: rest) = lastNode edge.record.target rest := by
  cases rest with
  | nil => rfl
  | cons next others =>
    unfold lastNode
    rw [getLast?_cons_cons, getLast?_eq_getLast_of_ne_nil (cons_ne_nil next others)]
    rfl

theorem chained_append : Chained source (edges ++ rest) ↔ Chained source edges ∧ Chained (lastNode source edges) rest := by
  induction edges generalizing source with
  | nil => simp [Chained, lastNode]
  | cons edge others ih =>
    rw [cons_append, Chained, Chained, ih, lastNode_cons, and_assoc]

theorem chained_concat : Chained source (edges ++ [edge]) ↔
    Chained source edges ∧ edge.record.source = lastNode source edges := by
  rw [chained_append]
  simp [Chained]

variable (source) in
theorem lastNode_mem (nonempty : edges ≠ []) : lastNode source edges ∈ edges.map (·.record.target) := by
  obtain ⟨others, edge, rfl⟩ := (eq_nil_or_concat edges).resolve_left nonempty
  simp

end Edges

/-! ## Goals -/

section Goals

variable {store : GraphStore} {filter : List RelationshipType} {source target : NodeKey} {maxDepth : Int}
  {edges : List OntologyRelationship} {edge : OntologyRelationship}

theorem mem_outgoing {current : NodeKey} : edge ∈ store.matchingRelationships current .outgoing filter ↔
    edge ∈ store.relationships.values ∧ (store.visible edge = true ∧
      passes filter edge.record.relationshipType = true) ∧ edge.record.source = current := by
  unfold matchingRelationships
  rw [mem_insertionSort, mem_filter, Bool.and_eq_true, Bool.and_eq_true]
  simp [Direction.meets]

theorem nodup_matchingRelationships (current : NodeKey) (direction : Direction) :
    (store.matchingRelationships current direction filter).Nodup := by
  have distinct : store.relationships.values.Nodup :=
    Dict.nodup_values_of_keyed (fun relationship => (relationship.record.tenant, relationship.record.relationshipId))
      store.relationshipKeyed
  exact (perm_insertionSort _ _).nodup_iff.mpr (distinct.filter _)

/-- A trail that has not come to the target. -/
structure Open (store : GraphStore) (filter : List RelationshipType) (source target : NodeKey)
    (edges : List OntologyRelationship) : Prop where
  trail : store.Trail filter source edges
  before : target ∉ edges.map (·.record.target)

theorem open_nil : store.Open filter source target [] := ⟨⟨by simp, trivial, by simp⟩, by simp⟩

theorem Trail.extend (trail : store.Trail filter source edges)
    (member : edge ∈ store.matchingRelationships (lastNode source edges) .outgoing filter)
    (fresh : edge.record.target ∉ source :: edges.map (·.record.target)) :
    store.Trail filter source (edges ++ [edge]) := by
  obtain ⟨stored, live, joins⟩ := mem_outgoing.mp member
  refine ⟨fun other among => ?_, chained_concat.mpr ⟨trail.chained, joins⟩, ?_⟩
  · rcases mem_append.mp among with among | last
    · exact trail.live other among
    · rw [mem_singleton.mp last]
      exact ⟨stored, live⟩
  · rw [map_append, ← cons_append, nodup_append]
    refine ⟨trail.simple, nodup_singleton _, fun node among last member => ?_⟩
    rintro rfl
    rw [mem_singleton.mp member] at among
    exact fresh among

/-- A path beyond a trail that has not come to the target goes on by an edge of its last node. -/
theorem Open.onward (opened : store.Open filter source target edges) {word : List OntologyRelationship}
    (path : store.PathBetween filter source target maxDepth word) (leads : edges <+: word) :
    ∃ edge ∈ store.matchingRelationships (lastNode source edges) .outgoing filter, edges ++ [edge] <+: word := by
  obtain ⟨rest, rfl⟩ := leads
  cases rest with
  | nil =>
    rw [append_nil] at path
    have nonempty : edges ≠ [] := ne_nil_of_length_pos path.nonempty
    exact absurd (path.ends ▸ lastNode_mem source nonempty) opened.before
  | cons edge others =>
    have live := path.trail.live edge (by simp)
    have joins := (chained_append.mp path.trail.chained).2.1
    exact ⟨edge, mem_outgoing.mpr ⟨live.1, live.2, joins⟩, others, by simp⟩

/-- No path leads through a node twice. -/
theorem dead_of_revisit (revisits : edge.record.target ∈ source :: edges.map (·.record.target))
    (word : List OntologyRelationship) (path : store.PathBetween filter source target maxDepth word) :
    ¬ edges ++ [edge] <+: word := by
  rintro ⟨rest, rfl⟩
  have simple := path.trail.simple
  rw [append_assoc, map_append, ← cons_append, nodup_append] at simple
  exact simple.2.2 _ revisits _ (by simp) rfl

theorem Open.dead_of_deep (opened : store.Open filter source target edges) (deep : maxDepth ≤ edges.length)
    (word : List OntologyRelationship) (path : store.PathBetween filter source target maxDepth word) :
    ¬ edges <+: word := by
  intro leads
  obtain ⟨edge, -, further⟩ := opened.onward path leads
  have longer := further.length_le
  have short := path.short
  rw [length_append, length_singleton] at longer
  omega

/-- A trail that comes to the target is a path, and the only one that starts so. -/
theorem Trail.arrives (trail : store.Trail filter source (edges ++ [edge])) (arrived : edge.record.target = target)
    (shallow : (edges.length : Int) < maxDepth) :
    store.PathBetween filter source target maxDepth (edges ++ [edge]) ∧
      ∀ word, store.PathBetween filter source target maxDepth word → edges ++ [edge] <+: word →
        word = edges ++ [edge] := by
  refine ⟨⟨trail, by rw [lastNode_append, arrived], by simp, by simp; omega⟩, ?_⟩
  rintro word path ⟨rest, rfl⟩
  cases rest with
  | nil => rw [append_nil]
  | cons next others =>
    have ends := path.ends
    have again : target ∈ (next :: others).map (·.record.target) := by
      have last := lastNode_mem source (cons_ne_nil next others)
      rw [← ends]
      unfold lastNode at last ⊢
      rw [getLast?_append_of_ne_nil _ (cons_ne_nil next others)]
      exact last
    have simple := path.trail.simple
    rw [map_append, ← cons_append, nodup_append] at simple
    exact absurd rfl (simple.2.2 target (by simp [arrived]) target again)

end Goals

/-! ## The search -/

section Search

variable {text : TextFunctions} {store : GraphStore} {filter : List RelationshipType} {source target : NodeKey}
  {maxDepth limit : Int} {edges : List OntologyRelationship} {edge : OntologyRelationship}

theorem Trail.stored (single : store.SingleTenant) (trail : store.Trail filter source edges) :
    ∀ edge ∈ edges, store.ownRelationship? edge.record.relationshipId = some edge := by
  intro edge member
  have known := (trail.live edge member).1
  have found := get?_of_mem_values known
  rw [single.2 edge known] at found
  exact found

theorem mapM_relationshipAt (stored : ∀ edge ∈ edges, store.ownRelationship? edge.record.relationshipId = some edge) :
    (edges.map (·.record.relationshipId)).mapM (relationshipAt text store) = .ok edges := by
  apply mapM_readBack
  intro edge member
  unfold relationshipAt
  rw [stored edge member]

theorem mapM_entityAt {nodes : List NodeKey} (stored : ∀ node ∈ nodes, (store.ownEntity? node).isSome = true) :
    nodes.mapM (entityAt text store) = .ok (nodes.filterMap store.ownEntity?) := by
  induction nodes with
  | nil => rfl
  | cons node rest ih =>
    obtain ⟨entity, found⟩ := Option.isSome_iff_exists.mp (stored node mem_cons_self)
    have read : entityAt text store node = .ok entity := by
      unfold entityAt
      rw [found]
    rw [mapM_cons, read, ih fun other member => stored other (mem_cons_of_mem _ member),
      filterMap_cons_some found]
    rfl

theorem Trail.nodes_stored (single : store.SingleTenant) (trail : store.Trail filter source edges)
    (present : (store.ownEntity? source).isSome = true) :
    ∀ node ∈ source :: edges.map (·.record.target), (store.ownEntity? node).isSome = true := by
  intro node member
  rcases mem_cons.mp member with rfl | member
  · exact present
  · obtain ⟨edge, among, rfl⟩ := mem_map.mp member
    obtain ⟨known, seen, -⟩ := trail.live edge among
    have ends : store.holds {} edge.record.target = true := by
      unfold visible endpointsLive at seen
      rw [single.2 edge known, Bool.and_eq_true, Bool.and_eq_true] at seen
      exact seen.2.2
    unfold GraphStore.holds at ends
    rw [Option.any_eq_true] at ends
    obtain ⟨entity, found, -⟩ := ends
    unfold ownEntity?
    rw [found]
    rfl

theorem pathRevisitsNode_trail (single : store.SingleTenant) (trail : store.Trail filter source edges)
    (nextKey : NodeKey) :
    pathRevisitsNode text store source (edges.map (·.record.relationshipId)) nextKey =
      .ok ((source :: edges.map (·.record.target)).contains nextKey) := by
  unfold pathRevisitsNode
  rw [mapM_relationshipAt (trail.stored single)]
  rfl

theorem pathFromRelationshipIds_trail (single : store.SingleTenant) (trail : store.Trail filter source edges)
    (present : (store.ownEntity? source).isSome = true) :
    pathFromRelationshipIds text store source (edges.map (·.record.relationshipId)) =
      .ok (store.graphPath source edges) := by
  unfold pathFromRelationshipIds
  rw [mapM_relationshipAt (trail.stored single)]
  simp only [bind, Except.bind]
  rw [mapM_entityAt (trail.nodes_stored single present)]
  rfl

/-- How a trail waits in the queue. -/
def waiting (source : NodeKey) (edges : List OntologyRelationship) : NodeKey × List String :=
  (lastNode source edges, edges.map (·.record.relationshipId))

/-- A state of the search shows the trails that wait and the paths that are found. -/
structure Shows (store : GraphStore) (filter : List RelationshipType) (source target : NodeKey) (level : Nat)
    (queue found : List (List OntologyRelationship)) (state : PathSearch) : Prop where
  queued : state.queue = queue.map (waiting source)
  listed : state.paths = found.map (store.graphPath source)
  layered : Layered level queue found
  opened : ∀ edges ∈ queue, store.Open filter source target edges

/-- The invariant of the search; once the limit is reached the frontier is not in the queue any more. -/
def Searching (store : GraphStore) (filter : List RelationshipType) (source target : NodeKey) (maxDepth limit : Int)
    (level : Nat) (state : PathSearch) : Prop :=
  ∃ queue found pending, Shows store filter source target level queue found state ∧
    Frontier (store.PathBetween filter source target maxDepth) pending found ∧
    (pending = queue ∨ limit ≤ found.length)

variable (text limit) in
/-- The edges of the last node of a trail keep the invariant. -/
theorem searching_extendPath (single : store.SingleTenant) (present : (store.ownEntity? source).isSome = true)
    (opened : store.Open filter source target edges) (shallow : (edges.length : Int) < maxDepth)
    {relationships : List OntologyRelationship}
    (onward : ∀ edge ∈ relationships, edge ∈ store.matchingRelationships (lastNode source edges) .outgoing filter)
    {queue found : List (List OntologyRelationship)} {state : PathSearch}
    (shows : Shows store filter source target edges.length queue found state)
    (frontier : Frontier (store.PathBetween filter source target maxDepth)
      (queue ++ relationships.map fun edge => edges ++ [edge]) found) :
    ∃ next, extendPath text store source target limit (edges.map (·.record.relationshipId)) relationships state =
        .ok next ∧ Searching store filter source target maxDepth limit edges.length next := by
  induction relationships generalizing queue found state with
  | nil =>
    rw [map_nil, append_nil] at frontier
    exact ⟨state, rfl, queue, found, queue, shows, frontier, Or.inl rfl⟩
  | cons edge rest ih =>
    have further := fun other member => onward other (mem_cons_of_mem _ member)
    have front : Frontier (store.PathBetween filter source target maxDepth)
        ((edges ++ [edge]) :: (queue ++ rest.map fun edge => edges ++ [edge])) found :=
      frontier.perm perm_middle
    have renamed : (edges ++ [edge]).map (·.record.relationshipId) =
      edges.map (·.record.relationshipId) ++ [edge.record.relationshipId] := by simp
    unfold extendPath
    simp only [bind, Except.bind]
    rw [pathRevisitsNode_trail single opened.trail]
    dsimp only
    by_cases revisits : edge.record.target ∈ source :: edges.map (·.record.target)
    · rw [if_pos (contains_iff_mem.mpr revisits)]
      exact ih further shows (front.discard (dead_of_revisit revisits))
    · rw [if_neg fun contained => revisits (contains_iff_mem.mp contained)]
      have trail := opened.trail.extend (onward edge mem_cons_self) revisits
      by_cases arrived : edge.record.target = target
      · obtain ⟨path, only⟩ := trail.arrives arrived shallow
        have collected := front.collect path only
        have next : Shows store filter source target edges.length queue (found ++ [edges ++ [edge]])
            { state with paths := state.paths ++ [store.graphPath source (edges ++ [edge])] } :=
          ⟨shows.queued, by rw [shows.listed]; simp, shows.layered.collect (by simp), shows.opened⟩
        rw [if_pos arrived, ← renamed, pathFromRelationshipIds_trail single trail present]
        dsimp only
        by_cases full : limit ≤ (state.paths ++ [store.graphPath source (edges ++ [edge])]).length
        · rw [if_pos full]
          refine ⟨_, rfl, queue, _, _, next, collected, Or.inr ?_⟩
          rw [shows.listed] at full
          simpa using full
        · rw [if_neg full]
          exact ih further next collected
      · have waits : Shows store filter source target edges.length (queue ++ [edges ++ [edge]]) found
            { state with queue := state.queue ++
              [(edge.record.target, edges.map (·.record.relationshipId) ++ [edge.record.relationshipId])] } := by
          refine ⟨?_, shows.listed, shows.layered.push (by simp), fun other member => ?_⟩
          · rw [shows.queued]
            simp [waiting]
          · rcases mem_append.mp member with member | last
            · exact shows.opened other member
            · rw [mem_singleton.mp last]
              refine ⟨trail, ?_⟩
              rw [map_append, mem_append, not_or]
              exact ⟨opened.before, by simpa using Ne.symm arrived⟩
        rw [if_neg arrived]
        refine ih further waits ?_
        rw [append_assoc]
        exact frontier

theorem searching_pathRound (single : store.SingleTenant) (present : (store.ownEntity? source).isSome = true)
    {state : PathSearch} {level : Nat} (searching : Searching store filter source target maxDepth limit level state) :
    (∃ next level, store.pathRound text source target maxDepth filter limit state = .inl next ∧
        Searching store filter source target maxDepth limit level next) ∨
      ∃ found, store.pathRound text source target maxDepth filter limit state =
          .inr (.ok (found.map (store.graphPath source))) ∧
        found.Pairwise (fun left right => left.length ≤ right.length) ∧
        ∃ pending, Frontier (store.PathBetween filter source target maxDepth) pending found ∧
          (pending = [] ∨ limit ≤ found.length) := by
  obtain ⟨queue, found, pending, shows, frontier, still⟩ := searching
  unfold pathRound
  cases queue with
  | nil =>
    have empty : state.queue = [] := shows.queued
    rw [empty]
    exact Or.inr ⟨found, by rw [shows.listed], shows.layered.sorted, pending, frontier, still⟩
  | cons edges rest =>
    have shape : state.queue = waiting source edges :: rest.map (waiting source) := shows.queued
    rw [shape]
    have opened := shows.opened edges mem_cons_self
    have others : Shows store filter source target edges.length rest found
        { state with queue := rest.map (waiting source) } :=
      ⟨rfl, shows.listed, shows.layered.pop, fun other member => shows.opened other (mem_cons_of_mem _ member)⟩
    dsimp only [waiting]
    by_cases full : (state.paths.length : Int) < limit
    · have partway : ¬ limit ≤ found.length := by
        rw [shows.listed, length_map] at full
        omega
      have same := still.resolve_right partway
      subst same
      have measured : (edges.map (·.record.relationshipId)).length = edges.length := length_map ..
      rw [if_neg (not_not.mpr full)]
      by_cases deep : maxDepth ≤ (edges.map (·.record.relationshipId)).length
      · rw [if_pos deep]
        rw [measured] at deep
        exact Or.inl ⟨_, edges.length, rfl, rest, found, rest, others,
          frontier.discard (opened.dead_of_deep deep), Or.inl rfl⟩
      · rw [if_neg deep]
        rw [measured] at deep
        have expanded := frontier.expand (nodup_matchingRelationships (lastNode source edges) .outgoing)
          fun word path leads => opened.onward path leads
        obtain ⟨next, extended, searching⟩ := searching_extendPath text limit single present opened
          (by omega) (fun edge member => member) others expanded
        rw [extended]
        exact Or.inl ⟨next, edges.length, rfl, searching⟩
    · rw [if_pos full]
      refine Or.inr ⟨found, by rw [shows.listed], shows.layered.sorted, pending, frontier, Or.inr ?_⟩
      rw [shows.listed, length_map] at full
      omega

theorem search_complete (single : store.SingleTenant) (present : (store.ownEntity? source).isSome = true) :
    ∃ found, Loop.complete (store.pathRound text source target maxDepth filter limit) (store.openPaths maxDepth)
        openPaths_pathRound { queue := [(source, [])], paths := [] } = .ok (found.map (store.graphPath source)) ∧
      found.Pairwise (fun left right => left.length ≤ right.length) ∧
      ∃ pending, Frontier (store.PathBetween filter source target maxDepth) pending found ∧
        (pending = [] ∨ limit ≤ found.length) := by
  refine Loop.complete_invariant openPaths_pathRound
    (fun state => ∃ level, Searching store filter source target maxDepth limit level state)
    (fun result => ∃ found, result = .ok (found.map (store.graphPath source)) ∧
      found.Pairwise (fun left right => left.length ≤ right.length) ∧
      ∃ pending, Frontier (store.PathBetween filter source target maxDepth) pending found ∧
        (pending = [] ∨ limit ≤ found.length)) ?_ ?_ ?_
  · rintro state next ⟨level, searching⟩ continues
    rcases searching_pathRound single present searching with ⟨other, deeper, same, kept⟩ | ⟨found, ended, -⟩
    · rw [continues] at same
      cases same
      exact ⟨deeper, kept⟩
    · rw [continues] at ended
      cases ended
  · rintro state result ⟨level, searching⟩ ends
    rcases searching_pathRound single present searching with ⟨other, deeper, same, -⟩ | ⟨found, ended, rest⟩
    · rw [ends] at same
      cases same
    · rw [ends] at ended
      cases ended
      exact ⟨found, rfl, rest⟩
  · refine ⟨0, [[]], [], [[]], ⟨rfl, rfl, Layered.init, fun edges member => ?_⟩, Frontier.init, Or.inl rfl⟩
    rw [mem_singleton.mp member]
    exact open_nil

end Search

/-! ## Results -/

/-- The paths found are those that are asked for: each is one and stands once, shorter ones come
first, and below the limit none is missing. -/
structure Enumerates (store : GraphStore) (filter : List RelationshipType) (source target : NodeKey)
    (maxDepth limit : Int) (found : List (List OntologyRelationship)) : Prop where
  sound : ∀ edges ∈ found, store.PathBetween filter source target maxDepth edges
  once : (found.map (store.graphPath source)).Nodup
  ascending : found.Pairwise fun left right => left.length ≤ right.length
  complete : (found.length : Int) < limit →
    ∀ edges, store.PathBetween filter source target maxDepth edges → edges ∈ found

section Results

variable {store : GraphStore} {filter : List RelationshipType} {source target : NodeKey} {maxDepth limit : Int}

theorem graphPath_inj (single : store.SingleTenant) {left right : List OntologyRelationship}
    (first : store.Trail filter source left) (second : store.Trail filter source right)
    (same : store.graphPath source left = store.graphPath source right) : left = right := by
  have edges : left.map GraphRelationship.ofOntologyRelationship = right.map .ofOntologyRelationship :=
    congrArg GraphPath.edges same
  have named := congrArg (List.map (·.relationshipId)) edges
  rw [map_map, map_map] at named
  have read : ∀ {edges : List OntologyRelationship}, store.Trail filter source edges →
      (edges.map fun edge => edge.record.relationshipId).filterMap store.ownRelationship? = edges := by
    intro edges trail
    rw [filterMap_map]
    exact (filterMap_congr fun edge member => trail.stored single edge member).trans (filterMap_some)
  rw [← read first, ← read second]
  exact congrArg (List.filterMap store.ownRelationship?) named

theorem PathBetween.ends_stored (single : store.SingleTenant) {edges : List OntologyRelationship}
    (path : store.PathBetween filter source target maxDepth edges) :
    (store.ownEntity? source).isSome = true ∧ (store.ownEntity? target).isSome = true := by
  obtain ⟨first, rest, rfl⟩ := exists_cons_of_ne_nil (ne_nil_of_length_pos path.nonempty)
  have starts : first.record.source = source := path.trail.chained.1
  obtain ⟨known, seen, -⟩ := path.trail.live first mem_cons_self
  have present : (store.ownEntity? source).isSome = true := by
    unfold visible endpointsLive GraphStore.holds at seen
    rw [single.2 first known, starts, Bool.and_eq_true, Bool.and_eq_true, Option.any_eq_true] at seen
    obtain ⟨entity, found, -⟩ := seen.2.1
    unfold ownEntity?
    rw [found]
    rfl
  refine ⟨present, path.trail.nodes_stored single present target (mem_cons_of_mem _ ?_)⟩
  rw [← path.ends]
  exact lastNode_mem source (cons_ne_nil first rest)

theorem enumerates_of_frontier (single : store.SingleTenant) {pending found : List (List OntologyRelationship)}
    (frontier : Frontier (store.PathBetween filter source target maxDepth) pending found)
    (ended : pending = [] ∨ limit ≤ found.length)
    (ascending : found.Pairwise fun left right => left.length ≤ right.length) :
    Enumerates store filter source target maxDepth limit found := by
  refine ⟨frontier.sound, ?_, ascending, fun below edges path => ?_⟩
  · refine frontier.once.map_on ?_
    intro left among right member same
    exact graphPath_inj single (frontier.sound left among).trail (frontier.sound right member).trail same
  · obtain rfl := ended.resolve_right (by omega)
    exact frontier.mem_found_iff.mpr path

/-- In a graph of one tenant `find_paths` fails only for a filter it does not know, and otherwise
enumerates the simple live paths between the nodes up to the depth. -/
theorem findPaths_enumerates (text : TextFunctions) (single : store.SingleTenant) (source target : NodeKey)
    (maxDepth : Int) (relationshipTypes : Option (List String)) (limit : Int) :
    match relationshipTypeSet text relationshipTypes with
    | .error raised => store.findPaths text source.1.value source.2 target.1.value target.2 maxDepth relationshipTypes
        limit = .error raised
    | .ok filter => ∃ found, store.findPaths text source.1.value source.2 target.1.value target.2 maxDepth
          relationshipTypes limit = .ok (found.map (store.graphPath source)) ∧
        Enumerates store filter source target maxDepth limit found := by
  unfold findPaths
  cases relationshipTypeSet text relationshipTypes with
  | error raised => rfl
  | ok filter =>
    have named : ∀ node : NodeKey, nodeKey? node.1.value node.2 = some node := fun node => by
      simp [nodeKey?, EntityType.parse_value]
    simp only [bind, Except.bind, named]
    by_cases absent : ((store.ownEntity? source).isNone || (store.ownEntity? target).isNone) = true
    · rw [if_pos absent]
      refine ⟨[], rfl, by simp, by simp, List.Pairwise.nil, fun _ edges path => ?_⟩
      obtain ⟨starts, ends⟩ := path.ends_stored single
      rw [Bool.or_eq_true, Option.isNone_iff_eq_none, Option.isNone_iff_eq_none] at absent
      rcases absent with gone | gone
      · rw [gone] at starts
        cases starts
      · rw [gone] at ends
        cases ends
    · rw [if_neg absent]
      have present : (store.ownEntity? source).isSome = true := by
        rw [Bool.or_eq_true, not_or] at absent
        rw [Option.isSome_iff_ne_none]
        simpa using absent.1
      obtain ⟨found, ended, ascending, pending, frontier, complete⟩ := search_complete single present
      exact ⟨found, ended, enumerates_of_frontier single frontier complete ascending⟩

end Results

/-- The prompt of the default tenant has a version. -/
def ownHasVersion : OntologyRelationship where
  record :=
    { relationshipType := .hasVersion, sourceEntityId := "prompt-2", sourceEntityType := .prompt
      targetEntityId := "version-1", targetEntityType := .promptVersion, createdBy := "system"
      relationshipId := "edge-1", createdAt := ⟨2⟩ }
  valid := by decide

/-- A prompt and its version, in the default tenant alone. -/
def promptAndVersion : GraphStore :=
  ((GraphStore.empty.saveEntity ownPrompt).saveEntity
    (versionOf {} defaultTenant_named defaultTenant_inProject)).saveRelationship ownHasVersion

theorem singleTenant_promptAndVersion : promptAndVersion.SingleTenant := by
  unfold SingleTenant
  decide +kernel

/-- The paths from a prompt to its version. -/
theorem findPaths_enumerates_versions : ∃ found,
    promptAndVersion.findPaths asciiText "Prompt" "prompt-2" "PromptVersion" "version-1" 3 none 10 =
        .ok (found.map (promptAndVersion.graphPath (.prompt, "prompt-2"))) ∧
      Enumerates promptAndVersion [] (.prompt, "prompt-2") (.promptVersion, "version-1") 3 10 found :=
  findPaths_enumerates asciiText singleTenant_promptAndVersion (.prompt, "prompt-2") (.promptVersion, "version-1") 3
    none 10

end AiGovernance.Ontology.GraphStore
