import AiGovernance.Ontology.Lineage
import AiGovernance.Ontology.Paths

/-!
# Lineage and paths agree

`find_paths`, which extends sequences of edges, finds a path between two nodes
exactly where `find_downstream`, which marks nodes, lists the one from the
other, and its first path is a shortest walk.
-/

namespace AiGovernance.Ontology.GraphStore

open AiGovernance.Std AiGovernance.Std.Search AiGovernance.Std.Enumeration Domain List

variable {store : GraphStore} {source target : NodeKey} {maxDepth limit : Int} {length : Nat}

theorem holds_of_walk (walk : Walk (store.Leads {} .outgoing) length source target)
    (live : store.holds {} source = true) : store.holds {} target = true := by
  cases walk with
  | here => exact live
  | onward _ next => exact next.2

/-- The edges of a live chain are the steps of a lineage. -/
theorem walk_of_chained (single : store.SingleTenant) {edges : List OntologyRelationship}
    (live : ∀ edge ∈ edges, edge ∈ store.relationships.values ∧ store.visible edge = true)
    (chained : Chained source edges) : Walk (store.Leads {} .outgoing) edges.length source (lastNode source edges) := by
  induction edges using List.reverseRecOn with
  | nil => exact .here source
  | append_singleton edges edge ih =>
    obtain ⟨known, seen⟩ := live edge (by simp)
    obtain ⟨before, joins⟩ := chained_concat.mp chained
    have own := single.2 edge known
    unfold visible endpointsLive at seen
    rw [own, Bool.and_eq_true, Bool.and_eq_true, Bool.not_eq_true'] at seen
    rw [length_append, lastNode_append]
    exact .onward (ih (fun other member => live other (mem_append_left _ member)) before)
      ⟨⟨edge, known, own, seen.1, joins, rfl⟩, seen.2.2⟩

/-- A shortest walk from a live node meets no node twice. -/
theorem exists_trail (live : store.holds {} source = true)
    (distance : Distance (store.Leads {} .outgoing) source target length) :
    ∃ edges, store.Trail [] source edges ∧ edges.length = length ∧ lastNode source edges = target ∧
      ∀ node ∈ source :: edges.map (·.record.target), ∃ before ≤ length,
        Walk (store.Leads {} .outgoing) before source node := by
  induction length generalizing target with
  | zero =>
    obtain rfl := distance.1.eq_of_zero
    refine ⟨[], ⟨by simp, trivial, nodup_singleton source⟩, rfl, rfl, fun node member => ⟨0, Nat.le_refl _, ?_⟩⟩
    rw [mem_singleton.mp member]
    exact .here source
  | succ length ih =>
    obtain ⟨walk, shortest⟩ := distance
    cases walk with
    | @onward _ _ middle _ before next =>
    have nearer : Distance (store.Leads {} .outgoing) source middle length :=
      ⟨before, fun other walk => Nat.le_of_succ_le_succ (shortest (Walk.onward walk next))⟩
    obtain ⟨edges, trail, counted, ends, visited⟩ := ih nearer
    have stands : store.holds {} middle = true := holds_of_walk before live
    obtain ⟨⟨edge, known, own, present, leaves, arrives⟩, reached⟩ := next
    have seen : store.visible edge = true := by
      unfold visible endpointsLive
      rw [present, own, leaves, arrives, stands, reached]
      rfl
    have member : edge ∈ store.matchingRelationships (lastNode source edges) .outgoing [] :=
      mem_outgoing.mpr ⟨known, ⟨seen, rfl⟩, by rw [ends, leaves]⟩
    have fresh : edge.record.target ∉ source :: edges.map (·.record.target) := by
      intro revisits
      obtain ⟨earlier, less, shorter⟩ := visited _ revisits
      rw [arrives] at shorter
      have least := shortest shorter
      omega
    refine ⟨edges ++ [edge], trail.extend member fresh, by simp [counted], by rw [lastNode_append, arrives], ?_⟩
    intro node among
    rw [map_append, ← cons_append, mem_append] at among
    rcases among with among | last
    · obtain ⟨earlier, less, shorter⟩ := visited node among
      exact ⟨earlier, by omega, shorter⟩
    · obtain rfl : node = target := (mem_singleton.mp last).trans arrives
      exact ⟨length + 1, Nat.le_refl _, .onward before ⟨⟨edge, known, own, present, leaves, arrives⟩, reached⟩⟩

theorem PathBetween.walk (single : store.SingleTenant) {edges : List OntologyRelationship}
    (path : store.PathBetween [] source target maxDepth edges) :
    Walk (store.Leads {} .outgoing) edges.length source target := by
  rw [← path.ends]
  exact walk_of_chained single (fun edge member => ⟨(path.trail.live edge member).1, (path.trail.live edge member).2.1⟩)
    path.trail.chained

/-- Where a walk within the depth leads to another node, some path is no longer than it. -/
theorem exists_path (live : store.holds {} source = true) (apart : target ≠ source)
    (within : (length : Int) ≤ maxDepth) (walk : Walk (store.Leads {} .outgoing) length source target) :
    ∃ edges, store.PathBetween [] source target maxDepth edges ∧ edges.length ≤ length := by
  obtain ⟨least, small, distance⟩ := exists_distance walk
  obtain ⟨edges, trail, counted, ends, -⟩ := exists_trail live distance
  have positive : least ≠ 0 := by
    rintro rfl
    exact apart distance.1.eq_of_zero.symm
  exact ⟨edges, ⟨trail, ends, by omega, by omega⟩, by omega⟩

theorem findPaths_unfiltered (text : TextFunctions) (single : store.SingleTenant)
    (live : store.holds {} source = true) : ∃ found,
      store.findPaths text source.1.value source.2 target.1.value target.2 maxDepth none limit =
          .ok (found.map (store.graphPath source)) ∧ Enumerates store [] source target maxDepth limit found := by
  have named : ∀ node : NodeKey, nodeKey? node.1.value node.2 = some node := fun node => by
    simp [nodeKey?, EntityType.parse_value]
  have present : (store.ownEntity? source).isSome = true := isSome_of_holds live
  have started : (store.ownEntity? source).isNone = false := by simpa using present
  have unfiltered : relationshipTypeSet text none = .ok [] := rfl
  unfold findPaths
  simp only [unfiltered, bind, Except.bind, named, started, Bool.false_or]
  by_cases absent : (store.ownEntity? target).isNone = true
  · rw [if_pos absent]
    refine ⟨[], rfl, by simp, by simp, .nil, fun _ edges path => ?_⟩
    have ends := (path.ends_stored single).2
    rw [Option.isNone_iff_eq_none.mp absent] at ends
    cases ends
  · rw [if_neg absent]
    obtain ⟨found, ended, ascending, pending, frontier, complete⟩ := search_complete single present
    exact ⟨found, ended, enumerates_of_frontier single frontier complete ascending⟩

/-- `find_paths` returns a path exactly where `find_downstream` lists the target, and below the limit the first
one is as long as the shortest walk. -/
theorem findPaths_agrees (text : TextFunctions) (single : store.SingleTenant) (live : store.holds {} source = true)
    (apart : target ≠ source) (positive : 0 < limit) :
    ∃ paths, store.findPaths text source.1.value source.2 target.1.value target.2 maxDepth none limit = .ok paths ∧
      (paths ≠ [] ↔ Lists (store.findDownstream source maxDepth {}) target) ∧
      ∀ first ∈ paths.head?, (paths.length : Int) < limit →
        Distance (store.Leads {} .outgoing) source target first.edges.length := by
  obtain ⟨found, returned, enumerates⟩ : ∃ found,
      store.findPaths text source.1.value source.2 target.1.value target.2 maxDepth none limit =
          .ok (found.map (store.graphPath source)) ∧ Enumerates store [] source target maxDepth limit found :=
    findPaths_unfiltered text single live
  refine ⟨_, returned, ?_, ?_⟩
  · unfold findDownstream
    rw [lists_traverse, ne_eq, map_eq_nil_iff]
    constructor
    · intro nonempty
      obtain ⟨edges, rest, rfl⟩ := exists_cons_of_ne_nil nonempty
      have path := enumerates.sound edges mem_cons_self
      exact ⟨holds_of_walk (path.walk single) live, apart, edges.length, path.nonempty, path.short, path.walk single⟩
    · rintro ⟨-, -, length, -, within, walk⟩ rfl
      obtain ⟨edges, path, -⟩ := exists_path live apart within walk
      exact not_mem_nil (enumerates.complete (by simpa using positive) edges path)
  · intro first head below
    cases found with
    | nil => cases head
    | cons edges rest =>
      cases head
      rw [length_map] at below
      have path := enumerates.sound edges mem_cons_self
      have measured : (store.graphPath source edges).edges.length = edges.length := length_map ..
      rw [measured]
      refine ⟨path.walk single, fun other walk => ?_⟩
      by_contra shorter
      have short := path.short
      obtain ⟨others, shortest, small⟩ := @exists_path store source target maxDepth _ live apart (by omega) walk
      rcases mem_cons.mp (enumerates.complete below others shortest) with rfl | later
      · omega
      · have ordered := rel_of_pairwise_cons enumerates.ascending later
        omega

/-- The prompt and its version are joined. -/
theorem findPaths_agrees_versions : ∃ paths,
    promptAndVersion.findPaths asciiText "Prompt" "prompt-2" "PromptVersion" "version-1" 3 none 10 = .ok paths ∧
      (paths ≠ [] ↔ Lists (promptAndVersion.findDownstream (.prompt, "prompt-2") 3 {}) (.promptVersion, "version-1")) ∧
      ∀ first ∈ paths.head?, (paths.length : Int) < 10 → Distance (promptAndVersion.Leads {} .outgoing)
        (.prompt, "prompt-2") (.promptVersion, "version-1") first.edges.length :=
  @findPaths_agrees promptAndVersion (.prompt, "prompt-2") (.promptVersion, "version-1") 3 10 asciiText
    singleTenant_promptAndVersion (by decide +kernel) (by decide) (by decide)

end AiGovernance.Ontology.GraphStore
