import Mathlib.Data.List.Basic
import Mathlib.Data.Nat.Find
import Mathlib.Order.Bounds.Defs

/-!
# Breadth-first search

Walks of a relation with their length, and the invariant of a search that labels
what it reaches with the depth it reached it at. `Explored` is kept by labelling
a successor of the front of the queue and by dropping a front whose successors
are all labelled. Under it every label is a distance, also in the middle of the
search, and a search that has emptied its queue has labelled all that is within
its depth.
-/

namespace AiGovernance.Std.Search

open List

variable {V : Type} {step : V → V → Prop}

/-- A walk of so many steps. -/
inductive Walk (step : V → V → Prop) : Nat → V → V → Prop where
  | here (vertex : V) : Walk step 0 vertex vertex
  | onward {length : Nat} {first middle last : V} (walk : Walk step length first middle)
      (next : step middle last) : Walk step (length + 1) first last

/-- The length of the shortest walk. -/
def Distance (step : V → V → Prop) (first last : V) (length : Nat) : Prop :=
  IsLeast {length | Walk step length first last} length

namespace Walk

variable {length : Nat} {first last : V}

theorem eq_of_zero (walk : Walk step 0 first last) : first = last := by
  cases walk
  rfl

theorem cons {middle : V} (next : step first middle) (walk : Walk step length middle last) :
    Walk step (length + 1) first last := by
  induction walk with
  | here => exact .onward (.here first) next
  | onward _ further ih => exact .onward (ih next) further

/-- A walk may be gone back when every step can be, which may need that it starts at a vertex
one may come to. -/
theorem reverse {other : V → V → Prop} (stands : V → Prop) (back : ∀ {left right}, stands left → step left right →
      other right left ∧ stands right) (from' : stands first) (walk : Walk step length first last) :
    Walk other length last first ∧ stands last := by
  induction walk with
  | here => exact ⟨.here _, from'⟩
  | onward _ next ih =>
    obtain ⟨returned, stood⟩ := ih from'
    obtain ⟨returns, stays⟩ := back stood next
    exact ⟨.cons returns returned, stays⟩

end Walk

/-- What is reached in at most so many steps is at a distance. -/
theorem exists_distance {length : Nat} {first last : V} (walk : Walk step length first last) :
    ∃ least ≤ length, Distance step first last least := by
  classical
  have reached : ∃ length, Walk step length first last := ⟨length, walk⟩
  exact ⟨Nat.find reached, Nat.find_min' reached walk, Nat.find_spec reached, fun _ other => Nat.find_min' reached other⟩

/-- The invariant of a search up to a depth, with the labels given and the vertices to come. -/
structure Explored (step : V → V → Prop) (depth : Int) (start : V) (label : V → Option Nat)
    (queue : List (V × Nat)) : Prop where
  started : label start = some 0
  walks : ∀ {vertex length}, label vertex = some length → Walk step length start vertex
  labelled : ∀ entry ∈ queue, label entry.1 = some entry.2
  ascending : queue.Pairwise fun left right => left.2 ≤ right.2
  /-- No label is further than one step beyond the front. -/
  near : ∀ front ∈ queue.head?, ∀ {vertex length}, label vertex = some length → length ≤ front.2 + 1
  /-- The successors of what is off the queue are labelled. -/
  closed : ∀ {vertex length}, label vertex = some length → (length : Int) < depth → (vertex, length) ∉ queue →
    ∀ {next}, step vertex next → ∃ further ≤ length + 1, label next = some further
  shallow : ∀ {vertex length}, label vertex = some length → length ≠ 0 → (length : Int) ≤ depth

namespace Explored

variable {depth : Int} {start : V} {label : V → Option Nat} {queue : List (V × Nat)}

theorem init [DecidableEq V] :
    Explored step depth start (fun vertex => if vertex = start then some 0 else none) [(start, 0)] where
  started := if_pos rfl
  walks := by
    intro vertex length labelled
    split at labelled
    · rename_i same
      cases labelled
      subst same
      exact .here vertex
    · cases labelled
  labelled := by simp
  ascending := pairwise_singleton _ _
  near := by
    intro front _ vertex length labelled
    split at labelled
    · cases labelled
      exact Nat.zero_le _
    · cases labelled
  closed := by
    intro vertex length labelled _ absent
    split at labelled
    · rename_i same
      cases labelled
      exact absurd (mem_singleton.mpr (by rw [same])) absent
    · cases labelled
  shallow := by
    intro vertex length labelled positive
    split at labelled
    · cases labelled
      exact absurd rfl positive
    · cases labelled

theorem discover {front next : V} {reached : Nat} {rest : List (V × Nat)} {after : V → Option Nat}
    (explored : Explored step depth start label ((front, reached) :: rest)) (onto : step front next)
    (within : (reached : Int) < depth) (fresh : label next = none) (added : after next = some (reached + 1))
    (kept : ∀ vertex, vertex ≠ next → after vertex = label vertex) :
    Explored step depth start after ((front, reached) :: (rest ++ [(next, reached + 1)])) := by
  have still : ∀ {vertex length}, label vertex = some length → after vertex = some length := by
    intro vertex length labelled
    rw [kept vertex fun same => by rw [same, fresh] at labelled; cases labelled]
    exact labelled
  have apart : ∀ {vertex length}, after vertex = some length →
      (vertex = next ∧ length = reached + 1) ∨ label vertex = some length := by
    intro vertex length labelled
    by_cases same : vertex = next
    · subst same
      exact Or.inl ⟨rfl, (Option.some.inj (added.symm.trans labelled)).symm⟩
    · exact Or.inr ((kept vertex same).symm.trans labelled)
  have own := explored.labelled (front, reached) mem_cons_self
  have bound : ∀ {vertex length}, label vertex = some length → length ≤ reached + 1 :=
    explored.near (front, reached) rfl
  constructor
  · exact still explored.started
  · intro vertex length labelled
    rcases apart labelled with ⟨rfl, rfl⟩ | before
    · exact .onward (explored.walks own) onto
    · exact explored.walks before
  · intro entry member
    rw [← cons_append] at member
    rcases mem_append.mp member with member | member
    · exact still (explored.labelled entry member)
    · rw [mem_singleton.mp member]
      exact added
  · rw [← cons_append, pairwise_append]
    refine ⟨explored.ascending, pairwise_singleton _ _, fun entry member last among => ?_⟩
    rw [mem_singleton.mp among]
    exact bound (explored.labelled entry member)
  · intro head first vertex length labelled
    cases Option.some.inj first
    rcases apart labelled with ⟨rfl, rfl⟩ | before
    · exact Nat.le_refl _
    · exact bound before
  · intro vertex length labelled less absent other leads
    rw [← cons_append, mem_append, not_or] at absent
    rcases apart labelled with ⟨rfl, rfl⟩ | before
    · exact absurd (mem_singleton.mpr rfl) absent.2
    · obtain ⟨further, least, known⟩ := explored.closed before less absent.1 leads
      exact ⟨further, least, still known⟩
  · intro vertex length labelled positive
    rcases apart labelled with ⟨rfl, rfl⟩ | before
    · omega
    · exact explored.shallow before positive

/-- The front leaves the queue once its successors are labelled, or when it is as deep as the
search goes. -/
theorem drop {front : V} {reached : Nat} {rest : List (V × Nat)}
    (explored : Explored step depth start label ((front, reached) :: rest))
    (known : (reached : Int) < depth → ∀ next, step front next → (label next).isSome = true) :
    Explored step depth start label rest := by
  obtain ⟨below, ascending⟩ := pairwise_cons.mp explored.ascending
  refine ⟨explored.started, explored.walks, fun entry member => explored.labelled entry (mem_cons_of_mem _ member),
    ascending, ?_, ?_, explored.shallow⟩
  · intro head first vertex length labelled
    have member : head ∈ rest := mem_of_head? first
    have close := explored.near (front, reached) rfl labelled
    exact Nat.le_trans close (Nat.succ_le_succ (below head member))
  · intro vertex length labelled less absent next leads
    by_cases same : (vertex, length) = (front, reached)
    · cases same
      obtain ⟨further, found⟩ := Option.isSome_iff_exists.mp (known less next leads)
      exact ⟨further, explored.near (front, reached) rfl found, found⟩
    · exact explored.closed labelled less (fun member => (mem_cons.mp member).elim same absent) leads

variable {length : Nat} {vertex : V}

/-- What is fewer steps away than the front, and within the depth, is labelled. -/
theorem covers (explored : Explored step depth start label queue) (walk : Walk step length start vertex)
    (within : (length : Int) ≤ depth) (before : ∀ front ∈ queue.head?, length ≤ front.2) :
    ∃ least ≤ length, label vertex = some least := by
  induction walk with
  | here => exact ⟨0, Nat.le_refl 0, explored.started⟩
  | @onward length first middle last walk next ih =>
    obtain ⟨least, small, found⟩ := ih explored (by omega)
      fun front head => by have := before front head; omega
    have absent : (middle, least) ∉ queue := by
      intro member
      cases shape : queue with
      | nil => rw [shape] at member; cases member
      | cons front rest =>
        have far := before front (by rw [shape]; rfl)
        rw [shape] at member
        rcases mem_cons.mp member with same | among
        · rw [← same] at far
          omega
        · have ascending := explored.ascending
          rw [shape] at ascending
          have later := (pairwise_cons.mp ascending).1 _ among
          omega
    obtain ⟨further, close, known⟩ := explored.closed found (by omega) absent next
    exact ⟨further, by omega, known⟩

theorem distance (explored : Explored step depth start label queue) (labelled : label vertex = some length) :
    Distance step start vertex length := by
  refine ⟨explored.walks labelled, fun shorter walk => ?_⟩
  by_contra less
  have less : shorter < length := Nat.lt_of_not_le less
  have shallow := explored.shallow labelled (by omega)
  obtain ⟨least, small, known⟩ := explored.covers walk (by omega) fun front head => by
    have := explored.near front head labelled
    omega
  rw [labelled] at known
  cases known
  omega

theorem complete (explored : Explored step depth start label []) :
    label vertex = some length ↔ Distance step start vertex length ∧ (length = 0 ∨ (length : Int) ≤ depth) := by
  constructor
  · intro labelled
    refine ⟨explored.distance labelled, ?_⟩
    by_cases zero : length = 0
    · exact Or.inl zero
    · exact Or.inr (explored.shallow labelled zero)
  · rintro ⟨⟨walk, least⟩, rfl | within⟩
    · rw [← walk.eq_of_zero]
      exact explored.started
    · obtain ⟨shortest, small, known⟩ := explored.covers walk within nofun
      have same := Nat.le_antisymm small (least (explored.walks known))
      rw [← same]
      exact known

end Explored

end AiGovernance.Std.Search
