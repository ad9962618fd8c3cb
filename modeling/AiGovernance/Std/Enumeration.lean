import Mathlib.Data.List.Infix
import Mathlib.Data.List.Nodup
import Mathlib.Data.List.Perm.Basic

/-!
# Enumeration by prefixes

A search for words keeps a frontier of prefixes that stand for their extensions.
`Frontier` is its invariant: no prefix of the frontier extends another, and every
goal is found or extends one of them. It is kept when a prefix is expanded by
letters, dropped because no goal extends it, or collected because it is the only
goal that does; over an empty frontier the goals have been found, each once.
`Layered` is the invariant of a search that goes by length.
-/

namespace AiGovernance.Std.Enumeration

open List

variable {E : Type} {goal : List E → Prop} {pending found : List (List E)}

/-- The invariant of a search for the words that are goals. -/
structure Frontier (goal : List E → Prop) (pending found : List (List E)) : Prop where
  distinct : pending.Nodup
  apart : ∀ left ∈ pending, ∀ right ∈ pending, left <+: right → left = right
  past : ∀ word ∈ found, ∀ opened ∈ pending, ¬ opened <+: word
  once : found.Nodup
  sound : ∀ word ∈ found, goal word
  complete : ∀ word, goal word → word ∈ found ∨ ∃ opened ∈ pending, opened <+: word

namespace Frontier

theorem init : Frontier goal [[]] [] where
  distinct := nodup_singleton _
  apart left among right member _ := by rw [mem_singleton.mp among, mem_singleton.mp member]
  past _ member := absurd member not_mem_nil
  once := nodup_nil
  sound _ member := absurd member not_mem_nil
  complete word _ := Or.inr ⟨[], mem_singleton.mpr rfl, nil_prefix⟩

theorem perm (frontier : Frontier goal pending found) {others : List (List E)} (same : pending.Perm others) :
    Frontier goal others found where
  distinct := same.nodup_iff.mp frontier.distinct
  apart left among right member := frontier.apart left (same.mem_iff.mpr among) right (same.mem_iff.mpr member)
  past word member opened among := frontier.past word member opened (same.mem_iff.mpr among)
  once := frontier.once
  sound := frontier.sound
  complete word meets := by
    rcases frontier.complete word meets with member | ⟨opened, among, leads⟩
    · exact Or.inl member
    · exact Or.inr ⟨opened, same.mem_iff.mp among, leads⟩

variable {front : List E}

theorem tail (frontier : Frontier goal (front :: pending) found) :
    front ∉ pending ∧ pending.Nodup ∧ (∀ other ∈ pending, ¬ front <+: other) ∧ ∀ other ∈ pending, ¬ other <+: front := by
  obtain ⟨fresh, distinct⟩ := nodup_cons.mp frontier.distinct
  refine ⟨fresh, distinct, fun other among leads => ?_, fun other among leads => ?_⟩
  · have same := frontier.apart front mem_cons_self other (mem_cons_of_mem _ among) leads
    exact fresh (same ▸ among)
  · have same := frontier.apart other (mem_cons_of_mem _ among) front mem_cons_self leads
    exact fresh (same ▸ among)

theorem discard (frontier : Frontier goal (front :: pending) found) (dead : ∀ word, goal word → ¬ front <+: word) :
    Frontier goal pending found where
  distinct := frontier.tail.2.1
  apart left among right member := frontier.apart left (mem_cons_of_mem _ among) right (mem_cons_of_mem _ member)
  past word member opened among := frontier.past word member opened (mem_cons_of_mem _ among)
  once := frontier.once
  sound := frontier.sound
  complete word meets := by
    rcases frontier.complete word meets with member | ⟨opened, among, leads⟩
    · exact Or.inl member
    · rcases mem_cons.mp among with rfl | among
      · exact absurd leads (dead word meets)
      · exact Or.inr ⟨opened, among, leads⟩

/-- A prefix that is the only goal to extend it is found. -/
theorem collect (frontier : Frontier goal (front :: pending) found) (meets : goal front)
    (only : ∀ word, goal word → front <+: word → word = front) : Frontier goal pending (found ++ [front]) where
  distinct := frontier.tail.2.1
  apart left among right member := frontier.apart left (mem_cons_of_mem _ among) right (mem_cons_of_mem _ member)
  past word member opened among := by
    rcases mem_append.mp member with member | last
    · exact frontier.past word member opened (mem_cons_of_mem _ among)
    · rw [mem_singleton.mp last]
      exact frontier.tail.2.2.2 opened among
  once := by
    have fresh : front ∉ found := fun member =>
      frontier.past front member front mem_cons_self (prefix_refl front)
    rw [nodup_append]
    refine ⟨frontier.once, nodup_singleton _, fun word member last among => ?_⟩
    rw [mem_singleton.mp among]
    rintro rfl
    exact fresh member
  sound word member := by
    rcases mem_append.mp member with member | last
    · exact frontier.sound word member
    · rw [mem_singleton.mp last]
      exact meets
  complete word reaches := by
    rcases frontier.complete word reaches with member | ⟨opened, among, leads⟩
    · exact Or.inl (mem_append_left _ member)
    · rcases mem_cons.mp among with rfl | among
      · rw [only word reaches leads]
        exact Or.inl (mem_append_right _ (mem_singleton.mpr rfl))
      · exact Or.inr ⟨opened, among, leads⟩

/-- Where a goal may go on from a prefix only by some letters, these take its place. -/
theorem expand (frontier : Frontier goal (front :: pending) found) {letters : List E} (distinct : letters.Nodup)
    (onward : ∀ word, goal word → front <+: word → ∃ letter ∈ letters, front ++ [letter] <+: word) :
    Frontier goal (pending ++ letters.map fun letter => front ++ [letter]) found := by
  obtain ⟨-, others, notBelow, notAbove⟩ := frontier.tail
  have injective : Function.Injective fun letter => front ++ [letter] := fun left right same =>
    singleton_inj.mp (append_cancel_left same)
  have incomparable : ∀ other ∈ pending, ∀ letter, ¬ other <+: front ++ [letter] ∧ ¬ front ++ [letter] <+: other := by
    intro other among letter
    constructor
    · intro leads
      rcases prefix_concat_iff.mp leads with rfl | leads
      · exact notBelow _ among (prefix_append front [letter])
      · exact notAbove other among leads
    · exact fun leads => notBelow other among ((prefix_append front [letter]).trans leads)
  constructor
  · rw [nodup_append]
    refine ⟨others, distinct.map injective, fun other among extended member => ?_⟩
    obtain ⟨letter, -, rfl⟩ := mem_map.mp member
    rintro rfl
    exact (incomparable _ among letter).1 (prefix_refl _)
  · intro left among right member leads
    rcases mem_append.mp among with among | among <;> rcases mem_append.mp member with member | member
    · exact frontier.apart left (mem_cons_of_mem _ among) right (mem_cons_of_mem _ member) leads
    · obtain ⟨letter, -, rfl⟩ := mem_map.mp member
      exact absurd leads (incomparable left among letter).1
    · obtain ⟨letter, -, rfl⟩ := mem_map.mp among
      exact absurd leads (incomparable right member letter).2
    · obtain ⟨first, -, rfl⟩ := mem_map.mp among
      obtain ⟨second, -, rfl⟩ := mem_map.mp member
      exact leads.eq_of_length (by simp)
  · intro word member opened among leads
    rcases mem_append.mp among with among | among
    · exact frontier.past word member opened (mem_cons_of_mem _ among) leads
    · obtain ⟨letter, -, rfl⟩ := mem_map.mp among
      exact frontier.past word member front mem_cons_self ((prefix_append front [letter]).trans leads)
  · exact frontier.once
  · exact frontier.sound
  · intro word meets
    rcases frontier.complete word meets with member | ⟨opened, among, leads⟩
    · exact Or.inl member
    · rcases mem_cons.mp among with rfl | among
      · obtain ⟨letter, member, further⟩ := onward word meets leads
        exact Or.inr ⟨_, mem_append_right _ (mem_map_of_mem member), further⟩
      · exact Or.inr ⟨opened, mem_append_left _ among, leads⟩

theorem mem_found_iff (frontier : Frontier goal [] found) {word : List E} : word ∈ found ↔ goal word :=
  ⟨frontier.sound word, fun meets => (frontier.complete word meets).resolve_right (by simp)⟩

end Frontier

/-- The invariant of a search by length: the prefixes that wait are of one length or one letter
longer, the shorter ones first, and nothing that is found is longer. -/
structure Layered (level : Nat) (queue found : List (List E)) : Prop where
  ascending : queue.Pairwise fun left right => left.length ≤ right.length
  near : ∀ word ∈ queue, level ≤ word.length ∧ word.length ≤ level + 1
  sorted : found.Pairwise fun left right => left.length ≤ right.length
  reached : ∀ word ∈ found, word.length ≤ level + 1

namespace Layered

variable {level : Nat} {queue : List (List E)} {word : List E}

theorem init : Layered 0 [([] : List E)] [] where
  ascending := pairwise_singleton _ _
  near word member := by simp [mem_singleton.mp member]
  sorted := List.Pairwise.nil
  reached _ member := absurd member not_mem_nil

theorem pop (layered : Layered level (word :: queue) found) : Layered word.length queue found := by
  obtain ⟨below, ascending⟩ := pairwise_cons.mp layered.ascending
  have front := layered.near word mem_cons_self
  refine ⟨ascending, fun other member => ⟨below other member, ?_⟩, layered.sorted, fun other member => ?_⟩
  · have near := layered.near other (mem_cons_of_mem _ member)
    omega
  · have near := layered.reached other member
    omega

/-- A prefix one letter longer may wait. -/
theorem push (layered : Layered level queue found) (next : word.length = level + 1) :
    Layered level (queue ++ [word]) found := by
  refine ⟨?_, fun other member => ?_, layered.sorted, layered.reached⟩
  · rw [pairwise_append]
    refine ⟨layered.ascending, pairwise_singleton _ _, fun other member last among => ?_⟩
    rw [mem_singleton.mp among, next]
    exact (layered.near other member).2
  · rcases mem_append.mp member with member | last
    · exact layered.near other member
    · rw [mem_singleton.mp last]
      omega

/-- A word one letter longer may be found. -/
theorem collect (layered : Layered level queue found) (next : word.length = level + 1) :
    Layered level queue (found ++ [word]) := by
  refine ⟨layered.ascending, layered.near, ?_, fun other member => ?_⟩
  · rw [pairwise_append]
    refine ⟨layered.sorted, pairwise_singleton _ _, fun other member last among => ?_⟩
    rw [mem_singleton.mp among, next]
    exact layered.reached other member
  · rcases mem_append.mp member with member | last
    · exact layered.reached other member
    · rw [mem_singleton.mp last, next]

end Layered

end AiGovernance.Std.Enumeration
