import AiGovernance.Std.Dict

/-!
# Grouping by a key

`grouped` collects the items of one key, groups in the order of their first
items. A list that is made of blocks, one key each and all keys different, is
grouped into its blocks.
-/

namespace AiGovernance.Std

open List

variable {α K : Type} [DecidableEq K]

theorem Dict.set_set {V : Type} (dict : Dict K V) (key : K) (old value : V) :
    (dict.set key old).set key value = dict.set key value := by
  have entries : Dict.write (Dict.write dict.entries key old) key value = Dict.write dict.entries key value := by
    induction dict.entries with
    | nil => simp [Dict.write]
    | cons entry rest ih =>
      obtain ⟨head, kept⟩ := entry
      by_cases same : head = key
      · simp [Dict.write, same]
      · simp [Dict.write, same, ih]
  unfold Dict.set
  congr 1

namespace Grouping

/-- A group: its first item, and the others. -/
abbrev Group (α : Type) := α × List α

/-- The items of a group. -/
def items (group : Group α) : List α := group.1 :: group.2

variable (key : α → K)

/-- The groups with one more item. -/
def gather (groups : Dict K (Group α)) (item : α) : Dict K (Group α) :=
  match groups.get? (key item) with
  | none => groups.set (key item) (item, [])
  | some (first, others) => groups.set (key item) (first, others ++ [item])

/-- The groups of a list. -/
def grouped (list : List α) : List (Group α) := (list.foldl (gather key) .empty).values

variable {key}

/-- Further items of one key go to its group. -/
theorem foldl_gather_rest {groups : Dict K (Group α)} {first : α} {name : K} {rest : List α}
    (alike : ∀ item ∈ rest, key item = name) (others : List α) :
    rest.foldl (gather key) (groups.set name (first, others)) = groups.set name (first, others ++ rest) := by
  induction rest generalizing others with
  | nil => rw [append_nil, foldl_nil]
  | cons item rest ih =>
    have step : gather key (groups.set name (first, others)) item = groups.set name (first, others ++ [item]) := by
      unfold gather
      rw [alike item mem_cons_self, Dict.get?_set_self]
      exact groups.set_set name _ _
    rw [foldl_cons, step, ih fun other member => alike other (mem_cons_of_mem _ member),
      append_assoc, singleton_append]

/-- A block of a new key becomes a group. -/
theorem foldl_gather_block {groups : Dict K (Group α)} {group : Group α}
    (alike : ∀ item ∈ group.2, key item = key group.1) (new : groups.get? (key group.1) = none) :
    (items group).foldl (gather key) groups = groups.set (key group.1) group := by
  unfold items
  rw [foldl_cons]
  have started : gather key groups group.1 = groups.set (key group.1) (group.1, []) := by
    unfold gather
    rw [new]
  rw [started, foldl_gather_rest alike, nil_append]

/-- What is made of blocks is grouped into them. -/
theorem grouped_blocks {blocks : List (Group α)} (alike : ∀ block ∈ blocks, ∀ item ∈ block.2, key item = key block.1)
    (distinct : (blocks.map fun block => key block.1).Nodup) : grouped key (blocks.flatMap items) = blocks := by
  suffices general : ∀ groups : Dict K (Group α), (∀ block ∈ blocks, groups.get? (key block.1) = none) →
      ((blocks.flatMap items).foldl (gather key) groups).values = groups.values ++ blocks by
    exact (general .empty fun _ _ => rfl).trans (nil_append blocks)
  induction blocks with
  | nil => exact fun groups _ => (append_nil _).symm
  | cons block rest ih =>
    intro groups new
    rw [map_cons, nodup_cons] at distinct
    rw [flatMap_cons, foldl_append,
      foldl_gather_block (alike block mem_cons_self) (new block mem_cons_self),
      ih (fun other member => alike other (mem_cons_of_mem _ member)) distinct.2,
      Dict.values_set_of_absent (new block mem_cons_self), append_assoc, singleton_append]
    intro other member
    rw [Dict.get?_set_of_ne, new other (mem_cons_of_mem _ member)]
    intro same
    exact distinct.1 (mem_map.mpr ⟨other, member, same⟩)

end Grouping

end AiGovernance.Std
