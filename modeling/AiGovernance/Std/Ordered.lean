import Mathlib.Data.List.Sort

/-!
# First elements of sorted lists

What the head of a sorted list and the head of a filtered page of it are, in
terms of the unsorted contents.
-/

namespace AiGovernance.Std.Ordered

open List

variable {α : Type} {rel : α → α → Prop}

/-- `item` is in the list and comes before everything in it. -/
def Leads (rel : α → α → Prop) (items : List α) (item : α) : Prop :=
  item ∈ items ∧ ∀ other ∈ items, rel item other

variable {items : List α}

theorem Leads.of_perm {others : List α} {item : α} (perm : items.Perm others) (leads : Leads rel items item) :
    Leads rel others item :=
  ⟨perm.mem_iff.mp leads.1, fun other member => leads.2 other (perm.mem_iff.mpr member)⟩

/-- Among items the relation tells apart, at most one leads. -/
theorem Leads.unique {first second : α} (left : Leads rel items first) (right : Leads rel items second)
    (antisymm : ∀ a ∈ items, ∀ b ∈ items, rel a b → rel b a → a = b) : first = second :=
  antisymm first left.1 second right.1 (left.2 second right.1) (right.2 first left.1)

variable [DecidableRel rel]

theorem head?_insertionSort_none (head : (items.insertionSort rel).head? = none) : items = [] := by
  have perm := perm_insertionSort rel items
  rw [head?_eq_none_iff.mp head] at perm
  exact nil_perm.mp perm

section Sorted

variable [Std.Total rel] [IsTrans α rel]

theorem head?_insertionSort_leads {items : List α} {item : α}
    (head : (items.insertionSort rel).head? = some item) : Leads rel items item := by
  have sorted := pairwise_insertionSort rel items
  obtain ⟨rest, shape⟩ := head?_eq_some_iff.mp head
  rw [shape, pairwise_cons] at sorted
  have perm := (perm_insertionSort rel items).symm
  rw [shape] at perm
  refine ⟨perm.mem_iff.mpr mem_cons_self, fun other member => ?_⟩
  rcases mem_cons.mp (perm.mem_iff.mp member) with rfl | later
  · exact (Std.Total.total other other).elim id id
  · exact sorted.1 other later

/-- The leading item of the list is the head of the sorted list. -/
theorem head?_insertionSort_of_leads {items : List α} {item : α} (leads : Leads rel items item)
    (antisymm : ∀ a ∈ items, ∀ b ∈ items, rel a b → rel b a → a = b) :
    (items.insertionSort rel).head? = some item := by
  cases head : (items.insertionSort rel).head? with
  | none =>
    rw [head?_insertionSort_none head] at leads
    cases leads.1
  | some found => rw [(head?_insertionSort_leads head).unique leads antisymm]

end Sorted

/-- A page of a sorted list has the first match exactly when fewer items than its
length come before the match. -/
theorem head?_filter_take {keep : α → Bool} {item : α} (size : Nat) (sorted : items.Pairwise rel)
    (reflexive : ∀ a, rel a a) (antisymm : ∀ a ∈ items, ∀ b ∈ items, rel a b → rel b a → a = b) (nodup : items.Nodup)
    (leads : Leads rel (items.filter keep) item) :
    ((items.take size).filter keep).head? =
      if (items.filter fun other => ¬ rel item other).length < size then some item else none := by
  induction items generalizing size with
  | nil => cases leads.1
  | cons first rest ih =>
    rw [pairwise_cons] at sorted
    cases size with
    | zero => simp
    | succ size =>
      by_cases kept : keep first = true
      · -- The first kept item of a sorted list is the leading one.
        have member : first ∈ (first :: rest).filter keep :=
          mem_filter.mpr ⟨mem_cons_self, kept⟩
        have own : item ∈ first :: rest := (mem_filter.mp leads.1).1
        have after : rel first item := by
          rcases mem_cons.mp own with rfl | later
          · exact reflexive item
          · exact sorted.1 item later
        obtain rfl : item = first :=
          antisymm item own first mem_cons_self (leads.2 first member) after
        have none : (item :: rest).filter (fun other => ¬ rel item other) = [] := by
          refine filter_eq_nil_iff.mpr fun other inside => ?_
          rcases mem_cons.mp inside with rfl | later
          · simp [reflexive]
          · simp [sorted.1 other later]
        rw [none]
        simp [kept]
      · rw [filter_cons_of_neg kept] at leads
        have later : item ∈ rest := (mem_filter.mp leads.1).1
        have before : ¬ rel item first := by
          intro back
          have same := antisymm item (mem_cons_of_mem _ later) first mem_cons_self back
            (sorted.1 item later)
          rw [same] at later
          exact (nodup_cons.mp nodup).1 later
        have rest := ih size sorted.2
          (fun a inA b inB => antisymm a (mem_cons_of_mem _ inA) b (mem_cons_of_mem _ inB))
          (nodup_cons.mp nodup).2 leads
        simp only [take_succ_cons]
        rw [filter_cons_of_neg kept, rest, filter_cons_of_pos (by simpa using before),
          length_cons]
        simp only [Nat.add_lt_add_iff_right]

end AiGovernance.Std.Ordered
