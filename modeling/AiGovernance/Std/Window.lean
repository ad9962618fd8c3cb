import Mathlib.Data.List.Basic

/-!
# Pages of a list

A page is cut from a list by the slice `[start:stop]` of the language, whose
negative bounds count from the end, or by `LIMIT` and `OFFSET`, where a negative
limit is none and a negative offset is zero. Both only look at positions, so
they agree on a list exactly when they agree on its indices.
-/

namespace AiGovernance.Std.Window

variable {α β : Type}

/-- `items[start:stop]`. -/
def slice (start stop : Int) (items : List α) : List α :=
  let bound (index : Int) : Nat := (if index < 0 then items.length + index else index).toNat
  (items.take (bound stop)).drop (bound start)

/-- `LIMIT limit OFFSET offset`. -/
def limitOffset (limit offset : Int) (items : List α) : List α :=
  if limit < 0 then items.drop offset.toNat else (items.drop offset.toNat).take limit.toNat

variable (image : α → β) (items : List α)

theorem map_slice (start stop : Int) : (slice start stop items).map image = slice start stop (items.map image) := by
  unfold slice
  rw [List.map_drop, List.map_take, List.length_map]

theorem map_limitOffset (limit offset : Int) :
    (limitOffset limit offset items).map image = limitOffset limit offset (items.map image) := by
  unfold limitOffset
  by_cases unlimited : limit < 0
  · rw [if_pos unlimited, if_pos unlimited, List.map_drop]
  · rw [if_neg unlimited, if_neg unlimited, List.map_take, List.map_drop]

/-- The two cut one page from a list of the length. -/
def Agree (offset limit : Int) (length : Nat) : Prop :=
  slice offset (offset + limit) (List.range length) = limitOffset limit offset (List.range length)

variable {items}

theorem Agree.slice_eq {offset limit : Int} (agree : Agree offset limit items.length) :
    slice offset (offset + limit) items = limitOffset limit offset items := by
  cases items with
  | nil =>
    unfold slice limitOffset
    simp
  | cons first rest =>
    -- The list is the image of its indices.
    have indexed : (List.range (first :: rest).length).map (fun index => (first :: rest).getD index first) =
        first :: rest := by
      apply List.ext_getElem
      · simp
      · intro index bound other
        simp [List.getD_eq_getElem?_getD, List.getElem?_eq_getElem other]
    have same := congrArg (List.map fun index => (first :: rest).getD index first) agree
    rw [map_slice, map_limitOffset, indexed] at same
    exact same

/-- Bounds that are not negative cut the same page. -/
theorem agree_of_nonneg {offset limit : Int} (fromStart : 0 ≤ offset) (limited : 0 ≤ limit) (length : Nat) :
    Agree offset limit length := by
  unfold Agree slice limitOffset
  dsimp only
  rw [if_neg (by omega), if_neg (by omega), if_neg (by omega), List.drop_take]
  congr 1
  omega

end AiGovernance.Std.Window
