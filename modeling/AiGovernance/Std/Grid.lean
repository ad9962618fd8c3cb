import Mathlib.Order.Bounds.Basic
import Mathlib.Tactic.Ring

/-!
# Grids of integers

The points of a grid lie a positive step apart from an origin on. The last one
at or before a bound has a closed form, follows the bound, and stays the same
until the bound comes to the next point.
-/

namespace AiGovernance.Std.Grid

variable {origin step point bound later : Int}

/-- The points of a grid. -/
def On (origin step point : Int) : Prop := step ∣ point - origin

/-- The last point at or before a bound. -/
def last (origin step bound : Int) : Int := (bound - origin) / step * step + origin

theorem on_last : On origin step (last origin step bound) :=
  ⟨(bound - origin) / step, by unfold last; ring⟩

theorem On.previous (on : On origin step point) : On origin step (point - step) := by
  have shifted : point - step - origin = point - origin - step := by ring
  unfold On
  rw [shifted]
  exact Int.dvd_sub on (Int.dvd_refl step)

variable (positive : 0 < step)

include positive

theorem last_le : last origin step bound ≤ bound := by
  have below := Int.ediv_mul_le (bound - origin) (Int.ne_of_gt positive)
  unfold last
  omega

theorem lt_last_add : bound < last origin step bound + step := by
  have above := Int.lt_ediv_add_one_mul_self (bound - origin) positive
  rw [Int.add_mul, Int.one_mul] at above
  unfold last
  omega

theorem On.le_last (on : On origin step point) (reached : point ≤ bound) : point ≤ last origin step bound := by
  obtain ⟨count, spaced⟩ := on
  have counted : count ≤ (bound - origin) / step :=
    Int.le_ediv_of_mul_le positive (by rw [Int.mul_comm, ← spaced]; omega)
  have scaled := Int.mul_le_mul_of_nonneg_right counted (Int.le_of_lt positive)
  rw [Int.mul_comm count, ← spaced] at scaled
  unfold last
  omega

/-- The closed form is the greatest point at or before the bound. -/
theorem isGreatest_last : IsGreatest {point | On origin step point ∧ point ≤ bound} (last origin step bound) :=
  ⟨⟨on_last, last_le positive⟩, fun _ reached => reached.1.le_last positive reached.2⟩

theorem last_mono (ordered : bound ≤ later) : last origin step bound ≤ last origin step later :=
  on_last.le_last positive (Int.le_trans (last_le positive) ordered)

/-- Two points are the same or a step apart. -/
theorem On.add_le (on : On origin step point) (other : On origin step later) (less : point < later) :
    point + step ≤ later := by
  obtain ⟨count, spaced⟩ := on
  obtain ⟨more, further⟩ := other
  have counted : count < more := Int.lt_of_mul_lt_mul_left (by rw [← spaced, ← further]; omega) (Int.le_of_lt positive)
  have scaled := Int.mul_le_mul_of_nonneg_left counted (Int.le_of_lt positive)
  rw [Int.mul_add, Int.mul_one, ← spaced, ← further] at scaled
  omega

/-- A bound between a point and the next has that point for its last. -/
theorem On.last_eq (on : On origin step point) (reached : point ≤ bound) (before : bound < point + step) :
    last origin step bound = point := by
  refine Int.le_antisymm ?_ (on.le_last positive reached)
  by_contra further
  have next := on.add_le positive on_last (Int.not_le.mp further)
  have own : last origin step bound ≤ bound := last_le positive
  omega

end AiGovernance.Std.Grid
