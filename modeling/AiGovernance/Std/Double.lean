import Mathlib.Algebra.Group.Nat.Defs
import Mathlib.Data.Rat.Defs
import Mathlib.Tactic.Ring

/-!
# Doubles nearest to integers and quotients

A double has 53 significant bits. The one nearest to an integer keeps its
leading bits, rounding halves to the even neighbour; from `2 ^ 1024` on there is
none. The whole part of the double nearest to a quotient is never past an integer
that the quotient has not reached.
-/

namespace AiGovernance.Std.Double

/-- A number without its last bits, rounded to nearest and halves to even. -/
def roundHalfEven (number shift : Nat) : Nat :=
  let quotient := number / 2 ^ shift
  let remainder := number % 2 ^ shift
  if 2 ^ shift < 2 * remainder ∨ (2 ^ shift = 2 * remainder ∧ quotient % 2 = 1) then quotient + 1 else quotient

/-- The double nearest to a natural number. -/
def ofNat (number : Nat) : Option Nat :=
  let shift := Nat.log2 number - 52
  let rounded := roundHalfEven number shift * 2 ^ shift
  if rounded < 2 ^ 1024 then some rounded else none

/-- `float(number)` of an integer; `none` is an `OverflowError`. -/
def ofInt (number : Int) : Option Rat :=
  (ofNat number.natAbs).map fun rounded => if number < 0 then -(rounded : Rat) else rounded

/-- A quotient rounded to nearest, halves to even. -/
def roundQuotient (number divisor : Nat) : Nat :=
  let quotient := number / divisor
  let remainder := number % divisor
  if divisor < 2 * remainder ∨ (divisor = 2 * remainder ∧ quotient % 2 = 1) then quotient + 1 else quotient

/-- `int(number / divisor)` of a quotient below `2 ^ 53`, its divisor below `2 ^ 52`. -/
def truncated (number divisor : Nat) : Nat :=
  let shift := 52 - Nat.log2 (number / divisor)
  roundQuotient (number * 2 ^ shift) divisor / 2 ^ shift

variable {whole number divisor : Nat}

theorem le_roundQuotient (positive : 0 < divisor) (reached : whole * divisor ≤ number) :
    whole ≤ roundQuotient number divisor := by
  have quotient : whole ≤ number / divisor := (Nat.le_div_iff_mul_le positive).mpr reached
  unfold roundQuotient
  dsimp only
  split <;> omega

theorem roundQuotient_le (positive : 0 < divisor) (bounded : number ≤ whole * divisor) :
    roundQuotient number divisor ≤ whole := by
  unfold roundQuotient
  dsimp only
  by_cases exact : number = whole * divisor
  · rw [exact, Nat.mul_mod_left, Nat.mul_div_cancel whole positive, if_neg (by omega)]
  · have less : number / divisor < whole := (Nat.div_lt_iff_lt_mul positive).mpr (by omega)
    split <;> omega

theorem le_truncated (positive : 0 < divisor) (reached : whole * divisor ≤ number) :
    whole ≤ truncated number divisor := by
  apply (Nat.le_div_iff_mul_le (Nat.two_pow_pos _)).mpr
  apply le_roundQuotient positive
  rw [Nat.mul_right_comm]
  exact Nat.mul_le_mul_right _ reached

theorem truncated_le (positive : 0 < divisor) (bounded : number ≤ whole * divisor) :
    truncated number divisor ≤ whole := by
  refine Nat.div_le_of_le_mul (roundQuotient_le positive ?_)
  rw [Nat.mul_comm (2 ^ _) whole, Nat.mul_right_comm]
  exact Nat.mul_le_mul_right _ bounded

end AiGovernance.Std.Double
