import AiGovernance.Std.Text
import Mathlib

/-!
# Decimal texts

A number that was written as text is read back from it.
-/

namespace AiGovernance.Std.Text

theorem isSpace_of_isDigit {c : Char} (digit : c.isDigit = true) : isSpace c = false := by
  simp only [Char.isDigit, Bool.and_eq_true, decide_eq_true_eq] at digit
  have low : 48 ≤ c.toNat := digit.1
  have high : c.toNat ≤ 57 := digit.2
  unfold isSpace
  simp
  omega

theorem isDigit_of_mem_toString {number : Nat} {c : Char} (member : c ∈ (toString number).toList) :
    c.isDigit = true := by
  rw [Nat.toString_eq_repr, Nat.toList_repr] at member
  exact Nat.isDigit_of_mem_toDigits (by decide) (by decide) member

/-- Nothing is stripped from a text without spaces. -/
theorem strip_of_solid {text : String} (solid : ∀ c ∈ text.toList, isSpace c = false) : strip text = text := by
  have kept : ∀ chars : List Char, (∀ c ∈ chars, isSpace c = false) → chars.dropWhile isSpace = chars := by
    intro chars all
    cases chars with
    | nil => rfl
    | cons first rest => simp [all first (by simp)]
  unfold strip
  rw [kept _ solid, kept _ (by simpa using solid)]
  simp

@[simp] theorem parseInt_toString (number : Nat) : parseInt (toString number) = some (number : Int) := by
  have stripped : strip (toString number) = toString number :=
    strip_of_solid fun c member => isSpace_of_isDigit (isDigit_of_mem_toString member)
  unfold parseInt
  rw [stripped]
  split
  · rename_i digits signed
    have plus : Char.isDigit '+' = true := isDigit_of_mem_toString (by rw [signed]; simp)
    cases plus
  · exact Nat.toInt?_repr number

theorem toString_injective {left right : Nat} (same : toString left = toString right) : left = right := by
  have parsed := parseInt_toString left
  rw [same, parseInt_toString] at parsed
  simpa using parsed.symm

end AiGovernance.Std.Text
