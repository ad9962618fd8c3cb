import Mathlib.Data.List.Infix

/-!
# Pattern matching by `LIKE`

`text LIKE pattern` without an escape: a percent sign stands for any characters,
an underscore for any one, and letters of the ASCII alphabet match in either
case.
-/

namespace AiGovernance.Std.Like

/-- A symbol of a pattern other than the percent sign matches the first character, and the rest matches what follows. -/
def matchesFirst (symbol : Char) (rest : List Char → Bool) : List Char → Bool
  | [] => false
  | character :: others => (symbol = '_' || symbol.toLower = character.toLower) && rest others

/-- `LIKE` on characters. -/
def matchesChars : (pattern text : List Char) → Bool
  | [], text => text.isEmpty
  | symbol :: pattern, text =>
    if symbol = '%' then text.tails.any (matchesChars pattern) else matchesFirst symbol (matchesChars pattern) text

/-- `text LIKE pattern`. -/
def like (pattern text : String) : Bool := matchesChars pattern.toList text.toList

end AiGovernance.Std.Like
