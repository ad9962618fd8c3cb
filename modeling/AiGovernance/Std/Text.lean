/-!
# Text predicates

The string operations the platform's contracts are written with: blankness
after stripping, bounded identifiers, hexadecimal digests, dotted paths and
zero-padded decimals. All of them work on the character list, so that they
evaluate on literals.
-/

namespace AiGovernance.Std.Text

/-- The characters `str.strip` removes. -/
def isSpace (c : Char) : Bool :=
  let code := c.toNat
  (9 ≤ code && code ≤ 13) || (28 ≤ code && code ≤ 32) || code == 0x85 || code == 0xA0 ||
    code == 0x1680 || (0x2000 ≤ code && code ≤ 0x200A) || code == 0x2028 || code == 0x2029 ||
    code == 0x202F || code == 0x205F || code == 0x3000

/-- `str.strip`. -/
def strip (text : String) : String :=
  String.ofList (((text.toList.dropWhile isSpace).reverse.dropWhile isSpace).reverse)

/-- `int(text)` for decimal digits, optionally signed and grouped by underscores. -/
def parseInt (text : String) : Option Int :=
  match (strip text).toList with
  | '+' :: digits => (String.ofList digits).toNat?.map Int.ofNat
  | _ => (strip text).toInt?

/-- Nothing is left of the text after stripping it. -/
def isBlank (text : String) : Bool := text.toList.all isSpace

/-- An ASCII letter or digit. -/
def isAlphanumeric (c : Char) : Bool :=
  let code := c.toNat
  (48 ≤ code && code ≤ 57) || (65 ≤ code && code ≤ 90) || (97 ≤ code && code ≤ 122)

/-- A character allowed after the first one of an identifier. -/
def isIdentifierTail (c : Char) : Bool :=
  isAlphanumeric c || c == '.' || c == '_' || c == ':' || c == '-'

/-- A full match of `[A-Za-z0-9][A-Za-z0-9._:-]{0,bound}`. -/
def isIdentifier (bound : Nat) (text : String) : Bool :=
  match text.toList with
  | [] => false
  | head :: tail => isAlphanumeric head && tail.all isIdentifierTail && tail.length ≤ bound

/-- A lower-case hexadecimal digit. -/
def isHex (c : Char) : Bool :=
  let code := c.toNat
  (48 ≤ code && code ≤ 57) || (97 ≤ code && code ≤ 102)

/-- A full match of `[0-9a-f]{64}`. -/
def isHexDigest (text : String) : Bool :=
  text.toList.length == 64 && text.toList.all isHex

/-- A full match of `sha256:[0-9a-f]{64}`. -/
def isSha256Digest (text : String) : Bool :=
  let lead := "sha256:".toList
  text.toList.take lead.length == lead && isHexDigest (String.ofList (text.toList.drop lead.length))

/-- `text` begins with `lead`. -/
def startsWith (lead text : String) : Bool := lead.toList.isPrefixOf text.toList

/-- Split at every occurrence of `separator`; the result is never empty. -/
def splitChars (separator : Char) : List Char → List (List Char)
  | [] => [[]]
  | c :: rest =>
    if c = separator then [] :: splitChars separator rest
    else
      match splitChars separator rest with
      | [] => [[c]]
      | segment :: segments => (c :: segment) :: segments

/-- `text.split(separator)` for a one-character separator. -/
def split (separator : Char) (text : String) : List String :=
  (splitChars separator text.toList).map String.ofList

/-- The language's `first or second` on optional text: an empty text counts as absent. -/
def orElse (first second : Option String) : Option String :=
  if first.any (· ≠ "") then first else second

end AiGovernance.Std.Text
