import Mathlib.Data.Rat.Defs
import Mathlib.Data.String.Basic

/-!
# JSON-shaped values

The payloads of the platform are trees of JSON objects, arrays and scalars.
Objects are association lists read by first match; integers and finite floats
are kept apart because their serialisations differ. `Json.canonical` identifies
the trees the language compares as equal: object keys in any order, and booleans,
integers and floats by numeric value.
-/

namespace AiGovernance.Std

/-- A tree of JSON objects, arrays and scalars. Floats are finite. -/
inductive Json where
  | null
  | bool (value : Bool)
  | int (value : Int)
  | float (value : Rat)
  | str (value : String)
  | arr (items : List Json)
  | obj (fields : List (String × Json))
deriving Inhabited

namespace Json

mutual

/-- Equality of trees is decided constructor by constructor. -/
def decEq : (left right : Json) → Decidable (left = right)
  | .null, .null => isTrue rfl
  | .bool a, .bool b =>
    if h : a = b then isTrue (by rw [h]) else isFalse (fun equal => h (by cases equal; rfl))
  | .int a, .int b =>
    if h : a = b then isTrue (by rw [h]) else isFalse (fun equal => h (by cases equal; rfl))
  | .float a, .float b =>
    if h : a = b then isTrue (by rw [h]) else isFalse (fun equal => h (by cases equal; rfl))
  | .str a, .str b =>
    if h : a = b then isTrue (by rw [h]) else isFalse (fun equal => h (by cases equal; rfl))
  | .arr a, .arr b =>
    match decEqItems a b with
    | isTrue h => isTrue (by rw [h])
    | isFalse h => isFalse (fun equal => h (by cases equal; rfl))
  | .obj a, .obj b =>
    match decEqFields a b with
    | isTrue h => isTrue (by rw [h])
    | isFalse h => isFalse (fun equal => h (by cases equal; rfl))
  | .null, .bool _ | .null, .int _ | .null, .float _ | .null, .str _ | .null, .arr _
  | .null, .obj _ | .bool _, .null | .bool _, .int _ | .bool _, .float _ | .bool _, .str _
  | .bool _, .arr _ | .bool _, .obj _ | .int _, .null | .int _, .bool _ | .int _, .float _
  | .int _, .str _ | .int _, .arr _ | .int _, .obj _ | .float _, .null | .float _, .bool _
  | .float _, .int _ | .float _, .str _ | .float _, .arr _ | .float _, .obj _ | .str _, .null
  | .str _, .bool _ | .str _, .int _ | .str _, .float _ | .str _, .arr _ | .str _, .obj _
  | .arr _, .null | .arr _, .bool _ | .arr _, .int _ | .arr _, .float _ | .arr _, .str _
  | .arr _, .obj _ | .obj _, .null | .obj _, .bool _ | .obj _, .int _ | .obj _, .float _
  | .obj _, .str _ | .obj _, .arr _ => isFalse (fun equal => by cases equal)

/-- Arrays are equal item by item. -/
def decEqItems : (left right : List Json) → Decidable (left = right)
  | [], [] => isTrue rfl
  | [], _ :: _ => isFalse (fun equal => by cases equal)
  | _ :: _, [] => isFalse (fun equal => by cases equal)
  | a :: as, b :: bs =>
    match decEq a b, decEqItems as bs with
    | isTrue h, isTrue hs => isTrue (by rw [h, hs])
    | isFalse h, _ => isFalse (fun equal => h (by cases equal; rfl))
    | _, isFalse hs => isFalse (fun equal => hs (by cases equal; rfl))

/-- Objects are equal field by field, in order. -/
def decEqFields : (left right : List (String × Json)) → Decidable (left = right)
  | [], [] => isTrue rfl
  | [], _ :: _ => isFalse (fun equal => by cases equal)
  | _ :: _, [] => isFalse (fun equal => by cases equal)
  | (k, a) :: as, (l, b) :: bs =>
    if hk : k = l then
      match decEq a b, decEqFields as bs with
      | isTrue h, isTrue hs => isTrue (by rw [hk, h, hs])
      | isFalse h, _ => isFalse (fun equal => h (by cases equal; rfl))
      | _, isFalse hs => isFalse (fun equal => hs (by cases equal; rfl))
    else isFalse (fun equal => hk (by cases equal; rfl))

end

instance : DecidableEq Json := decEq

/-- Read one field of an object by first match. -/
def field (fields : List (String × Json)) (key : String) : Option Json :=
  match fields with
  | [] => none
  | (other, value) :: rest => if other = key then some value else field rest key

/-- Insert a field into an object whose keys are ascending, replacing an equal key. -/
def insertField (key : String) (value : Json) : List (String × Json) → List (String × Json)
  | [] => [(key, value)]
  | (other, kept) :: rest =>
    if other = key then (key, value) :: rest
    else if key < other then (key, value) :: (other, kept) :: rest
    else (other, kept) :: insertField key value rest

mutual

/-- The representative of a tree under the language's `==`: ascending object
keys, and every number (a boolean is one) as its rational value. -/
def canonical : Json → Json
  | .null => .null
  | .bool value => .float (if value then 1 else 0)
  | .int value => .float value
  | .float value => .float value
  | .str value => .str value
  | .arr items => .arr (canonicalItems items)
  | .obj fields => .obj (canonicalFields fields)

/-- `canonical` on every item of an array. -/
def canonicalItems : List Json → List Json
  | [] => []
  | item :: rest => canonical item :: canonicalItems rest

/-- `canonical` on an object's fields: ascending keys, first binding of a key. -/
def canonicalFields : List (String × Json) → List (String × Json)
  | [] => []
  | (key, value) :: rest => insertField key (canonical value) (canonicalFields rest)

end

mutual

/-- The tree `json.dumps(…, sort_keys=True)` writes: scalars as they are, keys ascending. -/
def sortKeys : Json → Json
  | .arr items => .arr (sortItems items)
  | .obj fields => .obj (sortFields fields)
  | .null => .null
  | .bool value => .bool value
  | .int value => .int value
  | .float value => .float value
  | .str value => .str value

/-- `sortKeys` on every item of an array. -/
def sortItems : List Json → List Json
  | [] => []
  | item :: rest => sortKeys item :: sortItems rest

/-- `sortKeys` on an object's fields. -/
def sortFields : List (String × Json) → List (String × Json)
  | [] => []
  | (key, value) :: rest => insertField key (sortKeys value) (sortFields rest)

end

/-- The language's `==` on values. -/
def same (left right : Json) : Bool := left.canonical = right.canonical

/-- The language's `==` on two dictionaries with string keys. -/
def sameFields (left right : List (String × Json)) : Bool :=
  canonicalFields left = canonicalFields right

mutual

/-- The order the language's `<` decides on canonical values; `none` is a `TypeError`. -/
def order : Json → Json → Option Ordering
  | .float left, .float right => some (if left < right then .lt else if left = right then .eq else .gt)
  | .str left, .str right => some (if left < right then .lt else if left = right then .eq else .gt)
  | .arr left, .arr right => orderItems left right
  | _, _ => none

/-- Arrays compare at their first differing item, then by length. -/
def orderItems : List Json → List Json → Option Ordering
  | [], [] => some .eq
  | [], _ :: _ => some .lt
  | _ :: _, [] => some .gt
  | left :: lefts, right :: rights =>
    if left = right then orderItems lefts rights else order left right

end

/-- Membership `actual in container`; a `TypeError` counts as absent. -/
def contains (container actual : Json) : Bool :=
  match container, actual with
  | .arr items, _ => items.any (same actual)
  | .obj fields, .str key => (field fields key).isSome
  | .str text, .str part => text.toList.tails.any (part.toList.isPrefixOf ·)
  | _, _ => false

@[simp] theorem field_nil (key : String) : field [] key = none := rfl

@[simp] theorem field_cons (key other : String) (value : Json) (rest : List (String × Json)) :
    field ((other, value) :: rest) key = if other = key then some value else field rest key := rfl

theorem field_insertField (fields : List (String × Json)) (key other : String) (value : Json) :
    field (insertField key value fields) other =
      if key = other then some value else field fields other := by
  induction fields with
  | nil => rfl
  | cons entry rest ih =>
    obtain ⟨head, kept⟩ := entry
    simp only [insertField]
    split
    · rename_i same
      subst same
      by_cases equal : head = other
      · simp [equal]
      · simp [equal]
    · split
      · rfl
      · rename_i different _
        rw [field_cons, ih, field_cons]
        by_cases equal : head = other
        · subst equal
          simp [Ne.symm different]
        · simp [equal]

/-- Reading a canonical object is reading the object and canonicalising the value. -/
theorem field_canonicalFields (fields : List (String × Json)) (key : String) :
    field (canonicalFields fields) key = (field fields key).map canonical := by
  induction fields with
  | nil => rfl
  | cons entry rest ih =>
    obtain ⟨head, value⟩ := entry
    rw [canonicalFields, field_insertField, field_cons, ih]
    split <;> rfl

/-- Reading an object with ascending keys is reading the object and sorting the value's keys. -/
theorem field_sortFields (fields : List (String × Json)) (key : String) :
    field (sortFields fields) key = (field fields key).map sortKeys := by
  induction fields with
  | nil => rfl
  | cons entry rest ih =>
    obtain ⟨head, value⟩ := entry
    rw [sortFields, field_insertField, field_cons, ih]
    split <;> rfl

theorem insertField_insertField (key : String) (value other : Json) (fields : List (String × Json)) :
    insertField key value (insertField key other fields) = insertField key value fields := by
  induction fields with
  | nil => simp [insertField]
  | cons entry rest ih =>
    obtain ⟨head, kept⟩ := entry
    simp only [insertField]
    split
    · simp [insertField]
    · split
      · simp [insertField]
      · rename_i different later
        simp only [insertField, if_neg different, if_neg later, ih]

theorem insertField_comm_of_lt {first second : String} (order : first < second) (left right : Json)
    (fields : List (String × Json)) :
    insertField first left (insertField second right fields) =
      insertField second right (insertField first left fields) := by
  have apart : first ≠ second := ne_of_lt order
  induction fields with
  | nil => simp only [insertField, if_neg apart, if_neg apart.symm, if_pos order, if_neg order.asymm]
  | cons entry rest ih =>
    obtain ⟨head, kept⟩ := entry
    rcases lt_trichotomy head first with before | rfl | after
    · have notFirst : head ≠ first := ne_of_lt before
      have notSecond : head ≠ second := ne_of_lt (before.trans order)
      simp only [insertField, if_neg notFirst, if_neg notSecond, if_neg before.asymm,
        if_neg (before.trans order).asymm, ih]
    · simp only [insertField, if_neg apart, if_neg order.asymm, if_true]
    · have notFirst : head ≠ first := ne_of_gt after
      simp only [insertField, if_neg notFirst, if_pos after]
      split
      · simp only [insertField, if_neg apart.symm, if_pos order, if_neg order.asymm]
      · split
        · simp only [insertField, if_neg apart.symm, if_pos order, if_neg order.asymm]
        · simp only [insertField, if_neg notFirst, if_pos after, if_neg order.asymm]

theorem insertField_comm {first second : String} (apart : first ≠ second) (left right : Json)
    (fields : List (String × Json)) :
    insertField first left (insertField second right fields) =
      insertField second right (insertField first left fields) := by
  rcases lt_or_gt_of_ne apart with order | order
  · exact insertField_comm_of_lt order left right fields
  · exact (insertField_comm_of_lt order right left fields).symm

/-- A normal form built by inserting field by field does not depend on where a field was inserted. -/
theorem normal_insertField {normal : Json → Json} {normalFields : List (String × Json) → List (String × Json)}
    (nil : normalFields [] = [])
    (cons : ∀ key value rest, normalFields ((key, value) :: rest) = insertField key (normal value) (normalFields rest))
    (key : String) (value : Json) (fields : List (String × Json)) :
    normalFields (insertField key value fields) = insertField key (normal value) (normalFields fields) := by
  induction fields with
  | nil => rw [insertField, cons, nil]
  | cons entry rest ih =>
    obtain ⟨head, kept⟩ := entry
    rw [insertField, cons]
    split
    · rename_i same
      rw [cons, same, insertField_insertField]
    · rename_i different
      split
      · rw [cons, cons]
      · rw [cons, ih, insertField_comm different]

mutual

theorem canonical_sortKeys : (value : Json) → canonical (sortKeys value) = canonical value
  | .null | .bool _ | .int _ | .float _ | .str _ => rfl
  | .arr items => congrArg Json.arr (canonicalItems_sortItems items)
  | .obj fields => congrArg Json.obj (canonicalFields_sortFields fields)

theorem canonicalItems_sortItems : (items : List Json) → canonicalItems (sortItems items) = canonicalItems items
  | [] => rfl
  | item :: rest => by
    rw [sortItems, canonicalItems, canonicalItems, canonical_sortKeys item, canonicalItems_sortItems rest]

theorem canonicalFields_sortFields :
    (fields : List (String × Json)) → canonicalFields (sortFields fields) = canonicalFields fields
  | [] => rfl
  | (key, value) :: rest => by
    rw [sortFields, @normal_insertField canonical canonicalFields rfl (fun _ _ _ => rfl), canonicalFields, canonical_sortKeys value,
      canonicalFields_sortFields rest]

end

mutual

theorem sortKeys_sortKeys : (value : Json) → sortKeys (sortKeys value) = sortKeys value
  | .null | .bool _ | .int _ | .float _ | .str _ => rfl
  | .arr items => congrArg Json.arr (sortItems_sortItems items)
  | .obj fields => congrArg Json.obj (sortFields_sortFields fields)

theorem sortItems_sortItems : (items : List Json) → sortItems (sortItems items) = sortItems items
  | [] => rfl
  | item :: rest => by
    rw [sortItems, sortItems, sortKeys_sortKeys item, sortItems_sortItems rest]

theorem sortFields_sortFields : (fields : List (String × Json)) → sortFields (sortFields fields) = sortFields fields
  | [] => rfl
  | (key, value) :: rest => by
    rw [sortFields, @normal_insertField sortKeys sortFields rfl (fun _ _ _ => rfl), sortKeys_sortKeys value, sortFields_sortFields rest]

end

@[simp] theorem sameFields_self (fields : List (String × Json)) : sameFields fields fields = true := by
  simp [sameFields]

/-- Equal dictionaries agree on every key up to `canonical`. -/
theorem field_of_sameFields {left right : List (String × Json)}
    (equal : sameFields left right = true) (key : String) :
    (field left key).map canonical = (field right key).map canonical := by
  simp only [sameFields, decide_eq_true_eq] at equal
  rw [← field_canonicalFields, ← field_canonicalFields, equal]

/-- Text is its own representative, and nothing else has it. -/
theorem canonical_eq_str_iff {value : Json} {text : String} :
    canonical value = .str text ↔ value = .str text := by
  cases value <;> simp [canonical]

end Json

end AiGovernance.Std
