import AiGovernance.Domain.AgentExecution
import Mathlib.Data.List.DropRight

/-!
# Settings

The definitions, contexts and records of `settings_control/domain.py`, and the
value parser of `settings_control/registry.py`. Values are any values of the
language; what the language does with them is a parameter.
-/

namespace AiGovernance.Settings

open AiGovernance.Std Domain

/-- What the language does with values: type tests, `str`, `int`, `float`, `json.loads` and `str.lower`. -/
structure Conversions (V : Type) where
  text? : V → Option String
  ofText : String → V
  bool? : V → Option Bool
  ofBool : Bool → V
  str : V → String
  int : V → Except Raised V
  float : V → Except Raised V
  loads : String → Except Raised V
  lower : String → String
  text_ofText : ∀ text, text? (ofText text) = some text
  bool_ofBool : ∀ value, bool? (ofBool value) = some value
  str_ofText : ∀ text, str (ofText text) = text
  int_int : ∀ {value whole}, int value = .ok whole → int whole = .ok whole
  float_float : ∀ {value number}, float value = .ok number → float number = .ok number
  lower_strip : ∀ text, lower (Text.strip (lower (Text.strip text))) = lower (Text.strip text)

namespace Conversions

variable {V : Type} (conversions : Conversions V)

/-- `str(value).strip().lower()`. -/
def normalized (value : V) : String := conversions.lower (Text.strip (conversions.str value))

theorem normalized_ofText (value : V) :
    conversions.normalized (conversions.ofText (conversions.normalized value)) = conversions.normalized value := by
  unfold normalized
  rw [conversions.str_ofText]
  exact conversions.lower_strip _

theorem strip_strip (text : String) : Text.strip (Text.strip text) = Text.strip text := by
  have stripped : ∀ text : String, Text.strip text =
      String.ofList ((text.toList.dropWhile Text.isSpace).rdropWhile Text.isSpace) := fun _ => rfl
  rw [stripped (Text.strip text), stripped text, String.toList_ofList]
  congr 1
  cases shape : text.toList.dropWhile Text.isSpace with
  | nil => rfl
  | cons first rest =>
    -- The first character left is no space, so nothing is dropped in front of it again.
    have visible : Text.isSpace first = false := by
      have head := List.head?_dropWhile_not Text.isSpace text.toList
      rw [shape] at head
      simpa using head
    have kept : ∃ tail, (first :: rest).rdropWhile Text.isSpace = first :: tail := by
      have leading : ∃ front, (first :: rest).rdropWhile Text.isSpace ++ front = first :: rest :=
        List.rdropWhile_prefix Text.isSpace (first :: rest)
      obtain ⟨front, whole⟩ := leading
      cases left : (first :: rest).rdropWhile Text.isSpace with
      | nil =>
        have all := List.rdropWhile_eq_nil_iff.mp left first (by simp)
        rw [visible] at all
        cases all
      | cons head tail =>
        rw [left, List.cons_append] at whole
        obtain ⟨rfl, -⟩ := List.cons.inj whole
        exact ⟨tail, rfl⟩
    obtain ⟨tail, left⟩ := kept
    rw [left, List.dropWhile_cons_of_neg (by simp [visible]), ← left, List.rdropWhile_idempotent]

/-- Conversions of JSON values that agree with the real ones on values, lower-case texts and the tabulated
JSON texts. -/
def tabulated (texts : List (String × Json)) : Conversions Json where
  text? := fun value => match value with | .str text => some text | _ => none
  ofText := .str
  bool? := fun value => match value with | .bool value => some value | _ => none
  ofBool := .bool
  str := fun value => match value with | .str text => text | .int value => toString value | _ => "None"
  int := fun value => match value with
    | .int value => .ok (.int value)
    | _ => .error ⟨.typeError, "int() argument must be a string, a bytes-like object or a real number"⟩
  float := fun value => match value with
    | .float value => .ok (.float value)
    | _ => .error ⟨.typeError, "float() argument must be a string or a real number"⟩
  loads := fun text => match texts.find? (·.1 = text) with
    | some entry => .ok entry.2
    | none => .error ⟨.valueError, "Expecting value: line 1 column 1 (char 0)"⟩
  lower := id
  text_ofText := fun _ => rfl
  bool_ofBool := fun _ => rfl
  str_ofText := fun _ => rfl
  int_int := by
    intro value whole read
    cases value <;> cases read
    rfl
  float_float := by
    intro value number read
    cases value <;> cases read
    rfl
  lower_strip := strip_strip

end Conversions

/-- `SettingValueType`. -/
inductive SettingValueType where
  | string
  | integer
  | float
  | boolean
  | duration
  | enum
  | json
deriving DecidableEq

/-- `SettingScope`. -/
inductive SettingScope where
  | system
  | organization
  | project
deriving DecidableEq

/-- The stored text of a scope. -/
def SettingScope.value : SettingScope → String
  | system => "SYSTEM"
  | organization => "ORGANIZATION"
  | project => "PROJECT"

/-- `SettingSource`. -/
inductive SettingSource where
  | environment
  | runtimeProject
  | runtimeOrganization
  | runtimeSystem
  | default
deriving DecidableEq

/-- The source a stored setting of a scope is reported under. -/
def SettingScope.source : SettingScope → SettingSource
  | system => .runtimeSystem
  | organization => .runtimeOrganization
  | project => .runtimeProject

/-- `SettingContext`. -/
structure SettingContext where
  organizationId : Option String := none
  projectId : Option String := none
deriving DecidableEq

/-- The fields of `SettingDefinition` that the service and the parser read. -/
structure SettingDefinition (V : Type) where
  key : String
  category : String
  valueType : SettingValueType
  defaultValue : V
  mutable : Bool
  sensitive : Bool := false
  environmentVariable : Option String := none
  validator : Option (V → Except Raised Unit) := none
  enumValues : List String := []
  allowedScopes : List SettingScope := [.system]
  runtimeApplied : Bool := false

/-- `RuntimeSetting`. -/
structure RuntimeSetting (V : Type) where
  key : String
  scope : SettingScope
  scopeId : String
  value : V
  version : Nat
  updatedBy : String
  updatedAt : Instant
deriving DecidableEq

/-- `SettingAuditRecord`; an absent old value is `None`. -/
structure SettingAuditRecord (V : Type) where
  auditId : String
  key : String
  scope : SettingScope
  scopeId : String
  oldValue : Option V
  newValue : V
  actorId : String
  reason : String
  version : Nat
  createdAt : Instant
deriving DecidableEq

/-- `ResolvedSetting`; the definition is named by its key. -/
structure ResolvedSetting (V : Type) where
  key : String
  editScope : SettingScope
  editScopeId : String
  runtimeValue : Option V
  effectiveValue : V
  source : SettingSource
  inheritedFrom : Option SettingScope
  version : Option Nat
  updatedBy : Option String
  updatedAt : Option Instant
deriving DecidableEq

/-! ## The parser -/

/-- The texts `[1-9][0-9]*(ms|s|m|h|d|w)` matches in full. -/
def isDuration (text : String) : Bool :=
  match text.toList with
  | [] => false
  | first :: rest =>
    '1' ≤ first && first ≤ '9' &&
      ["ms", "s", "m", "h", "d", "w"].contains (String.ofList (rest.dropWhile Char.isDigit))

/-- The value `parse_value` reads, before the definition's own check. -/
def readValue {V : Type} (conversions : Conversions V) (definition : SettingDefinition V) (value : V) :
    Except Raised V :=
  match definition.valueType with
  | .string => .ok (conversions.ofText (conversions.str value))
  | .integer => conversions.int value
  | .float => conversions.float value
  | .boolean =>
    if (conversions.bool? value).isSome then .ok value
    else if ["1", "true", "yes", "on"].contains (conversions.normalized value) then .ok (conversions.ofBool true)
    else if ["0", "false", "no", "off"].contains (conversions.normalized value) then .ok (conversions.ofBool false)
    else .error ⟨.valueError, "expected a boolean"⟩
  | .json =>
    match conversions.text? value with
    | some text => conversions.loads text
    | none => .ok value
  | .duration =>
    if isDuration (conversions.normalized value) then .ok (conversions.ofText (conversions.normalized value))
    else .error ⟨.valueError, "expected a duration such as 30s, 5m, 24h, or 30d"⟩
  | .enum =>
    if definition.enumValues.contains (conversions.normalized value) then
      .ok (conversions.ofText (conversions.normalized value))
    else .error ⟨.valueError, "expected one of: " ++ ", ".intercalate definition.enumValues⟩

/-- `parse_value`: type and value errors become validation errors; others pass. -/
def parseValue {V : Type} (conversions : Conversions V) (definition : SettingDefinition V) (value : V) :
    Except Raised V :=
  match readValue conversions definition value with
  | .error raised =>
    if raised.kind = .typeError || raised.kind = .valueError then
      .error ⟨.settingValidationError, "Invalid value for '" ++ definition.key ++ "': " ++ raised.message⟩
    else .error raised
  | .ok parsed =>
    match definition.validator with
    | none => .ok parsed
    | some validator => (validator parsed).map fun _ => parsed

/-- A value that reads as a text which is read once more: the text of a JSON string. -/
def Reread {V : Type} (conversions : Conversions V) (definition : SettingDefinition V) (value : V) : Prop :=
  definition.valueType = .json ∧ ∃ text parsed, conversions.text? value = some text ∧
    conversions.loads text = .ok parsed ∧ (conversions.text? parsed).isSome = true

section Parser

variable {V : Type} {conversions : Conversions V} {definition : SettingDefinition V} {value parsed : V}

/-- Reading a value that was read changes nothing, unless it was the text of a JSON string. -/
theorem readValue_idempotent (plain : ¬ Reread conversions definition value)
    (read : readValue conversions definition value = .ok parsed) :
    readValue conversions definition parsed = .ok parsed := by
  unfold readValue at read ⊢
  unfold Reread at plain
  cases type : definition.valueType with
  | string =>
    simp only [type] at read ⊢
    cases read
    rw [conversions.str_ofText]
  | integer =>
    simp only [type] at read ⊢
    exact conversions.int_int read
  | float =>
    simp only [type] at read ⊢
    exact conversions.float_float read
  | boolean =>
    simp only [type] at read ⊢
    -- Whatever was read is a boolean.
    have boolean : (conversions.bool? parsed).isSome = true := by
      split at read
      · rename_i given
        cases read
        exact given
      · split at read
        · cases read
          rw [conversions.bool_ofBool]
          rfl
        · split at read
          · cases read
            rw [conversions.bool_ofBool]
            rfl
          · cases read
    rw [if_pos boolean]
  | json =>
    simp only [type, true_and] at read plain ⊢
    cases given : conversions.text? value with
    | none =>
      rw [given] at read
      cases read
      rw [given]
    | some text =>
      rw [given] at read
      have notText : conversions.text? parsed = none := by
        by_contra still
        exact plain ⟨text, parsed, given, read, Option.isSome_iff_ne_none.mpr still⟩
      rw [notText]
  | duration =>
    simp only [type] at read ⊢
    split at read
    · rename_i matched
      cases read
      rw [conversions.normalized_ofText, if_pos matched]
    · cases read
  | enum =>
    simp only [type] at read ⊢
    split at read
    · rename_i listed
      cases read
      rw [conversions.normalized_ofText, if_pos listed]
    · cases read

theorem parseValue_idempotent (plain : ¬ Reread conversions definition value)
    (accepted : parseValue conversions definition value = .ok parsed) :
    parseValue conversions definition parsed = .ok parsed := by
  unfold parseValue at accepted ⊢
  cases read : readValue conversions definition value with
  | error raised =>
    rw [read] at accepted
    dsimp only at accepted
    split at accepted <;> cases accepted
  | ok first =>
    rw [read] at accepted
    dsimp only at accepted
    have same : first = parsed := by
      cases validated : definition.validator with
      | none =>
        rw [validated] at accepted
        exact Except.ok.inj accepted
      | some validator =>
        rw [validated] at accepted
        dsimp only at accepted
        cases passed : validator first with
        | error raised =>
          rw [passed] at accepted
          cases accepted
        | ok =>
          rw [passed] at accepted
          exact Except.ok.inj accepted
    subst same
    rw [readValue_idempotent plain read]
    exact accepted

end Parser

end AiGovernance.Settings
