import AiGovernance.Domain.AgentExecutionEvent
import AiGovernance.Std.Locations

/-!
# Which attributes an event refuses

The search for a prohibited key goes through the attributes in document order,
and an event is built exactly when it finds none at any depth. What it reports is
the path within the value of one attribute: the name of the attribute itself is
left off, and so are keys without a text above the others. The report leads to a
prohibited key only where the first one is an attribute of its own, or where
another key happens to have the path that is left.
-/

namespace AiGovernance.Lifecycle

open AiGovernance.Std Domain List

/-! ## Paths -/

/-- A key that normalises to a prohibited one. -/
def prohibited (location : List Json.Step × String) : Bool := normalizeKey location.2 ∈ prohibitedKeys

theorem prohibited_iff {walk : List Json.Step} {key : String} :
    prohibited (walk, key) = true ↔ normalizeKey key ∈ prohibitedKeys := decide_eq_true_iff

/-- A step of a dotted path. -/
def stepText : Json.Step → String
  | .key name => "." ++ name
  | .index position => "[" ++ toString position ++ "]"

/-- The dotted path of a walk. -/
def dotted : List Json.Step → String
  | .key name :: walk => name ++ String.join (walk.map stepText)
  | walk => String.join (walk.map stepText)

/-- The path the search hands down with a step. -/
def extend (path : String) : Json.Step → String
  | .key name => if path = "" then name else path ++ "." ++ name
  | .index position => path ++ "[" ++ toString position ++ "]"

/-- What is reported of a walk through the attributes. -/
def reported : List Json.Step → String
  | [.key name] => name
  | walk => walk.tail.foldl extend ""

/-! ## The search -/

theorem find?_under (step : Json.Step) (locations : List (List Json.Step × String)) :
    (locations.map (Json.under step)).find? prohibited = (locations.find? prohibited).map (Json.under step) :=
  find?_map

mutual

/-- The search finds the first prohibited key in document order. -/
theorem findProhibitedKeyInValue_eq : (value : Json) → (path : String) → findProhibitedKeyInValue value path =
    ((Json.keys value).find? prohibited).map fun location => location.1.foldl extend path
  | .obj fields, path => findProhibitedKeyInFields_eq fields path
  | .arr items, path => findProhibitedKeyInItems_eq items path 0
  | .null, _ | .bool _, _ | .int _, _ | .float _, _ | .str _, _ => rfl

theorem findProhibitedKeyInFields_eq : (fields : List (String × Json)) → (path : String) →
    findProhibitedKeyInFields fields path =
      ((Json.keysOfFields fields).find? prohibited).map fun location => location.1.foldl extend path
  | [], _ => rfl
  | (key, value) :: rest, path => by
    rw [findProhibitedKeyInFields, Json.keysOfFields, find?_cons]
    by_cases own : normalizeKey key ∈ prohibitedKeys
    · have found : prohibited ([.key key], key) = true := decide_eq_true own
      rw [found]
      exact if_pos own
    · have passed : prohibited ([.key key], key) = false := decide_eq_false own
      rw [passed]
      dsimp only
      rw [if_neg own, find?_append, find?_under, findProhibitedKeyInValue_eq value,
        findProhibitedKeyInFields_eq rest path]
      cases (Json.keys value).find? prohibited <;> rfl

theorem findProhibitedKeyInItems_eq : (items : List Json) → (path : String) → (start : Nat) →
    findProhibitedKeyInItems items path start =
      ((Json.keysOfItems items start).find? prohibited).map fun location => location.1.foldl extend path
  | [], _, _ => rfl
  | item :: rest, path, start => by
    rw [findProhibitedKeyInItems, Json.keysOfItems, find?_append, find?_under,
      findProhibitedKeyInValue_eq item, findProhibitedKeyInItems_eq rest path (start + 1)]
    cases (Json.keys item).find? prohibited <;> rfl

end

theorem rejectAttribute_eq (entry : String × Json) : rejectAttribute entry =
    ((Json.keysOfFields [entry]).find? prohibited).map fun location => prohibitedKeyError (reported location.1) := by
  obtain ⟨key, value⟩ := entry
  unfold rejectAttribute
  rw [Json.keysOfFields, find?_cons]
  by_cases own : normalizeKey key ∈ prohibitedKeys
  · have found : prohibited ([.key key], key) = true := decide_eq_true own
    rw [found]
    exact if_pos own
  · have passed : prohibited ([.key key], key) = false := decide_eq_false own
    rw [passed]
    dsimp only
    rw [if_neg own, Json.keysOfFields, append_nil, find?_under, findProhibitedKeyInValue_eq]
    cases found : (Json.keys value).find? prohibited with
    | none => rfl
    | some location =>
      obtain ⟨walk, name⟩ := location
      cases walk with
      | nil => cases (Json.mem_keys value).mp (mem_of_find?_eq_some found)
      | cons step walk => rfl

/-- The attributes are refused for the first prohibited key among all of them. -/
theorem firstViolation_attributes (attributes : List (String × Json)) :
    firstViolation (attributes.map rejectAttribute) = ((Json.keysOfFields attributes).find? prohibited).map
      fun location => prohibitedKeyError (reported location.1) := by
  unfold firstViolation
  induction attributes with
  | nil => rfl
  | cons entry rest ih =>
    have split : Json.keysOfFields (entry :: rest) = Json.keysOfFields [entry] ++ Json.keysOfFields rest := by
      simp only [Json.keysOfFields, append_nil, cons_append]
    rw [split, find?_append, map_cons, findSome?_cons, ih, id_eq, rejectAttribute_eq]
    cases (Json.keysOfFields [entry]).find? prohibited <;> rfl

/-! ## The gate -/

variable {record : AgentExecutionEventRecord}

/-- An event is built exactly when no key at any depth is prohibited, and what is reported else leads to one. -/
structure Guarded (record : AgentExecutionEventRecord) : Prop where
  built : (∃ event : AgentExecutionEvent, Checked.create record = .ok event) ↔
    ∀ walk key, Json.KeyAt (.obj record.attributes) walk key → normalizeKey key ∉ prohibitedKeys
  leads : ∀ raised, (Checked.create record : Except Raised AgentExecutionEvent) = .error raised →
    ∃ walk key, Json.KeyAt (.obj record.attributes) walk key ∧ normalizeKey key ∈ prohibitedKeys ∧
      raised = prohibitedKeyError (dotted walk)

/-- The first prohibited key is an attribute, or what is left of its path is the path of a prohibited key. -/
def Traceable (attributes : List (String × Json)) : Prop :=
  ∀ location, (Json.keysOfFields attributes).find? prohibited = some location → location.1.length = 1 ∨
    ∃ walk key, Json.KeyAt (.obj attributes) walk key ∧ normalizeKey key ∈ prohibitedKeys ∧
      dotted walk = location.1.tail.foldl extend ""

/-- With its other fields valid, an event is refused for its attributes only. -/
theorem violation_eq (others : { record with attributes := [] }.violation = none) :
    record.violation = ((Json.keysOfFields record.attributes).find? prohibited).map
      fun location => prohibitedKeyError (reported location.1) := by
  rw [← firstViolation_attributes]
  unfold AgentExecutionEventRecord.violation firstViolation at others ⊢
  rw [findSome?_append] at others ⊢
  rw [(Option.or_eq_none_iff.mp others).1, Option.none_or]

theorem prohibitedKeyError_injective {left right : String}
    (same : prohibitedKeyError left = prohibitedKeyError right) : left = right := by
  have text := congrArg Raised.message same
  unfold prohibitedKeyError at text
  simpa using text

theorem reported_of_nested {walk : List Json.Step} (nested : walk.length ≠ 1) :
    reported walk = walk.tail.foldl extend "" := by
  match walk with
  | [] => rfl
  | [_] => exact absurd rfl nested
  | step :: _ :: _ => cases step <;> rfl

theorem reported_of_direct {walk : List Json.Step} {key : String} {fields : List (String × Json)}
    (at? : Json.KeyAt (.obj fields) walk key) (direct : walk.length = 1) : reported walk = dotted walk := by
  obtain ⟨step, rfl⟩ := length_eq_one_iff.mp direct
  cases at? <;> simp [reported, dotted, String.join]

/-- With its other fields valid, the gate guards a record exactly when its first prohibited key can be traced. -/
theorem privacy_gate_iff (others : { record with attributes := [] }.violation = none) :
    Guarded record ↔ Traceable record.attributes := by
  have violation := violation_eq others
  constructor
  · rintro guarded ⟨steps, name⟩ first
    rw [first] at violation
    obtain ⟨walk, key, at?, own, same⟩ := guarded.leads _ (Checked.create_eq_error_iff.mpr violation)
    by_cases direct : steps.length = 1
    · exact Or.inl direct
    · have path := (prohibitedKeyError_injective same).symm.trans (reported_of_nested direct)
      exact Or.inr ⟨walk, key, at?, own, path⟩
  · intro traceable
    refine ⟨⟨?_, ?_⟩, ?_⟩
    · rintro ⟨event, created⟩ walk key at? own
      have valid := event.valid
      rw [Checked.create_eq_ok_iff.mp created, violation, Option.map_eq_none_iff, find?_eq_none] at valid
      exact valid (walk, key) ((Json.mem_keys (.obj _)).mpr at?) (prohibited_iff.mpr own)
    · intro absent
      have valid : record.violation = none := by
        rw [violation, Option.map_eq_none_iff, find?_eq_none]
        rintro ⟨walk, key⟩ member own
        exact absent walk key ((Json.mem_keys (.obj _)).mp member) (prohibited_iff.mp own)
      exact ⟨_, Checked.create_of_valid valid⟩
    · intro raised created
      rw [Checked.create_eq_error_iff, violation] at created
      obtain ⟨⟨walk, key⟩, first, rfl⟩ := Option.map_eq_some_iff.mp created
      have own : normalizeKey key ∈ prohibitedKeys := prohibited_iff.mp (find?_some first)
      have at? := (Json.mem_keys (.obj _)).mp (mem_of_find?_eq_some first)
      by_cases direct : walk.length = 1
      · exact ⟨walk, key, at?, own, congrArg prohibitedKeyError (reported_of_direct at? direct)⟩
      · obtain ⟨other, name, elsewhere, prohibited, path⟩ := (traceable _ first).resolve_left direct
        exact ⟨other, name, elsewhere, prohibited,
          congrArg prohibitedKeyError ((reported_of_nested direct).trans path.symm)⟩

/-! ### A key below an attribute -/

/-- An event that is valid but for its attributes. -/
def attributed (attributes : List (String × Json)) : AgentExecutionEventRecord where
  eventId := "event-1"
  executionId := "execution-1"
  organizationId := "organization-1"
  projectId := none
  eventType := .modelCall
  sequenceNumber := 0
  occurredAt := ⟨0⟩
  receivedAt := ⟨0⟩
  correlationId := none
  causationId := none
  actorId := none
  actorType := none
  attributes

/-- A prohibited attribute is reported under its own name. -/
theorem privacy_gate_iff_attribute : Guarded (attributed [("usage", .int 3), ("API-Key", .str "k")]) := by
  refine (privacy_gate_iff (by decide +kernel)).mpr fun location first => Or.inl ?_
  have found : (Json.keysOfFields [("usage", .int 3), ("API-Key", .str "k")]).find? prohibited =
      some ([.key "API-Key"], "API-Key") := by decide +kernel
  cases first.symm.trans found
  rfl

/-- The token of the metadata is reported as an attribute that is not there. -/
theorem nested_key_reported_as_attribute : ¬ Guarded (attributed [("metadata", .obj [("token", .str "t")])]) := by
  intro guarded
  have raised : (Checked.create (attributed [("metadata", .obj [("token", .str "t")])]) :
      Except Raised AgentExecutionEvent) = .error (prohibitedKeyError "token") := by
    rw [Checked.create_eq_error_iff]
    decide +kernel
  obtain ⟨walk, key, at?, own, same⟩ := guarded.leads _ raised
  have listed := (Json.mem_keys (.obj _)).mpr at?
  have all : ∀ location ∈ Json.keys (.obj [("metadata", .obj [("token", .str "t")])]),
      prohibited location = true → dotted location.1 ≠ "token" := by decide +kernel
  exact all _ listed (prohibited_iff.mpr own) (prohibitedKeyError_injective same).symm

end AiGovernance.Lifecycle
