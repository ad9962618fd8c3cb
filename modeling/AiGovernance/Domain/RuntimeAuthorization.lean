import AiGovernance.Domain.AgentExecution

/-!
# Runtime action authorization contracts

The request to authorize one tool operation and the decision bound to it
(`runtime_authorization/contracts.py`). What the code takes from its language
runtime is a parameter, `Primitives`: `hashlib.sha256(…).hexdigest()` of a text
and of the canonical JSON of a value, and `str` of a value that is not text.
-/

namespace AiGovernance.Domain

open AiGovernance.Std

/-- SHA-256 hex digests of texts and of canonical JSON, and the text of a value. A value
that is not text is written as a number, a bracket or one of `None`, `True`, `False`. -/
structure Primitives where
  sha256 : String → String
  sha256Json : Json → String
  repr : Json → String
  sha256_hex : ∀ text, Text.isHexDigest (sha256 text) = true
  sha256Json_hex : ∀ value, Text.isHexDigest (sha256Json value) = true
  repr_head : ∀ value, (repr value).toList.head? ≠ some 'A'

namespace Primitives

/-- `_stable_digest`: keys are sorted before the value is serialised and hashed. -/
def stableDigest (primitives : Primitives) (fields : List (String × Json)) : String :=
  primitives.sha256Json (Json.sortKeys (.obj fields))

/-- `str(value)`. -/
def str (primitives : Primitives) : Json → String
  | .str text => text
  | value => primitives.repr value

/-- `str(fields[key])`; an absent key is a `KeyError`. -/
def textField (primitives : Primitives) (fields : List (String × Json)) (key : String) :
    Option String :=
  (Json.field fields key).map primitives.str

/-- Sixty-four zeros. -/
def zeroDigest : String := "0000000000000000000000000000000000000000000000000000000000000000"

/-- The digest a table gives, and zeros for what it does not list. -/
def digestIn {α : Type} [DecidableEq α] (table : List (α × String)) (input : α) : String :=
  ((table.find? (·.1 = input)).map Prod.snd).getD zeroDigest

theorem digestIn_hex {α : Type} [DecidableEq α] {table : List (α × String)}
    (hex : ∀ entry ∈ table, Text.isHexDigest entry.2 = true) (input : α) :
    Text.isHexDigest (digestIn table input) = true := by
  have zeros : Text.isHexDigest zeroDigest = true := by decide
  unfold digestIn
  cases found : table.find? (·.1 = input) with
  | none => exact zeros
  | some entry => exact hex entry (List.mem_of_find?_eq_some found)

/-- Primitives that agree with the real ones on the tabulated inputs, `None` and booleans. -/
def tabulated (texts : List (String × String)) (values : List (Json × String))
    (textsHex : ∀ entry ∈ texts, Text.isHexDigest entry.2 = true)
    (valuesHex : ∀ entry ∈ values, Text.isHexDigest entry.2 = true) : Primitives where
  sha256 := digestIn texts
  sha256Json := digestIn values
  repr := fun value =>
    match value with
    | .null => "None"
    | .bool true => "True"
    | .bool false => "False"
    | _ => "{}"
  sha256_hex := digestIn_hex textsHex
  sha256Json_hex := digestIn_hex valuesHex
  repr_head := by
    intro value
    split <;> simp

/-- No tabulated text, and no tabulated value, lacks a digest. -/
theorem noTexts : ∀ entry ∈ ([] : List (String × String)), Text.isHexDigest entry.2 = true := by simp

theorem noValues : ∀ entry ∈ ([] : List (Json × String)), Text.isHexDigest entry.2 = true := by simp

end Primitives

/-- `RUNTIME_ACTION_AUTHORIZATION_SCHEMA_VERSION`. -/
def runtimeActionAuthorizationSchemaVersion : String := "runtime-action-authorization/v2"

/-- `_require_identifier`. -/
def requireIdentifier (name value : String) : Option Raised :=
  rejectIf (!Text.isIdentifier 127 value) .valueError
    (name ++ " must be a bounded identifier containing only letters, " ++
      "numbers, '.', '_', ':', or '-'.")

/-- `_require_identifier` on a field that may be absent. -/
def requireOptionalIdentifier (name : String) (value : Option String) : Option Raised :=
  value.elim none (requireIdentifier name)

/-- `_require_digest`. -/
def requireDigest (name value : String) : Option Raised :=
  rejectIf (!Text.isSha256Digest value) .valueError (name ++ " must be a sha256 digest.")

/-- `_require_digest` on a field that may be absent. -/
def requireOptionalDigest (name : String) (value : Option String) : Option Raised :=
  value.elim none (requireDigest name)

/-- `_require_non_blank`. -/
def requireNonBlank (name value : String) : Option Raised :=
  rejectIf (Text.isBlank value) .valueError (name ++ " must not be blank.")

/-- The three delegation fields are all present or all absent. -/
def requireTogether (first second third : Option String) (message : String) : Option Raised :=
  rejectIf ((first.isSome || second.isSome || third.isSome) &&
    (first.isNone || second.isNone || third.isNone)) .valueError message

/-! ## Resources -/

/-- The fields of `RuntimeActionResource`. -/
structure RuntimeActionResourceRecord where
  resourceType : String
  resourceReference : String
deriving DecidableEq

/-- `RuntimeActionResource.__post_init__`. -/
def RuntimeActionResourceRecord.violation (record : RuntimeActionResourceRecord) : Option Raised :=
  firstViolation [
    requireIdentifier "resource_type" record.resourceType,
    requireNonBlank "resource_reference" record.resourceReference,
    rejectIf (512 < record.resourceReference.length) .valueError
      "resource_reference must not exceed 512 characters."]

/-- A bounded reference to the resource an operation would affect. -/
abbrev RuntimeActionResource := Checked RuntimeActionResourceRecord.violation

/-! ## Requests -/

/-- The fields of `RuntimeActionAuthorizationRequest`. -/
structure RuntimeActionAuthorizationRequestRecord where
  executionId : String
  actionId : String
  resource : RuntimeActionResource
  idempotencyKey : String
  delegationId : Option String := none
  delegationVersion : Option String := none
  delegationDigest : Option String := none
  toolArgumentsDigest : Option String := none
  context : List (String × Json) := []
  correlationId : Option String := none
  policyId : Option String := none
  expectedPolicyVersion : Option String := none
  schemaVersion : String := runtimeActionAuthorizationSchemaVersion
deriving DecidableEq

/-- A full match of `_CONTEXT_KEY`. -/
def isContextKey (key : String) : Bool :=
  let letter := fun c : Char =>
    (65 ≤ c.toNat && c.toNat ≤ 90) || (97 ≤ c.toNat && c.toNat ≤ 122)
  match key.toList with
  | [] => false
  | head :: tail =>
    letter head && tail.length ≤ 63 &&
      tail.all (fun c => letter c || (48 ≤ c.toNat && c.toNat ≤ 57) || c == '_')

/-- `_SENSITIVE_CONTEXT_KEYS`. -/
def sensitiveContextKeys : List String :=
  ["prompt", "system_prompt", "response", "messages", "conversation", "reasoning",
    "chain_of_thought", "credentials", "password", "secret", "token"]

/-- The lower-cased key; a context key has only ASCII letters, digits and `_`. -/
def lowerContextKey (key : String) : String :=
  String.ofList (key.toList.map fun c =>
    if 65 ≤ c.toNat ∧ c.toNat ≤ 90 then Char.ofNat (c.toNat + 32) else c)

/-- The check of one fact in `_validated_context`. -/
def rejectFact (fact : String × Json) : Option Raised :=
  firstViolation [
    rejectIf (!isContextKey fact.1) .valueError
      "context fact keys must be bounded alphanumeric identifiers.",
    rejectIf (lowerContextKey fact.1 ∈ sensitiveContextKeys) .valueError
      "context must not contain prompts, credentials, or reasoning.",
    match fact.2 with
    | .str text =>
      rejectIf (Text.isBlank text || 256 < text.length) .valueError
        "context string facts must be non-blank and no longer than 256 characters."
    | .bool _ | .int _ | .float _ => none
    | .null | .arr _ | .obj _ =>
      some ⟨.typeError, "context facts must be scalar strings, numbers, or booleans."⟩]

/-- `RuntimeActionAuthorizationRequest.__post_init__`. -/
def RuntimeActionAuthorizationRequestRecord.violation
    (record : RuntimeActionAuthorizationRequestRecord) : Option Raised :=
  firstViolation ([
    rejectIf (record.schemaVersion ≠ runtimeActionAuthorizationSchemaVersion) .valueError
      "Unsupported runtime action authorization schema version.",
    requireIdentifier "execution_id" record.executionId,
    requireIdentifier "action_id" record.actionId,
    requireIdentifier "idempotency_key" record.idempotencyKey,
    requireOptionalIdentifier "correlation_id" record.correlationId,
    requireOptionalIdentifier "delegation_id" record.delegationId,
    requireOptionalIdentifier "delegation_version" record.delegationVersion,
    requireTogether record.delegationId record.delegationVersion record.delegationDigest
      "delegation_id, delegation_version, and delegation_digest are required together.",
    requireOptionalDigest "delegation_digest" record.delegationDigest,
    rejectIf record.toolArgumentsDigest.isNone .valueError
      "tool_arguments_digest is required for protected operations.",
    requireOptionalDigest "tool_arguments_digest" record.toolArgumentsDigest,
    requireOptionalIdentifier "policy_id" record.policyId,
    requireOptionalIdentifier "expected_policy_version" record.expectedPolicyVersion,
    rejectIf (record.expectedPolicyVersion.isSome && record.policyId.isNone) .valueError
      "expected_policy_version requires policy_id.",
    rejectIf (32 < record.context.length) .valueError
      "context must not contain more than 32 facts."] ++
    record.context.map rejectFact)

/-- One idempotent request to authorize one consequential operation. -/
abbrev RuntimeActionAuthorizationRequest := Checked RuntimeActionAuthorizationRequestRecord.violation

/-- A field that serialises to a string or to `null`. -/
def optionalText : Option String → Json
  | none => .null
  | some text => .str text

namespace RuntimeActionAuthorizationRequest

/-- The payload `fingerprint` hashes. -/
def fingerprintPayload (request : RuntimeActionAuthorizationRequest) : List (String × Json) :=
  let r := request.record
  [("schema_version", .str r.schemaVersion),
    ("execution_id", .str r.executionId),
    ("action_id", .str r.actionId),
    ("resource_type", .str r.resource.record.resourceType),
    ("resource_reference", .str r.resource.record.resourceReference),
    ("idempotency_key", .str r.idempotencyKey),
    ("delegation_id", optionalText r.delegationId),
    ("delegation_version", optionalText r.delegationVersion),
    ("delegation_digest", optionalText r.delegationDigest),
    ("tool_arguments_digest", optionalText r.toolArgumentsDigest),
    ("context", .obj r.context),
    ("correlation_id", optionalText r.correlationId),
    ("policy_id", optionalText r.policyId),
    ("expected_policy_version", optionalText r.expectedPolicyVersion)]

/-- A stable digest without retaining contextual fact values. -/
def fingerprint (primitives : Primitives) (request : RuntimeActionAuthorizationRequest) : String :=
  primitives.stableDigest request.fingerprintPayload

/-- The digest of the contextual facts alone. -/
def contextDigest (primitives : Primitives) (request : RuntimeActionAuthorizationRequest) : String :=
  primitives.stableDigest request.record.context

end RuntimeActionAuthorizationRequest

/-! ## Decisions -/

/-- The only authoritative outcomes. -/
inductive RuntimeActionAuthorizationOutcome where
  | allow
  | deny
deriving DecidableEq

namespace RuntimeActionAuthorizationOutcome

/-- The stored text of an outcome. -/
def value : RuntimeActionAuthorizationOutcome → String
  | allow => "ALLOW"
  | deny => "DENY"

/-- The enumeration constructor; any other text is a `ValueError`. -/
def ofValue (text : String) : Option RuntimeActionAuthorizationOutcome :=
  if text = "ALLOW" then some allow else if text = "DENY" then some deny else none

@[simp] theorem ofValue_value (outcome : RuntimeActionAuthorizationOutcome) :
    ofValue outcome.value = some outcome := by
  cases outcome <;> decide

end RuntimeActionAuthorizationOutcome

/-- The fields of `RuntimeActionAuthorizationDecision`. -/
structure RuntimeActionAuthorizationDecisionRecord where
  decisionId : String
  outcome : RuntimeActionAuthorizationOutcome
  reasonCode : String
  executionId : String
  correlationId : Option String
  actionId : String
  resource : RuntimeActionResource
  actorId : String
  idempotencyKey : String
  requestFingerprint : String
  decidedAt : Instant
  expiresAt : Instant
  delegationId : Option String
  delegationVersion : Option String
  delegationDigest : Option String
  toolArgumentsDigest : Option String
  evaluatedPolicies : List (String × String)
  policyId : Option String
  policyVersion : Option String
  schemaVersion : String
deriving DecidableEq

/-- The check of one evaluated policy binding. -/
def rejectBinding (binding : String × String) : Option Raised :=
  firstViolation [
    requireIdentifier "evaluated policy_id" binding.1,
    requireIdentifier "evaluated policy_version" binding.2]

/-- `RuntimeActionAuthorizationDecision.__post_init__`. -/
def RuntimeActionAuthorizationDecisionRecord.violation
    (record : RuntimeActionAuthorizationDecisionRecord) : Option Raised :=
  firstViolation ([
    rejectIf (record.schemaVersion ≠ runtimeActionAuthorizationSchemaVersion) .valueError
      "Unsupported runtime action authorization schema version.",
    requireIdentifier "decision_id" record.decisionId,
    requireIdentifier "reason_code" record.reasonCode,
    requireIdentifier "execution_id" record.executionId,
    requireIdentifier "action_id" record.actionId,
    requireIdentifier "actor_id" record.actorId,
    requireIdentifier "idempotency_key" record.idempotencyKey,
    requireIdentifier "request_fingerprint" record.requestFingerprint,
    requireOptionalIdentifier "correlation_id" record.correlationId,
    requireOptionalIdentifier "policy_id" record.policyId,
    requireOptionalIdentifier "policy_version" record.policyVersion,
    requireOptionalIdentifier "delegation_id" record.delegationId,
    requireOptionalIdentifier "delegation_version" record.delegationVersion,
    requireTogether record.delegationId record.delegationVersion record.delegationDigest
      "Decision delegation bindings are incomplete.",
    requireOptionalDigest "delegation_digest" record.delegationDigest,
    requireOptionalDigest "tool_arguments_digest" record.toolArgumentsDigest] ++
    record.evaluatedPolicies.map rejectBinding ++ [
    rejectIf (record.expiresAt ≤ record.decidedAt) .valueError
      "expires_at must be later than decided_at."])

/-- Persisted decision bound to one operation, actor, and resource. -/
abbrev RuntimeActionAuthorizationDecision := Checked RuntimeActionAuthorizationDecisionRecord.violation

/-- `RuntimeActionAuthorizationDecision.matches_request`. -/
def RuntimeActionAuthorizationDecision.matchesRequest
    (primitives : Primitives) (decision : RuntimeActionAuthorizationDecision)
    (request : RuntimeActionAuthorizationRequest) (actorId : String) : Bool :=
  decision.record.executionId = request.record.executionId &&
    decision.record.actionId = request.record.actionId &&
    decision.record.resource = request.record.resource &&
    decision.record.actorId = actorId &&
    decision.record.idempotencyKey = request.record.idempotencyKey &&
    decision.record.requestFingerprint = request.fingerprint primitives

end AiGovernance.Domain
