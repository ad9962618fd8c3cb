import AiGovernance.Services.RuntimeActionAuthorization

/-!
# Authorization over HTTP

The three encodings a request and its decision go through: the payload of the
client (`runtime_authorization/http_client.py`), the schema and the mapper of the
endpoint (`api/models`, `api/mappers` and `api/routers`), and the decoder of the
client; and the boundary in front of a tool (`runtime_authorization/enforcement.py`).
A JSON value arrives as it was sent, and a time as its ISO text.
-/

namespace AiGovernance.Services

open AiGovernance.Std Domain Repositories Semantics

/-! ## The request -/

/-- The fields of `_request_payload`. -/
def requestFields (r : RuntimeActionAuthorizationRequestRecord) : List (String × Json) :=
  [("schema_version", .str r.schemaVersion),
    ("execution_id", .str r.executionId),
    ("correlation_id", optionalText r.correlationId),
    ("action_id", .str r.actionId),
    ("resource", .obj [("resource_type", .str r.resource.record.resourceType),
      ("resource_reference", .str r.resource.record.resourceReference)]),
    ("delegation_id", optionalText r.delegationId),
    ("delegation_version", optionalText r.delegationVersion),
    ("delegation_digest", optionalText r.delegationDigest),
    ("tool_arguments_digest", optionalText r.toolArgumentsDigest),
    ("context", .obj r.context),
    ("idempotency_key", .str r.idempotencyKey),
    ("policy_id", optionalText r.policyId),
    ("expected_policy_version", optionalText r.expectedPolicyVersion)]

/-- `_request_payload`. -/
def requestPayload (request : RuntimeActionAuthorizationRequest) : Json := .obj (requestFields request.record)

/-- A text field of a request body with its length bounds and its pattern. -/
def bodyText (minimum maximum : Nat) (pattern : String → Bool) : Option Json → Option String
  | some (.str text) =>
    if minimum ≤ text.length ∧ text.length ≤ maximum ∧ pattern text = true then some text else none
  | _ => none

/-- A field that may be absent or null. -/
def bodyOptional (read : Option Json → Option String) : Option Json → Option (Option String)
  | none => some none
  | some .null => some none
  | some value => (read (some value)).map some

/-- An identifier of a request body. -/
def bodyIdentifier : Option Json → Option String := bodyText 1 128 (Text.isIdentifier 127)

/-- A digest of a request body. -/
def bodyDigest : Option Json → Option String
  | some (.str text) => if Text.isSha256Digest text then some text else none
  | _ => none

/-- `extra="forbid"`. -/
def onlyFields (known : List String) (fields : List (String × Json)) : Bool :=
  fields.all fun field => field.1 ∈ known

/-- `RuntimeActionResourceRequest`, as `to_domain` builds it. -/
def bodyResource : Option Json → Option RuntimeActionResource
  | some (.obj fields) => do
      guard (onlyFields ["resource_type", "resource_reference"] fields)
      let resourceType ← bodyIdentifier (Json.field fields "resource_type")
      let resourceReference ← bodyText 1 512 (fun _ => true) (Json.field fields "resource_reference")
      (Checked.create ⟨resourceType, resourceReference⟩ : Except Raised RuntimeActionResource).toOption
  | _ => none

/-- One fact of the context: its type, and `context_must_not_carry_sensitive_content`. -/
def bodyFact (fact : String × Json) : Bool :=
  !(lowerContextKey fact.1 ∈ sensitiveContextKeys) && isContextKey fact.1 &&
    match fact.2 with
    | .str text => !(Text.isBlank text || 256 < text.length)
    | .bool _ | .int _ | .float _ => true
    | .null | .arr _ | .obj _ => false

/-- The context of a request body. -/
def bodyContext : Option Json → Option (List (String × Json))
  | none => some []
  | some (.obj facts) => if facts.length ≤ 32 ∧ facts.all bodyFact = true then some facts else none
  | _ => none

/-- `schema_version`: absent, or the one version there is. -/
def bodySchemaVersion : Option Json → Option String
  | none => some runtimeActionAuthorizationSchemaVersion
  | some value =>
    if value = .str runtimeActionAuthorizationSchemaVersion then some runtimeActionAuthorizationSchemaVersion
    else none

/-- The fields of `RuntimeActionAuthorizationRequestBody`. -/
def requestBodyFields : List String :=
  ["schema_version", "execution_id", "correlation_id", "action_id", "resource", "delegation_id",
    "delegation_version", "delegation_digest", "tool_arguments_digest", "context", "idempotency_key", "policy_id",
    "expected_policy_version"]

/-- `RuntimeActionAuthorizationRequestBody` and its `to_domain`; without a value the endpoint answers 422. -/
def parseRequestBody : Json → Option RuntimeActionAuthorizationRequest
  | .obj fields => do
      guard (onlyFields requestBodyFields fields)
      let schemaVersion ← bodySchemaVersion (Json.field fields "schema_version")
      let executionId ← bodyIdentifier (Json.field fields "execution_id")
      let correlationId ← bodyOptional bodyIdentifier (Json.field fields "correlation_id")
      let actionId ← bodyIdentifier (Json.field fields "action_id")
      let resource ← bodyResource (Json.field fields "resource")
      let delegationId ← bodyOptional bodyIdentifier (Json.field fields "delegation_id")
      let delegationVersion ← bodyOptional bodyIdentifier (Json.field fields "delegation_version")
      let delegationDigest ← bodyOptional bodyDigest (Json.field fields "delegation_digest")
      let toolArgumentsDigest ← bodyDigest (Json.field fields "tool_arguments_digest")
      let context ← bodyContext (Json.field fields "context")
      let idempotencyKey ← bodyIdentifier (Json.field fields "idempotency_key")
      let policyId ← bodyOptional bodyIdentifier (Json.field fields "policy_id")
      let expectedPolicyVersion ← bodyOptional bodyIdentifier (Json.field fields "expected_policy_version")
      guard (!(expectedPolicyVersion.isSome && policyId.isNone))
      guard (!((delegationId.isSome || delegationVersion.isSome || delegationDigest.isSome) &&
        (delegationId.isNone || delegationVersion.isNone || delegationDigest.isNone)))
      (Checked.create {
        schemaVersion, executionId, correlationId, actionId, resource, delegationId, delegationVersion,
        delegationDigest, context, idempotencyKey, policyId, expectedPolicyVersion
        toolArgumentsDigest := some toolArgumentsDigest } : Except Raised RuntimeActionAuthorizationRequest).toOption
  | _ => none

/-! ## The response -/

/-- The JSON of `RuntimeActionAuthorizationApiMapper.to_response`. -/
def toResponse (decision : RuntimeActionAuthorizationDecision) : Json :=
  let d := decision.record
  .obj [("schema_version", .str d.schemaVersion),
    ("decision_id", .str d.decisionId),
    ("outcome", .str d.outcome.value),
    ("reason_code", .str d.reasonCode),
    ("policy_id", optionalText d.policyId),
    ("policy_version", optionalText d.policyVersion),
    ("decision_at", .str d.decidedAt.isoformat),
    ("expires_at", .str d.expiresAt.isoformat),
    ("execution_id", .str d.executionId),
    ("correlation_id", optionalText d.correlationId),
    ("action_id", .str d.actionId),
    ("resource", .obj [("resource_type", .str d.resource.record.resourceType),
      ("resource_reference", .str d.resource.record.resourceReference)]),
    ("actor_id", .str d.actorId),
    ("idempotency_key", .str d.idempotencyKey),
    ("request_fingerprint", .str d.requestFingerprint),
    ("delegation_id", optionalText d.delegationId),
    ("delegation_version", optionalText d.delegationVersion),
    ("delegation_digest", optionalText d.delegationDigest),
    ("tool_arguments_digest", optionalText d.toolArgumentsDigest),
    ("evaluated_policies", .arr (d.evaluatedPolicies.map fun binding =>
      .obj [("policy_id", .str binding.1), ("version", .str binding.2)]))]

/-- A response of the endpoint. -/
structure HttpResponse where
  status : Nat
  body : Json

/-- `_error_response`. -/
def errorResponse (status : Nat) (code message : String) : HttpResponse :=
  ⟨status, .obj [("error", .obj [("code", .str code), ("message", .str message)])]⟩

/-- How `authorize_runtime_action` maps the exceptions of the service; any other becomes an internal error. -/
def raisedResponse (raised : Raised) : HttpResponse :=
  match raised.kind with
  | .runtimeActionAuthorizationNotFoundError =>
    errorResponse 404 "RUNTIME_ACTION_EXECUTION_NOT_FOUND" raised.message
  | .runtimeActionAuthorizationConflictError =>
    errorResponse 409 "RUNTIME_ACTION_AUTHORIZATION_CONFLICT" raised.message
  | .runtimeActionAuthorizationPersistenceError =>
    errorResponse 503 "RUNTIME_ACTION_AUTHORIZATION_UNAVAILABLE" raised.message
  | _ => errorResponse 500 "INTERNAL_ERROR" raised.message

/-- The response to what the service returns or raises. -/
def serviceResponse : Except Raised RuntimeActionAuthorizationDecision → HttpResponse
  | .ok decision => ⟨200, toResponse decision⟩
  | .error raised => raisedResponse raised

/-- `authorize_runtime_action`, with the tenant context, the clock and the identifier of the call. -/
def authorizeRuntimeAction (primitives : Primitives) (config : AuthorizationConfig) (body : Json)
    (context : TenantContext) (now : Instant) (decisionId : String) : Operation HttpResponse :=
  match parseRequestBody body with
  | none => .done (errorResponse 422 "VALIDATION_ERROR" "")
  | some request => do
      let outcome ← (authorize primitives config { request, context, now, decisionId }).caught
      .done (serviceResponse outcome)

/-! ## The client -/

/-- `_optional_string` of the client, which is that of the service. -/
def clientOptionalString : Option Json → Option String := optionalNonEmpty

/-- `_evaluated_policies` of the client, which is that of the service. -/
def clientEvaluatedPolicies : Option Json → Option (List (String × String)) := evaluatedPoliciesOf

/-- The record `_decision_from_payload` builds; a missing or unreadable field is `none`. -/
def payloadRecord (primitives : Primitives) (value : List (String × Json)) :
    Option RuntimeActionAuthorizationDecisionRecord := do
  let resource ← match Json.field value "resource" with
    | some (.obj resource) => some resource
    | _ => none
  let schemaVersion ← primitives.textField value "schema_version"
  let decisionId ← primitives.textField value "decision_id"
  let outcome ← primitives.textField value "outcome"
  let reasonCode ← primitives.textField value "reason_code"
  let decidedAt ← primitives.textField value "decision_at"
  let decidedAt ← Instant.fromisoformat decidedAt
  let expiresAt ← primitives.textField value "expires_at"
  let expiresAt ← Instant.fromisoformat expiresAt
  let executionId ← primitives.textField value "execution_id"
  let actionId ← primitives.textField value "action_id"
  let resourceType ← primitives.textField resource "resource_type"
  let resourceReference ← primitives.textField resource "resource_reference"
  let resource : RuntimeActionResource ←
    (Checked.create ⟨resourceType, resourceReference⟩ : Except Raised RuntimeActionResource).toOption
  let actorId ← primitives.textField value "actor_id"
  let idempotencyKey ← primitives.textField value "idempotency_key"
  let requestFingerprint ← primitives.textField value "request_fingerprint"
  let evaluatedPolicies ← clientEvaluatedPolicies (Json.field value "evaluated_policies")
  let outcome ← RuntimeActionAuthorizationOutcome.ofValue outcome
  return {
    schemaVersion, decisionId, outcome, reasonCode, decidedAt, expiresAt, executionId, actionId, resource, actorId,
    idempotencyKey, requestFingerprint, evaluatedPolicies
    policyId := clientOptionalString (Json.field value "policy_id")
    policyVersion := clientOptionalString (Json.field value "policy_version")
    correlationId := clientOptionalString (Json.field value "correlation_id")
    delegationId := clientOptionalString (Json.field value "delegation_id")
    delegationVersion := clientOptionalString (Json.field value "delegation_version")
    delegationDigest := clientOptionalString (Json.field value "delegation_digest")
    toolArgumentsDigest := clientOptionalString (Json.field value "tool_arguments_digest") }

/-- `_decision_from_payload`; without a value it raises `RuntimeActionAuthorizationTransportError`. -/
def decisionFromPayload (primitives : Primitives) : Json → Option RuntimeActionAuthorizationDecision
  | .obj value => do
      let record ← payloadRecord primitives value
      (Checked.create record : Except Raised RuntimeActionAuthorizationDecision).toOption
  | _ => none

/-- What arrives at the client: a body that is JSON, or a failure of any kind. -/
abbrev Transported := Option Json

/-- `urlopen` raises on every status that is not a success. -/
def transported (response : HttpResponse) : Transported :=
  if response.status < 400 then some response.body else none

/-- `AIGPRuntimeActionAuthorizationClient.authorize`. -/
def clientAuthorize (primitives : Primitives) (arrived : Transported) : Option RuntimeActionAuthorizationDecision :=
  arrived.bind (decisionFromPayload primitives)

/-! ## The boundary -/

/-- `RuntimeActionAuthorizationDecision.is_valid_for`. -/
def isValidFor (primitives : Primitives) (decision : RuntimeActionAuthorizationDecision)
    (request : RuntimeActionAuthorizationRequest) (actorId : String) (now : Instant) : Bool :=
  decision.record.outcome = .allow && now < decision.record.expiresAt &&
    decision.matchesRequest primitives request actorId

/-- `ProtectedOperationBlocked`. -/
structure ProtectedOperationBlocked where
  reasonCode : String
deriving DecidableEq

/-- `LangGraphOperationAuthorizer.require_allow`. -/
def requireAllow (primitives : Primitives) (actorId : String) (now : Instant)
    (request : RuntimeActionAuthorizationRequest) (actualToolArgumentsDigest : String) (arrived : Transported) :
    Except ProtectedOperationBlocked RuntimeActionAuthorizationDecision :=
  match clientAuthorize primitives arrived with
  | none => .error ⟨"AUTHORIZATION_UNAVAILABLE"⟩
  | some decision =>
    if !isValidFor primitives decision request actorId now then
      .error ⟨if decision.record.outcome.value = "DENY" then decision.record.reasonCode
        else "INVALID_AUTHORIZATION_DECISION"⟩
    else if request.record.toolArgumentsDigest ≠ some actualToolArgumentsDigest ∨
        decision.record.toolArgumentsDigest ≠ some actualToolArgumentsDigest then
      .error ⟨"TOOL_ARGUMENTS_MISMATCH"⟩
    else .ok decision

end AiGovernance.Services
