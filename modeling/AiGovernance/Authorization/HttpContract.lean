import AiGovernance.Authorization.Codec
import AiGovernance.Services.RuntimeActionAuthorizationHttp

/-!
# The contract of client and server

A decision decodes at the client as the endpoint has mapped it, and a request
arrives at the service as the client has built it. The boundary in front of a
tool therefore opens on exactly the decisions of the service that allow this
operation.
-/

namespace AiGovernance.Authorization

open AiGovernance.Std Domain Repositories Semantics Services

variable {primitives : Primitives}

/-! ## Decisions -/

variable {text : Option String}

theorem clientOptionalString_optionalText (nonEmpty : text ≠ some "") :
    clientOptionalString (some (optionalText text)) = text := by
  cases text with
  | none => rfl
  | some text =>
    have different : text ≠ "" := fun empty => nonEmpty (by rw [empty])
    simp [clientOptionalString, optionalText, optionalNonEmpty, different]

theorem payloadRecord_toResponse (decision : RuntimeActionAuthorizationDecision) {fields : List (String × Json)}
    (response : toResponse decision = .obj fields) : payloadRecord primitives fields = some decision.record := by
  obtain ⟨correlationId, policyId, policyVersion, delegationId, delegationVersion, delegationDigest,
    toolArgumentsDigest, bindings⟩ := decision_nonEmpty decision
  have resource : (Checked.create ⟨decision.record.resource.record.resourceType,
      decision.record.resource.record.resourceReference⟩ :
        Except Raised RuntimeActionResource) = .ok decision.record.resource :=
    Checked.create_eq_ok_iff.mpr rfl
  have evaluated : clientEvaluatedPolicies (some (.arr (decision.record.evaluatedPolicies.map fun binding =>
      .obj [("policy_id", .str binding.1), ("version", .str binding.2)]))) = some decision.record.evaluatedPolicies :=
    mapM_evaluatedBinding rfl bindings
  cases response
  simp [payloadRecord, Primitives.textField, Primitives.str, resource, evaluated, Except.toOption,
    clientOptionalString_optionalText correlationId, clientOptionalString_optionalText policyId,
    clientOptionalString_optionalText policyVersion, clientOptionalString_optionalText delegationId,
    clientOptionalString_optionalText delegationVersion, clientOptionalString_optionalText delegationDigest,
    clientOptionalString_optionalText toolArgumentsDigest, Instant.fromisoformat_isoformat]

theorem decisionFromPayload_toResponse (decision : RuntimeActionAuthorizationDecision) :
    decisionFromPayload primitives (toResponse decision) = some decision := by
  cases response : toResponse decision with
  | obj fields =>
    have checked : (Checked.create decision.record : Except Raised RuntimeActionAuthorizationDecision) = .ok decision :=
      Checked.create_eq_ok_iff.mpr rfl
    simp only [decisionFromPayload, payloadRecord_toResponse decision response, Option.bind_eq_bind, Option.bind_some,
      checked]
    rfl
  | null | bool _ | int _ | float _ | str _ | arr _ => cases response

/-! ## Requests -/

variable {name : String}

theorem bodyIdentifier_of_required {text : String} (required : requireIdentifier name text = none) :
    bodyIdentifier (some (.str text)) = some text := by
  have identifier : Text.isIdentifier 127 text = true := by
    simpa [requireIdentifier] using required
  have bounds : 1 ≤ text.length ∧ text.length ≤ 128 := by
    rw [← String.length_toList]
    unfold Text.isIdentifier at identifier
    split at identifier
    · cases identifier
    · rename_i head tail shape
      simp only [Bool.and_eq_true, decide_eq_true_eq] at identifier
      rw [shape, List.length_cons]
      omega
  simp [bodyIdentifier, bodyText, identifier, bounds]

theorem bodyOptionalIdentifier_of_required (required : requireOptionalIdentifier name text = none) :
    bodyOptional bodyIdentifier (some (optionalText text)) = some text := by
  cases text with
  | none => rfl
  | some text =>
    have read := bodyIdentifier_of_required (show requireIdentifier name text = none from required)
    simp [bodyOptional, optionalText, read]

theorem bodyDigest_of_required {text : String} (required : requireDigest name text = none) :
    bodyDigest (some (.str text)) = some text := by
  have digest : Text.isSha256Digest text = true := by
    simpa [requireDigest] using required
  simp [bodyDigest, digest]

theorem bodyOptionalDigest_of_required (required : requireOptionalDigest name text = none) :
    bodyOptional bodyDigest (some (optionalText text)) = some text := by
  cases text with
  | none => rfl
  | some text =>
    have read := bodyDigest_of_required (show requireDigest name text = none from required)
    simp [bodyOptional, optionalText, read]

/-- The endpoint accepts every resource that can be built. -/
theorem bodyResource_of_valid (resource : RuntimeActionResource) :
    bodyResource (some (.obj [("resource_type", .str resource.record.resourceType),
      ("resource_reference", .str resource.record.resourceReference)])) = some resource := by
  have valid := resource.valid
  simp only [RuntimeActionResourceRecord.violation, firstViolation_eq_none, List.forall_mem_cons] at valid
  obtain ⟨type, reference, bound, -⟩ := valid
  have named := bodyIdentifier_of_required type
  have short : resource.record.resourceReference.length ≤ 512 := by
    simpa using bound
  have present : 1 ≤ resource.record.resourceReference.length := by
    have nonBlank : Text.isBlank resource.record.resourceReference = false := by
      simpa [requireNonBlank] using reference
    refine Nat.one_le_iff_ne_zero.mpr fun zero => ?_
    rw [String.length_eq_zero_iff.mp zero] at nonBlank
    exact absurd nonBlank (by decide)
  have checked : (Checked.create ⟨resource.record.resourceType, resource.record.resourceReference⟩ :
      Except Raised RuntimeActionResource) = .ok resource := Checked.create_eq_ok_iff.mpr rfl
  simp [bodyResource, onlyFields, named, bodyText, short, present, checked, Except.toOption]

theorem bodyContext_of_valid {facts : List (String × Json)} (bounded : facts.length ≤ 32)
    (valid : ∀ fact ∈ facts, rejectFact fact = none) : bodyContext (some (.obj facts)) = some facts := by
  have each : facts.all bodyFact = true := by
    rw [List.all_eq_true]
    intro fact member
    have passed := valid fact member
    simp only [rejectFact, firstViolation_eq_none, List.forall_mem_cons] at passed
    obtain ⟨key, insensitive, value, -⟩ := passed
    unfold bodyFact
    obtain ⟨name, content⟩ := fact
    cases content <;> simp_all [rejectIf_eq_none]
  simp [bodyContext, bounded, each]

section Fields

variable (r : RuntimeActionAuthorizationRequestRecord)

theorem onlyFields_requestFields : onlyFields requestBodyFields (requestFields r) = true := by
  simp [onlyFields, requestFields, requestBodyFields]

/-- What the endpoint reads under each name. -/
theorem field_requestFields :
    Json.field (requestFields r) "schema_version" = some (.str r.schemaVersion) ∧
      Json.field (requestFields r) "execution_id" = some (.str r.executionId) ∧
      Json.field (requestFields r) "correlation_id" = some (optionalText r.correlationId) ∧
      Json.field (requestFields r) "action_id" = some (.str r.actionId) ∧
      Json.field (requestFields r) "resource" = some (.obj [("resource_type", .str r.resource.record.resourceType),
        ("resource_reference", .str r.resource.record.resourceReference)]) ∧
      Json.field (requestFields r) "delegation_id" = some (optionalText r.delegationId) ∧
      Json.field (requestFields r) "delegation_version" = some (optionalText r.delegationVersion) ∧
      Json.field (requestFields r) "delegation_digest" = some (optionalText r.delegationDigest) ∧
      Json.field (requestFields r) "tool_arguments_digest" = some (optionalText r.toolArgumentsDigest) ∧
      Json.field (requestFields r) "context" = some (.obj r.context) ∧
      Json.field (requestFields r) "idempotency_key" = some (.str r.idempotencyKey) ∧
      Json.field (requestFields r) "policy_id" = some (optionalText r.policyId) ∧
      Json.field (requestFields r) "expected_policy_version" = some (optionalText r.expectedPolicyVersion) := by
  refine ⟨?_, ?_, ?_, ?_, ?_, ?_, ?_, ?_, ?_, ?_, ?_, ?_, ?_⟩ <;> simp [requestFields]

end Fields

/-- The endpoint rebuilds the request of the client. -/
theorem parseRequestBody_requestPayload (request : RuntimeActionAuthorizationRequest) :
    parseRequestBody (requestPayload request) = some request := by
  have valid := request.valid
  simp only [RuntimeActionAuthorizationRequestRecord.violation, firstViolation_eq_none, List.forall_mem_append,
    List.forall_mem_cons, List.forall_mem_map] at valid
  obtain ⟨⟨version, execution, action, idempotency, correlation, delegation, delegationVersion, together,
    delegationDigest, digestPresent, digest, policy, expected, expectedPolicy, bounded, -⟩, facts⟩ := valid
  obtain ⟨toolArgumentsDigest, present⟩ : ∃ digest, request.record.toolArgumentsDigest = some digest := by
    rw [rejectIf_eq_none, Option.isNone_eq_false_iff] at digestPresent
    exact Option.isSome_iff_exists.mp digestPresent
  obtain ⟨versionField, executionField, correlationField, actionField, resourceField, delegationField,
    delegationVersionField, delegationDigestField, toolArgumentsField, contextField, idempotencyField, policyField,
    expectedField⟩ := field_requestFields request.record
  have versionRead : bodySchemaVersion (some (.str request.record.schemaVersion)) =
      some request.record.schemaVersion := by
    have same : request.record.schemaVersion = runtimeActionAuthorizationSchemaVersion := by
      simpa using version
    rw [same]
    rfl
  have digestRead : bodyDigest (some (optionalText request.record.toolArgumentsDigest)) = some toolArgumentsDigest := by
    rw [present] at digest ⊢
    exact bodyDigest_of_required digest
  have contextRead := bodyContext_of_valid (by simpa using bounded) facts
  have checked : (Checked.create { request.record with toolArgumentsDigest := some toolArgumentsDigest } :
      Except Raised RuntimeActionAuthorizationRequest) = .ok request := by
    rw [← present]
    exact Checked.create_eq_ok_iff.mpr rfl
  rw [rejectIf_eq_none] at expectedPolicy
  rw [requireTogether, rejectIf_eq_none] at together
  unfold parseRequestBody requestPayload
  simp only [onlyFields_requestFields, versionField, versionRead, executionField, bodyIdentifier_of_required execution,
    correlationField, bodyOptionalIdentifier_of_required correlation, actionField, bodyIdentifier_of_required action,
    resourceField, bodyResource_of_valid, delegationField, bodyOptionalIdentifier_of_required delegation,
    delegationVersionField, bodyOptionalIdentifier_of_required delegationVersion, delegationDigestField,
    bodyOptionalDigest_of_required delegationDigest, toolArgumentsField, digestRead, contextField, contextRead,
    idempotencyField, bodyIdentifier_of_required idempotency, policyField, bodyOptionalIdentifier_of_required policy,
    expectedField, bodyOptionalIdentifier_of_required expected]
  simp only [guard_true, Option.pure_def, Option.bind_eq_bind, Option.bind_some, expectedPolicy, together, Bool.not_false]
  exact congrArg Except.toOption checked

/-! ## The boundary -/

/-- The decision allows this operation, for this actor and now, with the arguments the tool is called with. -/
structure Opens (primitives : Primitives) (actorId : String) (now : Instant)
    (request : RuntimeActionAuthorizationRequest) (actualToolArgumentsDigest : String)
    (decision : RuntimeActionAuthorizationDecision) : Prop where
  allow : decision.record.outcome = .allow
  unexpired : now < decision.record.expiresAt
  execution : decision.record.executionId = request.record.executionId
  action : decision.record.actionId = request.record.actionId
  resource : decision.record.resource = request.record.resource
  idempotencyKey : decision.record.idempotencyKey = request.record.idempotencyKey
  actor : decision.record.actorId = actorId
  fingerprint : decision.record.requestFingerprint = request.fingerprint primitives
  requestArguments : request.record.toolArgumentsDigest = some actualToolArgumentsDigest
  decisionArguments : decision.record.toolArgumentsDigest = some actualToolArgumentsDigest

section Boundary

variable {actorId : String} {now : Instant} {request : RuntimeActionAuthorizationRequest}
  {actualToolArgumentsDigest : String} {decision : RuntimeActionAuthorizationDecision}

theorem isValidFor_iff : isValidFor primitives decision request actorId now = true ↔
    decision.record.outcome = .allow ∧ now < decision.record.expiresAt ∧
      decision.record.executionId = request.record.executionId ∧ decision.record.actionId = request.record.actionId ∧
      decision.record.resource = request.record.resource ∧ decision.record.actorId = actorId ∧
      decision.record.idempotencyKey = request.record.idempotencyKey ∧
      decision.record.requestFingerprint = request.fingerprint primitives := by
  simp only [isValidFor, RuntimeActionAuthorizationDecision.matchesRequest, Bool.and_eq_true, decide_eq_true_eq,
    and_assoc]

/-- The boundary opens on what the client has decoded, if that allows the operation. -/
theorem requireAllow_iff {arrived : Transported} :
    requireAllow primitives actorId now request actualToolArgumentsDigest arrived = .ok decision ↔
      clientAuthorize primitives arrived = some decision ∧
        Opens primitives actorId now request actualToolArgumentsDigest decision := by
  unfold requireAllow
  constructor
  · intro returned
    split at returned
    · cases returned
    · rename_i decoded found
      split at returned
      · cases returned
      · rename_i valid
        split at returned
        · cases returned
        · rename_i matching
          cases returned
          rw [Bool.not_eq_true, Bool.not_eq_false', isValidFor_iff] at valid
          obtain ⟨allow, unexpired, execution, action, resource, actor, idempotencyKey, fingerprint⟩ := valid
          rw [not_or, Decidable.not_not, Decidable.not_not] at matching
          exact ⟨found, allow, unexpired, execution, action, resource, idempotencyKey, actor, fingerprint, matching.1,
            matching.2⟩
  · rintro ⟨found, opens⟩
    have valid : isValidFor primitives decision request actorId now = true :=
      isValidFor_iff.mpr ⟨opens.allow, opens.unexpired, opens.execution, opens.action, opens.resource, opens.actor,
        opens.idempotencyKey, opens.fingerprint⟩
    simp [found, valid, opens.requestArguments, opens.decisionArguments]

end Boundary

/-! ## The endpoint -/

section Endpoint

variable {S : Type} (handler : Handler repositories S) (config : AuthorizationConfig)
  (request : RuntimeActionAuthorizationRequest) (context : TenantContext) (now : Instant) (decisionId : String)
  (state : S)

/-- What the endpoint answers to the payload of a client is what the service has answered to its request. -/
theorem authorizeRuntimeAction_run :
    ((authorizeRuntimeAction primitives config (requestPayload request) context now decisionId).run handler state).1 =
      .ok (serviceResponse
        ((authorize primitives config { request, context, now, decisionId }).run handler state).1) := by
  have caught := Program.run_caught handler (authorize primitives config { request, context, now, decisionId }) state
  simp only [authorizeRuntimeAction, parseRequestBody_requestPayload, Program.run_bind]
  rw [caught]
  rfl

/-- Only a decision of the service can be decoded from a response. -/
theorem clientAuthorize_served {decision : RuntimeActionAuthorizationDecision}
    (outcome : Except Raised RuntimeActionAuthorizationDecision) :
    clientAuthorize primitives (transported (serviceResponse outcome)) = some decision ↔ outcome = .ok decision := by
  cases outcome with
  | ok served =>
    have arrives : transported (serviceResponse (.ok served)) = some (toResponse served) := rfl
    simp only [arrives, clientAuthorize, Option.bind_some, decisionFromPayload_toResponse, Option.some.injEq,
      Except.ok.injEq]
  | error raised =>
    have lost : transported (serviceResponse (.error raised)) = none := by
      change transported (raisedResponse raised) = none
      unfold raisedResponse
      split <;> rfl
    simp [lost, clientAuthorize]

end Endpoint

/-- Client and server speak one contract: decisions decode as they were mapped, requests arrive with their fingerprint,
and the boundary opens on exactly the decisions of the service that allow the operation. -/
theorem client_speaks_contract (primitives : Primitives) :
    (∀ decision, decisionFromPayload primitives (toResponse decision) = some decision) ∧
      (∀ request, ∃ rebuilt, parseRequestBody (requestPayload request) = some rebuilt ∧
        rebuilt.fingerprint primitives = request.fingerprint primitives) ∧
      (∀ (S : Type) (handler : Handler repositories S) (state : S) config request context now decisionId, ∃ response,
        ((authorizeRuntimeAction primitives config (requestPayload request) context now decisionId).run handler state).1 =
            .ok response ∧
          ∀ actorId clock actual decision,
            requireAllow primitives actorId clock request actual (transported response) = .ok decision ↔
              ((authorize primitives config { request, context, now, decisionId }).run handler state).1 = .ok decision ∧
                Opens primitives actorId clock request actual decision) ∧
      ∀ actorId clock request actual arrived,
        (∀ decision, requireAllow primitives actorId clock request actual arrived = .ok decision ↔
          (∃ body, arrived = some body ∧ decisionFromPayload primitives body = some decision) ∧
            Opens primitives actorId clock request actual decision) ∧
        (clientAuthorize primitives arrived = none →
          requireAllow primitives actorId clock request actual arrived = .error ⟨"AUTHORIZATION_UNAVAILABLE"⟩) := by
  refine ⟨decisionFromPayload_toResponse, ?_, ?_, ?_⟩
  · intro request
    exact ⟨request, parseRequestBody_requestPayload request, rfl⟩
  · intro S handler state config request context now decisionId
    refine ⟨_, authorizeRuntimeAction_run handler config request context now decisionId state, ?_⟩
    intro actorId clock actual decision
    rw [requireAllow_iff, clientAuthorize_served]
  · intro actorId clock request actual arrived
    refine ⟨fun decision => ?_, fun malformed => by unfold requireAllow; rw [malformed]⟩
    rw [requireAllow_iff, clientAuthorize, Option.bind_eq_some_iff]

end AiGovernance.Authorization
