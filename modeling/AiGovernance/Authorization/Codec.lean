import AiGovernance.Services.RuntimeActionAuthorization

/-!
# Decoding stored decisions

A decision is stored as the attributes of an event and read back from them.
Reading back depends on the attributes only up to the equality the event store
compares payloads with, so an event the store takes for a redelivery decodes to
the same decision.
-/

namespace AiGovernance.Authorization

open AiGovernance.Std Domain Services

variable {primitives : Primitives}

variable {right left : List (String × Json)}

theorem field_eq_of_same (key text : String) (same : Json.sameFields left right = true)
    (written : Json.field right key = some (.str text)) : Json.field left key = some (.str text) := by
  have agree := Json.field_of_sameFields same key
  rw [written] at agree
  obtain ⟨value, found, equal⟩ := Option.map_eq_some_iff.mp agree
  rw [found, Json.canonical_eq_str_iff.mp equal]

theorem textField_of_same (key text : String) (same : Json.sameFields left right = true)
    (written : Json.field right key = some (.str text)) : primitives.textField left key = some text := by
  simp [Primitives.textField, Primitives.str, field_eq_of_same key text same written]

theorem optionalNonEmpty_of_same (key : String) (text : Option String)
    (same : Json.sameFields left right = true) (written : Json.field right key = some (optionalText text))
    (nonEmpty : text ≠ some "") : optionalNonEmpty (Json.field left key) = text := by
  cases text with
  | some text =>
    have different : text ≠ "" := fun empty => nonEmpty (by rw [empty])
    rw [field_eq_of_same key text same written]
    simp [optionalNonEmpty, different]
  | none =>
    have agree := Json.field_of_sameFields same key
    rw [written] at agree
    obtain ⟨value, found, equal⟩ := Option.map_eq_some_iff.mp agree
    rw [found]
    cases value <;> simp [optionalText, Json.canonical, optionalNonEmpty] at equal ⊢

theorem evaluatedBinding_of_canonical {value : Json} {binding : String × String}
    (equal : value.canonical =
      (Json.obj [("policy_id", .str binding.1), ("version", .str binding.2)]).canonical)
    (policy : binding.1 ≠ "") (version : binding.2 ≠ "") : evaluatedBinding value = some binding := by
  cases value with
  | obj fields =>
    have same : Json.sameFields fields
        [("policy_id", .str binding.1), ("version", .str binding.2)] = true := by
      simpa [Json.sameFields, Json.canonical] using equal
    have policyId := field_eq_of_same "policy_id" binding.1 same (by simp)
    have policyVersion := field_eq_of_same "version" binding.2 same (by simp)
    simp [evaluatedBinding, policyId, policyVersion, optionalNonEmpty, policy, version]
  | null | bool _ | int _ | float _ | str _ | arr _ => simp [Json.canonical] at equal

theorem mapM_evaluatedBinding {items : List Json} {bindings : List (String × String)}
    (equal : Json.canonicalItems items = Json.canonicalItems (bindings.map fun binding =>
      .obj [("policy_id", .str binding.1), ("version", .str binding.2)]))
    (nonEmpty : ∀ binding ∈ bindings, binding.1 ≠ "" ∧ binding.2 ≠ "") :
    items.mapM evaluatedBinding = some bindings := by
  induction bindings generalizing items with
  | nil =>
    cases items with
    | nil => rfl
    | cons item rest => simp [Json.canonicalItems] at equal
  | cons binding bindings ih =>
    cases items with
    | nil => simp [Json.canonicalItems] at equal
    | cons item rest =>
      simp only [List.map_cons, Json.canonicalItems, List.cons.injEq] at equal
      obtain ⟨policy, version⟩ := nonEmpty binding List.mem_cons_self
      rw [List.mapM_cons, evaluatedBinding_of_canonical equal.1 policy version,
        ih equal.2 fun other member => nonEmpty other (List.mem_cons_of_mem _ member)]
      rfl

theorem evaluatedPoliciesOf_of_same (bindings : List (String × String))
    (same : Json.sameFields left right = true)
    (written : Json.field right "evaluated_policies" = some (.arr (bindings.map fun binding =>
      .obj [("policy_id", .str binding.1), ("version", .str binding.2)])))
    (nonEmpty : ∀ binding ∈ bindings, binding.1 ≠ "" ∧ binding.2 ≠ "") :
    evaluatedPoliciesOf (Json.field left "evaluated_policies") = some bindings := by
  have agree := Json.field_of_sameFields same "evaluated_policies"
  rw [written] at agree
  obtain ⟨value, found, equal⟩ := Option.map_eq_some_iff.mp agree
  rw [found]
  cases value with
  | arr items =>
    exact mapM_evaluatedBinding (by simpa [Json.canonical] using equal) nonEmpty
  | null | bool _ | int _ | float _ | str _ | obj _ => simp [Json.canonical] at equal

theorem isIdentifier_ne_empty {bound : Nat} {text : String}
    (identifier : Text.isIdentifier bound text = true) : text ≠ "" := by
  rintro rfl
  cases identifier

/-- The optional texts and bindings of a decision are never empty. -/
theorem decision_nonEmpty (decision : RuntimeActionAuthorizationDecision) :
    decision.record.correlationId ≠ some "" ∧
      decision.record.policyId ≠ some "" ∧ decision.record.policyVersion ≠ some "" ∧
      decision.record.delegationId ≠ some "" ∧ decision.record.delegationVersion ≠ some "" ∧
      decision.record.delegationDigest ≠ some "" ∧ decision.record.toolArgumentsDigest ≠ some "" ∧
      ∀ binding ∈ decision.record.evaluatedPolicies, binding.1 ≠ "" ∧ binding.2 ≠ "" := by
  have valid := decision.valid
  have identifier : ∀ {name : String} {value : Option String},
      requireOptionalIdentifier name value = none → value ≠ some "" := by
    rintro name _ passed rfl
    have : Text.isIdentifier 127 "" = false := rfl
    simp [requireOptionalIdentifier, requireIdentifier, this] at passed
  have digest : ∀ {name : String} {value : Option String},
      requireOptionalDigest name value = none → value ≠ some "" := by
    rintro name _ passed rfl
    have : Text.isSha256Digest "" = false := by decide
    simp [requireOptionalDigest, requireDigest, this] at passed
  simp only [RuntimeActionAuthorizationDecisionRecord.violation, firstViolation_eq_none,
    List.forall_mem_append, List.forall_mem_cons, List.forall_mem_map, rejectBinding] at valid
  obtain ⟨⟨scalars, bindings⟩, -⟩ := valid
  obtain ⟨-, -, -, -, -, -, -, -, correlationId, policyId, policyVersion, delegationId, delegationVersion, -,
    delegationDigest, toolArgumentsDigest, -⟩ := scalars
  refine ⟨identifier correlationId, identifier policyId, identifier policyVersion, identifier delegationId,
    identifier delegationVersion, digest delegationDigest, digest toolArgumentsDigest, ?_⟩
  intro binding member
  have passed := bindings binding member
  simp only [requireIdentifier, rejectIf_eq_none, Bool.not_eq_false'] at passed
  exact ⟨isIdentifier_ne_empty passed.1, isIdentifier_ne_empty passed.2.1⟩

/-- The event carries the decision: its identity, time and execution are the
decision's, and its attributes are those `_decision_event` writes. -/
structure Carries (primitives : Primitives) (request : RuntimeActionAuthorizationRequest)
    (decision : RuntimeActionAuthorizationDecision) (event : AgentExecutionEvent) : Prop where
  eventId : event.record.eventId = decision.record.decisionId
  executionId : event.record.executionId = decision.record.executionId
  occurredAt : event.record.occurredAt = decision.record.decidedAt
  correlationId : event.record.correlationId = decision.record.correlationId
  eventType : event.record.eventType = .runtimeActionAuthorization
  attributes : Json.sameFields event.record.attributes
    (decisionAttributes primitives request decision) = true

variable {request : RuntimeActionAuthorizationRequest}
  {decision : RuntimeActionAuthorizationDecision} {event : AgentExecutionEvent}

theorem Carries.storedDecision (carries : Carries primitives request decision event)
    (bound : decision.record.requestFingerprint = request.fingerprint primitives) :
    storedDecision primitives event = some decision := by
  obtain ⟨-, policyId, policyVersion, delegationId, delegationVersion, delegationDigest,
    toolArgumentsDigest, bindings⟩ := decision_nonEmpty decision
  have text := fun key value => @textField_of_same primitives _ _ key value carries.attributes
  have optional := fun key value => optionalNonEmpty_of_same key value carries.attributes
  have outcome := text "authorization_outcome" decision.record.outcome.value
    (by simp [decisionAttributes])
  have reasonCode := text "reason_code" decision.record.reasonCode (by simp [decisionAttributes])
  have actionId := text "action_id" decision.record.actionId (by simp [decisionAttributes])
  have resourceType := text "resource_type" decision.record.resource.record.resourceType
    (by simp [decisionAttributes])
  have resourceReference := text "resource_reference"
    decision.record.resource.record.resourceReference (by simp [decisionAttributes])
  have actorId := text "actor_id" decision.record.actorId (by simp [decisionAttributes])
  have idempotencyKey := text "idempotency_key" decision.record.idempotencyKey
    (by simp [decisionAttributes])
  have fingerprint := text "request_fingerprint" decision.record.requestFingerprint
    (by simp [decisionAttributes, bound])
  have expiresAt := text "expires_at" decision.record.expiresAt.isoformat
    (by simp [decisionAttributes])
  have schemaVersion := text "authorization_schema_version" decision.record.schemaVersion
    (by simp [decisionAttributes])
  have policyId := optional "policy_id" _ (by simp [decisionAttributes]) policyId
  have policyVersion := optional "policy_version" _ (by simp [decisionAttributes]) policyVersion
  have delegationId := optional "delegation_id" _ (by simp [decisionAttributes]) delegationId
  have delegationVersion := optional "delegation_version" _ (by simp [decisionAttributes])
    delegationVersion
  have delegationDigest := optional "delegation_digest" _ (by simp [decisionAttributes])
    delegationDigest
  have toolArgumentsDigest := optional "tool_arguments_digest" _ (by simp [decisionAttributes])
    toolArgumentsDigest
  have evaluated := evaluatedPoliciesOf_of_same decision.record.evaluatedPolicies carries.attributes
    (by simp [decisionAttributes]) bindings
  have resource : (Checked.create ⟨decision.record.resource.record.resourceType,
      decision.record.resource.record.resourceReference⟩ :
        Except Raised RuntimeActionResource) = .ok decision.record.resource :=
    Checked.create_eq_ok_iff.mpr rfl
  have decoded : decisionRecordOf primitives event = some decision.record := by
    simp only [decisionRecordOf, outcome, reasonCode, actionId, resourceType, resourceReference,
      actorId, idempotencyKey, fingerprint, expiresAt, schemaVersion, policyId, policyVersion,
      delegationId, delegationVersion, delegationDigest, toolArgumentsDigest, evaluated, resource,
      carries.eventId, carries.executionId, carries.occurredAt, carries.correlationId,
      Except.toOption, Instant.fromisoformat_isoformat, Option.bind_eq_bind, Option.bind_some,
      RuntimeActionAuthorizationOutcome.ofValue_value]
    rfl
  unfold Services.storedDecision
  rw [decoded]
  simp [Checked.create_eq_ok_iff.mpr (rfl : decision.record = decision.record), Except.toOption]

end AiGovernance.Authorization
