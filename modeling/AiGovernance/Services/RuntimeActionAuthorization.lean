import AiGovernance.Repositories.Commands

/-!
# The runtime action authorization service

`RuntimeActionAuthorizationService`: evaluate the active policies of a tenant
for one operation and append the decision as an event
(`services/runtime_action_authorization_service.py`). A stored decision is
authoritative: a call that finds one under its key decodes and returns it.
-/

namespace AiGovernance.Services

open AiGovernance.Std Domain Decisions Repositories
open Semantics

/-- How the service is set up: the positive lifetime of its decisions, and whether a
delegation repository was given to it. -/
structure AuthorizationConfig where
  decisionTtl : Nat
  resolvesDelegations : Bool
  positive : 0 < decisionTtl

/-- The arguments of one `authorize` call with the clock and the identifier it draws. -/
structure AuthorizationCall where
  request : RuntimeActionAuthorizationRequest
  context : TenantContext
  now : Instant
  decisionId : String
deriving DecidableEq

/-- `_EVENT_IDEMPOTENCY_PREFIX`. -/
def authorizationKeyLead : String := "runtime-action-authorization:"

/-- `_event_idempotency_key`. -/
def eventIdempotencyKey (idempotencyKey : String) : String := authorizationKeyLead ++ idempotencyKey

/-- The conflict of a reused key. -/
def reusedKey : Raised :=
  ⟨.runtimeActionAuthorizationConflictError,
    "Authorization idempotency key was reused with different input."⟩

/-! ## Selection of policies -/

/-- `_string_tuple`: every item is non-blank text and no item repeats, else nothing. -/
def stringTuple : Option Json → List String
  | some (.arr values) =>
    let items := values.filterMap fun value =>
      match value with
      | .str text => if Text.isBlank text then none else some text
      | _ => none
    if items.length = values.length ∧ items.Nodup then items else []
  | _ => []

/-- `_registration`: the actions and resource types a definition opts in for. -/
def registration (definition : PolicyDefinition) : Option (List String × List String) :=
  match Json.field definition.metadata "runtime_action_authorization" with
  | some (.obj raw) =>
    if Json.field raw "purpose" ≠ some (.str "runtime_action_authorization") then none
    else
      let actions := stringTuple (Json.field raw "registered_actions")
      let resourceTypes := stringTuple (Json.field raw "registered_resource_types")
      if actions = [] ∨ resourceTypes = [] then none else some (actions, resourceTypes)
  | _ => none

/-- Pair each definition with its active version; a definition without one is skipped. -/
def withActiveVersions : List PolicyDefinition →
    Operation (List (PolicyDefinition × PolicyVersion))
  | [] => .done []
  | definition :: rest => do
      let version ← issue (.getActiveVersion definition.policyId)
      let others ← withActiveVersions rest
      match version with
      | none => .done others
      | some version => .done ((definition, version) :: others)

/-- The active definitions of the tenant with their active versions. -/
def candidateDefinitions (scope : Scope) : Operation (List (PolicyDefinition × PolicyVersion)) := do
  let definitions ← issue (.listDefinitions scope .active)
  withActiveVersions definitions

/-- A candidate registers the requested action. -/
def registersAction (request : RuntimeActionAuthorizationRequest)
    (candidate : PolicyDefinition × PolicyVersion) : Bool :=
  (registration candidate.1).any fun registered => request.record.actionId ∈ registered.1

/-- A candidate registers the requested resource type. -/
def registersResource (request : RuntimeActionAuthorizationRequest)
    (candidate : PolicyDefinition × PolicyVersion) : Bool :=
  (registration candidate.1).any fun registered =>
    request.record.resource.record.resourceType ∈ registered.2

/-- The choice `_select_policies` makes among the candidates. -/
def choosePolicies (request : RuntimeActionAuthorizationRequest)
    (candidates : List (PolicyDefinition × PolicyVersion)) :
    Except String (List (PolicyDefinition × PolicyVersion)) :=
  let selected := candidates.filter fun candidate =>
    registersAction request candidate && registersResource request candidate &&
      .agentExecution ∈ candidate.2.record.targetTypes
  if selected ≠ [] then .ok selected
  else if ¬ candidates.any (registersAction request) then .error "UNSUPPORTED_ACTION"
  else if ¬ candidates.any (registersResource request) then .error "UNSUPPORTED_RESOURCE"
  else .error "NO_APPLICABLE_POLICY"

/-! ## Decisions -/

/-- `_decision`. -/
def decision (primitives : Primitives) (config : AuthorizationConfig) (call : AuthorizationCall)
    (correlationId : Option String) (outcome : RuntimeActionAuthorizationOutcome)
    (reasonCode : String) (policy : Option (String × String))
    (delegation : Option RuntimeActionDelegation) (evaluatedPolicies : List (String × String)) :
    RuntimeActionAuthorizationDecisionRecord :=
  { decisionId := call.decisionId
    outcome
    reasonCode
    executionId := call.request.record.executionId
    correlationId
    actionId := call.request.record.actionId
    resource := call.request.record.resource
    actorId := call.context.actorId
    idempotencyKey := call.request.record.idempotencyKey
    requestFingerprint := call.request.fingerprint primitives
    decidedAt := call.now
    expiresAt := call.now.add config.decisionTtl
    delegationId := delegation.map (·.delegationId)
    delegationVersion := delegation.map (·.version)
    delegationDigest := delegation.map (·.contractDigest)
    toolArgumentsDigest := call.request.record.toolArgumentsDigest
    evaluatedPolicies
    policyId := policy.map (·.1)
    policyVersion := policy.map (·.2)
    schemaVersion := runtimeActionAuthorizationSchemaVersion }

/-- What `_resolve_delegation` makes of the delegation it found. -/
def checkDelegation (call : AuthorizationCall) (delegation : RuntimeActionDelegation) :
    Except String RuntimeActionDelegation :=
  let request := call.request.record
  if some delegation.version ≠ request.delegationVersion ∨
      some delegation.contractDigest ≠ request.delegationDigest then
    .error "DELEGATION_BINDING_MISMATCH"
  else if delegation.status = .revoked then .error "DELEGATION_REVOKED"
  else if delegation.expiresAt ≤ call.now then .error "DELEGATION_EXPIRED"
  else if !delegation.permits call.context.actorId request.executionId request.actionId
      request.resource.record.resourceType request.resource.record.resourceReference call.now then
    .error "DELEGATION_SCOPE_DENIED"
  else .ok delegation

/-- `_resolve_delegation`. -/
def resolveDelegation (config : AuthorizationConfig) (call : AuthorizationCall) :
    Operation (Except String RuntimeActionDelegation) :=
  if !config.resolvesDelegations then .done (.error "DELEGATION_RESOLUTION_UNAVAILABLE")
  else
    match call.request.record.delegationId with
    | none => .done (.error "MISSING_DELEGATION")
    | some delegationId => do
        let found ← tryIssue (.getDelegation delegationId call.context.scope)
        match found with
        | .error _ => .done (.error "DELEGATION_RESOLUTION_UNAVAILABLE")
        | .ok none => .done (.error "DELEGATION_NOT_FOUND")
        | .ok (some delegation) => .done (checkDelegation call delegation)

/-- The evidence policies are evaluated over. -/
def authorizationEvidence (call : AuthorizationCall) (delegation : RuntimeActionDelegation) :
    List (String × Json) :=
  let request := call.request.record
  [("action", .obj [("id", .str request.actionId)]),
    ("resource", .obj [("type", .str request.resource.record.resourceType),
      ("reference", .str request.resource.record.resourceReference)]),
    ("actor", .obj [("id", .str call.context.actorId)]),
    ("delegation", .obj [("id", .str delegation.delegationId),
      ("version", .str delegation.version),
      ("digest", .str delegation.contractDigest),
      ("issuer_id", .str delegation.issuerId),
      ("runtime_actor_id", .str delegation.runtimeActorId)]),
    ("agent_context", .obj request.context)]

/-- `_uses_agent_controlled_context`. -/
def usesAgentControlledContext (version : PolicyVersion) : Bool :=
  version.record.rules.any fun rule =>
    rule.record.effect = .approve && rule.record.conditions.any fun condition =>
      Text.startsWith "context." condition.record.fieldPath ||
        Text.startsWith "agent_context." condition.record.fieldPath

/-- The outcome of one selected policy. -/
def policyOutcome (evidence : List (String × Json)) (policy : PolicyDefinition × PolicyVersion) :
    PolicyEvaluationOutcome :=
  (GovernancePolicyEvaluator.evaluateWithTrace policy.2 .agentExecution evidence).outcome

/-- A matching policy whose effect cannot decide an authorization. -/
def isUnsupported (evidence : List (String × Json)) (policy : PolicyDefinition × PolicyVersion) :
    Bool :=
  let outcome := policyOutcome evidence policy
  outcome.matched &&
    ((outcome.effect ≠ .approve && outcome.effect ≠ .reject && outcome.effect ≠ .block) ||
      (outcome.effect = .approve && usesAgentControlledContext policy.2))

/-- A matching policy whose effect decides. -/
def isDecisive (evidence : List (String × Json)) (policy : PolicyDefinition × PolicyVersion) : Bool :=
  (policyOutcome evidence policy).matched && !isUnsupported evidence policy

/-- The order of `matched.sort(key=lambda item: (item[0], item[1]))`. -/
def decidesBefore (evidence : List (String × Json)) (left right : PolicyDefinition × PolicyVersion) :
    Prop :=
  let leftPriority := (policyOutcome evidence left).rulePriority.getD 0
  let rightPriority := (policyOutcome evidence right).rulePriority.getD 0
  leftPriority < rightPriority ∨
    (leftPriority = rightPriority ∧ left.1.policyId ≤ right.1.policyId)

instance (evidence : List (String × Json)) (left right : PolicyDefinition × PolicyVersion) :
    Decidable (decidesBefore evidence left right) :=
  inferInstanceAs (Decidable (_ ∨ _))

/-- The verdict over the selected policies: outcome, reason and deciding policy. The
loop keeps the last unsupported policy; denials override approvals. -/
def verdict (evidence : List (String × Json)) (selected : List (PolicyDefinition × PolicyVersion)) :
    RuntimeActionAuthorizationOutcome × String × Option (String × String) :=
  match (selected.filter (isUnsupported evidence)).getLast? with
  | some policy =>
    (.deny, "UNSUPPORTED_AUTHORIZATION_POLICY_EFFECT",
      some (policy.1.policyId, policy.2.record.version))
  | none =>
    let decisive := (selected.filter (isDecisive evidence)).insertionSort (decidesBefore evidence)
    let denies := decisive.filter fun policy => (policyOutcome evidence policy).effect ≠ .approve
    match denies, decisive with
    | _, [] => (.deny, "NO_APPLICABLE_POLICY", none)
    | [], policy :: _ =>
      (.allow, "ALLOW_POLICY_MATCHED", some (policy.1.policyId, policy.2.record.version))
    | policy :: _, _ :: others =>
      (.deny, if others ≠ [] then "DENY_OVERRIDES" else "DENY_POLICY_MATCHED",
        some (policy.1.policyId, policy.2.record.version))

/-- The part of `_evaluate` after the policies were selected. -/
def decideSelected (primitives : Primitives) (config : AuthorizationConfig) (call : AuthorizationCall)
    (correlationId : Option String) (delegation : RuntimeActionDelegation)
    (selected : List (PolicyDefinition × PolicyVersion)) : RuntimeActionAuthorizationDecisionRecord :=
  let judged := verdict (authorizationEvidence call delegation) selected
  decision primitives config call correlationId judged.1 judged.2.1 judged.2.2 (some delegation)
    (selected.map fun policy => (policy.1.policyId, policy.2.record.version))

/-- The part of `_evaluate` after the delegation was resolved. -/
def evaluateDelegated (primitives : Primitives) (config : AuthorizationConfig)
    (call : AuthorizationCall) (correlationId : Option String)
    (delegation : RuntimeActionDelegation) : Operation RuntimeActionAuthorizationDecision := do
  let candidates ← (candidateDefinitions call.context.scope).caught
  match candidates.toOption.map (choosePolicies call.request) with
  | none => Program.ofExcept (Checked.create
      (decision primitives config call correlationId .deny "POLICY_EVALUATION_FAILED" none
        (some delegation) []))
  | some (.error reasonCode) => Program.ofExcept (Checked.create
      (decision primitives config call correlationId .deny reasonCode none (some delegation) []))
  | some (.ok selected) => Program.ofExcept (Checked.create
      (decideSelected primitives config call correlationId delegation selected))

/-- `_evaluate`. -/
def evaluate (primitives : Primitives) (config : AuthorizationConfig) (call : AuthorizationCall)
    (correlationId : Option String) : Operation RuntimeActionAuthorizationDecision :=
  if call.request.record.policyId.isSome ∨ call.request.record.expectedPolicyVersion.isSome then
    Program.ofExcept (Checked.create (decision primitives config call correlationId .deny
      "POLICY_SELECTION_NOT_ALLOWED" none none []))
  else do
    let resolved ← resolveDelegation config call
    match resolved with
    | .error reasonCode => Program.ofExcept (Checked.create
        (decision primitives config call correlationId .deny reasonCode none none []))
    | .ok delegation => evaluateDelegated primitives config call correlationId delegation

/-! ## Decisions as events -/

/-- The attributes of a decision event. -/
def decisionAttributes (primitives : Primitives) (request : RuntimeActionAuthorizationRequest)
    (decision : RuntimeActionAuthorizationDecision) : List (String × Json) :=
  let d := decision.record
  [("authorization_schema_version", .str d.schemaVersion),
    ("authorization_outcome", .str d.outcome.value),
    ("reason_code", .str d.reasonCode),
    ("action_id", .str d.actionId),
    ("resource_type", .str d.resource.record.resourceType),
    ("resource_reference", .str d.resource.record.resourceReference),
    ("actor_id", .str d.actorId),
    ("policy_id", optionalText d.policyId),
    ("policy_version", optionalText d.policyVersion),
    ("evaluated_policies", .arr (d.evaluatedPolicies.map fun binding =>
      .obj [("policy_id", .str binding.1), ("version", .str binding.2)])),
    ("delegation_id", optionalText d.delegationId),
    ("delegation_version", optionalText d.delegationVersion),
    ("delegation_digest", optionalText d.delegationDigest),
    ("tool_arguments_digest", optionalText d.toolArgumentsDigest),
    ("expires_at", .str d.expiresAt.isoformat),
    ("idempotency_key", .str d.idempotencyKey),
    ("request_fingerprint", .str (request.fingerprint primitives)),
    ("context_digest", .str (request.contextDigest primitives))]

/-- The event `_decision_event` builds. -/
def decisionEventRecord (primitives : Primitives) (call : AuthorizationCall)
    (decision : RuntimeActionAuthorizationDecision) (sequenceNumber : Nat) :
    AgentExecutionEventRecord :=
  { eventId := decision.record.decisionId
    executionId := decision.record.executionId
    organizationId := call.context.scope.organizationId
    projectId := call.context.scope.projectId
    eventType := .runtimeActionAuthorization
    sequenceNumber
    occurredAt := decision.record.decidedAt
    receivedAt := decision.record.decidedAt
    correlationId := decision.record.correlationId
    causationId := none
    actorId := some call.context.actorId
    actorType := some .governance
    resourceReferences := [decision.record.resource.record.resourceType ++ ":" ++
      decision.record.resource.record.resourceReference]
    attributes := decisionAttributes primitives call.request decision }

/-- `_decision_event`. -/
def decisionEvent (primitives : Primitives) (call : AuthorizationCall)
    (decision : RuntimeActionAuthorizationDecision) : Operation AgentExecutionEvent := do
  let highest ← issue (.maxSequenceNumber decision.record.executionId call.context.scope)
  Program.ofExcept (Checked.create (decisionEventRecord primitives call decision (highest + 1)))

/-- `_optional_string` of the service: non-empty text. -/
def optionalNonEmpty : Option Json → Option String
  | some (.str text) => if text = "" then none else some text
  | _ => none

/-- One item of `_evaluated_policies`; anything but a pair of non-empty texts is malformed. -/
def evaluatedBinding : Json → Option (String × String)
  | .obj fields =>
    match optionalNonEmpty (Json.field fields "policy_id"),
        optionalNonEmpty (Json.field fields "version") with
    | some policyId, some version => some (policyId, version)
    | _, _ => none
  | _ => none

/-- `_evaluated_policies`. -/
def evaluatedPoliciesOf : Option Json → Option (List (String × String))
  | some (.arr items) => items.mapM evaluatedBinding
  | _ => some []

/-- The record `_existing_decision` rebuilds; a missing or unreadable field is `none`. -/
def decisionRecordOf (primitives : Primitives) (event : AgentExecutionEvent) :
    Option RuntimeActionAuthorizationDecisionRecord := do
  let attributes := event.record.attributes
  let outcome ← primitives.textField attributes "authorization_outcome"
  let outcome ← RuntimeActionAuthorizationOutcome.ofValue outcome
  let reasonCode ← primitives.textField attributes "reason_code"
  let actionId ← primitives.textField attributes "action_id"
  let resourceType ← primitives.textField attributes "resource_type"
  let resourceReference ← primitives.textField attributes "resource_reference"
  let resource : RuntimeActionResource ←
    (Checked.create ⟨resourceType, resourceReference⟩ : Except Raised RuntimeActionResource).toOption
  let actorId ← primitives.textField attributes "actor_id"
  let idempotencyKey ← primitives.textField attributes "idempotency_key"
  let requestFingerprint ← primitives.textField attributes "request_fingerprint"
  let expiresAt ← primitives.textField attributes "expires_at"
  let expiresAt ← Instant.fromisoformat expiresAt
  let evaluatedPolicies ← evaluatedPoliciesOf (Json.field attributes "evaluated_policies")
  let schemaVersion ← primitives.textField attributes "authorization_schema_version"
  return {
    decisionId := event.record.eventId
    outcome, reasonCode, actionId, resource, actorId, idempotencyKey, requestFingerprint, expiresAt
    evaluatedPolicies, schemaVersion
    executionId := event.record.executionId
    correlationId := event.record.correlationId
    decidedAt := event.record.occurredAt
    policyId := optionalNonEmpty (Json.field attributes "policy_id")
    policyVersion := optionalNonEmpty (Json.field attributes "policy_version")
    delegationId := optionalNonEmpty (Json.field attributes "delegation_id")
    delegationVersion := optionalNonEmpty (Json.field attributes "delegation_version")
    delegationDigest := optionalNonEmpty (Json.field attributes "delegation_digest")
    toolArgumentsDigest := optionalNonEmpty (Json.field attributes "tool_arguments_digest") }

/-- The decision a stored event carries, if it is well formed. -/
def storedDecision (primitives : Primitives) (event : AgentExecutionEvent) :
    Option RuntimeActionAuthorizationDecision := do
  let record ← decisionRecordOf primitives event
  (Checked.create record : Except Raised RuntimeActionAuthorizationDecision).toOption

/-- `_existing_decision`. -/
def existingDecision (primitives : Primitives) (request : RuntimeActionAuthorizationRequest)
    (actorId : String) (event : AgentExecutionEvent) :
    Except Raised RuntimeActionAuthorizationDecision :=
  if event.record.eventType ≠ .runtimeActionAuthorization ∨
      Json.field event.record.attributes "request_fingerprint" ≠
        some (.str (request.fingerprint primitives)) then .error reusedKey
  else
    match storedDecision primitives event with
    | none => .error ⟨.runtimeActionAuthorizationPersistenceError,
        "Stored authorization evidence is malformed."⟩
    | some decision =>
      if !decision.matchesRequest primitives request actorId then .error reusedKey
      else .ok decision

/-! ## Authorization -/

/-- `_resolve_correlation_id`. -/
def resolveCorrelationId (call : AuthorizationCall) (execution : AgentExecution) :
    Except Raised (Option String) :=
  let authoritative := Text.orElse execution.record.correlationId call.context.correlationId
  let requested := call.request.record.correlationId
  if requested.isSome ∧ authoritative.isSome ∧ requested ≠ authoritative then
    .error ⟨.runtimeActionAuthorizationConflictError,
      "Request correlation does not match the authoritative execution."⟩
  else .ok (Text.orElse authoritative requested)

/-- Read the event stored under the call's key. -/
def findDecisionEvent (call : AuthorizationCall) : Operation (Option AgentExecutionEvent) :=
  issue (.findEventByIdempotencyKey (eventIdempotencyKey call.request.record.idempotencyKey)
    call.request.record.executionId call.context.scope)

/-- Store the event of a computed decision, and answer what the store holds. -/
def recordDecision (primitives : Primitives) (call : AuthorizationCall)
    (decision : RuntimeActionAuthorizationDecision) (event : AgentExecutionEvent) :
    Operation RuntimeActionAuthorizationDecision := do
  let saved ← tryIssue (.saveEvent event
    (some (eventIdempotencyKey call.request.record.idempotencyKey)))
  match saved with
  | .ok saved =>
    if saved.record.eventId ≠ event.record.eventId then
      Program.ofExcept (existingDecision primitives call.request call.context.actorId saved)
    else .done decision
  | .error raised =>
    if raised.kind = .agentExecutionIdempotencyConflict then
      let existing ← findDecisionEvent call
      match existing with
      | some existing =>
        Program.ofExcept (existingDecision primitives call.request call.context.actorId existing)
      | none => .raise reusedKey
    else .raise ⟨.runtimeActionAuthorizationPersistenceError,
      "Authorization decision could not be persisted."⟩

/-- The part of `authorize` after no event was found under the key. -/
def authorizeAnew (primitives : Primitives) (config : AuthorizationConfig) (call : AuthorizationCall)
    (correlationId : Option String) : Operation RuntimeActionAuthorizationDecision := do
  let decision ← evaluate primitives config call correlationId
  let event ← decisionEvent primitives call decision
  recordDecision primitives call decision event

/-- `authorize`. -/
def authorize (primitives : Primitives) (config : AuthorizationConfig) (call : AuthorizationCall) :
    Operation RuntimeActionAuthorizationDecision := do
  let execution ← issue (.getExecution call.request.record.executionId call.context.scope)
  match execution with
  | none => .raise ⟨.runtimeActionAuthorizationNotFoundError,
      "Execution does not exist in the resolved tenant scope."⟩
  | some execution =>
    let correlationId ← Program.ofExcept (resolveCorrelationId call execution)
    let existing ← findDecisionEvent call
    match existing with
    | some existing =>
      Program.ofExcept (existingDecision primitives call.request call.context.actorId existing)
    | none => authorizeAnew primitives config call correlationId

end AiGovernance.Services
