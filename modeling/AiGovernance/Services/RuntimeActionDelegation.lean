import AiGovernance.Repositories.Commands

/-!
# The runtime action delegation service

`RuntimeActionDelegationService`: an issuer registers a grant once every
(action, resource type, resource reference) in it is approved by the active
issuance policies, and may revoke it later
(`services/runtime_action_delegation_service.py`).
-/

namespace AiGovernance.Services

open AiGovernance.Std Domain Decisions Repositories
open Semantics

/-- One `register` call: the registration, the issuer's context, and what it draws. -/
structure RegistrationCall where
  executionId : String
  runtimeActorId : String
  permissions : List RuntimeActionDelegationPermission
  expiresAt : Instant
  idempotencyKey : String
  context : TenantContext
  now : Instant
  delegationId : String
deriving DecidableEq

/-- One `revoke` call. -/
structure RevocationCall where
  delegationId : String
  revocationReference : Option String
  context : TenantContext
  now : Instant
deriving DecidableEq

/-- A definition opts in for issuance. -/
def isIssuanceDefinition (definition : PolicyDefinition) : Bool :=
  match Json.field definition.metadata "runtime_action_delegation_issuance" with
  | some (.obj metadata) =>
    Json.field metadata "purpose" = some (.str "runtime_action_delegation_issuance")
  | _ => false

/-- The candidates `_issuer_permitted` collects: issuance definitions whose active
version targets agent executions. -/
def issuanceCandidates : List PolicyDefinition → Operation (List PolicyVersion)
  | [] => .done []
  | definition :: rest =>
    if !isIssuanceDefinition definition then issuanceCandidates rest
    else do
      let version ← issue (.getActiveVersion definition.policyId)
      let others ← issuanceCandidates rest
      match version with
      | none => .done others
      | some version =>
        if .agentExecution ∈ version.record.targetTypes then .done (version :: others)
        else .done others

/-- The evidence of one (action, resource type, resource reference). -/
def issuanceEvidence (issuerId runtimeActorId actionId resourceType reference : String) :
    List (String × Json) :=
  [("issuer", .obj [("id", .str issuerId)]),
    ("runtime_actor", .obj [("id", .str runtimeActorId)]),
    ("action", .obj [("id", .str actionId)]),
    ("resource", .obj [("type", .str resourceType), ("reference", .str reference)])]

/-- The outcome of one issuance policy. -/
def issuanceOutcome (evidence : List (String × Json)) (version : PolicyVersion) :
    PolicyEvaluationOutcome :=
  (GovernancePolicyEvaluator.evaluateWithTrace version .agentExecution evidence).outcome

/-- The loop over the candidates for one reference, with `matched_allow` so far. -/
def referencePermitted (evidence : List (String × Json)) : List PolicyVersion → Bool → Bool
  | [], matchedAllow => matchedAllow
  | version :: rest, matchedAllow =>
    let outcome := issuanceOutcome evidence version
    if !outcome.matched then referencePermitted evidence rest matchedAllow
    else if outcome.effect = .approve then referencePermitted evidence rest true
    else false

/-- `_issuer_permitted`. -/
def issuerPermitted (permission : RuntimeActionDelegationPermission) (runtimeActorId : String)
    (context : TenantContext) : Operation Bool := do
  let definitions ← issue (.listDefinitions context.scope .active)
  let candidates ← issuanceCandidates definitions
  return permission.record.resourceReferences.all fun reference =>
    referencePermitted (issuanceEvidence context.actorId runtimeActorId permission.record.actionId
      permission.record.resourceType reference) candidates false

/-- The loop of `register` over the requested permissions. -/
def requirePermitted (runtimeActorId : String) (context : TenantContext) :
    List RuntimeActionDelegationPermission → Operation Unit
  | [] => .done ()
  | permission :: rest => do
      let permitted ← issuerPermitted permission runtimeActorId context
      if permitted then requirePermitted runtimeActorId context rest
      else .raise ⟨.runtimeActionDelegationDeniedError,
        "Issuer is not permitted to grant the requested runtime action scope."⟩

/-- `_matches_registration`. -/
def matchesRegistration (delegation : RuntimeActionDelegation) (call : RegistrationCall) : Bool :=
  delegation.executionId = call.executionId && delegation.issuerId = call.context.actorId &&
    delegation.runtimeActorId = call.runtimeActorId && delegation.permissions = call.permissions &&
    delegation.expiresAt = call.expiresAt

/-- The repository's conflict, as the service raises it. -/
def translateConflict (raised : Raised) : Raised :=
  if raised.kind = .runtimeActionDelegationRepositoryConflictError then
    ⟨.runtimeActionDelegationConflictError, raised.message⟩
  else raised

/-- The part of `register` after no delegation was found under the key. -/
def issueDelegation (primitives : Primitives) (call : RegistrationCall) :
    Operation RuntimeActionDelegation := do
  if call.expiresAt ≤ call.now then
    .raise ⟨.runtimeActionDelegationDeniedError, "Delegation expiry must be in the future."⟩
  else if call.permissions = [] then
    .raise ⟨.runtimeActionDelegationDeniedError, "Delegation must include an explicit permission."⟩
  else
    requirePermitted call.runtimeActorId call.context call.permissions
    -- A context without a project fails the identifier check of the contract.
    let delegation ← Program.ofExcept (RuntimeActionDelegation.create primitives call.delegationId
      call.context.scope.organizationId call.context.scope.projectKey call.executionId
      call.context.actorId call.runtimeActorId call.permissions call.now call.expiresAt
      call.idempotencyKey)
    let saved ← tryIssue (.saveDelegation delegation)
    match saved with
    | .ok saved => .done saved
    | .error raised => .raise (translateConflict raised)

/-- `register`. -/
def register (primitives : Primitives) (call : RegistrationCall) :
    Operation RuntimeActionDelegation := do
  let execution ← issue (.getExecution call.executionId call.context.scope)
  match execution with
  | none => .raise ⟨.runtimeActionDelegationNotFoundError,
      "Execution does not exist in the resolved tenant scope."⟩
  | some _ =>
    let existing ← issue (.findDelegationByIdempotencyKey call.idempotencyKey call.context.scope)
    match existing with
    | some existing =>
      if matchesRegistration existing call then .done existing
      else .raise ⟨.runtimeActionDelegationConflictError,
        "Delegation idempotency key was reused with different content."⟩
    | none => issueDelegation primitives call

/-- `revoke`; `str(exc)` of a `KeyError` quotes its message. -/
def revoke (call : RevocationCall) : Operation RuntimeActionDelegation := do
  let outcome ← tryIssue (.revokeDelegation call.delegationId call.context.scope call.now
    call.context.actorId call.revocationReference)
  match outcome with
  | .ok revoked => .done revoked
  | .error raised =>
    if raised.kind = .keyError then
      .raise ⟨.runtimeActionDelegationNotFoundError, "'" ++ raised.message ++ "'"⟩
    else .raise raised

end AiGovernance.Services
