import AiGovernance.Domain.RuntimeAuthorization

/-!
# Runtime action delegations

Immutable, issuer-authorized grants for protected runtime actions, with a
one-way revocation state (`runtime_authorization/delegation.py`).
-/

namespace AiGovernance.Domain

open AiGovernance.Std

/-- `RUNTIME_ACTION_DELEGATION_SCHEMA_VERSION`. -/
def runtimeActionDelegationSchemaVersion : String := "runtime-action-delegation/v1"

/-- The one-way revocation state. -/
inductive RuntimeActionDelegationStatus where
  | active
  | revoked
deriving DecidableEq

/-- The fields of `RuntimeActionDelegationPermission`. -/
structure RuntimeActionDelegationPermissionRecord where
  actionId : String
  resourceType : String
  resourceReferences : List String
deriving DecidableEq

/-- The check of one resource reference. -/
def rejectReference (reference : String) : Option Raised :=
  firstViolation [
    requireNonBlank "resource_reference" reference,
    rejectIf (512 < reference.length) .valueError
      "resource_reference must not exceed 512 characters."]

/-- `RuntimeActionDelegationPermission.__post_init__`. -/
def RuntimeActionDelegationPermissionRecord.violation
    (record : RuntimeActionDelegationPermissionRecord) : Option Raised :=
  firstViolation ([
    requireIdentifier "action_id" record.actionId,
    requireIdentifier "resource_type" record.resourceType,
    rejectIf record.resourceReferences.isEmpty .valueError
      "resource_references must contain an explicit resource scope.",
    rejectIf (¬ record.resourceReferences.Nodup) .valueError
      "resource_references must be unique."] ++
    record.resourceReferences.map rejectReference)

/-- One explicit action and resource scope granted to a runtime actor. -/
abbrev RuntimeActionDelegationPermission := Checked RuntimeActionDelegationPermissionRecord.violation

/-- A versioned grant, immutable except for its revocation state. -/
structure RuntimeActionDelegation where
  delegationId : String
  version : String
  organizationId : String
  projectId : String
  executionId : String
  issuerId : String
  runtimeActorId : String
  permissions : List RuntimeActionDelegationPermission
  issuedAt : Instant
  expiresAt : Instant
  contractDigest : String
  idempotencyKey : String
  status : RuntimeActionDelegationStatus := .active
  revokedAt : Option Instant := none
  revokedBy : Option String := none
  revocationReference : Option String := none
  schemaVersion : String := runtimeActionDelegationSchemaVersion
deriving DecidableEq

namespace RuntimeActionDelegation

/-- One permission as the contract digest sees it. -/
def permissionPayload (permission : RuntimeActionDelegationPermission) : Json :=
  .obj [("action_id", .str permission.record.actionId),
    ("resource_type", .str permission.record.resourceType),
    ("resource_references", .arr (permission.record.resourceReferences.map .str))]

/-- `compute_contract_digest`: every field but the revocation state is bound. -/
def computeContractDigest (primitives : Primitives) (delegation : RuntimeActionDelegation) : String :=
  "sha256:" ++ primitives.stableDigest
    [("schema_version", .str delegation.schemaVersion),
      ("delegation_id", .str delegation.delegationId),
      ("version", .str delegation.version),
      ("organization_id", .str delegation.organizationId),
      ("project_id", .str delegation.projectId),
      ("execution_id", .str delegation.executionId),
      ("issuer_id", .str delegation.issuerId),
      ("runtime_actor_id", .str delegation.runtimeActorId),
      ("permissions", .arr (delegation.permissions.map permissionPayload)),
      ("issued_at", .str delegation.issuedAt.isoformat),
      ("expires_at", .str delegation.expiresAt.isoformat),
      ("idempotency_key", .str delegation.idempotencyKey)]

/-- The evidence a revoked delegation must carry and an active one must not. -/
def rejectEvidence (delegation : RuntimeActionDelegation) : Option Raised :=
  match delegation.status with
  | .revoked =>
    firstViolation [
      rejectIf (delegation.revokedAt.isNone || delegation.revokedBy.isNone) .valueError
        "revoked delegations require revocation evidence.",
      requireOptionalIdentifier "revoked_by" delegation.revokedBy,
      delegation.revocationReference.elim none (requireNonBlank "revocation_reference"),
      rejectIf (delegation.revocationReference.any (256 < ·.length)) .valueError
        "revocation_reference must not exceed 256 characters."]
  | .active =>
    rejectIf (delegation.revokedAt.isSome || delegation.revokedBy.isSome ||
      delegation.revocationReference.isSome) .valueError
      "active delegations cannot carry revocation evidence."

/-- `RuntimeActionDelegation.__post_init__`. -/
def violation (primitives : Primitives) (delegation : RuntimeActionDelegation) : Option Raised :=
  firstViolation [
    rejectIf (delegation.schemaVersion ≠ runtimeActionDelegationSchemaVersion) .valueError
      "Unsupported runtime action delegation schema version.",
    requireIdentifier "delegation_id" delegation.delegationId,
    requireIdentifier "version" delegation.version,
    requireIdentifier "organization_id" delegation.organizationId,
    requireIdentifier "project_id" delegation.projectId,
    requireIdentifier "execution_id" delegation.executionId,
    requireIdentifier "issuer_id" delegation.issuerId,
    requireIdentifier "runtime_actor_id" delegation.runtimeActorId,
    requireIdentifier "idempotency_key" delegation.idempotencyKey,
    rejectIf delegation.permissions.isEmpty .valueError "permissions must not be empty.",
    rejectIf (delegation.expiresAt ≤ delegation.issuedAt) .valueError
      "expires_at must be later than issued_at.",
    requireDigest "contract_digest" delegation.contractDigest,
    rejectIf (delegation.contractDigest ≠ delegation.computeContractDigest primitives) .valueError
      "contract_digest does not match immutable delegation content.",
    delegation.rejectEvidence]

/-- Build a delegation, raising what its construction check reports. -/
def checked (primitives : Primitives) (delegation : RuntimeActionDelegation) :
    Except Raised RuntimeActionDelegation :=
  match delegation.violation primitives with
  | none => .ok delegation
  | some raised => .error raised

/-- `RuntimeActionDelegation.permits`. -/
def permits (delegation : RuntimeActionDelegation) (actorId executionId actionId resourceType
    resourceReference : String) (now : Instant) : Bool :=
  if delegation.status ≠ .active || delegation.expiresAt ≤ now ||
      delegation.runtimeActorId ≠ actorId || delegation.executionId ≠ executionId then false
  else
    delegation.permissions.any fun permission =>
      permission.record.actionId = actionId && permission.record.resourceType = resourceType &&
        resourceReference ∈ permission.record.resourceReferences

/-- The delegation once revoked: `replace` touches the revocation state only. -/
def revoke (delegation : RuntimeActionDelegation) (revokedAt : Instant) (revokedBy : String)
    (revocationReference : Option String) : RuntimeActionDelegation :=
  { delegation with
    status := .revoked
    revokedAt := some revokedAt
    revokedBy := some revokedBy
    revocationReference := revocationReference }

/-- `create_runtime_action_delegation`: the digest is bound at construction. -/
def create (primitives : Primitives) (delegationId organizationId projectId executionId issuerId
    runtimeActorId : String) (permissions : List RuntimeActionDelegationPermission)
    (issuedAt expiresAt : Instant) (idempotencyKey : String) :
    Except Raised RuntimeActionDelegation :=
  let unbound : RuntimeActionDelegation :=
    { delegationId, version := "1", organizationId, projectId, executionId, issuerId,
      runtimeActorId, permissions, issuedAt, expiresAt, contractDigest := "", idempotencyKey }
  checked primitives { unbound with contractDigest := unbound.computeContractDigest primitives }

/-- What revocation leaves as it was: the whole contract and its digest. -/
structure SameContract (left right : RuntimeActionDelegation) : Prop where
  delegationId : left.delegationId = right.delegationId
  version : left.version = right.version
  organizationId : left.organizationId = right.organizationId
  projectId : left.projectId = right.projectId
  executionId : left.executionId = right.executionId
  issuerId : left.issuerId = right.issuerId
  runtimeActorId : left.runtimeActorId = right.runtimeActorId
  permissions : left.permissions = right.permissions
  issuedAt : left.issuedAt = right.issuedAt
  expiresAt : left.expiresAt = right.expiresAt
  contractDigest : left.contractDigest = right.contractDigest
  idempotencyKey : left.idempotencyKey = right.idempotencyKey
  schemaVersion : left.schemaVersion = right.schemaVersion

theorem SameContract.refl (delegation : RuntimeActionDelegation) :
    SameContract delegation delegation := by
  constructor <;> rfl

theorem SameContract.trans {first second third : RuntimeActionDelegation}
    (left : SameContract first second) (right : SameContract second third) :
    SameContract first third where
  delegationId := left.delegationId.trans right.delegationId
  version := left.version.trans right.version
  organizationId := left.organizationId.trans right.organizationId
  projectId := left.projectId.trans right.projectId
  executionId := left.executionId.trans right.executionId
  issuerId := left.issuerId.trans right.issuerId
  runtimeActorId := left.runtimeActorId.trans right.runtimeActorId
  permissions := left.permissions.trans right.permissions
  issuedAt := left.issuedAt.trans right.issuedAt
  expiresAt := left.expiresAt.trans right.expiresAt
  contractDigest := left.contractDigest.trans right.contractDigest
  idempotencyKey := left.idempotencyKey.trans right.idempotencyKey
  schemaVersion := left.schemaVersion.trans right.schemaVersion

theorem sameContract_revoke (delegation : RuntimeActionDelegation) (revokedAt : Instant)
    (revokedBy : String) (revocationReference : Option String) :
    SameContract delegation (delegation.revoke revokedAt revokedBy revocationReference) := by
  constructor <;> rfl

/-- What may become of a stored delegation: its contract stays, and it may be revoked once. -/
def Evolves (before after : RuntimeActionDelegation) : Prop :=
  SameContract before after ∧
    (after = before ∨ before.status = .active ∧ after.status = .revoked)

theorem Evolves.refl (delegation : RuntimeActionDelegation) : Evolves delegation delegation :=
  ⟨SameContract.refl delegation, Or.inl rfl⟩

theorem Evolves.trans {first second third : RuntimeActionDelegation} (left : Evolves first second)
    (right : Evolves second third) : Evolves first third := by
  refine ⟨left.1.trans right.1, ?_⟩
  rcases left.2 with rfl | ⟨active, revoked⟩
  · exact right.2
  · rcases right.2 with rfl | ⟨stillActive, -⟩
    · exact Or.inr ⟨active, revoked⟩
    · rw [revoked] at stillActive
      cases stillActive

theorem Evolves.revoked {before after : RuntimeActionDelegation} (evolves : Evolves before after)
    (revoked : before.status = .revoked) : after = before := by
  rcases evolves.2 with same | ⟨active, -⟩
  · exact same
  · rw [revoked] at active
    cases active

variable {delegation : RuntimeActionDelegation}

theorem evolves_revoke (active : delegation.status = .active) (revokedAt : Instant) (revokedBy : String)
    (revocationReference : Option String) :
    Evolves delegation (delegation.revoke revokedAt revokedBy revocationReference) :=
  ⟨sameContract_revoke delegation revokedAt revokedBy revocationReference, Or.inr ⟨active, rfl⟩⟩

theorem checked_eq_ok {primitives : Primitives} {result : RuntimeActionDelegation}
    (built : checked primitives delegation = .ok result) : result = delegation := by
  unfold checked at built
  split at built
  · exact (Except.ok.inj built).symm
  · cases built

/-- A permitting delegation is active, unexpired, addressed to the caller, and lists
the operation in one of its permissions. -/
theorem permits_iff {actorId executionId actionId resourceType resourceReference : String} {now : Instant} :
    delegation.permits actorId executionId actionId resourceType resourceReference now = true ↔
      delegation.status = .active ∧ now < delegation.expiresAt ∧
        delegation.runtimeActorId = actorId ∧ delegation.executionId = executionId ∧
        ∃ permission ∈ delegation.permissions, permission.record.actionId = actionId ∧
          permission.record.resourceType = resourceType ∧
          resourceReference ∈ permission.record.resourceReferences := by
  unfold permits
  split
  · rename_i refused
    simp only [Bool.false_eq_true, false_iff]
    rintro ⟨active, unexpired, actor, execution, -⟩
    have late : ¬ delegation.expiresAt ≤ now := by
      rw [Instant.le_def]
      rw [Instant.lt_def] at unexpired
      omega
    simp [active, late, actor, execution] at refused
  · rename_i accepted
    simp only [ne_eq, Bool.or_eq_true, decide_eq_true_eq, not_or, Decidable.not_not] at accepted
    obtain ⟨⟨⟨active, unexpired⟩, actor⟩, execution⟩ := accepted
    have late : now < delegation.expiresAt := by
      rw [Instant.le_def] at unexpired
      rw [Instant.lt_def]
      omega
    simp [active, late, actor, execution, and_assoc]

end RuntimeActionDelegation

end AiGovernance.Domain
