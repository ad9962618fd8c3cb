import AiGovernance.Authorization.Provenance

/-!
# Delegations over whole histories

The two tables of the delegation store hold the same records, a stored contract
never changes, revocation is final, and every triple a stored delegation grants
was approved by the issuance policies when it was registered. An ALLOW that
`authorize` computes rests on such a triple, and on a delegation no earlier
call had revoked.
-/

namespace AiGovernance.Authorization

open AiGovernance.Std Domain Decisions Repositories DelegationStore
open Semantics Services Program

variable {primitives : Primitives} {stores after : Stores} {delegation : RuntimeActionDelegation}

/-! ## Issuance -/

/-- The issuance policies of a tenant: active versions of opted-in active definitions
that target agent executions. -/
def issuancePolicies (policies : PolicyStore) (scope : Scope) : List PolicyVersion :=
  ((policies.listDefinitions scope .active).filter isIssuanceDefinition).filterMap fun definition =>
    (policies.getActiveVersion definition.policyId).filter fun version =>
      .agentExecution ∈ version.record.targetTypes

/-- The issuance policies approve one triple for an issuer and a runtime actor: one
matches with APPROVE, and none matches with another effect. -/
def TripleApproved (policies : PolicyStore) (context : TenantContext)
    (runtimeActorId actionId resourceType reference : String) : Prop :=
  let evidence := issuanceEvidence context.actorId runtimeActorId actionId resourceType reference
  (∃ version ∈ issuancePolicies policies context.scope,
      (issuanceOutcome evidence version).matched = true ∧
        (issuanceOutcome evidence version).effect = .approve) ∧
    ∀ version ∈ issuancePolicies policies context.scope,
      (issuanceOutcome evidence version).matched = true →
        (issuanceOutcome evidence version).effect = .approve

/-- The delegation is the contract a registration asks for, with every triple in it
approved in the state of the registration. -/
structure IssuedBy (stores : Stores) (call : RegistrationCall) (delegation : RuntimeActionDelegation) :
    Prop where
  organization : delegation.organizationId = call.context.scope.organizationId
  project : delegation.projectId = call.context.scope.projectKey
  execution : delegation.executionId = call.executionId
  issuer : delegation.issuerId = call.context.actorId
  runtimeActor : delegation.runtimeActorId = call.runtimeActorId
  permissions : delegation.permissions = call.permissions
  approved : ∀ permission ∈ delegation.permissions,
    ∀ reference ∈ permission.record.resourceReferences,
      TripleApproved stores.policies call.context call.runtimeActorId permission.record.actionId
        permission.record.resourceType reference

theorem referencePermitted_iff (evidence : List (String × Json)) (versions : List PolicyVersion)
    (matchedAllow : Bool) :
    referencePermitted evidence versions matchedAllow = true ↔
      (matchedAllow = true ∨ ∃ version ∈ versions, (issuanceOutcome evidence version).matched = true ∧
        (issuanceOutcome evidence version).effect = .approve) ∧
      ∀ version ∈ versions, (issuanceOutcome evidence version).matched = true →
        (issuanceOutcome evidence version).effect = .approve := by
  induction versions generalizing matchedAllow with
  | nil => simp [referencePermitted]
  | cons version rest ih =>
    simp only [referencePermitted]
    split
    · rename_i unmatched
      simp only [Bool.not_eq_true'] at unmatched
      simp [ih, unmatched]
    · rename_i matched
      simp only [Bool.not_eq_true', Bool.not_eq_false] at matched
      split
      · rename_i approve
        simp [ih, matched, approve]
      · rename_i other
        simp [matched, other]

theorem issuanceCandidates_run (definitions : List PolicyDefinition) :
    (issuanceCandidates definitions).run (inMemory primitives) stores =
      (.ok ((definitions.filter isIssuanceDefinition).filterMap fun definition =>
        (stores.policies.getActiveVersion definition.policyId).filter fun version =>
          .agentExecution ∈ version.record.targetTypes), stores) := by
  induction definitions with
  | nil => rfl
  | cons definition rest ih =>
    unfold issuanceCandidates
    split
    · rename_i skipped
      simp only [Bool.not_eq_true'] at skipped
      simp [ih, skipped]
    · rename_i opted
      simp only [Bool.not_eq_true', Bool.not_eq_false] at opted
      refine (run_read_bind _ rfl).trans ?_
      rw [run_bind, ih]
      cases found : stores.policies.getActiveVersion definition.policyId with
      | none => simp [opted, found]
      | some version =>
        by_cases targets : DecisionTargetType.agentExecution ∈ version.record.targetTypes
        · simp [opted, found, targets, Option.filter]
        · simp [opted, found, targets]

theorem issuerPermitted_run (permission : RuntimeActionDelegationPermission) (runtimeActorId : String)
    (context : TenantContext) :
    (issuerPermitted permission runtimeActorId context).run (inMemory primitives) stores =
      (.ok (permission.record.resourceReferences.all fun reference =>
        referencePermitted (issuanceEvidence context.actorId runtimeActorId permission.record.actionId
          permission.record.resourceType reference)
          (issuancePolicies stores.policies context.scope) false), stores) := by
  refine (run_read_bind _ rfl).trans ?_
  rw [run_bind, issuanceCandidates_run]
  rfl

/-- Passing the loop of `register` means every requested triple is approved. -/
theorem requirePermitted_ensures (runtimeActorId : String) (context : TenantContext)
    (permissions : List RuntimeActionDelegationPermission) :
    (requirePermitted runtimeActorId context permissions).Ensures (inMemory primitives) stores
      (fun result after => after = stores ∧ (result = .ok () → ∀ permission ∈ permissions,
        ∀ reference ∈ permission.record.resourceReferences,
          TripleApproved stores.policies context runtimeActorId permission.record.actionId
            permission.record.resourceType reference)) := by
  induction permissions with
  | nil => exact ⟨rfl, fun _ _ member => by cases member⟩
  | cons permission rest ih =>
    unfold requirePermitted
    refine ensures_bind.mpr ?_
    unfold Program.Ensures
    rw [issuerPermitted_run]
    simp only
    split
    · rename_i permitted
      obtain ⟨same, approved⟩ := ih
      refine ⟨same, fun passed => List.forall_mem_cons.mpr ⟨fun reference member => ?_, approved passed⟩⟩
      have each := List.all_eq_true.mp permitted reference member
      obtain ⟨some, all⟩ := (referencePermitted_iff _ _ _).mp each
      exact ⟨some.resolve_left (fun impossible => by cases impossible), all⟩
    · exact ⟨rfl, fun impossible => (by cases impossible)⟩

/-- How an undisturbed `register` ends: nothing changed, or a new active delegation was
stored under keys that were free. -/
def Registers (stores : Stores) (call : RegistrationCall)
    (_result : Except Raised RuntimeActionDelegation) (after : Stores) : Prop :=
  after = stores ∨ ∃ delegation, IssuedBy stores call delegation ∧ delegation.status = .active ∧
    stores.delegations.items.get? (DelegationStore.identity delegation) = none ∧
    stores.delegations.byIdempotency.get? (DelegationStore.idempotency delegation) = none ∧
    after = { stores with delegations := stores.delegations.insert delegation }

theorem issueDelegation_registers (call : RegistrationCall) :
    (issueDelegation primitives call).Ensures (inMemory primitives) stores (Registers stores call) := by
  unfold issueDelegation
  split
  · exact Or.inl rfl
  · split
    · exact Or.inl rfl
    · refine ensures_bind.mpr
        ((requirePermitted_ensures call.runtimeActorId call.context
          call.permissions).mono ?_)
      rintro (raised | ⟨⟩) after ⟨same, approved⟩
      · exact Or.inl same
      · subst same
        refine ensures_ofExcept_bind (fun delegation built => ?_) fun _ _ => Or.inl rfl
        have issued : IssuedBy after call delegation := by
          obtain rfl := RuntimeActionDelegation.checked_eq_ok built
          exact ⟨rfl, rfl, rfl, rfl, rfl, rfl, approved rfl⟩
        have active : delegation.status = .active := by
          obtain rfl := RuntimeActionDelegation.checked_eq_ok built
          rfl
        refine ensures_attempt_bind ?_
        rcases after.delegations.save_cases delegation with
          ⟨raised, saved, -⟩ | ⟨saved, -⟩ | ⟨saved, free, freeKey⟩
        · simp only [inMemory, saved]
          exact Or.inl rfl
        · simp only [inMemory, saved]
          exact Or.inl rfl
        · simp only [inMemory, saved]
          exact Or.inr ⟨delegation, issued, active, free, freeKey, rfl⟩

theorem register_registers (primitives : Primitives) (stores : Stores) (call : RegistrationCall) :
    (register primitives call).Ensures (inMemory primitives) stores (Registers stores call) := by
  refine ensures_read_bind rfl ?_
  split
  · exact Or.inl rfl
  · refine ensures_read_bind rfl ?_
    split
    · split <;> exact Or.inl rfl
    · exact issueDelegation_registers call

/-! ## Histories -/

variable {platform : Platform} {entries : List Platform.Entry}

/-- A registration of the history issued the delegation. -/
def Issued (entries : List Platform.Entry) (delegation : RuntimeActionDelegation) : Prop :=
  ∃ entry ∈ entries, ∃ call, entry.call = .register call ∧ IssuedBy entry.before call delegation

/-- A call of the history revoked the delegation of a tenant, or found it revoked. -/
def RevokedIn (entries : List Platform.Entry) (scope : Scope) (delegationId : String) : Prop :=
  ∃ entry ∈ entries, ∃ call revoked, entry.call = .revoke call ∧
    entry.result = .ok (.delegation revoked) ∧
    DelegationStore.scopedKey call.context.scope call.delegationId =
      DelegationStore.scopedKey scope delegationId

/-- What the delegation store owes to the history behind it. -/
structure Ledger (entries : List Platform.Entry) (store : DelegationStore) : Prop where
  agreed : store.Agreed
  issued : ∀ {key delegation}, store.items.get? key = some delegation → Issued entries delegation
  revoked : ∀ {scope delegationId}, RevokedIn entries scope delegationId →
    ∃ delegation, store.items.get? (DelegationStore.scopedKey scope delegationId) = some delegation ∧
      delegation.status = .revoked

theorem IssuedBy.of_sameContract {call : RegistrationCall} {later : RuntimeActionDelegation}
    (issued : IssuedBy stores call delegation)
    (same : RuntimeActionDelegation.SameContract delegation later) : IssuedBy stores call later where
  organization := same.organizationId.symm.trans issued.organization
  project := same.projectId.symm.trans issued.project
  execution := same.executionId.symm.trans issued.execution
  issuer := same.issuerId.symm.trans issued.issuer
  runtimeActor := same.runtimeActorId.symm.trans issued.runtimeActor
  permissions := same.permissions.symm.trans issued.permissions
  approved := same.permissions ▸ issued.approved

theorem Issued.of_sameContract {later : RuntimeActionDelegation} (issued : Issued entries delegation)
    (same : RuntimeActionDelegation.SameContract delegation later) : Issued entries later := by
  obtain ⟨entry, member, call, called, issuedBy⟩ := issued
  exact ⟨entry, member, call, called, issuedBy.of_sameContract same⟩

theorem Issued.append {later : List Platform.Entry} (issued : Issued entries delegation) :
    Issued (entries ++ later) delegation := by
  obtain ⟨entry, member, rest⟩ := issued
  exact ⟨entry, List.mem_append_left _ member, rest⟩

/-- The calls that leave the delegation store alone. -/
private def keepsDelegations : Call → Bool
  | .register _ | .revoke _ => false
  | _ => true

theorem footprint_keepsDelegations {call : Call} {command : Command} (other : keepsDelegations call = true)
    (allowed : footprint platform call command) :
    (inMemory platform.primitives command stores).2.delegations = stores.delegations := by
  cases command with
  | saveDelegation _ => cases call <;> first | (cases other; done) | cases allowed
  | revokeDelegation _ _ _ _ _ => cases call <;> first | (cases other; done) | cases allowed
  | _ => rfl

theorem serve_keepsDelegations {call : Call} (other : keepsDelegations call = true) :
    (platform.serve stores call).after.delegations = stores.delegations :=
  ((operation_within).ensures (inMemory platform.primitives)
    (fun before after => after.delegations = before.delegations) (fun _ => rfl)
    (fun first second => second.trans first)
    (fun _ stores allowed => footprint_keepsDelegations other allowed) stores).1

/-- One undisturbed `revoke`: the store's own revocation, and what it returns is what the
store returned. -/
theorem revoke_revokes (primitives : Primitives) (stores : Stores) (call : RevocationCall) :
    (revoke call).Ensures (inMemory primitives) stores (fun result after =>
      after = { stores with
        delegations := (stores.delegations.revoke primitives call.delegationId call.context.scope
          call.now call.context.actorId call.revocationReference).2 } ∧
      ∀ revoked, result = .ok revoked →
        (stores.delegations.revoke primitives call.delegationId call.context.scope call.now
          call.context.actorId call.revocationReference).1 = .ok revoked) := by
  refine ensures_attempt_bind ?_
  simp only [inMemory]
  split
  · rename_i revoked outcome
    refine ⟨rfl, ?_⟩
    rintro _ ⟨⟩
    exact outcome
  · split
    · exact ⟨rfl, fun _ impossible => (by cases impossible)⟩
    · exact ⟨rfl, fun _ impossible => (by cases impossible)⟩

theorem serve_succeeds (platform : Platform) (stores : Stores) (call : Call) :
    DelegationStore.Succeeds stores.delegations (platform.serve stores call).after.delegations := by
  cases call with
  | register call =>
    rw [platform.serve_of_operation rfl]
    rcases register_registers platform.primitives stores call with same | ⟨_, -, -, free, -, outcome⟩
    · rw [same]
      exact .refl _
    · rw [outcome]
      exact succeeds_insert free
  | revoke call =>
    rw [platform.serve_of_operation rfl]
    rw [(revoke_revokes platform.primitives stores call).1]
    exact succeeds_revoke
  | _ =>
    rw [serve_keepsDelegations rfl]
    exact .refl _

variable {store : DelegationStore} {delegationId : String} {scope : Scope}

theorem revoke_revoked {revokedAt : Instant} {revokedBy : String} {revocationReference : Option String}
    {revoked : RuntimeActionDelegation} (succeeded : (store.revoke primitives delegationId scope revokedAt revokedBy
      revocationReference).1 = .ok revoked) :
    ∃ delegation, (store.revoke primitives delegationId scope revokedAt revokedBy
        revocationReference).2.items.get? (scopedKey scope delegationId) =
          some delegation ∧ delegation.status = .revoked := by
  rcases store.revoke_cases primitives delegationId scope revokedAt revokedBy revocationReference with
    ⟨_, outcome⟩ | ⟨existing, outcome, found, final⟩ | ⟨existing, -, -, outcome⟩
  · rw [outcome] at succeeded
    cases succeeded
  · rw [outcome]
    exact ⟨existing, found, final⟩
  · rw [outcome]
    exact ⟨_, Dict.get?_set_self _, rfl⟩

theorem ledger_empty : Ledger [] empty where
  agreed := agreed_empty
  issued := fun found => nomatch found
  revoked := by
    rintro scope delegationId ⟨entry, member, -⟩
    cases member

/-- One more entry: the store evolves, and what is new in it is accounted for. -/
private theorem Ledger.extend {later : DelegationStore} {entry : Platform.Entry} (ledger : Ledger entries store)
    (succeeds : store.Succeeds later) (agreed : later.Agreed)
    (issued : ∀ key delegation, later.items.get? key = some delegation → Issued (entries ++ [entry]) delegation)
    (fresh : ∀ scope delegationId, RevokedIn [entry] scope delegationId → ∃ delegation,
      later.items.get? (scopedKey scope delegationId) = some delegation ∧
        delegation.status = .revoked) :
    Ledger (entries ++ [entry]) later where
  agreed := agreed
  issued := fun found => issued _ _ found
  revoked := by
    rintro scope delegationId ⟨found, member, rest⟩
    rcases List.mem_append.mp member with earlier | last
    · obtain ⟨delegation, stored, final⟩ := ledger.revoked ⟨found, earlier, rest⟩
      obtain ⟨evolved, storedLater, evolves⟩ := succeeds _ _ stored
      obtain rfl := evolves.revoked final
      exact ⟨evolved, storedLater, final⟩
    · exact fresh scope delegationId ⟨found, last, rest⟩

theorem revokedIn_singleton {entry : Platform.Entry} (revoked : RevokedIn [entry] scope delegationId) :
    ∃ call, entry.call = .revoke call := by
  obtain ⟨found, member, call, _, called, -⟩ := revoked
  obtain rfl := List.mem_singleton.mp member
  exact ⟨call, called⟩

/-- Revocation stores no contract that was not stored before. -/
theorem revoke_contracts {revokedAt : Instant} {revokedBy : String} {revocationReference : Option String}
    {key : String × String × String} (found : (store.revoke primitives delegationId scope revokedAt revokedBy
      revocationReference).2.items.get? key = some delegation) :
    ∃ earlier, store.items.get? key = some earlier ∧
      RuntimeActionDelegation.SameContract earlier delegation := by
  rcases store.revoke_cases primitives delegationId scope revokedAt revokedBy revocationReference with
    ⟨_, outcome⟩ | ⟨_, outcome, -⟩ | ⟨existing, stored, -, outcome⟩
  · rw [outcome] at found
    exact ⟨delegation, found, .refl delegation⟩
  · rw [outcome] at found
    exact ⟨delegation, found, .refl delegation⟩
  · rw [outcome] at found
    simp only [Dict.get?_set] at found
    split at found
    · rename_i here
      cases found
      exact ⟨existing, here ▸ stored, RuntimeActionDelegation.sameContract_revoke _ _ _ _⟩
    · exact ⟨delegation, found, .refl delegation⟩

private theorem Ledger.serve (ledger : Ledger entries stores.delegations) (call : Call) :
    Ledger (entries ++ [platform.serve stores call])
      (platform.serve stores call).after.delegations := by
  have succeeds := serve_succeeds platform stores call
  cases call with
  | register call =>
    refine ledger.extend succeeds ?_ ?_ fun _ _ revoked => ?_
    · rw [platform.serve_of_operation rfl]
      rcases register_registers platform.primitives stores call with
        same | ⟨_, -, -, free, freeKey, outcome⟩
      · rw [same]
        exact ledger.agreed
      · rw [outcome]
        exact ledger.agreed.insert free freeKey
    · intro key delegation found
      rw [platform.serve_of_operation rfl] at found
      rcases register_registers platform.primitives stores call with
        same | ⟨created, issued, -, -, -, outcome⟩
      · rw [same] at found
        exact (ledger.issued found).append
      · rw [outcome] at found
        simp only [DelegationStore.insert, Dict.get?_set] at found
        split at found
        · cases found
          exact ⟨_, List.mem_append_right _ (List.mem_singleton_self _), call, rfl, issued⟩
        · exact (ledger.issued found).append
    · obtain ⟨revocation, impossible⟩ := revokedIn_singleton revoked
      cases impossible
  | revoke call =>
    obtain ⟨outcome, returned⟩ := revoke_revokes platform.primitives stores call
    refine ledger.extend succeeds ?_ ?_ ?_
    · rw [platform.serve_of_operation rfl, outcome]
      exact ledger.agreed.revoke _ _ _ _ _ _
    · intro key delegation found
      rw [platform.serve_of_operation rfl, outcome] at found
      obtain ⟨earlier, stored, same⟩ := revoke_contracts found
      exact ((ledger.issued stored).of_sameContract same).append
    · rintro scope delegationId ⟨entry, member, revocation, revoked, called, succeeded, sameKey⟩
      obtain rfl := List.mem_singleton.mp member
      cases called
      rw [← sameKey, platform.serve_of_operation rfl, outcome]
      exact revoke_revoked (returned revoked
        (platform.returned_of_operation rfl Response.delegation.inj succeeded))
  | _ =>
    refine ledger.extend succeeds ?_ ?_ fun _ _ revoked => ?_
    · rw [serve_keepsDelegations rfl]
      exact ledger.agreed
    · intro key delegation found
      rw [serve_keepsDelegations rfl] at found
      exact (ledger.issued found).append
    · obtain ⟨revocation, impossible⟩ := revokedIn_singleton revoked
      cases impossible

theorem ledger_of_history {admits : Stores → Call → Prop}
    (history : platform.History admits entries stores) : Ledger entries stores.delegations := by
  induction history with
  | start => exact ledger_empty
  | administer policies _ ih => exact ih
  | serve call _ _ ih => exact ih.serve call

theorem history_succeeds {admits : Stores → Call → Prop}
    (history : platform.History admits entries stores) :
    ∀ entry ∈ entries, entry.before.delegations.Succeeds stores.delegations := by
  induction history with
  | start => exact fun _ member => nomatch member
  | administer policies _ ih => exact ih
  | @serve entries stores call _ _ ih =>
    intro entry member
    have succeeds := serve_succeeds platform stores call
    rcases List.mem_append.mp member with earlier | last
    · exact (ih entry earlier).trans succeeds
    · obtain rfl := List.mem_singleton.mp last
      exact succeeds

/-- What holds of the delegation store after every history. -/
structure Confined (platform : Platform) (entries : List Platform.Entry) (stores : Stores) : Prop where
  /-- Both tables hold the same record for every stored delegation. -/
  agreed : stores.delegations.Agreed
  /-- Since any earlier point of the history contracts have not changed, status has moved
  from ACTIVE to REVOKED at most, and revoked records are as they were. -/
  evolved : ∀ entry ∈ entries, entry.before.delegations.Succeeds stores.delegations
  /-- Every triple of a stored delegation was approved when it was registered. -/
  issued : ∀ {key delegation}, stores.delegations.items.get? key = some delegation →
    Issued entries delegation
  /-- An ALLOW computed by a call rests on an unrevoked delegation that was issued for
  exactly the requested triple. -/
  allowed : ∀ {earlier later entry call decision}, entries = earlier ++ entry :: later →
    entry.call = .authorize call →
    Evaluates platform.primitives platform.config call entry.before decision →
    decision.record.outcome = .allow →
    ∃ delegation, decision.record.delegationId = some delegation.delegationId ∧
      ¬ RevokedIn earlier call.context.scope delegation.delegationId ∧
      ∃ registration ∈ earlier, ∃ issuance, registration.call = .register issuance ∧
        IssuedBy registration.before issuance delegation ∧
        issuance.runtimeActorId = call.context.actorId ∧
        TripleApproved registration.before.policies issuance.context call.context.actorId
          call.request.record.actionId call.request.record.resource.record.resourceType
          call.request.record.resource.record.resourceReference

/-- Delegations are confined in every history of calls by any tenants and actors. -/
theorem delegations_confined {admits : Stores → Call → Prop}
    (history : platform.History admits entries stores) : Confined platform entries stores where
  agreed := (ledger_of_history history).agreed
  evolved := history_succeeds history
  issued := (ledger_of_history history).issued
  allowed := by
    intro earlier later entry call decision split called evaluates allowed
    obtain ⟨before, prior, -, served⟩ := history.entry split
    have ledger := ledger_of_history prior
    obtain ⟨delegation, resolves, bound, -⟩ := evaluates.grounds allowed
    rw [served] at resolves
    obtain ⟨delegationId, -, stored⟩ := resolves.stored
    obtain rfl : delegation.delegationId = delegationId :=
      congrArg (fun key => key.2.2) (ledger.agreed.keyed stored)
    refine ⟨delegation, bound, fun revoked => ?_, ?_⟩
    · obtain ⟨found, foundStored, final⟩ := ledger.revoked revoked
      obtain rfl := Option.some.inj (stored.symm.trans foundStored)
      rw [resolves.active] at final
      cases final
    · obtain ⟨registration, member, issuance, issuing, issuedBy⟩ := ledger.issued stored
      obtain ⟨-, -, actor, -, permission, granted, action, resourceType, reference⟩ :=
        RuntimeActionDelegation.permits_iff.mp resolves.permits
      have runtimeActor : issuance.runtimeActorId = call.context.actorId :=
        issuedBy.runtimeActor.symm.trans actor
      refine ⟨registration, member, issuance, issuing, issuedBy, runtimeActor, ?_⟩
      rw [← runtimeActor, ← action, ← resourceType]
      exact issuedBy.approved permission granted _ reference

/-- The grant of the delegated update is filed under both keys, and its registration issued it. -/
theorem delegations_confined_granted :
    ∃ delegation, grantedStores.delegations.get "delegation-1" claimsScope = some delegation ∧
      grantedStores.delegations.byIdempotency.get? (idempotency delegation) =
        some delegation ∧
      Issued [updatePlatform.serve { Stores.empty with policies := updatePolicies } startCall,
        updatePlatform.serve startedStores registrationCall] delegation := by
  have confined := delegations_confined
    (grantedStores_history (trivial : True) (trivial : True) : updatePlatform.History (fun _ _ => True) _ _)
  have registered : (grantedStores.delegations.get "delegation-1" claimsScope).isSome = true := by
    decide +kernel
  obtain ⟨delegation, stored⟩ := Option.isSome_iff_exists.mp registered
  have keyed := confined.agreed.keyed stored
  refine ⟨delegation, stored, confined.agreed.same.mp ?_, confined.issued stored⟩
  rw [keyed]
  exact stored

/-! ## After a revocation -/

/-- The grounds of an ALLOW are a delegation the call names, and no call before revoked it. -/
theorem Ledger.unrevoked (ledger : Ledger entries stores.delegations) {call : AuthorizationCall}
    {decision : RuntimeActionAuthorizationDecision} (grounds : Grounds stores call decision) :
    ∃ delegationId, call.request.record.delegationId = some delegationId ∧
      decision.record.delegationId = some delegationId ∧ ¬ RevokedIn entries call.context.scope delegationId := by
  obtain ⟨delegation, resolves, bound, -⟩ := grounds
  obtain ⟨delegationId, named, stored⟩ := resolves.stored
  obtain rfl : delegation.delegationId = delegationId := congrArg (fun key => key.2.2) (ledger.agreed.keyed stored)
  refine ⟨_, named, bound, fun revoked => ?_⟩
  obtain ⟨found, foundStored, final⟩ := ledger.revoked revoked
  obtain rfl := Option.some.inj (stored.symm.trans foundStored)
  rw [resolves.active] at final
  cases final

/-- The issuer takes the grant back after the agent has used it. -/
def revocationEntry : Platform.Entry :=
  updatePlatform.serve (updatePlatform.serve grantedStores (.authorize delegatedCall)).after
    (.revoke ⟨"delegation-1", none, ⟨claimsScope, "issuer-1", none⟩, ⟨63000000120000000⟩⟩)

def returnedDelegation (entry : Platform.Entry) : Option RuntimeActionDelegation :=
  match entry.result with
  | .ok (.delegation delegation) => some delegation
  | _ => none

end AiGovernance.Authorization
