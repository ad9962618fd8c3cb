import AiGovernance.Authorization.Codec

/-!
# What evaluation can decide

`_evaluate` only reads. Whatever it reads, the decision it returns is bound to
the call; and it returns ALLOW only from a delegation that permits the
operation at that moment and an approving policy that no other selected policy
contradicts.
-/

namespace AiGovernance.Authorization

open AiGovernance.Std Domain Decisions Repositories
open Semantics Services Program

variable {primitives : Primitives} {config : AuthorizationConfig} {call : AuthorizationCall} {stores : Stores}
  {correlationId : Option String}

/-! ## Bindings -/

/-- The decision is one `_decision` builds for the call. -/
def DecidedFor (primitives : Primitives) (config : AuthorizationConfig) (call : AuthorizationCall)
    (decision : RuntimeActionAuthorizationDecision) : Prop :=
  ∃ correlationId outcome reasonCode policy delegation evaluatedPolicies,
    decision.record = Services.decision primitives config call correlationId outcome reasonCode
      policy delegation evaluatedPolicies

/-- A read of the delegation or policy repositories. -/
def Consults : Command → Prop
  | .getDelegation _ _ | .listDefinitions _ _ | .getActiveVersion _ => True
  | _ => False

theorem Consults.isRead {command : Command} (consults : Consults command) :
    command.isRead = true := by
  cases command <;> first | rfl | cases consults

variable {decision : RuntimeActionAuthorizationDecision}

theorem DecidedFor.fingerprint (decided : DecidedFor primitives config call decision) :
    decision.record.requestFingerprint = call.request.fingerprint primitives := by
  obtain ⟨_, _, _, _, _, _, record⟩ := decided
  rw [record]
  rfl

theorem DecidedFor.matchesRequest (decided : DecidedFor primitives config call decision) :
    decision.matchesRequest primitives call.request call.context.actorId = true := by
  obtain ⟨_, _, _, _, _, _, record⟩ := decided
  simp [RuntimeActionAuthorizationDecision.matchesRequest, record, Services.decision]

theorem create_decidedFor {outcome : RuntimeActionAuthorizationOutcome} {reasonCode : String}
    {policy : Option (String × String)} {delegation : Option RuntimeActionDelegation}
    {evaluatedPolicies : List (String × String)}
    (created : (Checked.create (Services.decision primitives config call correlationId outcome
      reasonCode policy delegation evaluatedPolicies)) = .ok decision) : DecidedFor primitives config call decision :=
  ⟨_, _, _, _, _, _, Checked.create_eq_ok_iff.mp created⟩

theorem withActiveVersions_within (definitions : List PolicyDefinition) :
    (withActiveVersions definitions).Within Consults (fun _ => True) := by
  induction definitions with
  | nil => trivial
  | cons definition rest ih =>
    refine within_call_bind trivial fun version => ?_
    rw [within_bind]
    refine ih.mono (fun _ consults => consults) fun others _ => ?_
    cases version <;> trivial

theorem candidateDefinitions_within (scope : Scope) :
    (candidateDefinitions scope).Within Consults (fun _ => True) :=
  within_call_bind trivial withActiveVersions_within

theorem resolveDelegation_within : (resolveDelegation config call).Within Consults (fun _ => True) := by
  unfold resolveDelegation
  split
  · trivial
  · split
    · trivial
    · refine within_attempt_bind trivial fun found => ?_
      rcases found with raised | (_ | delegation) <;> trivial

theorem evaluateDelegated_within (delegation : RuntimeActionDelegation) :
    (evaluateDelegated primitives config call correlationId delegation).Within Consults
      (DecidedFor primitives config call) := by
  unfold evaluateDelegated
  rw [within_bind]
  refine Program.Within.caught ((candidateDefinitions_within _).mono (fun _ consults => consults) ?_) ?_
  · intro candidates _
    simp only [Except.toOption, Option.map_some]
    split <;> simp only [within_ofExcept]
    · intro decision created
      exact create_decidedFor created
    · intro decision created
      exact create_decidedFor created
    · intro decision created
      exact create_decidedFor created
  · intro raised
    simp only [Except.toOption, Option.map_none, within_ofExcept]
    intro decision created
    exact create_decidedFor created

/-- Whatever `_evaluate` reads, its decision is bound to the call. -/
theorem evaluate_within :
    (evaluate primitives config call correlationId).Within Consults
      (DecidedFor primitives config call) := by
  unfold evaluate
  split
  · simp only [within_ofExcept]
    intro decision created
    exact create_decidedFor created
  · rw [within_bind]
    refine (resolveDelegation_within).mono (fun _ consults => consults) fun resolved _ => ?_
    cases resolved with
    | error reasonCode =>
      simp only [within_ofExcept]
      intro decision created
      exact create_decidedFor created
    | ok delegation => exact evaluateDelegated_within delegation

/-! ## Grounds of an ALLOW -/

/-- The active definitions of a tenant with their active versions. -/
def activePolicies (policies : PolicyStore) (scope : Scope) : List (PolicyDefinition × PolicyVersion) :=
  (policies.listDefinitions scope .active).filterMap fun definition =>
    (policies.getActiveVersion definition.policyId).map (definition, ·)

/-- The delegation the request names is stored, bound to the request, active, unexpired,
and permits the operation to the caller. -/
structure Resolves (stores : Stores) (call : AuthorizationCall)
    (delegation : RuntimeActionDelegation) : Prop where
  stored : ∃ delegationId, call.request.record.delegationId = some delegationId ∧
    stores.delegations.get delegationId call.context.scope = some delegation
  version : some delegation.version = call.request.record.delegationVersion
  digest : some delegation.contractDigest = call.request.record.delegationDigest
  active : delegation.status = .active
  unexpired : call.now < delegation.expiresAt
  permits : delegation.permits call.context.actorId call.request.record.executionId
    call.request.record.actionId call.request.record.resource.record.resourceType
    call.request.record.resource.record.resourceReference call.now = true

/-- The policy is active for the tenant, registered for the operation, and approves it on
grounds the caller does not control. -/
structure Approves (stores : Stores) (call : AuthorizationCall)
    (delegation : RuntimeActionDelegation) (policy : PolicyDefinition × PolicyVersion) : Prop where
  active : policy ∈ activePolicies stores.policies call.context.scope
  action : registersAction call.request policy = true
  resource : registersResource call.request policy = true
  matched : (policyOutcome (authorizationEvidence call delegation) policy).matched = true
  approve : (policyOutcome (authorizationEvidence call delegation) policy).effect = .approve
  independent : usesAgentControlledContext policy.2 = false

/-- The grounds on which `_evaluate` may answer ALLOW in a state. -/
def Grounds (stores : Stores) (call : AuthorizationCall)
    (decision : RuntimeActionAuthorizationDecision) : Prop :=
  ∃ delegation, Resolves stores call delegation ∧
    decision.record.delegationId = some delegation.delegationId ∧
    ∃ policy, Approves stores call delegation policy ∧
      decision.record.policyId = some policy.1.policyId

/-- The state is left as it was, and an ALLOW is answered only on grounds in it. -/
def Grounded (stores : Stores) (call : AuthorizationCall)
    (result : Except Raised RuntimeActionAuthorizationDecision) (after : Stores) : Prop :=
  after = stores ∧ ∀ decision, result = .ok decision → decision.record.outcome = .allow →
    Grounds stores call decision

theorem withActiveVersions_run (definitions : List PolicyDefinition) :
    (withActiveVersions definitions).run (inMemory primitives) stores =
      (.ok (definitions.filterMap fun definition =>
        (stores.policies.getActiveVersion definition.policyId).map (definition, ·)), stores) := by
  induction definitions with
  | nil => rfl
  | cons definition rest ih =>
    refine (run_read_bind _ rfl).trans ?_
    rw [run_bind, ih]
    cases found : stores.policies.getActiveVersion definition.policyId <;> simp [found]

theorem candidateDefinitions_run (scope : Scope) :
    (candidateDefinitions scope).run (inMemory primitives) stores =
      (.ok (activePolicies stores.policies scope), stores) :=
  withActiveVersions_run (stores.policies.listDefinitions scope .active)

variable {delegation : RuntimeActionDelegation}

theorem checkDelegation_eq_ok {result : RuntimeActionDelegation}
    (accepted : checkDelegation call delegation = .ok result) :
    result = delegation ∧ some delegation.version = call.request.record.delegationVersion ∧
      some delegation.contractDigest = call.request.record.delegationDigest ∧
      delegation.permits call.context.actorId call.request.record.executionId
        call.request.record.actionId call.request.record.resource.record.resourceType
        call.request.record.resource.record.resourceReference call.now = true := by
  simp only [checkDelegation] at accepted
  split at accepted
  · cases accepted
  · rename_i binding
    split at accepted
    · cases accepted
    · split at accepted
      · cases accepted
      · split at accepted
        · cases accepted
        · rename_i permitted
          cases accepted
          simp only [not_or, Decidable.not_not] at binding
          exact ⟨rfl, binding.1, binding.2, by simpa using permitted⟩

variable {selected : List (PolicyDefinition × PolicyVersion)}

/-- ALLOW comes from a decisive approving policy. -/
theorem verdict_allow {evidence : List (String × Json)} {reasonCode : String}
    {policy : Option (String × String)} (allowed : verdict evidence selected = (.allow, reasonCode, policy)) :
    ∃ chosen ∈ selected, policy = some (chosen.1.policyId, chosen.2.record.version) ∧
      isDecisive evidence chosen = true ∧ (policyOutcome evidence chosen).effect = .approve := by
  simp only [verdict] at allowed
  split at allowed
  · cases allowed
  · split at allowed
    · cases allowed
    · rename_i denies decisive chosen rest noDenies sorted
      have member : chosen ∈ (selected.filter (isDecisive evidence)).insertionSort
          (decidesBefore evidence) := by
        rw [sorted]
        exact List.mem_cons_self
      have approving : (policyOutcome evidence chosen).effect = .approve := by
        by_contra other
        have denied : chosen ∈ ([] : List (PolicyDefinition × PolicyVersion)) := by
          rw [← noDenies, List.mem_filter]
          exact ⟨member, by simpa using other⟩
        cases denied
      rw [(List.perm_insertionSort _ _).mem_iff, List.mem_filter] at member
      cases allowed
      exact ⟨chosen, member.1, rfl, member.2, approving⟩
    · cases allowed

theorem choosePolicies_eq_ok {request : RuntimeActionAuthorizationRequest}
    {candidates : List (PolicyDefinition × PolicyVersion)} (chosen : choosePolicies request candidates = .ok selected) :
    ∀ policy ∈ selected, policy ∈ candidates ∧ registersAction request policy = true ∧
      registersResource request policy = true := by
  simp only [choosePolicies] at chosen
  split at chosen
  · cases chosen
    intro policy member
    rw [List.mem_filter] at member
    simp only [Bool.and_eq_true] at member
    exact ⟨member.1, member.2.1.1, member.2.1.2⟩
  · split at chosen
    · cases chosen
    · split at chosen <;> cases chosen

theorem decideSelected_grounds (resolves : Resolves stores call delegation)
    (chosen : choosePolicies call.request (activePolicies stores.policies call.context.scope) = .ok selected)
    (record : decision.record = decideSelected primitives config call correlationId delegation selected)
    (allowed : decision.record.outcome = .allow) : Grounds stores call decision := by
  rcases judged : verdict (authorizationEvidence call delegation) selected with
    ⟨outcome, reasonCode, policy⟩
  simp only [decideSelected, judged] at record
  rw [record] at allowed
  obtain rfl : outcome = .allow := allowed
  obtain ⟨approving, member, rfl, decisive, approve⟩ := verdict_allow judged
  obtain ⟨active, action, resource⟩ := choosePolicies_eq_ok chosen approving member
  simp only [isDecisive, isUnsupported, approve, Bool.and_eq_true, decide_true, Bool.true_and] at decisive
  refine ⟨delegation, resolves, by rw [record]; rfl, approving, ⟨active, action, resource,
    decisive.1, approve, ?_⟩, by rw [record]; rfl⟩
  simpa [decisive.1] using decisive.2

theorem grounded_deny (reasonCode : String) (delegation : Option RuntimeActionDelegation) :
    (Program.ofExcept (Checked.create (Services.decision primitives config call correlationId
      .deny reasonCode none delegation [])) :
        Operation RuntimeActionAuthorizationDecision).Ensures (inMemory primitives) stores
      (Grounded stores call) := by
  refine ensures_ofExcept.mpr ⟨rfl, fun decision created allowed => ?_⟩
  rw [Checked.create_eq_ok_iff.mp created] at allowed
  cases allowed

theorem evaluateDelegated_grounded (resolves : Resolves stores call delegation) :
    (evaluateDelegated primitives config call correlationId delegation).Ensures
      (inMemory primitives) stores (Grounded stores call) := by
  unfold evaluateDelegated
  rw [ensures_bind]
  unfold Program.Ensures
  rw [run_caught, candidateDefinitions_run]
  simp only [Except.toOption, Option.map_some]
  cases chosen : choosePolicies call.request
      (activePolicies stores.policies call.context.scope) with
  | error reasonCode => exact grounded_deny reasonCode (some delegation)
  | ok selected =>
    have judged : (Program.ofExcept (Checked.create
        (decideSelected primitives config call correlationId delegation selected)) :
          Operation RuntimeActionAuthorizationDecision).Ensures (inMemory primitives) stores
        (Grounded stores call) := by
      refine ensures_ofExcept.mpr ⟨rfl, fun decision created allowed => ?_⟩
      exact decideSelected_grounds resolves chosen (Checked.create_eq_ok_iff.mp created) allowed
    exact judged

/-- `_evaluate` leaves the repositories as they are, and answers ALLOW only on grounds
that hold in that state. -/
theorem evaluate_grounded :
    (evaluate primitives config call correlationId).Ensures (inMemory primitives) stores
      (Grounded stores call) := by
  unfold evaluate
  split
  · exact grounded_deny _ _
  · rw [ensures_bind]
    unfold resolveDelegation
    split
    · exact grounded_deny _ _
    · split
      · exact grounded_deny _ _
      · rename_i delegationId named
        refine ensures_attempt_bind ?_
        cases found : stores.delegations.get delegationId call.context.scope with
        | none =>
          simp only [inMemory, found]
          exact grounded_deny _ _
        | some delegation =>
          simp only [inMemory, found]
          cases checked : checkDelegation call delegation with
          | error reasonCode => exact grounded_deny reasonCode _
          | ok resolved =>
            obtain ⟨rfl, version, digest, permits⟩ := checkDelegation_eq_ok checked
            obtain ⟨active, unexpired, -⟩ := RuntimeActionDelegation.permits_iff.mp permits
            exact evaluateDelegated_grounded
              ⟨⟨delegationId, named, found⟩, version, digest, active, unexpired, permits⟩

end AiGovernance.Authorization
