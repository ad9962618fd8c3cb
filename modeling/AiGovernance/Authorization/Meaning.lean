import AiGovernance.Authorization.Provenance
import AiGovernance.Decisions.Evaluator

/-!
# What an authorization means

`_evaluate` over any delegation store and any list of active definitions with
their versions, without its loop, its flags and its sort: the decision it builds
is ALLOW exactly when the delegation resolves, some applicable policy matches,
every one that matches approves, and no approval rests on facts the agent
supplied. The decision is then checked as it is built; whatever the order of the
policies, its outcome and reason are the same.
-/

namespace AiGovernance.Authorization

open AiGovernance.Std Domain Decisions Repositories GovernancePolicyEvaluator List
open Semantics Services Program

/-! ## Any list of policies -/

/-- The repositories, with a policy repository that lists the given definitions as active
and answers the given active versions. -/
def listing (primitives : Primitives) (definitions : List PolicyDefinition)
    (versions : String → Option PolicyVersion) : Handler repositories Stores
  | .listDefinitions _ _, stores => (.ok definitions, stores)
  | .getActiveVersion policyId, stores => (.ok (versions policyId), stores)
  | command, stores => inMemory primitives command stores

/-- The definitions with their active versions. -/
def withVersions (definitions : List PolicyDefinition) (versions : String → Option PolicyVersion) :
    List (PolicyDefinition × PolicyVersion) :=
  definitions.filterMap fun definition => (versions definition.policyId).map (definition, ·)

/-- The policy is a candidate, registered for the action and the resource type, and targets
agent executions. -/
structure Applies (candidates : List (PolicyDefinition × PolicyVersion)) (call : AuthorizationCall)
    (policy : PolicyDefinition × PolicyVersion) : Prop where
  candidate : policy ∈ candidates
  action : registersAction call.request policy = true
  resource : registersResource call.request policy = true
  target : .agentExecution ∈ policy.2.record.targetTypes

/-- A path the guard takes for one into the facts the agent supplied. -/
def GuardedPath (fieldPath : String) : Prop :=
  Text.startsWith "context." fieldPath = true ∨ Text.startsWith "agent_context." fieldPath = true

/-- The applicable policies evaluate, some match, and every one that matches approves, on
rules that guard their approvals. -/
structure Warranted (candidates : List (PolicyDefinition × PolicyVersion)) (call : AuthorizationCall)
    (delegation : RuntimeActionDelegation) : Prop where
  evaluates : ∀ policy, Applies candidates call policy → ∃ trace,
    evaluatePolicy policy.2 .agentExecution call.request.record.executionId
      (authorizationEvidence call delegation) = .ok trace
  decided : ∃ policy rule, Applies candidates call policy ∧
    Decides policy.2 (authorizationEvidence call delegation) rule
  approving : ∀ policy rule, Applies candidates call policy →
    Decides policy.2 (authorizationEvidence call delegation) rule → rule.record.effect = .approve
  guarded : ∀ policy rule, Applies candidates call policy →
    Decides policy.2 (authorizationEvidence call delegation) rule →
    ∀ approval ∈ policy.2.record.rules, approval.record.effect = .approve →
      ∀ condition ∈ approval.record.conditions, ¬ GuardedPath condition.record.fieldPath

/-- The operation is authorized: no policy is preselected, the delegation resolves, and the
applicable policies warrant it. -/
def Authorized (stores : Stores) (candidates : List (PolicyDefinition × PolicyVersion))
    (call : AuthorizationCall) : Prop :=
  call.request.record.policyId = none ∧ call.request.record.expectedPolicyVersion = none ∧
    ∃ delegation, Resolves stores call delegation ∧ Warranted candidates call delegation

/-! ## The decision that is built -/

/-- The delegation the call resolves to, or why it does not. -/
def resolvedDelegation (stores : Stores) (call : AuthorizationCall) : Except String RuntimeActionDelegation :=
  match call.request.record.delegationId with
  | none => .error "MISSING_DELEGATION"
  | some delegationId =>
    match stores.delegations.get delegationId call.context.scope with
    | none => .error "DELEGATION_NOT_FOUND"
    | some delegation => checkDelegation call delegation

/-- The decision over the candidates once the delegation is resolved. -/
def delegatedRecord (primitives : Primitives) (config : AuthorizationConfig) (call : AuthorizationCall)
    (correlationId : Option String) (candidates : List (PolicyDefinition × PolicyVersion))
    (delegation : RuntimeActionDelegation) : RuntimeActionAuthorizationDecisionRecord :=
  match choosePolicies call.request candidates with
  | .error reasonCode => decision primitives config call correlationId .deny reasonCode none (some delegation) []
  | .ok selected => decideSelected primitives config call correlationId delegation selected

/-- The decision `_evaluate` builds. -/
def evaluatedRecord (primitives : Primitives) (config : AuthorizationConfig) (call : AuthorizationCall)
    (correlationId : Option String) (stores : Stores)
    (candidates : List (PolicyDefinition × PolicyVersion)) : RuntimeActionAuthorizationDecisionRecord :=
  if call.request.record.policyId.isSome ∨ call.request.record.expectedPolicyVersion.isSome then
    decision primitives config call correlationId .deny "POLICY_SELECTION_NOT_ALLOWED" none none []
  else
    match resolvedDelegation stores call with
    | .error reasonCode => decision primitives config call correlationId .deny reasonCode none none []
    | .ok delegation => delegatedRecord primitives config call correlationId candidates delegation

variable {primitives : Primitives} {config : AuthorizationConfig} {call : AuthorizationCall}
  {stores : Stores} {definitions : List PolicyDefinition} {versions : String → Option PolicyVersion}

/-- The reads `_evaluate` makes in a state: the definitions listed for the tenant, their
active versions, and the stored delegations. -/
structure Serves (handler : Handler repositories Stores) (stores : Stores) (scope : Scope)
    (definitions : List PolicyDefinition) (versions : String → Option PolicyVersion) : Prop where
  definitions : handler (.listDefinitions scope .active) stores = (.ok definitions, stores)
  versions : ∀ policyId, handler (.getActiveVersion policyId) stores = (.ok (versions policyId), stores)
  delegations : ∀ delegationId, handler (.getDelegation delegationId scope) stores =
    (.ok (stores.delegations.get delegationId scope), stores)

theorem listing_serves (scope : Scope) :
    Serves (listing primitives definitions versions) stores scope definitions versions :=
  ⟨rfl, fun _ => rfl, fun _ => rfl⟩

variable {handler : Handler repositories Stores}

theorem candidates_served {scope : Scope} (serves : Serves handler stores scope definitions versions) :
    (candidateDefinitions scope).run handler stores = (.ok (withVersions definitions versions), stores) := by
  have paired : ∀ listed, (withActiveVersions listed).run handler stores =
      (.ok (withVersions listed versions), stores) := by
    intro listed
    induction listed with
    | nil => rfl
    | cons definition rest ih =>
      refine (run_read_bind _ (serves.versions definition.policyId)).trans ?_
      rw [run_bind, ih]
      cases found : versions definition.policyId <;> simp [withVersions, found]
  exact (run_read_bind _ serves.definitions).trans (paired definitions)

theorem delegation_served (resolving : config.resolvesDelegations = true)
    (serves : Serves handler stores call.context.scope definitions versions) :
    (resolveDelegation config call).run handler stores = (.ok (resolvedDelegation stores call), stores) := by
  simp only [resolveDelegation, resolvedDelegation, resolving, Bool.not_true, Bool.false_eq_true, if_false]
  cases call.request.record.delegationId with
  | none => rfl
  | some delegationId =>
    change Program.run _ (_ >>= _) _ = _
    rw [run_bind, run_attempt, serves.delegations delegationId]
    dsimp only
    cases stores.delegations.get delegationId call.context.scope <;> rfl

theorem evaluateDelegated_served (serves : Serves handler stores call.context.scope definitions versions)
    (correlationId : Option String) (delegation : RuntimeActionDelegation) :
    (evaluateDelegated primitives config call correlationId delegation).run handler stores =
      (Checked.create (delegatedRecord primitives config call correlationId
        (withVersions definitions versions) delegation), stores) := by
  unfold evaluateDelegated
  rw [run_bind, run_caught, candidates_served serves]
  simp only [Except.toOption, Option.map_some, delegatedRecord]
  cases choosePolicies call.request (withVersions definitions versions) with
  | error reasonCode => simp only [run_ofExcept]
  | ok selected => simp only [run_ofExcept]

/-- `_evaluate` builds that decision, raising what its construction check reports, and
leaves the repositories as they are. -/
theorem evaluate_served (resolving : config.resolvesDelegations = true)
    (serves : Serves handler stores call.context.scope definitions versions) (correlationId : Option String) :
    (evaluate primitives config call correlationId).run handler stores =
      (Checked.create (evaluatedRecord primitives config call correlationId stores
        (withVersions definitions versions)), stores) := by
  unfold evaluate evaluatedRecord
  by_cases preselected : call.request.record.policyId.isSome ∨ call.request.record.expectedPolicyVersion.isSome
  · rw [if_pos preselected, if_pos preselected]
    simp only [run_ofExcept]
  · rw [if_neg preselected, if_neg preselected, run_bind, delegation_served resolving serves]
    cases resolvedDelegation stores call with
    | error reasonCode => simp only [run_ofExcept]
    | ok delegation => exact evaluateDelegated_served serves correlationId delegation

/-! ## The ruling of the selected policies -/

/-- The outcome and the reason of `verdict`, from what the selected policies are and not
from their order. -/
def ruling (evidence : List (String × Json)) (selected : List (PolicyDefinition × PolicyVersion)) :
    RuntimeActionAuthorizationOutcome × String :=
  if selected.any (isUnsupported evidence) then (.deny, "UNSUPPORTED_AUTHORIZATION_POLICY_EFFECT")
  else if selected.countP (isDecisive evidence) = 0 then (.deny, "NO_APPLICABLE_POLICY")
  else if selected.any fun policy =>
      isDecisive evidence policy && (policyOutcome evidence policy).effect ≠ .approve then
    (.deny, if 1 < selected.countP (isDecisive evidence) then "DENY_OVERRIDES" else "DENY_POLICY_MATCHED")
  else (.allow, "ALLOW_POLICY_MATCHED")

variable {evidence : List (String × Json)} {selected others : List (PolicyDefinition × PolicyVersion)}

theorem verdict_ruling :
    ((verdict evidence selected).1, (verdict evidence selected).2.1) = ruling evidence selected := by
  have sorted : ((selected.filter (isDecisive evidence)).insertionSort (decidesBefore evidence)).Perm
      (selected.filter (isDecisive evidence)) := perm_insertionSort _ _
  have counted : selected.countP (isDecisive evidence) =
      ((selected.filter (isDecisive evidence)).insertionSort (decidesBefore evidence)).length := by
    rw [sorted.length_eq, countP_eq_length_filter]
  have denied : (selected.any fun policy =>
        isDecisive evidence policy && (policyOutcome evidence policy).effect ≠ .approve) =
      ((selected.filter (isDecisive evidence)).insertionSort (decidesBefore evidence)).any
        fun policy => (policyOutcome evidence policy).effect ≠ .approve := by
    rw [sorted.any_eq, any_filter]
  have unsupported : selected.any (isUnsupported evidence) =
      (selected.filter (isUnsupported evidence)).getLast?.isSome := by
    rw [Bool.eq_iff_iff, getLast?_isSome, any_eq_true, ne_eq, filter_eq_nil_iff]
    simp only [not_forall, not_not, exists_prop]
  unfold ruling verdict
  rw [unsupported, denied, counted]
  cases (selected.filter (isUnsupported evidence)).getLast? with
  | some policy => rfl
  | none =>
    simp only [Option.isSome_none, Bool.false_eq_true, if_false]
    generalize (selected.filter (isDecisive evidence)).insertionSort (decidesBefore evidence) = decisive
    cases decisive with
    | nil => cases List.filter _ _ <;> rfl
    | cons first rest =>
      cases denies : (first :: rest).filter
          fun policy => decide ((policyOutcome evidence policy).effect ≠ .approve) with
      | nil =>
        have none : ((first :: rest).any
            fun policy => decide ((policyOutcome evidence policy).effect ≠ .approve)) = false := by
          rw [any_eq_false]
          exact filter_eq_nil_iff.mp denies
        rw [none]
        simp
      | cons policy remaining =>
        have some : ((first :: rest).any
            fun policy => decide ((policyOutcome evidence policy).effect ≠ .approve)) = true := by
          have member : policy ∈ (first :: rest).filter
              fun policy => decide ((policyOutcome evidence policy).effect ≠ .approve) := by
            rw [denies]
            exact mem_cons_self
          exact any_eq_true.mpr ⟨policy, mem_filter.mp member⟩
        rw [some]
        cases rest <;> simp

theorem ruling_of_perm (perm : selected.Perm others) : ruling evidence selected = ruling evidence others := by
  unfold ruling
  rw [perm.any_eq, perm.any_eq, perm.countP_eq]

/-- The ruling is ALLOW when nothing is unsupported, something decides, and all that
decides approves. -/
theorem ruling_allow_iff :
    (ruling evidence selected).1 = .allow ↔
      (∀ policy ∈ selected, isUnsupported evidence policy = false) ∧
        (∃ policy ∈ selected, isDecisive evidence policy = true) ∧
        ∀ policy ∈ selected, isDecisive evidence policy = true →
          (policyOutcome evidence policy).effect = .approve := by
  unfold ruling
  by_cases unsupported : selected.any (isUnsupported evidence) = true
  · have found : ¬ ∀ policy ∈ selected, isUnsupported evidence policy = false := by
      obtain ⟨policy, member, fault⟩ := any_eq_true.mp unsupported
      intro none
      rw [none policy member] at fault
      cases fault
    rw [if_pos unsupported]
    exact iff_of_false nofun fun conditions => found conditions.1
  · have none : ∀ policy ∈ selected, isUnsupported evidence policy = false := by
      simpa using unsupported
    rw [if_neg unsupported]
    by_cases silent : selected.countP (isDecisive evidence) = 0
    · have undecided : ¬ ∃ policy ∈ selected, isDecisive evidence policy = true := by
        rintro ⟨policy, member, decisive⟩
        exact countP_eq_zero.mp silent policy member decisive
      rw [if_pos silent]
      exact iff_of_false nofun fun conditions => undecided conditions.2.1
    · have decided : ∃ policy ∈ selected, isDecisive evidence policy = true :=
        countP_pos_iff.mp (Nat.pos_of_ne_zero silent)
      rw [if_neg silent]
      by_cases denied : (selected.any fun policy =>
          isDecisive evidence policy && (policyOutcome evidence policy).effect ≠ .approve) = true
      · rw [if_pos denied]
        obtain ⟨policy, member, denies⟩ := any_eq_true.mp denied
        simp only [Bool.and_eq_true, decide_eq_true_eq] at denies
        refine iff_of_false nofun ?_
        rintro ⟨-, -, approving⟩
        exact denies.2 (approving policy member denies.1)
      · rw [if_neg denied]
        refine iff_of_true rfl ⟨none, decided, ?_⟩
        intro policy member decisive
        by_contra other
        exact denied (any_eq_true.mpr ⟨policy, member, by simpa [decisive] using other⟩)

/-! ## From the loop to its meaning -/

variable {candidates : List (PolicyDefinition × PolicyVersion)} {delegation : RuntimeActionDelegation}

theorem checkDelegation_ok_iff {result : RuntimeActionDelegation} :
    checkDelegation call delegation = .ok result ↔
      delegation = result ∧ some delegation.version = call.request.record.delegationVersion ∧
        some delegation.contractDigest = call.request.record.delegationDigest ∧
        delegation.status = .active ∧ call.now < delegation.expiresAt ∧
        delegation.permits call.context.actorId call.request.record.executionId
          call.request.record.actionId call.request.record.resource.record.resourceType
          call.request.record.resource.record.resourceReference call.now = true := by
  unfold checkDelegation
  dsimp only
  by_cases unbound : some delegation.version ≠ call.request.record.delegationVersion ∨
      some delegation.contractDigest ≠ call.request.record.delegationDigest
  · rw [if_pos unbound]
    refine iff_of_false nofun ?_
    rintro ⟨-, version, digest, -⟩
    exact unbound.elim (absurd version) (absurd digest)
  · rw [if_neg unbound]
    obtain ⟨version, digest⟩ := not_or.mp unbound
    by_cases revoked : delegation.status = .revoked
    · rw [if_pos revoked]
      refine iff_of_false nofun ?_
      rintro ⟨-, -, -, active, -⟩
      rw [revoked] at active
      cases active
    · rw [if_neg revoked]
      have active : delegation.status = .active := by
        cases status : delegation.status with
        | active => rfl
        | revoked => exact absurd status revoked
      by_cases expired : delegation.expiresAt ≤ call.now
      · rw [if_pos expired]
        refine iff_of_false nofun ?_
        rintro ⟨-, -, -, -, unexpired, -⟩
        rw [Instant.lt_def] at unexpired
        rw [Instant.le_def] at expired
        omega
      · rw [if_neg expired]
        have unexpired : call.now < delegation.expiresAt := by
          rw [Instant.le_def] at expired
          rw [Instant.lt_def]
          omega
        simp only [not_not] at version digest
        by_cases permits : delegation.permits call.context.actorId call.request.record.executionId
            call.request.record.actionId call.request.record.resource.record.resourceType
            call.request.record.resource.record.resourceReference call.now = true
        · simp [version, digest, active, unexpired, permits]
        · simp [permits]

/-- The delegation the call resolves to is the one that `Resolves`. -/
theorem resolvedDelegation_ok_iff :
    resolvedDelegation stores call = .ok delegation ↔ Resolves stores call delegation := by
  unfold resolvedDelegation
  constructor
  · intro resolved
    cases named : call.request.record.delegationId with
    | none =>
      rw [named] at resolved
      cases resolved
    | some delegationId =>
      simp only [named] at resolved
      cases found : stores.delegations.get delegationId call.context.scope with
      | none =>
        rw [found] at resolved
        cases resolved
      | some stored =>
        simp only [found] at resolved
        obtain ⟨rfl, version, digest, active, unexpired, permits⟩ := checkDelegation_ok_iff.mp resolved
        exact ⟨⟨delegationId, named, found⟩, version, digest, active, unexpired, permits⟩
  · rintro ⟨⟨delegationId, named, found⟩, version, digest, active, unexpired, permits⟩
    simp only [named, found]
    exact checkDelegation_ok_iff.mpr ⟨rfl, version, digest, active, unexpired, permits⟩

/-- The policies that are chosen. -/
def chosen (request : RuntimeActionAuthorizationRequest) (candidates : List (PolicyDefinition × PolicyVersion)) :
    List (PolicyDefinition × PolicyVersion) :=
  candidates.filter fun candidate =>
    registersAction request candidate && registersResource request candidate &&
      .agentExecution ∈ candidate.2.record.targetTypes

variable {policy : PolicyDefinition × PolicyVersion}

theorem mem_chosen : policy ∈ chosen call.request candidates ↔ Applies candidates call policy := by
  simp only [chosen, mem_filter, Bool.and_eq_true, decide_eq_true_eq]
  constructor
  · rintro ⟨candidate, ⟨action, resource⟩, target⟩
    exact ⟨candidate, action, resource, target⟩
  · rintro ⟨candidate, action, resource, target⟩
    exact ⟨candidate, ⟨action, resource⟩, target⟩

/-- The reason a choice of nothing gives. -/
def refusal (request : RuntimeActionAuthorizationRequest) (candidates : List (PolicyDefinition × PolicyVersion)) :
    String :=
  if candidates.any (registersAction request) = false then "UNSUPPORTED_ACTION"
  else if candidates.any (registersResource request) = false then "UNSUPPORTED_RESOURCE"
  else "NO_APPLICABLE_POLICY"

theorem choosePolicies_eq (request : RuntimeActionAuthorizationRequest) :
    choosePolicies request candidates =
      if chosen request candidates = [] then .error (refusal request candidates)
      else .ok (chosen request candidates) := by
  unfold choosePolicies refusal
  change (if chosen request candidates ≠ [] then _ else _) = _
  by_cases nothing : chosen request candidates = []
  · rw [if_neg (not_not.mpr nothing), if_pos nothing]
    simp only [Bool.not_eq_true]
    split
    · rfl
    · split <;> rfl
  · rw [if_pos nothing, if_neg nothing]
    rfl

theorem usesAgentControlledContext_eq_false_iff {version : PolicyVersion} :
    usesAgentControlledContext version = false ↔
      ∀ approval ∈ version.record.rules, approval.record.effect = .approve →
        ∀ condition ∈ approval.record.conditions, ¬ GuardedPath condition.record.fieldPath := by
  unfold usesAgentControlledContext GuardedPath
  simp only [any_eq_false, Bool.and_eq_true, Bool.or_eq_true, decide_eq_true_eq, any_eq_true,
    not_and, not_exists]

theorem policyOutcome_matched_iff (applies : Applies candidates call policy) :
    (policyOutcome evidence policy).matched = true ↔ ∃ rule, Decides policy.2 evidence rule :=
  matched_iff applies.target

theorem policyOutcome_of_decides {rule : PolicyRule} (applies : Applies candidates call policy)
    (decides : Decides policy.2 evidence rule) :
    policyOutcome evidence policy = ruleOutcome policy.2 rule := by
  unfold policyOutcome
  rw [evaluateWithTrace_outcome applies.target, decides_iff.mp decides]
  rfl

theorem executionId_named (request : RuntimeActionAuthorizationRequest) :
    Text.isBlank request.record.executionId = false := by
  have valid := request.valid
  simp only [RuntimeActionAuthorizationRequestRecord.violation, firstViolation_eq_none,
    forall_mem_append, forall_mem_cons, requireIdentifier, rejectIf_eq_none, Bool.not_eq_false'] at valid
  have identifier : Text.isIdentifier 127 request.record.executionId = true := valid.1.2.1
  unfold Text.isIdentifier at identifier
  unfold Text.isBlank
  cases letters : request.record.executionId.toList with
  | nil =>
    rw [letters] at identifier
    cases identifier
  | cons head tail =>
    rw [letters] at identifier
    simp only [Bool.and_eq_true] at identifier
    have solid : Text.isSpace head = false := by
      have alphanumeric := identifier.1.1
      simp only [Text.isAlphanumeric, Bool.or_eq_true, Bool.and_eq_true, decide_eq_true_eq] at alphanumeric
      simp only [Text.isSpace, Bool.or_eq_false_iff, Bool.and_eq_false_iff, decide_eq_false_iff_not,
        beq_eq_false_iff_ne]
      omega
    simp [solid]

/-- ALLOW over the chosen policies is what their rules warrant. -/
theorem ruling_warranted :
    (ruling (authorizationEvidence call delegation) (chosen call.request candidates)).1 = .allow ↔
      Warranted candidates call delegation := by
  rw [ruling_allow_iff]
  constructor
  · rintro ⟨supported, ⟨first, member, decisive⟩, approving⟩
    -- A matching policy is decisive, since it is not unsupported.
    have approved : ∀ policy rule, Applies candidates call policy →
        Decides policy.2 (authorizationEvidence call delegation) rule → rule.record.effect = .approve := by
      intro policy rule applies decides
      have outcome := policyOutcome_of_decides applies decides
      have member := mem_chosen.mpr applies
      have effect := approving policy member (by
        simp [isDecisive, supported policy member, outcome, ruleOutcome])
      rw [outcome] at effect
      exact effect
    refine ⟨fun policy applies => ⟨_, evaluatePolicy_ok _ _ (executionId_named call.request) _⟩, ?_, approved, ?_⟩
    · simp only [isDecisive, Bool.and_eq_true] at decisive
      obtain ⟨rule, decides⟩ := (policyOutcome_matched_iff (mem_chosen.mp member)).mp decisive.1
      exact ⟨first, rule, mem_chosen.mp member, decides⟩
    · intro policy rule applies decides
      have outcome := policyOutcome_of_decides applies decides
      have clear := supported policy (mem_chosen.mpr applies)
      rw [← usesAgentControlledContext_eq_false_iff]
      simpa [isUnsupported, outcome, ruleOutcome, approved policy rule applies decides]
        using clear
  · rintro ⟨-, ⟨first, rule, applies, decides⟩, approving, guarded⟩
    have supported : ∀ policy ∈ chosen call.request candidates,
        isUnsupported (authorizationEvidence call delegation) policy = false := by
      intro policy member
      have applies := mem_chosen.mp member
      by_cases matched : (policyOutcome (authorizationEvidence call delegation) policy).matched = true
      · obtain ⟨rule, decides⟩ := (policyOutcome_matched_iff applies).mp matched
        have independent := usesAgentControlledContext_eq_false_iff.mpr (guarded policy rule applies decides)
        simp [isUnsupported, policyOutcome_of_decides applies decides, ruleOutcome,
          approving policy rule applies decides, independent]
      · simp [isUnsupported, matched]
    refine ⟨supported, ⟨first, mem_chosen.mpr applies, ?_⟩, ?_⟩
    · simp [isDecisive, supported first (mem_chosen.mpr applies), policyOutcome_of_decides applies decides,
        ruleOutcome]
    · intro policy member decisive
      have applies := mem_chosen.mp member
      simp only [isDecisive, Bool.and_eq_true] at decisive
      obtain ⟨rule, decides⟩ := (policyOutcome_matched_iff applies).mp decisive.1
      rw [policyOutcome_of_decides applies decides]
      exact approving policy rule applies decides

variable (primitives config call candidates delegation) in
theorem delegatedRecord_ruling (correlationId : Option String) :
    ((delegatedRecord primitives config call correlationId candidates delegation).outcome,
        (delegatedRecord primitives config call correlationId candidates delegation).reasonCode) =
      if chosen call.request candidates = [] then (.deny, refusal call.request candidates)
      else ruling (authorizationEvidence call delegation) (chosen call.request candidates) := by
  unfold delegatedRecord
  rw [choosePolicies_eq]
  by_cases nothing : chosen call.request candidates = []
  · rw [if_pos nothing, if_pos nothing]
    rfl
  · rw [if_neg nothing, if_neg nothing, ← verdict_ruling]
    rfl

theorem delegatedRecord_allow_iff (correlationId : Option String) :
    (delegatedRecord primitives config call correlationId candidates delegation).outcome = .allow ↔
      Warranted candidates call delegation := by
  have judged := congrArg Prod.fst
    (delegatedRecord_ruling primitives config call candidates delegation correlationId)
  dsimp only at judged
  rw [judged, ← ruling_warranted]
  by_cases nothing : chosen call.request candidates = []
  · rw [if_pos nothing, nothing]
    exact iff_of_false nofun nofun
  · rw [if_neg nothing]

variable (primitives config call stores candidates) in
/-- The decision `_evaluate` builds is ALLOW exactly when the operation is authorized. -/
theorem evaluatedRecord_allow_iff (correlationId : Option String) :
    (evaluatedRecord primitives config call correlationId stores candidates).outcome = .allow ↔
      Authorized stores candidates call := by
  unfold evaluatedRecord Authorized
  by_cases preselected : call.request.record.policyId.isSome ∨ call.request.record.expectedPolicyVersion.isSome
  · rw [if_pos preselected]
    refine iff_of_false nofun ?_
    rintro ⟨unnamed, unversioned, -⟩
    rw [unnamed, unversioned] at preselected
    exact preselected.elim nofun nofun
  · rw [if_neg preselected]
    simp only [not_or, Option.not_isSome_iff_eq_none] at preselected
    cases resolved : resolvedDelegation stores call with
    | error reasonCode =>
      refine iff_of_false nofun ?_
      rintro ⟨-, -, delegation, resolves, -⟩
      rw [resolvedDelegation_ok_iff.mpr resolves] at resolved
      cases resolved
    | ok delegation =>
      have resolves := resolvedDelegation_ok_iff.mp resolved
      dsimp only
      rw [delegatedRecord_allow_iff]
      constructor
      · intro warranted
        exact ⟨preselected.1, preselected.2, delegation, resolves, warranted⟩
      · rintro ⟨-, -, other, resolves, warranted⟩
        rw [resolvedDelegation_ok_iff.mpr resolves] at resolved
        cases resolved
        exact warranted

/-! ## The order of the policies -/

variable {others : List (PolicyDefinition × PolicyVersion)}

theorem refusal_of_perm (perm : candidates.Perm others) (request : RuntimeActionAuthorizationRequest) :
    refusal request candidates = refusal request others := by
  unfold refusal
  rw [perm.any_eq, perm.any_eq]

/-- The outcome and the reason do not depend on the order of the candidates. -/
theorem evaluatedRecord_of_perm (perm : candidates.Perm others) (correlationId : Option String) :
    (evaluatedRecord primitives config call correlationId stores candidates).outcome =
        (evaluatedRecord primitives config call correlationId stores others).outcome ∧
      (evaluatedRecord primitives config call correlationId stores candidates).reasonCode =
        (evaluatedRecord primitives config call correlationId stores others).reasonCode := by
  unfold evaluatedRecord
  by_cases preselected : call.request.record.policyId.isSome ∨ call.request.record.expectedPolicyVersion.isSome
  · rw [if_pos preselected, if_pos preselected]
    exact ⟨rfl, rfl⟩
  · rw [if_neg preselected, if_neg preselected]
    cases resolvedDelegation stores call with
    | error reasonCode => exact ⟨rfl, rfl⟩
    | ok delegation =>
      have chosenPerm : (chosen call.request candidates).Perm (chosen call.request others) := perm.filter _
      have nothing : chosen call.request candidates = [] ↔ chosen call.request others = [] := by
        rw [← length_eq_zero_iff, chosenPerm.length_eq, length_eq_zero_iff]
      have first := delegatedRecord_ruling primitives config call candidates delegation correlationId
      have second := delegatedRecord_ruling primitives config call others delegation correlationId
      rw [refusal_of_perm perm, ruling_of_perm chosenPerm] at first
      simp only [nothing] at first
      exact Prod.mk.inj (first.trans second.symm)

/-- For every request, tenant, clock, delegation store and list of active policies,
`_evaluate` builds a decision that is ALLOW exactly when the operation is authorized and
DENY otherwise, returns it if its construction check accepts it, and builds one of the
same outcome and reason over every reordering of the policies. -/
theorem evaluate_meaning (primitives : Primitives) (config : AuthorizationConfig)
    (resolving : config.resolvesDelegations = true) (call : AuthorizationCall) (correlationId : Option String)
    (stores : Stores) (definitions : List PolicyDefinition) (versions : String → Option PolicyVersion) :
    let record := fun definitions => evaluatedRecord primitives config call correlationId stores
      (withVersions definitions versions)
    (∀ definitions, (evaluate primitives config call correlationId).run (listing primitives definitions versions)
        stores = (Checked.create (record definitions), stores)) ∧
      ((record definitions).outcome = .allow ↔ Authorized stores (withVersions definitions versions) call) ∧
      ((record definitions).outcome = .deny ↔ ¬ Authorized stores (withVersions definitions versions) call) ∧
      ∀ reordered, reordered.Perm definitions →
        (record reordered).outcome = (record definitions).outcome ∧
          (record reordered).reasonCode = (record definitions).reasonCode := by
  intro record
  have allow := evaluatedRecord_allow_iff primitives config call stores (withVersions definitions versions) correlationId
  refine ⟨fun definitions => evaluate_served resolving (listing_serves call.context.scope) correlationId, allow, ?_, ?_⟩
  · rw [← allow]
    cases (record definitions).outcome <;> simp
  · intro reordered perm
    exact evaluatedRecord_of_perm (perm.filterMap _) correlationId

/-- The delegated update is authorized over the update policies. -/
theorem evaluate_meaning_update :
    (evaluatedRecord updatePlatform.primitives updatePlatform.config delegatedCall none grantedStores
        (withVersions updatePolicies.definitions updatePolicies.getActiveVersion)).outcome = .allow ∧
      Authorized grantedStores (withVersions updatePolicies.definitions updatePolicies.getActiveVersion)
        delegatedCall := by
  have allowed : (evaluatedRecord updatePlatform.primitives updatePlatform.config delegatedCall none grantedStores
      (withVersions updatePolicies.definitions updatePolicies.getActiveVersion)).outcome = .allow := by
    decide +kernel
  exact ⟨allowed, (evaluate_meaning updatePlatform.primitives updatePlatform.config rfl delegatedCall none
    grantedStores updatePolicies.definitions updatePolicies.getActiveVersion).2.1.mp allowed⟩

/-- The policy that approves updates, under an identifier with a blank. -/
def spacedDefinition : PolicyDefinition :=
  ⟨"claims updates", "org-1", "project-1", ⟨63000000000000000⟩,
    [("runtime_action_authorization",
      .obj [("purpose", .str "runtime_action_authorization"),
        ("registered_actions", .arr [.str "claims.update"]),
        ("registered_resource_types", .arr [.str "sqlite.row"])])]⟩

/-- Its active version. -/
def spacedVersion (policyId : String) : Option PolicyVersion :=
  if policyId = "claims updates" then some ⟨approvesUpdates "claims updates", by decide⟩ else none

/-- An authorized operation whose evaluation answers nothing: a decision names the policies
it evaluated as bounded identifiers, and a policy may have another name. -/
theorem authorized_unanswered :
    Authorized grantedStores (withVersions [spacedDefinition] spacedVersion) delegatedCall ∧
      ∃ raised, ((evaluate updatePlatform.primitives updatePlatform.config delegatedCall none).run
        (listing updatePlatform.primitives [spacedDefinition] spacedVersion) grantedStores).1 = .error raised := by
  constructor
  · apply (evaluatedRecord_allow_iff updatePlatform.primitives updatePlatform.config delegatedCall grantedStores
      (withVersions [spacedDefinition] spacedVersion) none).mp
    decide +kernel
  · rw [evaluate_served rfl (listing_serves delegatedCall.context.scope)]
    have violated : (evaluatedRecord updatePlatform.primitives updatePlatform.config delegatedCall none grantedStores
        (withVersions [spacedDefinition] spacedVersion)).violation = some ⟨.valueError,
          "policy_id must be a bounded identifier containing only letters, numbers, '.', '_', ':', or '-'."⟩ := by
      decide +kernel
    exact ⟨_, Checked.create_eq_error_iff.mpr violated⟩

end AiGovernance.Authorization
