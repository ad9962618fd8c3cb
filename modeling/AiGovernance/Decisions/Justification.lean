import AiGovernance.Decisions.EvidenceAgreement

/-!
# Reasons of decisions

The status of a reasoned decision is that of the strongest matched effect, its
policy references are the matched policies, and its text is the least of all
matched reasons. Whether that text belongs to a rule of the strongest effect,
and whether the decision is the same for every order of the policies, depends on
the policies.
-/

namespace AiGovernance.Decisions

open AiGovernance.Std Domain Ranking List GovernancePolicy

variable {permuted : List GovernancePolicy}

/-! ## The property -/

/-- The verdicts of policies on a context. -/
def verdicts (context : PolicyEvaluationContext) (policies : List GovernancePolicy) : List PolicyEvaluationOutcome :=
  policies.map fun policy => policy.evaluate context

/-- The policies that match a context. -/
def matchedPolicies (context : PolicyEvaluationContext) (policies : List GovernancePolicy) : List GovernancePolicy :=
  policies.filter fun policy => (policy.evaluate context).matched

/-- The effects, strongest first. -/
def effectsByStrength : List PolicyEffect := [.block, .reject, .approve, .recommend, .investigate, .noDecision]

/-- The strongest effect among matched outcomes. -/
def strongestEffect (policyOutcomes : List PolicyEvaluationOutcome) : Option PolicyEffect :=
  effectsByStrength.find? (· ∈ matchedEffects policyOutcomes)

/-- The content of the reference to a policy. -/
def ownReference (policy : GovernancePolicy) : DecisionPolicyReferenceRecord :=
  ⟨policy.record.policyId, policy.record.version, some policy.record.name, []⟩

/-- The parts of a decision that justify it fit the verdicts of the policies. -/
structure Justified (context : PolicyEvaluationContext) (policies : List GovernancePolicy)
    (decision : GovernanceDecision) : Prop where
  blocked : decision.record.status = .blocked ↔ strongestEffect (verdicts context policies) = some .block
  rejected : decision.record.status = .rejected ↔ strongestEffect (verdicts context policies) = some .reject
  approved : decision.record.status = .approved ↔ strongestEffect (verdicts context policies) = some .approve
  /-- A matched rule of the strongest effect gives the reason. -/
  reason : ∀ effect, strongestEffect (verdicts context policies) = some effect →
    ∃ outcome ∈ matchedOutcomes (verdicts context policies),
      outcome.effect = effect ∧ outcome.reason = decision.record.reason
  references : (decision.record.policies.map (·.record)).Perm ((matchedPolicies context policies).map ownReference)

/-- Two decisions agree in what the policies decide. -/
structure SameDecision (left right : GovernanceDecision) : Prop where
  decisionId : left.record.decisionId = right.record.decisionId
  status : left.record.status = right.record.status
  confidence : left.record.confidence = right.record.confidence
  reason : left.record.reason = right.record.reason
  evidence : left.record.evidence = right.record.evidence
  policies : left.record.policies = right.record.policies

/-- Policies whose verdicts justify one decision, in every order. -/
structure Justifiable (context : PolicyEvaluationContext) (policies : List GovernancePolicy) : Prop where
  /-- A matched rule of the strongest effect has a reason that no other matched reason precedes. -/
  reason : ∀ effect, strongestEffect (verdicts context policies) = some effect →
    ∃ outcome ∈ matchedOutcomes (verdicts context policies), outcome.effect = effect ∧
      ∀ other ∈ matchedOutcomes (verdicts context policies), outcome.reason ≤ other.reason
  /-- A policy with the identifier and the version of a matched one has its name. -/
  names : ∀ policy ∈ matchedPolicies context policies, ∀ other ∈ policies,
    other.record.policyId = policy.record.policyId → other.record.version = policy.record.version →
      other.record.name = policy.record.name
  /-- Matched rules of one identifier, in policies of one identifier and version, have one effect. -/
  effects : ∀ policy ∈ matchedPolicies context policies, ∀ other ∈ matchedPolicies context policies,
    other.record.policyId = policy.record.policyId → other.record.version = policy.record.version →
      (other.evaluate context).matchedRuleId = (policy.evaluate context).matchedRuleId →
        (other.evaluate context).effect = (policy.evaluate context).effect

/-! ## The status -/

section Status

variable {policyOutcomes others : List PolicyEvaluationOutcome}

/-- The status is that of the strongest effect. -/
theorem status_eq : mapPolicyOutcomesToStatus policyOutcomes =
    match strongestEffect policyOutcomes with
    | some .block => .blocked
    | some .reject => .rejected
    | some .approve => .approved
    | _ => .proposed := by
  unfold mapPolicyOutcomesToStatus strongestEffect effectsByStrength
  by_cases block : .block ∈ matchedEffects policyOutcomes
  · simp [block]
  · by_cases reject : .reject ∈ matchedEffects policyOutcomes
    · simp [block, reject]
    · by_cases approve : .approve ∈ matchedEffects policyOutcomes
      · simp [block, reject, approve]
      · by_cases recommend : .recommend ∈ matchedEffects policyOutcomes
        · simp [block, reject, approve, recommend]
        · by_cases investigate : .investigate ∈ matchedEffects policyOutcomes
          · simp [block, reject, approve, recommend, investigate]
          · by_cases noDecision : .noDecision ∈ matchedEffects policyOutcomes <;>
              simp [block, reject, approve, recommend, investigate, noDecision]

theorem status_blocked :
    mapPolicyOutcomesToStatus policyOutcomes = .blocked ↔ strongestEffect policyOutcomes = some .block := by
  rw [status_eq]
  split <;> simp_all

theorem status_rejected :
    mapPolicyOutcomesToStatus policyOutcomes = .rejected ↔ strongestEffect policyOutcomes = some .reject := by
  rw [status_eq]
  split <;> simp_all

theorem status_approved :
    mapPolicyOutcomesToStatus policyOutcomes = .approved ↔ strongestEffect policyOutcomes = some .approve := by
  rw [status_eq]
  split <;> simp_all

theorem strongestEffect_of_perm (perm : policyOutcomes.Perm others) :
    strongestEffect policyOutcomes = strongestEffect others := by
  have effects : (matchedEffects policyOutcomes).Perm (matchedEffects others) := (perm.filter _).map _
  unfold strongestEffect
  congr 1
  funext effect
  exact decide_eq_decide.mpr effects.mem_iff

theorem confidence_of_perm (perm : policyOutcomes.Perm others) (missing : List MissingEvidence) :
    mapPolicyOutcomesToConfidence policyOutcomes missing = mapPolicyOutcomesToConfidence others missing := by
  have matched : (matchedOutcomes policyOutcomes).Perm (matchedOutcomes others) := perm.filter _
  unfold mapPolicyOutcomesToConfidence
  rw [matched.isEmpty_eq, matched.any_eq]

end Status

/-! ## The reason -/

section Reason

variable {policyOutcomes others : List PolicyEvaluationOutcome}

theorem decisionReason_of_perm (perm : policyOutcomes.Perm others) :
    decisionReason policyOutcomes = decisionReason others := by
  have matched : (matchedOutcomes policyOutcomes).Perm (matchedOutcomes others) := perm.filter _
  unfold decisionReason matchedReasons
  rw [ascending_id_of_perm (matched.map (·.reason))]

/-- The reason is a matched one that no other precedes. -/
theorem decisionReason_least {outcome : PolicyEvaluationOutcome} (member : outcome ∈ matchedOutcomes policyOutcomes) :
    (∃ first ∈ matchedOutcomes policyOutcomes, first.reason = decisionReason policyOutcomes) ∧
      decisionReason policyOutcomes ≤ outcome.reason := by
  have among : outcome.reason ∈ matchedReasons policyOutcomes :=
    mem_ascending.mpr (mem_map_of_mem member)
  have sorted : (matchedReasons policyOutcomes).Pairwise (· ≤ ·) := pairwise_ascending
  unfold decisionReason
  cases reasons : matchedReasons policyOutcomes with
  | nil =>
    rw [reasons] at among
    cases among
  | cons least rest =>
    rw [reasons] at among sorted
    have head : least ∈ matchedReasons policyOutcomes := by
      rw [reasons]
      exact mem_cons_self
    constructor
    · obtain ⟨first, matched, same⟩ := mem_map.mp (mem_ascending.mp head)
      exact ⟨first, matched, same⟩
    · rcases mem_cons.mp among with same | later
      · exact le_of_eq same.symm
      · exact (pairwise_cons.mp sorted).1 _ later

/-- A rule of some effect gives the reason exactly when its reason is a least one. -/
theorem reason_iff {effect : PolicyEffect} :
    (∃ outcome ∈ matchedOutcomes policyOutcomes, outcome.effect = effect ∧
        outcome.reason = decisionReason policyOutcomes) ↔
      ∃ outcome ∈ matchedOutcomes policyOutcomes, outcome.effect = effect ∧
        ∀ other ∈ matchedOutcomes policyOutcomes, outcome.reason ≤ other.reason := by
  constructor
  · rintro ⟨outcome, member, same, gives⟩
    exact ⟨outcome, member, same, fun other among => gives ▸ (decisionReason_least among).2⟩
  · rintro ⟨outcome, member, same, least⟩
    obtain ⟨⟨first, matched, gives⟩, below⟩ := decisionReason_least member
    exact ⟨outcome, member, same, le_antisymm (gives ▸ least first matched) below⟩

end Reason

/-! ## The references -/

section References

variable {context : PolicyEvaluationContext} {policies permuted : List GovernancePolicy}

theorem matchedOutcomes_verdicts : matchedOutcomes (verdicts context policies) =
    (matchedPolicies context policies).map fun policy => policy.evaluate context := by
  unfold matchedOutcomes verdicts matchedPolicies
  rw [filter_map]
  rfl

/-- The identifier and the version of a policy. -/
def policyKey (policy : GovernancePolicy) : String × String := (policy.record.policyId, policy.record.version)

/-- The last policy of a key is the one found under it. -/
theorem get?_policyMap (key : String × String) : (policyMap policies).get? key =
    latest (fun policy => if policyKey policy = key then some policy else none) policies := by
  refine (foldl_latest (fun policy => if policyKey policy = key then some (some policy) else none)
    (fun named : Dict (String × String) GovernancePolicy => named.get? key) (fun named policy => ?_) policies
    .empty).trans ?_
  · rw [Dict.get?_set]
    change (if key = policyKey policy then _ else _) = _
    by_cases same : policyKey policy = key
    · rw [if_pos same, if_pos same.symm]
      rfl
    · rw [if_neg same, if_neg (Ne.symm same)]
      rfl
  · have same : (fun policy => if policyKey policy = key then some (some policy) else none) =
        fun policy => Option.map some (if policyKey policy = key then some policy else none) := by
      funext policy
      split <;> rfl
    rw [same, latest_map]
    cases latest (fun policy => if policyKey policy = key then some policy else none) policies <;> rfl

/-- The content of the reference the engine makes to a policy. -/
def referenceRecord (policies : List GovernancePolicy) (policy : GovernancePolicy) : DecisionPolicyReferenceRecord :=
  ⟨policy.record.policyId, policy.record.version,
    ((policyMap policies).get? (policyKey policy)).map (·.record.name), []⟩

/-- The key of the content of a reference. -/
def recordKey (record : DecisionPolicyReferenceRecord) : String ×ₗ String := toLex (record.policyId, record.policyVersion)

theorem policy_named (policy : GovernancePolicy) : Text.isBlank policy.record.policyId = false ∧
    Text.isBlank policy.record.version = false ∧ Text.isBlank policy.record.name = false := by
  have valid := policy.valid
  unfold GovernancePolicyRecord.violation at valid
  simp only [firstViolation_eq_none, forall_mem_cons, requireNonEmpty_eq_none] at valid
  exact ⟨valid.1, valid.2.1, valid.2.2.1⟩

theorem policyReference_ok (policy : GovernancePolicy) :
    ∃ reference, policyReference policies (policy.evaluate context) = .ok reference := by
  obtain ⟨identified, numbered, -⟩ := policy_named policy
  refine ⟨⟨_, firstViolation_eq_none.mpr ?_⟩, Checked.create_eq_ok_iff.mpr rfl⟩
  simp only [forall_mem_cons, evaluate_policyId, evaluate_policyVersion]
  refine ⟨requireNonEmpty_eq_none.mpr identified, requireNonEmpty_eq_none.mpr numbered, ?_, by simp⟩
  refine requireOptionalNonEmpty_eq_none.mpr fun name given => ?_
  obtain ⟨other, -, rfl⟩ := Option.map_eq_some_iff.mp given
  exact (policy_named other).2.2

/-- The engine makes a reference to every matched policy. -/
theorem policyReferences_ok (context : PolicyEvaluationContext) (policies : List GovernancePolicy) :
    ∃ references, policyReferences (verdicts context policies) policies = .ok references ∧
      references.map (·.record) =
        ascending recordKey ((matchedPolicies context policies).map (referenceRecord policies)) := by
  have each : ∀ outcome ∈ matchedOutcomes (verdicts context policies),
      ∃ reference, policyReference policies outcome = .ok reference := by
    intro outcome member
    rw [matchedOutcomes_verdicts] at member
    obtain ⟨policy, -, rfl⟩ := mem_map.mp member
    exact policyReference_ok policy
  obtain ⟨made, collected⟩ := mapM_succeeds each
  have records := map_of_mapM (fun outcome reference made => Checked.create_eq_ok_iff.mp made) collected
  have arranged : (ascending referenceKey made).map (·.record) =
      ascending recordKey (made.map (·.record)) := map_ascending fun reference _ => rfl
  refine ⟨ascending referenceKey made, ?_, ?_⟩
  · unfold policyReferences
    rw [collected]
    rfl
  · rw [arranged, records, matchedOutcomes_verdicts, map_map]
    congr 1
    refine map_congr_left fun policy _ => ?_
    simp [referenceRecord, policyKey]

theorem matchedPolicies_of_perm (perm : policies.Perm permuted) :
    (matchedPolicies context policies).Perm (matchedPolicies context permuted) := perm.filter _

/-- Where names are clear, the reference to a matched policy has its own content. -/
theorem referenceRecord_eq {policy : GovernancePolicy} (member : policy ∈ policies)
    (clear : ∀ other ∈ policies, other.record.policyId = policy.record.policyId →
      other.record.version = policy.record.version → other.record.name = policy.record.name) :
    referenceRecord policies policy = ownReference policy := by
  unfold referenceRecord ownReference
  rw [get?_policyMap]
  cases found : latest (fun other => if policyKey other = policyKey policy then some other else none) policies with
  | none =>
    have absent := latest_eq_none.mp found policy member
    simp at absent
  | some last =>
    obtain ⟨other, among, reads⟩ := mem_of_latest found
    split at reads
    · rename_i same
      cases reads
      obtain ⟨identified, numbered⟩ := Prod.mk.inj same
      rw [Option.map_some, clear last among identified numbered]
    · cases reads

theorem referenceRecords_eq (clear : ∀ policy ∈ matchedPolicies context policies, ∀ other ∈ policies,
      other.record.policyId = policy.record.policyId → other.record.version = policy.record.version →
        other.record.name = policy.record.name) :
    (matchedPolicies context policies).map (referenceRecord policies) =
      (matchedPolicies context policies).map ownReference :=
  map_congr_left fun policy member =>
    referenceRecord_eq (mem_of_mem_filter member) (clear policy member)

/-- Exact references that no order of the policies changes are those of policies with clear names. -/
theorem references_stable_iff :
    ((ascending recordKey ((matchedPolicies context policies).map (referenceRecord policies))).Perm
        ((matchedPolicies context policies).map ownReference) ∧
      ∀ permuted, policies.Perm permuted →
        ascending recordKey ((matchedPolicies context permuted).map (referenceRecord permuted)) =
          ascending recordKey ((matchedPolicies context policies).map (referenceRecord policies))) ↔
      ∀ policy ∈ matchedPolicies context policies, ∀ other ∈ policies,
        other.record.policyId = policy.record.policyId → other.record.version = policy.record.version →
          other.record.name = policy.record.name := by
  constructor
  · rintro ⟨exact, stable⟩ policy matched other member identified numbered
    -- With the other policy last, every reference under the common key has its name.
    obtain ⟨rest, first⟩ := exists_perm_cons member
    have last : policies.Perm (rest ++ [other]) := first.trans (perm_append_singleton other rest).symm
    have among : ownReference policy ∈ ascending recordKey
        ((matchedPolicies context (rest ++ [other])).map (referenceRecord (rest ++ [other]))) := by
      rw [stable _ last]
      exact exact.mem_iff.mpr (mem_map_of_mem matched)
    obtain ⟨shown, -, same⟩ := mem_map.mp (mem_ascending.mp among)
    unfold referenceRecord ownReference at same
    obtain ⟨shownIdentified, shownNumbered, shownNamed, -⟩ := DecisionPolicyReferenceRecord.mk.inj same
    have keyed : policyKey shown = policyKey other := by
      unfold policyKey
      rw [shownIdentified, shownNumbered, identified, numbered]
    have overwritten : (policyMap (rest ++ [other])).get? (policyKey other) = some other := by
      unfold policyMap
      rw [foldl_append]
      exact Dict.get?_set_self _
    rw [keyed, overwritten] at shownNamed
    exact Option.some.inj shownNamed
  · intro clear
    rw [referenceRecords_eq clear]
    refine ⟨perm_ascending, fun permuted perm => ?_⟩
    have clearToo : ∀ policy ∈ matchedPolicies context permuted, ∀ other ∈ permuted,
        other.record.policyId = policy.record.policyId → other.record.version = policy.record.version →
          other.record.name = policy.record.name := fun policy matched other member =>
      clear policy ((matchedPolicies_of_perm perm).mem_iff.mpr matched) other (perm.mem_iff.mpr member)
    rw [referenceRecords_eq clearToo]
    have alike : ∀ left ∈ (matchedPolicies context policies).map ownReference,
        ∀ right ∈ (matchedPolicies context policies).map ownReference,
          recordKey left = recordKey right → id left = id right := by
      intro left memberLeft right memberRight same
      obtain ⟨policy, matched, rfl⟩ := mem_map.mp memberLeft
      obtain ⟨other, otherMatched, rfl⟩ := mem_map.mp memberRight
      obtain ⟨identified, numbered⟩ := Prod.mk.inj (toLex_inj.mp same)
      unfold ownReference at identified numbered ⊢
      dsimp only at identified numbered
      rw [identified, numbered,
        clear other otherMatched policy (mem_of_mem_filter matched) identified numbered]
    have seen := map_ascending_stable_iff.mpr alike _ ((matchedPolicies_of_perm perm).map ownReference)
    simpa using seen

end References

/-! ## The identifier -/

section Identifier

variable {context : PolicyEvaluationContext} {policies : List GovernancePolicy} {policy : GovernancePolicy}

theorem evaluate_unmatched (unmatched : (policy.evaluate context).matched = false) :
    (policy.evaluate context).matchedRuleId = none ∧ (policy.evaluate context).effect = .noDecision := by
  by_cases targets : context.record.targetType ∈ policy.record.targetTypes
  · rw [evaluate_of_targets targets] at unmatched ⊢
    cases found : policy.sortedRules.find? (GovernancePolicyEvaluator.ruleMatches · context.record.evidence) with
    | none => exact ⟨rfl, rfl⟩
    | some rule =>
      rw [found] at unmatched
      cases unmatched
  · unfold evaluate
    rw [if_pos targets]
    exact ⟨rfl, rfl⟩

/-- A policy that matches names its rule, and the rule's identifier and reason are not blank. -/
theorem evaluate_rule (matched : (policy.evaluate context).matched = true) :
    (∃ ruleId, (policy.evaluate context).matchedRuleId = some ruleId ∧ ruleId ≠ "") ∧
      Text.isBlank (policy.evaluate context).reason = false := by
  obtain ⟨-, rule, -, -, outcome⟩ := evaluate_matched matched
  have valid := rule.valid
  unfold PolicyRuleRecord.violation at valid
  simp only [firstViolation_eq_none, forall_mem_cons, requireNonEmpty_eq_none] at valid
  rw [outcome]
  refine ⟨⟨rule.record.ruleId, rfl, ?_⟩, valid.2.2.1⟩
  intro empty
  rw [empty] at valid
  exact absurd valid.1 (by decide)

/-- What of an outcome goes into the digest. -/
def seen (outcome : PolicyEvaluationOutcome) : Json := Json.sortKeys (outcomeFingerprint outcome)

theorem value_injective {left right : PolicyEffect} (same : left.value = right.value) : left = right := by
  cases left <;> cases right <;> first | rfl | exact absurd same (by decide)

theorem effect_of_seen {left right : PolicyEvaluationOutcome} (same : seen left = seen right) :
    left.effect = right.effect := by
  unfold seen outcomeFingerprint at same
  rw [Json.sortKeys, Json.sortKeys] at same
  have fields := congrArg (Json.field · "effect") (Json.obj.inj same)
  simp only [Json.field_sortFields] at fields
  simp [Json.sortKeys] at fields
  exact value_injective fields

theorem seen_alike_iff :
    (∀ left ∈ policies, ∀ right ∈ policies,
      outcomeKey (left.evaluate context) = outcomeKey (right.evaluate context) →
        seen (left.evaluate context) = seen (right.evaluate context)) ↔
      ∀ policy ∈ matchedPolicies context policies, ∀ other ∈ matchedPolicies context policies,
        other.record.policyId = policy.record.policyId → other.record.version = policy.record.version →
          (other.evaluate context).matchedRuleId = (policy.evaluate context).matchedRuleId →
            (other.evaluate context).effect = (policy.evaluate context).effect := by
  constructor
  · intro alike policy matched other otherMatched identified numbered ruled
    refine effect_of_seen (alike other (mem_of_mem_filter otherMatched) policy (mem_of_mem_filter matched) ?_)
    unfold outcomeKey
    simp only [evaluate_policyId, evaluate_policyVersion]
    rw [identified, numbered, ruled]
  · intro clear left memberLeft right memberRight same
    unfold outcomeKey at same
    obtain ⟨identified, rest⟩ := Prod.mk.inj (toLex_inj.mp same)
    obtain ⟨numbered, ruled⟩ := Prod.mk.inj (toLex_inj.mp rest)
    unfold seen outcomeFingerprint
    rw [identified, numbered]
    simp only [evaluate_policyId, evaluate_policyVersion] at identified numbered
    cases matchedLeft : (left.evaluate context).matched with
    | true =>
      obtain ⟨⟨leftRule, leftNamed, leftSolid⟩, -⟩ := evaluate_rule matchedLeft
      cases matchedRight : (right.evaluate context).matched with
      | true =>
        obtain ⟨⟨rightRule, rightNamed, -⟩, -⟩ := evaluate_rule matchedRight
        rw [leftNamed, rightNamed, Option.getD_some, Option.getD_some] at ruled
        have rules : (left.evaluate context).matchedRuleId = (right.evaluate context).matchedRuleId := by
          rw [leftNamed, rightNamed, ruled]
        rw [rules, clear right (mem_filter.mpr ⟨memberRight, matchedRight⟩) left
          (mem_filter.mpr ⟨memberLeft, matchedLeft⟩) identified numbered rules]
      | false =>
        rw [leftNamed, (evaluate_unmatched matchedRight).1] at ruled
        exact absurd ruled leftSolid
    | false =>
      obtain ⟨unruledLeft, undecidedLeft⟩ := evaluate_unmatched matchedLeft
      cases matchedRight : (right.evaluate context).matched with
      | true =>
        obtain ⟨⟨rightRule, rightNamed, rightSolid⟩, -⟩ := evaluate_rule matchedRight
        rw [unruledLeft, rightNamed] at ruled
        exact absurd ruled.symm rightSolid
      | false =>
        obtain ⟨unruledRight, undecidedRight⟩ := evaluate_unmatched matchedRight
        rw [unruledLeft, unruledRight, undecidedLeft, undecidedRight]

theorem sortItems_map {Item : Type} (write : Item → Json) (items : List Item) :
    Json.sortItems (items.map write) = items.map fun item => Json.sortKeys (write item) := by
  induction items with
  | nil => rfl
  | cons item rest ih => rw [map_cons, Json.sortItems, ih, map_cons]

variable {request : GovernanceReasoningRequest} {summary : ReasoningEvidenceSummary}

/-- Two payloads that differ in the outcomes are written alike exactly when the sorted outcomes look alike. -/
theorem payload_eq_iff {left right : List PolicyEvaluationOutcome} :
    Json.sortKeys (.obj (decisionPayload request summary left)) =
        Json.sortKeys (.obj (decisionPayload request summary right)) ↔
      (ascending outcomeKey left).map seen = (ascending outcomeKey right).map seen := by
  have written : ∀ outcomes : List PolicyEvaluationOutcome,
      Json.sortKeys (.arr ((ascending outcomeKey outcomes).map outcomeFingerprint)) =
        .arr ((ascending outcomeKey outcomes).map seen) := fun outcomes => by
    rw [Json.sortKeys, sortItems_map]
    rfl
  constructor
  · intro same
    rw [Json.sortKeys, Json.sortKeys] at same
    have fields := congrArg (Json.field · "policy_outcomes") (Json.obj.inj same)
    simp only [Json.field_sortFields] at fields
    have listed : ∀ outcomes : List PolicyEvaluationOutcome,
        Json.field (decisionPayload request summary outcomes) "policy_outcomes" =
          some (.arr ((ascending outcomeKey outcomes).map outcomeFingerprint)) := fun outcomes => by
      simp [decisionPayload]
    rw [listed, listed, Option.map_some, Option.map_some, written, written] at fields
    exact Json.arr.inj (Option.some.inj fields)
  · intro same
    simp only [decisionPayload, Json.sortKeys, Json.sortFields]
    have arrays := (written left).trans ((congrArg Json.arr same).trans (written right).symm)
    simp only [Json.sortKeys] at arrays
    rw [Json.arr.inj arrays]

theorem payload_stable_iff :
    (∀ permuted, policies.Perm permuted →
      Json.sortKeys (.obj (decisionPayload request summary (verdicts context permuted))) =
        Json.sortKeys (.obj (decisionPayload request summary (verdicts context policies)))) ↔
      ∀ policy ∈ matchedPolicies context policies, ∀ other ∈ matchedPolicies context policies,
        other.record.policyId = policy.record.policyId → other.record.version = policy.record.version →
          (other.evaluate context).matchedRuleId = (policy.evaluate context).matchedRuleId →
            (other.evaluate context).effect = (policy.evaluate context).effect := by
  have ranked : ∀ policies : List GovernancePolicy,
      (ascending outcomeKey (verdicts context policies)).map seen =
        (ascending (fun policy : GovernancePolicy => outcomeKey (policy.evaluate context)) policies).map
          fun policy => seen (policy.evaluate context) := by
    intro policies
    have arranged : (ascending (fun policy : GovernancePolicy => outcomeKey (policy.evaluate context))
        policies).map (fun policy => policy.evaluate context) =
        ascending outcomeKey (verdicts context policies) := map_ascending fun policy _ => rfl
    rw [← arranged, map_map]
    rfl
  rw [← seen_alike_iff, ← map_ascending_stable_iff]
  simp only [payload_eq_iff, ranked]

/-- Digests of the policies in other orders tell their payloads apart. -/
def NoCollision (primitives : Primitives) (request : GovernanceReasoningRequest) (summary : ReasoningEvidenceSummary)
    (context : PolicyEvaluationContext) (policies : List GovernancePolicy) : Prop :=
  ∀ permuted, policies.Perm permuted →
    stableHash primitives (decisionPayload request summary (verdicts context permuted)) =
        stableHash primitives (decisionPayload request summary (verdicts context policies)) →
      Json.sortKeys (.obj (decisionPayload request summary (verdicts context permuted))) =
        Json.sortKeys (.obj (decisionPayload request summary (verdicts context policies)))

theorem decisionId_eq_iff {primitives : Primitives} (apart : NoCollision primitives request summary context policies)
    (perm : policies.Perm permuted) :
    decisionId primitives request summary (verdicts context permuted) =
        decisionId primitives request summary (verdicts context policies) ↔
      Json.sortKeys (.obj (decisionPayload request summary (verdicts context permuted))) =
        Json.sortKeys (.obj (decisionPayload request summary (verdicts context policies))) := by
  unfold decisionId
  rw [String.append_right_inj]
  constructor
  · exact apart permuted perm
  · intro same
    unfold stableHash Primitives.stableDigest
    rw [same]

end Identifier

/-! ## The run -/

section Run

variable {primitives : Primitives} {casing : Casing} {request : GovernanceReasoningRequest}
  {evidenceGraph : DecisionEvidenceGraph} {summary : ReasoningEvidenceSummary} {context : PolicyEvaluationContext}

theorem isBlank_append (left right : String) : Text.isBlank (left ++ right) = (Text.isBlank left && Text.isBlank right) := by
  unfold Text.isBlank
  rw [String.toList_append, all_append]

theorem stableHash_named (value : List (String × Json)) : Text.isBlank (stableHash primitives value) = false := by
  have hex : Text.isHexDigest (primitives.stableDigest value) = true := primitives.sha256Json_hex _
  unfold Text.isHexDigest at hex
  rw [Bool.and_eq_true, beq_iff_eq, all_eq_true] at hex
  unfold stableHash Text.isBlank
  rw [String.toList_ofList]
  cases digits : (primitives.stableDigest value).toList with
  | nil =>
    rw [digits] at hex
    cases hex.1
  | cons first rest =>
    rw [digits] at hex
    have digit := hex.2 first mem_cons_self
    have solid : Text.isSpace first = false := by
      simp only [Text.isHex, Bool.or_eq_true, Bool.and_eq_true, decide_eq_true_eq] at digit
      simp [Text.isSpace]
      omega
    simp [solid]

theorem evidenceReference_ok {evidenceType evidenceId : String} (metadata : Metadata)
    (typed : Text.isBlank evidenceType = false) (identified : Text.isBlank evidenceId = false) :
    ∃ reference, evidenceReference evidenceType evidenceId metadata = .ok reference := by
  refine ⟨⟨_, firstViolation_eq_none.mpr ?_⟩, Checked.create_eq_ok_iff.mpr rfl⟩
  simp only [forall_mem_cons]
  refine ⟨requireNonEmpty_eq_none.mpr typed, requireNonEmpty_eq_none.mpr identified, rfl, ?_, by simp⟩
  exact requireOptionalNonEmpty_eq_none.mpr fun text given => Option.some.inj given ▸ by decide

theorem idsOfType_named {nodes : List EvidenceNode} {entityType : Ontology.EntityType} {entityId : String}
    (member : entityId ∈ idsOfType nodes entityType) : Text.isBlank entityId = false := by
  obtain ⟨node, -, rfl⟩ := mem_map.mp (mem_ascending.mp member)
  have valid := node.valid
  unfold EvidenceNodeRecord.violation at valid
  simp only [firstViolation_eq_none, forall_mem_cons, requireNonEmpty_eq_none] at valid
  exact valid.2.1

/-- Everything a summary lists has a type and an identifier. -/
theorem listedEvidence_named (made : summarize casing evidenceGraph = .ok summary) :
    ∀ entry ∈ listedEvidence summary, Text.isBlank entry.1 = false ∧ Text.isBlank entry.2 = false := by
  intro entry member
  unfold listedEvidence at member
  obtain ⟨final, -, created⟩ := bind_ok made
  rw [Checked.create_eq_ok_iff.mp created] at member
  obtain ⟨listed, among, found⟩ := mem_flatMap.mp member
  obtain ⟨evidenceId, listedId, rfl⟩ := mem_map.mp found
  have typed : Text.isBlank listed.1 = false ∧ ∃ entityType, listed.2 = idsOfType evidenceGraph.record.nodes entityType := by
    simp only [mem_cons, not_mem_nil, or_false] at among
    rcases among with rfl | rfl | rfl | rfl | rfl | rfl | rfl
    all_goals exact ⟨by dsimp only; decide, _, rfl⟩
  obtain ⟨named, entityType, ids⟩ := typed
  exact ⟨named, idsOfType_named (ids ▸ listedId)⟩

/-- The evidence of a summary is referred to. -/
theorem evidenceReferences_ok (primitives : Primitives) (made : summarize casing evidenceGraph = .ok summary) :
    ∃ references, evidenceReferences primitives summary = .ok references ∧ references ≠ [] := by
  have eachListed : ∀ entry ∈ listedEvidence summary,
      ∃ reference, evidenceReference entry.1 entry.2 [] = .ok reference := fun entry member =>
    evidenceReference_ok [] (listedEvidence_named made entry member).1 (listedEvidence_named made entry member).2
  have eachMissing : ∀ missing ∈ summary.record.missingEvidence,
      ∃ reference, missingReference primitives missing = .ok reference := fun missing _ =>
    evidenceReference_ok _ (by decide) (stableHash_named _)
  obtain ⟨listed, listedOk⟩ := mapM_succeeds eachListed
  obtain ⟨missing, missingOk⟩ := mapM_succeeds eachMissing
  have identified : Text.isBlank (summary.record.targetType.value ++ ":" ++ summary.record.targetId) = false := by
    rw [isBlank_append, isBlank_append, show Text.isBlank ":" = false by decide]
    simp
  obtain ⟨whole, wholeOk⟩ : ∃ whole, evidenceReference "ReasoningEvidenceSummary"
      (summary.record.targetType.value ++ ":" ++ summary.record.targetId) [] = .ok whole :=
    evidenceReference_ok [] (by decide) identified
  have completed : ∃ rest, wholeReference summary (listed ++ missing) = .ok rest ∧ listed ++ missing ++ rest ≠ [] := by
    unfold wholeReference
    by_cases none : (listed ++ missing).isEmpty = true
    · exact ⟨[whole], by rw [if_pos none, wholeOk]; rfl, by simp⟩
    · exact ⟨[], by rw [if_neg none], by simpa [List.isEmpty_iff] using none⟩
  obtain ⟨rest, restOk, nonempty⟩ := completed
  refine ⟨_, by unfold evidenceReferences; rw [listedOk, missingOk]; simp only [bind, Except.bind, restOk]; rfl,
    fun empty => nonempty ?_⟩
  have counted := congrArg List.length empty
  rw [perm_ascending.length_eq] at counted
  exact length_eq_zero_iff.mp counted

/-- What the engine concludes from a summary, a context and the policies. -/
structure Concludes (primitives : Primitives) (request : GovernanceReasoningRequest) (summary : ReasoningEvidenceSummary)
    (context : PolicyEvaluationContext) (evidence : List DecisionEvidenceReference) (policies : List GovernancePolicy)
    (decision : GovernanceDecision) : Prop where
  decisionId : decision.record.decisionId = decisionId primitives request summary (verdicts context policies)
  status : decision.record.status = mapPolicyOutcomesToStatus (verdicts context policies)
  reason : decision.record.reason = decisionReason (verdicts context policies)
  confidence : decision.record.confidence =
    mapPolicyOutcomesToConfidence (verdicts context policies) summary.record.missingEvidence
  evidence : decision.record.evidence = evidence
  policies : decision.record.policies.map (·.record) =
    Ranking.ascending recordKey ((matchedPolicies context policies).map (referenceRecord policies))

theorem decisionReason_named (policies : List GovernancePolicy) :
    Text.isBlank (decisionReason (verdicts context policies)) = false := by
  unfold decisionReason
  cases reasons : matchedReasons (verdicts context policies) with
  | nil => decide
  | cons least rest =>
    have head : least ∈ matchedReasons (verdicts context policies) := by
      rw [reasons]
      exact mem_cons_self
    obtain ⟨outcome, matched, rfl⟩ := mem_map.mp (mem_ascending.mp head)
    rw [matchedOutcomes_verdicts] at matched
    obtain ⟨policy, among, rfl⟩ := mem_map.mp matched
    exact (evaluate_rule (mem_filter.mp among).2).2

theorem request_named (request : GovernanceReasoningRequest) : Text.isBlank request.record.targetId = false ∧
    Text.isBlank request.record.producerId = false ∧
    requireOptionalNonEmpty "reasoning request correlation_id" request.record.correlationId = none ∧
    requireOptionalNonEmpty "reasoning request request_id" request.record.requestId = none := by
  have valid := request.valid
  unfold GovernanceReasoningRequestRecord.violation at valid
  simp only [firstViolation_eq_none, cons_append, forall_mem_cons, requireNonEmpty_eq_none] at valid
  exact ⟨valid.1, valid.2.1, valid.2.2.1, valid.2.2.2.1⟩

/-- The engine comes to a conclusion on every list of policies. -/
theorem reasonOver_ok (primitives : Primitives) (request : GovernanceReasoningRequest)
    (made : summarize casing evidenceGraph = .ok summary)
    (built : buildPolicyContext casing.lower evidenceGraph = .ok context) :
    ∃ evidence, ∀ policies, ∃ outcome, reasonOver primitives casing request evidenceGraph policies = .ok outcome ∧
      Concludes primitives request summary context evidence policies outcome.decision := by
  obtain ⟨evidence, referred, nonempty⟩ := evidenceReferences_ok primitives made
  refine ⟨evidence, fun policies => ?_⟩
  obtain ⟨references, named, records⟩ := policyReferences_ok context policies
  obtain ⟨targeted, produced, correlated, requested⟩ := request_named request
  have targetValid : DecisionTargetRecord.violation ⟨request.record.targetType, request.record.targetId⟩ = none :=
    requireNonEmpty_eq_none.mpr targeted
  have provenanceValid : DecisionProvenanceRecord.violation ⟨.policyEngine, request.record.producerId, none,
      request.record.correlationId, request.record.requestId, ⟨0⟩⟩ = none := by
    rw [requireOptionalNonEmpty_eq_none] at correlated requested
    refine firstViolation_eq_none.mpr ?_
    simp only [forall_mem_cons]
    exact ⟨requireNonEmpty_eq_none.mpr produced, rfl, requireOptionalNonEmpty_eq_none.mpr correlated,
      requireOptionalNonEmpty_eq_none.mpr requested, by simp⟩
  have identified : Text.isBlank (decisionId primitives request summary (verdicts context policies)) = false := by
    unfold decisionId
    rw [isBlank_append, stableHash_named, Bool.and_false]
  have decisionValid : GovernanceDecisionRecord.violation
      { decisionId := decisionId primitives request summary (verdicts context policies)
        decisionType := request.record.decisionType
        status := mapPolicyOutcomesToStatus (verdicts context policies)
        target := ⟨_, targetValid⟩
        reason := decisionReason (verdicts context policies)
        confidence := mapPolicyOutcomesToConfidence (verdicts context policies) summary.record.missingEvidence
        evidence
        policies := references
        provenance := ⟨_, provenanceValid⟩
        supersession := .empty
        metadata := request.record.metadata
        finalizedAt := none
        archivedAt := none } = none := by
    refine firstViolation_eq_none.mpr ?_
    simp only [forall_mem_cons]
    refine ⟨requireNonEmpty_eq_none.mpr identified, requireNonEmpty_eq_none.mpr (decisionReason_named policies),
      ?_, rfl, rfl, by simp⟩
    rw [rejectIf_eq_none, isEmpty_eq_false_iff]
    exact nonempty
  have explained : ∃ explanation, reasoningExplanation ⟨_, decisionValid⟩ summary (verdicts context policies) evidence
      references = .ok explanation := by
    refine ⟨⟨_, firstViolation_eq_none.mpr ?_⟩, Checked.create_eq_ok_iff.mpr rfl⟩
    simp only [forall_mem_cons]
    refine ⟨requireNonEmpty_eq_none.mpr identified, requireNonEmpty_eq_none.mpr ?_, by simp⟩
    unfold explanationSummary
    rw [isBlank_append, decisionReason_named, Bool.and_false]
  obtain ⟨explanation, explained⟩ := explained
  refine ⟨⟨⟨_, decisionValid⟩, evidenceGraph, summary, verdicts context policies, explanation⟩, ?_,
    ⟨rfl, rfl, rfl, rfl, rfl, records⟩⟩
  unfold reasonOver
  rw [made, built]
  simp only [bind, Except.bind]
  rw [referred]
  dsimp only
  rw [show (policies.map fun policy => policy.evaluate context) = verdicts context policies from rfl, named]
  dsimp only
  rw [Checked.create_of_valid targetValid]
  dsimp only
  rw [Checked.create_of_valid provenanceValid]
  dsimp only
  rw [Checked.create_of_valid decisionValid]
  dsimp only
  rw [explained]
  rfl

end Run

/-! ## Results -/

section Results

variable {primitives : Primitives} {casing : Casing} {request : GovernanceReasoningRequest}
  {evidenceGraph : DecisionEvidenceGraph} {summary : ReasoningEvidenceSummary} {context : PolicyEvaluationContext}
  {policies : List GovernancePolicy}

variable (context) in
theorem references_eq_iff {left right : List DecisionPolicyReference} :
    left = right ↔ left.map (·.record) = right.map (·.record) := by
  constructor
  · rintro rfl
    rfl
  · exact fun same => map_injective_iff.mpr (fun _ _ equal => Checked.ext equal) same

/-- A conclusion is justified exactly when a rule of the strongest effect gives its reason and its
references are those of the matched policies. -/
theorem justified_iff {evidence : List DecisionEvidenceReference} {decision : GovernanceDecision}
    (concludes : Concludes primitives request summary context evidence policies decision) :
    Justified context policies decision ↔
      (∀ effect, strongestEffect (verdicts context policies) = some effect →
        ∃ outcome ∈ matchedOutcomes (verdicts context policies), outcome.effect = effect ∧
          ∀ other ∈ matchedOutcomes (verdicts context policies), outcome.reason ≤ other.reason) ∧
      (ascending recordKey ((matchedPolicies context policies).map (referenceRecord policies))).Perm
        ((matchedPolicies context policies).map ownReference) := by
  constructor
  · intro justified
    refine ⟨fun effect strongest => reason_iff.mp ?_, concludes.policies ▸ justified.references⟩
    rw [← concludes.reason]
    exact justified.reason effect strongest
  · rintro ⟨reasons, references⟩
    refine ⟨?_, ?_, ?_, fun effect strongest => ?_, concludes.policies ▸ references⟩
    · rw [concludes.status, status_blocked]
    · rw [concludes.status, status_rejected]
    · rw [concludes.status, status_approved]
    · rw [concludes.reason]
      exact reason_iff.mpr (reasons effect strongest)

/-- Conclusions on the same policies in two orders agree exactly when the payloads of their
identifiers and their references do. -/
theorem sameDecision_iff (apart : NoCollision primitives request summary context policies)
    {evidence : List DecisionEvidenceReference} (perm : policies.Perm permuted) {decision other : GovernanceDecision}
    (concludes : Concludes primitives request summary context evidence policies decision)
    (concludesOther : Concludes primitives request summary context evidence permuted other) :
    SameDecision other decision ↔
      Json.sortKeys (.obj (decisionPayload request summary (verdicts context permuted))) =
          Json.sortKeys (.obj (decisionPayload request summary (verdicts context policies))) ∧
        ascending recordKey ((matchedPolicies context permuted).map (referenceRecord permuted)) =
          ascending recordKey ((matchedPolicies context policies).map (referenceRecord policies)) := by
  rw [← decisionId_eq_iff apart perm, ← concludes.decisionId, ← concludesOther.decisionId, ← concludes.policies,
    ← concludesOther.policies, ← references_eq_iff]
  constructor
  · intro same
    exact ⟨same.decisionId, same.policies⟩
  · rintro ⟨identified, referred⟩
    have verdictsPerm : (verdicts context permuted).Perm (verdicts context policies) := (perm.map _).symm
    refine ⟨identified, ?_, ?_, ?_, ?_, referred⟩
    · rw [concludes.status, concludesOther.status, status_eq, status_eq, strongestEffect_of_perm verdictsPerm]
    · rw [concludes.confidence, concludesOther.confidence, confidence_of_perm verdictsPerm]
    · rw [concludes.reason, concludesOther.reason, decisionReason_of_perm verdictsPerm]
    · rw [concludes.evidence, concludesOther.evidence]

end Results

/-! ## A decision with the reason of another -/

/-- Nothing is known of a drift. -/
def driftMissing : PolicyCondition where
  record := { fieldPath := "drift.severity", operator := .missing, expectedValue := .null }
  valid := by decide

/-- A policy of one rule for candidates without a drift analysis. -/
def driftPolicy (policyId : String) (effect : PolicyEffect) (reasonTemplate : String)
    (ruled : PolicyRuleRecord.violation {
      ruleId := "drift", name := "Drift", conditions := [driftMissing], effect, reasonTemplate, priority := 1 } = none)
    (valid : GovernancePolicyRecord.violation {
      policyId, version := "1", name := "Drift", description := none, status := .active, targetTypes := [.candidate]
      rules := [⟨_, ruled⟩], createdBy := "author" } = none) : GovernancePolicy :=
  ⟨_, valid⟩

/-- It blocks. -/
def blockingPolicy : GovernancePolicy :=
  driftPolicy "policy-1" .block "No drift analysis." (by decide) (by decide)

/-- It approves. -/
def approvingPolicy : GovernancePolicy :=
  driftPolicy "policy-2" .approve "All metrics are present." (by decide) (by decide)

/-- The question whether a candidate is approved. -/
def approvalRequest : GovernanceReasoningRequest where
  record := { targetType := .candidate, targetId := "candidate-1", decisionType := .approve }
  valid := by decide

/-- What policies are told of a graph without nodes. -/
def bareContext : PolicyEvaluationContext where
  record :=
    { targetType := .candidate, targetId := "candidate-1"
      evidence := [("target", .obj [("type", .str "Candidate"), ("id", .str "candidate-1")]), ("metrics", .obj []),
        ("drift", .obj []), ("jobs", .obj []), ("audit", .obj [])] }
  valid := by decide

theorem bareContext_built : buildPolicyContext asciiCasing.lower (evidenceOf []) = .ok bareContext := by
  unfold buildPolicyContext
  exact Checked.create_eq_ok_iff.mpr rfl

/-- Digests that are all zeros. -/
def zeroPrimitives : Primitives := .tabulated [] [] Primitives.noTexts Primitives.noValues

end AiGovernance.Decisions
