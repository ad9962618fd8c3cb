import AiGovernance.Authorization.Meaning
import Mathlib.Data.Set.Finite.List

/-!
# What the agent supplies

The evidence holds the facts the agent supplied under `agent_context`, and a
policy with an approving rule on a path into them cannot allow. The guard looks
for the paths that begin with `agent_context.`; the path `agent_context` itself
resolves to all the facts at once, and passes it.
-/

namespace AiGovernance.Authorization

open AiGovernance.Std Domain Decisions Repositories GovernancePolicyEvaluator List
open Semantics Services

/-! ## Paths -/

theorem splitChars_ne_nil (separator : Char) (letters : List Char) : Text.splitChars separator letters ≠ [] := by
  cases letters with
  | nil => nofun
  | cons letter others =>
    unfold Text.splitChars
    split
    · nofun
    · split <;> nofun

/-- The first segment of a split text is the whole text, or the separator follows it. -/
theorem splitChars_head {separator : Char} {letters first : List Char} {rest : List (List Char)}
    (cut : Text.splitChars separator letters = first :: rest) :
    (rest = [] ∧ letters = first) ∨ ∃ remaining, letters = first ++ separator :: remaining := by
  induction letters generalizing first rest with
  | nil =>
    cases cut
    exact .inl ⟨rfl, rfl⟩
  | cons letter letters ih =>
    unfold Text.splitChars at cut
    by_cases here : letter = separator
    · rw [if_pos here] at cut
      cases cut
      exact .inr ⟨letters, by rw [here]; rfl⟩
    · rw [if_neg here] at cut
      cases segments : Text.splitChars separator letters with
      | nil => exact absurd segments (splitChars_ne_nil separator letters)
      | cons segment others =>
        rw [segments] at cut
        cases cut
        rcases ih segments with ⟨last, whole⟩ | ⟨remaining, continued⟩
        · exact .inl ⟨last, by rw [whole]⟩
        · exact .inr ⟨remaining, by rw [continued]; rfl⟩

/-- The paths that resolve through the agent's facts are the one that names all of them,
and those the guard recognises. -/
theorem path_into_facts {fieldPath : String} {rest : List String}
    (cut : Text.split '.' fieldPath = "agent_context" :: rest) :
    (rest = [] ∧ fieldPath = "agent_context") ∨ Text.startsWith "agent_context." fieldPath = true := by
  unfold Text.split at cut
  cases segments : Text.splitChars '.' fieldPath.toList with
  | nil =>
    rw [segments] at cut
    cases cut
  | cons first others =>
    rw [segments, map_cons, List.cons.injEq] at cut
    have letters : first = "agent_context".toList := by
      rw [← cut.1, String.toList_ofList]
    rcases splitChars_head segments with ⟨rfl, whole⟩ | ⟨remaining, continued⟩
    · refine .inl ⟨cut.2.symm, ?_⟩
      rw [← String.toList_inj, whole, letters]
    · refine .inr ?_
      unfold Text.startsWith
      rw [ isPrefixOf_iff_prefix, continued, letters]
      exact ⟨remaining, by simp⟩

/-! ## Two runs of one condition -/

/-- The request may carry the other context. -/
def ValidContext (call : AuthorizationCall) (context : List (String × Json)) : Prop :=
  { call.request.record with context := context }.violation = none

/-- The same call with the other context. -/
def withContext (call : AuthorizationCall) (context : List (String × Json)) (valid : ValidContext call context) :
    AuthorizationCall :=
  { call with request := ⟨{ call.request.record with context := context }, valid⟩ }

variable {call : AuthorizationCall} {delegation : RuntimeActionDelegation}

/-- Only the first segment `agent_context` leads to the agent's facts. -/
theorem resolve_other {fieldPath : String} (outside : ∀ rest, Text.split '.' fieldPath ≠ "agent_context" :: rest)
    (context : List (String × Json)) (valid : ValidContext call context) :
    resolveFieldPath (authorizationEvidence (withContext call context valid) delegation)
        fieldPath =
      resolveFieldPath (authorizationEvidence call delegation) fieldPath := by
  unfold resolveFieldPath
  cases segments : Text.split '.' fieldPath with
  | nil => exact absurd (map_eq_nil_iff.mp segments) (splitChars_ne_nil '.' fieldPath.toList)
  | cons segment rest =>
    have different : "agent_context" ≠ segment := by
      rintro rfl
      exact outside rest segments
    simp only [resolveSegments, authorizationEvidence, withContext, Json.field_cons,
      if_neg different]

/-- The path `agent_context` resolves to the facts themselves. -/
theorem resolve_facts (call : AuthorizationCall) (delegation : RuntimeActionDelegation) :
    resolveFieldPath (authorizationEvidence call delegation) "agent_context" =
      some (.obj call.request.record.context) := by
  have segments : Text.split '.' "agent_context" = ["agent_context"] := by decide
  unfold resolveFieldPath
  rw [segments]
  simp [resolveSegments, authorizationEvidence]

/-- The condition on all the facts holds whatever facts the agent supplies: it asks only
for their presence, or that they are not, or not among, values no valid facts equal. -/
def Insensitive (call : AuthorizationCall) (condition : PolicyCondition) : Prop :=
  match condition.record.operator with
  | .present => True
  | .notEquals => ∀ context, ValidContext call context →
      Json.same (.obj context) condition.record.expectedValue = false
  | .notIn => ∀ context, ValidContext call context →
      Json.contains condition.record.expectedValue (.obj context) = false
  | _ => False

/-! ## Contexts that tell conditions apart -/

/-- A request may carry any context of at most 32 acceptable facts. -/
theorem validContext_of_facts (call : AuthorizationCall) {context : List (String × Json)}
    (bounded : context.length ≤ 32) (facts : ∀ fact ∈ context, rejectFact fact = none) :
    ValidContext call context := by
  have valid := call.request.valid
  unfold ValidContext
  simp only [RuntimeActionAuthorizationRequestRecord.violation, firstViolation_eq_none, forall_mem_append,
    forall_mem_cons, forall_mem_map] at valid ⊢
  obtain ⟨⟨schema, execution, action, key, correlation, delegation, version, together, digest, required, arguments,
    policy, expected, paired, -⟩, -⟩ := valid
  have short : rejectIf (decide (32 < context.length)) .valueError
      "context must not contain more than 32 facts." = none := by
    rw [rejectIf_eq_none, decide_eq_false_iff_not]
    omega
  exact ⟨⟨schema, execution, action, key, correlation, delegation, version, together, digest, required, arguments,
    policy, expected, paired, short, by simp⟩, facts⟩

theorem validContext_count (count : Nat) : ValidContext call [("count", .int count)] := by
  have key : isContextKey "count" = true := by decide
  have plain : lowerContextKey "count" ∉ sensitiveContextKeys := by decide
  apply validContext_of_facts call (by simp)
  simp [rejectFact, key, plain]

theorem canonical_count_injective :
    Function.Injective fun count : Nat => Json.canonical (.obj [("count", .int count)]) := by
  intro left right equal
  simp only [Json.canonical, Json.canonicalFields, Json.insertField] at equal
  simpa using equal

theorem exists_context_unequal (call : AuthorizationCall) (value : Json) :
    ∃ context, ValidContext call context ∧ Json.same (.obj context) value = false := by
  by_contra none
  push Not at none
  have equal : ∀ count : Nat, Json.canonical (.obj [("count", .int count)]) = value.canonical := by
    intro count
    simpa [Json.same] using none _ (validContext_count count)
  exact absurd (canonical_count_injective ((equal 0).trans (equal 1).symm)) (by decide)

theorem exists_context_excluded (call : AuthorizationCall) (container : Json) :
    ∃ context, ValidContext call context ∧ Json.contains container (.obj context) = false := by
  cases container with
  | arr items =>
    by_contra none
    push Not at none
    have listed : Set.range (fun count : Nat => Json.canonical (.obj [("count", .int count)])) ⊆
        { value | value ∈ items.map Json.canonical } := by
      rintro _ ⟨count, rfl⟩
      have among : items.any (Json.same (.obj [("count", .int count)])) = true := by
        simpa [Json.contains] using none _ (validContext_count count)
      obtain ⟨item, member, equal⟩ := any_eq_true.mp among
      refine mem_map.mpr ⟨item, member, ?_⟩
      simpa [Json.same, eq_comm] using equal
    exact Set.infinite_range_of_injective canonical_count_injective ((finite_toSet _).subset listed)
  | null | bool _ | int _ | float _ | str _ | obj _ => exact ⟨[], validContext_of_facts call (by simp) (by simp), rfl⟩

/-! ## One condition over every context -/

theorem compare_facts (context : List (String × Json)) (expected : Json) (accepts : Ordering → Bool) :
    compare (.obj context) expected accepts = false := by
  have uncomparable : Json.order (Json.canonical (.obj context)) expected.canonical = none := by
    unfold Json.canonical
    cases expected.canonical <;> rfl
  unfold GovernancePolicyEvaluator.compare
  rw [uncomparable]
  rfl

variable {condition : PolicyCondition}

/-- A condition on all the facts that holds whatever they are is an insensitive one. -/
theorem insensitive_iff (whole : condition.record.fieldPath = "agent_context") :
    (∀ context valid, conditionMatches condition
        (authorizationEvidence (withContext call context valid) delegation) = true) ↔
      Insensitive call condition := by
  have resolved : ∀ context (valid : ValidContext call context),
      resolveFieldPath (authorizationEvidence (withContext call context valid) delegation)
        condition.record.fieldPath = some (.obj context) := by
    intro context valid
    rw [whole]
    exact resolve_facts (withContext call context valid) delegation
  have empty : ValidContext call [] := validContext_of_facts call (by simp) (by simp)
  unfold Insensitive conditionMatches
  simp only [resolved]
  cases condition.record.operator with
  | present => simp
  | missing =>
    refine iff_of_false (fun holds => ?_) (fun impossible => impossible)
    have refuted := holds [] empty
    simp at refuted
  | greaterThan | greaterThanOrEqual | lessThan | lessThanOrEqual =>
    refine iff_of_false (fun holds => ?_) (fun impossible => impossible)
    have refuted := holds [] empty
    simp only [compare_facts, Bool.false_eq_true] at refuted
  | equals =>
    refine iff_of_false (fun holds => ?_) (fun impossible => impossible)
    obtain ⟨context, valid, unequal⟩ := exists_context_unequal call condition.record.expectedValue
    exact absurd (holds context valid) (by simp [unequal])
  | isIn =>
    refine iff_of_false (fun holds => ?_) (fun impossible => impossible)
    obtain ⟨context, valid, excluded⟩ := exists_context_excluded call condition.record.expectedValue
    exact absurd (holds context valid) (by simp [excluded])
  | notEquals => simp only [Bool.not_eq_true']
  | notIn => simp only [Bool.not_eq_true']

/-- A guarded condition is on all the facts, or on none of them. -/
theorem condition_of_guarded (guarded : ¬ GuardedPath condition.record.fieldPath)
    (partly : condition.record.fieldPath ≠ "agent_context") (context : List (String × Json))
    (valid : ValidContext call context) :
    conditionMatches condition
        (authorizationEvidence (withContext call context valid) delegation) =
      conditionMatches condition (authorizationEvidence call delegation) := by
  have outside : ∀ rest, Text.split '.' condition.record.fieldPath ≠ "agent_context" :: rest := by
    intro rest cut
    rcases path_into_facts cut with ⟨-, whole⟩ | inside
    · exact partly whole
    · exact guarded (.inr inside)
  unfold conditionMatches
  rw [resolve_other outside context valid]

/-- A matching rule whose conditions are all guarded matches over every context exactly when
its conditions on all the facts are insensitive. -/
theorem rule_matches_all_iff {rule : PolicyRule}
    (guarded : ∀ condition ∈ rule.record.conditions, ¬ GuardedPath condition.record.fieldPath)
    (matched : ruleMatches rule (authorizationEvidence call delegation) = true) :
    (∀ context valid, ruleMatches rule
        (authorizationEvidence (withContext call context valid) delegation) = true) ↔
      ∀ condition ∈ rule.record.conditions, condition.record.fieldPath = "agent_context" →
        Insensitive call condition := by
  unfold ruleMatches at matched ⊢
  simp only [all_eq_true] at matched ⊢
  constructor
  · intro holds condition member whole
    exact (insensitive_iff whole).mp fun context valid => holds context valid condition member
  · intro insensitive context valid condition member
    by_cases whole : condition.record.fieldPath = "agent_context"
    · exact (insensitive_iff whole).mpr (insensitive condition member whole) context valid
    · rw [condition_of_guarded (guarded condition member) whole context valid]
      exact matched condition member

/-! ## Approvals -/

variable {primitives : Primitives} {config : AuthorizationConfig} {correlationId : Option String}
  {stores : Stores} {definitions : List PolicyDefinition} {versions : String → Option PolicyVersion}

/-- An ALLOW is warranted by the delegation the call resolves to. -/
theorem warranted_of_allow (resolving : config.resolvesDelegations = true)
    {decision : RuntimeActionAuthorizationDecision}
    (returned : ((evaluate primitives config call correlationId).run (listing primitives definitions versions)
      stores).1 = .ok decision)
    (allowed : decision.record.outcome = .allow) (resolves : Resolves stores call delegation) :
    Warranted (withVersions definitions versions) call delegation := by
  rw [evaluate_served resolving (listing_serves call.context.scope)] at returned
  have built := Checked.create_eq_ok_iff.mp returned
  rw [built, evaluatedRecord_allow_iff] at allowed
  obtain ⟨-, -, other, others, warranted⟩ := allowed
  have same := (resolvedDelegation_ok_iff.mpr others).symm.trans (resolvedDelegation_ok_iff.mpr resolves)
  cases same
  exact warranted

theorem decides_of_matching {version : PolicyVersion} {evidence : List (String × Json)} {rule : PolicyRule}
    (member : rule ∈ version.record.rules)
    (matched : ruleMatches rule evidence = true) :
    ∃ first, Decides version evidence first := by
  simp only [decides_iff]
  rw [← Option.isSome_iff_exists, find?_isSome]
  exact ⟨rule, mem_sortedRules.mpr member, matched⟩

/-- In every evaluation that allows, the approving rules that matched match over every other
context the request could carry exactly when each of their conditions on `agent_context`
itself is insensitive. -/
theorem approvals_independent_iff (resolving : config.resolvesDelegations = true)
    {decision : RuntimeActionAuthorizationDecision}
    (returned : ((evaluate primitives config call correlationId).run (listing primitives definitions versions)
      stores).1 = .ok decision)
    (allowed : decision.record.outcome = .allow) (resolves : Resolves stores call delegation) :
    (∀ policy, Applies (withVersions definitions versions) call policy →
      ∀ rule ∈ policy.2.record.rules, rule.record.effect = .approve →
        ruleMatches rule (authorizationEvidence call delegation) = true →
        ∀ context valid, ruleMatches rule
          (authorizationEvidence (withContext call context valid) delegation) = true) ↔
      ∀ policy, Applies (withVersions definitions versions) call policy →
        ∀ rule ∈ policy.2.record.rules, rule.record.effect = .approve →
          ruleMatches rule (authorizationEvidence call delegation) = true →
          ∀ condition ∈ rule.record.conditions, condition.record.fieldPath = "agent_context" →
            Insensitive call condition := by
  have warranted := warranted_of_allow resolving returned allowed resolves
  have guarded : ∀ policy, Applies (withVersions definitions versions) call policy →
      ∀ rule ∈ policy.2.record.rules, rule.record.effect = .approve →
        ruleMatches rule (authorizationEvidence call delegation) = true →
        ∀ condition ∈ rule.record.conditions, ¬ GuardedPath condition.record.fieldPath := by
    intro policy applies rule member approving matched
    obtain ⟨first, decides⟩ := decides_of_matching member matched
    exact warranted.guarded policy first applies decides rule member approving
  constructor
  · intro independent policy applies rule member approving matched
    exact (rule_matches_all_iff (guarded policy applies rule member approving matched) matched).mp
      (independent policy applies rule member approving matched)
  · intro insensitive policy applies rule member approving matched
    exact (rule_matches_all_iff (guarded policy applies rule member approving matched) matched).mpr
      (insensitive policy applies rule member approving matched)

/-! ## An approval by the agent's own word -/

/-- The policy opts in for the update of claims. -/
def reviewedDefinition : PolicyDefinition :=
  ⟨"reviewed", "org-1", "project-1", ⟨63000000000000000⟩,
    [("runtime_action_authorization",
      .obj [("purpose", .str "runtime_action_authorization"),
        ("registered_actions", .arr [.str "claims.update"]),
        ("registered_resource_types", .arr [.str "sqlite.row"])])]⟩

/-- A rule that approves on one condition. -/
def approvesFacts (condition : PolicyCondition) : PolicyRuleRecord where
  ruleId := "rule-1"
  name := "Reviewed"
  conditions := [condition]
  effect := .approve
  reasonTemplate := "Reviewed updates are approved."
  priority := 0

theorem approvesFacts_valid : (approvesFacts condition).violation = none := by
  have identified : Text.isBlank "rule-1" = false := by decide
  have named : Text.isBlank "Reviewed" = false := by decide
  have explained : Text.isBlank "Reviewed updates are approved." = false := by decide
  simp [PolicyRuleRecord.violation, approvesFacts, identified, named, explained]

/-- That rule. -/
def factsRule (condition : PolicyCondition) : PolicyRule := ⟨approvesFacts condition, approvesFacts_valid⟩

/-- A version of that rule alone. -/
def factsRecord (condition : PolicyCondition) : PolicyVersionRecord where
  policyId := "reviewed"
  version := "1"
  status := .active
  targetTypes := [.agentExecution]
  rules := [factsRule condition]

theorem factsRecord_valid : (factsRecord condition).violation = none := by
  have identified : Text.isBlank "reviewed" = false := by decide
  have numbered : Text.isBlank "1" = false := by decide
  simp [PolicyVersionRecord.violation, factsRecord, identified, numbered]

/-- That version. -/
def factsPolicy (condition : PolicyCondition) : PolicyVersion := ⟨factsRecord condition, factsRecord_valid⟩

/-- The active version of the policy. -/
def factsVersion (condition : PolicyCondition) (policyId : String) : Option PolicyVersion :=
  if policyId = "reviewed" then some (factsPolicy condition) else none

/-- The condition that the facts are exactly the statement that the update was reviewed. -/
def saysReviewed : PolicyCondition :=
  ⟨⟨"agent_context", .equals, .obj [("reviewed", .bool true)]⟩, by decide⟩

/-- The condition that there are facts at all. -/
def saysAnything : PolicyCondition := ⟨⟨"agent_context", .present, .null⟩, by decide⟩

/-- The delegated update, from an agent that says it was reviewed. -/
def reviewedCall : AuthorizationCall :=
  withContext delegatedCall [("reviewed", .bool true)] rfl

/-- The digest of its request. -/
def reviewedPrimitives : Primitives :=
  .tabulated []
    [(Json.sortKeys (.obj reviewedCall.request.fingerprintPayload),
      "5e69e86952e0e795b1df73927ab26817711897de402e297b5acbb4ebd5220b20")]
    Primitives.noTexts (by decide)

/-- The evaluation over the policy allows. -/
def factsAllow (condition : PolicyCondition) : Bool :=
  match ((evaluate reviewedPrimitives updatePlatform.config reviewedCall none).run
      (listing reviewedPrimitives [reviewedDefinition] (factsVersion condition)) grantedStores).1 with
  | .ok decision => decision.record.outcome = .allow
  | .error _ => false

theorem factsAllow_returned (allows : factsAllow condition = true) :
    ∃ decision, ((evaluate reviewedPrimitives updatePlatform.config reviewedCall none).run
        (listing reviewedPrimitives [reviewedDefinition] (factsVersion condition)) grantedStores).1 = .ok decision ∧
      decision.record.outcome = .allow := by
  unfold factsAllow at allows
  split at allows
  · rename_i decision returned
    exact ⟨decision, returned, by simpa using allows⟩
  · cases allows

theorem factsAllow_resolves (allows : factsAllow condition = true) :
    ∃ delegation, Resolves grantedStores reviewedCall delegation := by
  obtain ⟨decision, returned, allowed⟩ := factsAllow_returned allows
  rw [evaluate_served rfl (listing_serves reviewedCall.context.scope)] at returned
  rw [Checked.create_eq_ok_iff.mp returned, evaluatedRecord_allow_iff] at allowed
  obtain ⟨-, -, delegation, resolves, -⟩ := allowed
  exact ⟨delegation, resolves⟩

theorem factsRule_applies (condition : PolicyCondition) :
    Applies (withVersions [reviewedDefinition] (factsVersion condition)) reviewedCall
      (reviewedDefinition, factsPolicy condition) := by
  have action : registersAction reviewedCall.request (reviewedDefinition, factsPolicy saysReviewed) = true := by
    decide +kernel
  have resource : registersResource reviewedCall.request (reviewedDefinition, factsPolicy saysReviewed) = true := by
    decide +kernel
  exact ⟨mem_singleton.mpr rfl, action, resource, mem_singleton.mpr rfl⟩

/-- An approval that asks only for the presence of facts does not depend on them. -/
theorem approvals_independent_present :
    ∃ delegation, Resolves grantedStores reviewedCall delegation ∧
      ∀ policy, Applies (withVersions [reviewedDefinition] (factsVersion saysAnything)) reviewedCall policy →
        ∀ rule ∈ policy.2.record.rules, rule.record.effect = .approve →
          ruleMatches rule (authorizationEvidence reviewedCall delegation) = true →
          ∀ context valid, ruleMatches rule
            (authorizationEvidence (withContext reviewedCall context valid) delegation) = true := by
  have allows : factsAllow saysAnything = true := by decide +kernel
  obtain ⟨decision, returned, allowed⟩ := factsAllow_returned allows
  obtain ⟨delegation, resolves⟩ := factsAllow_resolves allows
  refine ⟨delegation, resolves, (approvals_independent_iff rfl returned allowed resolves).mpr ?_⟩
  intro policy applies rule member approving matched condition among whole
  have candidate : policy ∈ [(reviewedDefinition, factsPolicy saysAnything)] := applies.candidate
  rw [mem_singleton] at candidate
  subst candidate
  have single : rule ∈ [factsRule saysAnything] := member
  rw [mem_singleton] at single
  subst single
  have alone : condition ∈ [saysAnything] := among
  rw [mem_singleton] at alone
  subst alone
  trivial

/-- The update is allowed because the agent says it was reviewed, and would not match had it
said nothing. -/
theorem approval_by_assertion :
    ∃ decision delegation policy rule context, ∃ valid : ValidContext reviewedCall context,
      ((evaluate reviewedPrimitives updatePlatform.config reviewedCall none).run
        (listing reviewedPrimitives [reviewedDefinition] (factsVersion saysReviewed)) grantedStores).1 = .ok decision ∧
      decision.record.outcome = .allow ∧ Resolves grantedStores reviewedCall delegation ∧
      Applies (withVersions [reviewedDefinition] (factsVersion saysReviewed)) reviewedCall policy ∧
      rule ∈ policy.2.record.rules ∧ rule.record.effect = .approve ∧
      ruleMatches rule (authorizationEvidence reviewedCall delegation) = true ∧
      ruleMatches rule
        (authorizationEvidence (withContext reviewedCall context valid) delegation) = false := by
  have allows : factsAllow saysReviewed = true := by decide +kernel
  obtain ⟨decision, returned, allowed⟩ := factsAllow_returned allows
  obtain ⟨delegation, resolves⟩ := factsAllow_resolves allows
  have nothing : ValidContext reviewedCall [] := validContext_of_facts reviewedCall (by simp) (by simp)
  have reading : ∀ call : AuthorizationCall, ruleMatches (factsRule saysReviewed)
      (authorizationEvidence call delegation) =
        Json.same (.obj call.request.record.context) (.obj [("reviewed", .bool true)]) := by
    intro call
    have resolved := resolve_facts call delegation
    simp [ruleMatches, factsRule, approvesFacts, saysReviewed,
      conditionMatches, resolved]
  refine ⟨decision, delegation, _, factsRule saysReviewed, [], nothing, returned, allowed, resolves,
    factsRule_applies saysReviewed, mem_singleton.mpr rfl, rfl, ?_, ?_⟩
  · rw [reading]
    decide
  · have silent : Json.same (.obj []) (.obj [("reviewed", .bool true)]) = false := by decide
    exact (reading (withContext reviewedCall [] nothing)).trans silent

end AiGovernance.Authorization
