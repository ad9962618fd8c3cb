import AiGovernance.Services.InterventionPolicies
import Mathlib.Logic.Relation

/-!
# The life of an intervention policy version

`Move` lists what a call may save. `Sound` holds at every point of a run: one
version at most is active for the evidence of a tool, and a version is followed
by the next one only once it has been active. A draft of the next version is
the only thing a save may replace: editing an active version twice discards the
first draft.
-/

namespace AiGovernance.Interventions

open AiGovernance.Std Domain

variable {configuration : List (String × Json)}

/-! ## What a call saves -/

/-- The tenant of a version. -/
def PolicyContent.tenant (content : PolicyContent) : String × Option String :=
  (content.organizationId, content.projectId)

/-- The content of the version after this one. -/
def PolicyContent.next (content : PolicyContent) (configuration : List (String × Json)) : PolicyContent :=
  { content with version := content.version + 1, strategyConfiguration := configuration }

/-- What a call may save. -/
inductive Move (store : PolicyStore) (policy : EvidenceInterventionPolicy) : Prop where
  | drafted (draft : policy.record.status = .draft) (first : policy.record.content.version = 1)
      (absent : ∀ version, store.items.get? (policy.record.content.policyId, version,
        policy.record.content.organizationId, policy.record.content.projectId) = none)
  | next (current : EvidenceInterventionPolicy) (configuration : List (String × Json))
      (stored : store.items.get? current.record.content.key = some current) (active : current.record.status = .active)
      (content : policy.record.content = current.record.content.next configuration)
      (draft : policy.record.status = .draft)
  | activated (current : EvidenceInterventionPolicy)
      (stored : store.items.get? current.record.content.key = some current) (draft : current.record.status = .draft)
      (alone : ∀ {key other}, store.items.get? key = some other → competes current other = true →
        other.record.content.tenant ≠ current.record.content.tenant)
      (content : policy.record.content = current.record.content) (active : policy.record.status = .active)
  | retired (current : EvidenceInterventionPolicy)
      (stored : store.items.get? current.record.content.key = some current) (active : current.record.status = .active)
      (content : policy.record.content = current.record.content) (retired : policy.record.status = .retired)
  | kept (stored : store.items.get? policy.record.content.key = some policy)

theorem get?_put (store : PolicyStore) (policy : EvidenceInterventionPolicy) (key : PolicyKey) :
    (store.put policy).items.get? key =
      if key = policy.record.content.key then some policy else store.items.get? key :=
  Dict.get?_set store.items

theorem saving_cases (digest : PolicyContent → String) (store : PolicyStore)
    (made : Except Raised EvidenceInterventionPolicy) :
    (saving digest store made).2 = store ∨
      ∃ policy, made = .ok policy ∧ saving digest store made = (.ok policy, store.put policy) := by
  unfold saving
  cases made with
  | error raised => exact Or.inl rfl
  | ok policy =>
    dsimp only
    unfold PolicyStore.save
    split
    · exact Or.inl rfl
    · rename_i saved
      split at saved
      · cases saved
      · cases saved
        exact Or.inr ⟨policy, rfl, rfl⟩

variable {store : PolicyStore} {policyId : String} {policy : EvidenceInterventionPolicy} {version : Int}
  {context : PolicyContext}

theorem getPolicy_ok (found : getPolicy store policyId version context = .ok policy) :
    store.items.get? (policyId, version, context.organizationId, context.projectId) = some policy := by
  unfold getPolicy at found
  split at found
  · rename_i stored
    cases found
    exact stored
  · cases found

theorem getPolicy_stored (found : getPolicy store policyId version context = .ok policy) :
    store.items.get? policy.record.content.key = some policy := by
  have stored := getPolicy_ok found
  rw [store.keyed stored]
  exact stored

theorem validate_ok {validated : EvidenceInterventionPolicy → Except Raised Unit}
    (accepted : validate store policyId version context validated = .ok policy) :
    getPolicy store policyId version context = .ok policy := by
  obtain ⟨found, same, answered⟩ := bind_ok accepted
  obtain ⟨_, _, answered⟩ := bind_ok answered
  cases answered
  exact same

theorem mem_list {organizationId : String} {projectId : Option String} :
    policy ∈ store.list organizationId projectId ↔
      store.items.get? policy.record.content.key = some policy ∧
        policy.record.content.organizationId = organizationId ∧ policy.record.content.projectId = projectId := by
  unfold PolicyStore.list
  rw [List.mem_insertionSort, List.mem_filter, Dict.mem_values_iff, Bool.and_eq_true, decide_eq_true_eq,
    decide_eq_true_eq]
  constructor
  · rintro ⟨⟨key, stored⟩, own⟩
    rw [store.keyed stored]
    exact ⟨stored, own⟩
  · rintro ⟨stored, own⟩
    exact ⟨⟨_, stored⟩, own⟩

/-! ### What the transitions make -/

variable {actorId : String} {current : EvidenceInterventionPolicy} {now : Instant}

theorem activate_move (stored : store.items.get? current.record.content.key = some current)
    (alone : ∀ {key other}, store.items.get? key = some other → competes current other = true →
      other.record.content.tenant ≠ current.record.content.tenant) (made : current.activate actorId now = .ok policy) :
    Move store policy := by
  unfold EvidenceInterventionPolicy.activate at made
  split at made
  · cases made
    exact .kept stored
  · cases made
  · rename_i draft
    split at made
    · cases made
    · have record := Checked.create_eq_ok_iff.mp made
      exact .activated current stored draft alone (by rw [record]) (by rw [record])

theorem retire_move (stored : store.items.get? current.record.content.key = some current)
    (made : current.retire now = .ok policy) : Move store policy := by
  unfold EvidenceInterventionPolicy.retire at made
  split at made
  · cases made
    exact .kept stored
  · cases made
  · rename_i active
    have record := Checked.create_eq_ok_iff.mp made
    exact .retired current stored active (by rw [record]) (by rw [record])

theorem nextDraft_ok (made : current.nextDraft actorId now configuration = .ok policy) :
    current.record.status = .active ∧ policy.record.content = current.record.content.next configuration ∧
      policy.record.status = .draft := by
  unfold EvidenceInterventionPolicy.nextDraft at made
  split at made
  · cases made
  · rename_i active
    have record := Checked.create_eq_ok_iff.mp made
    exact ⟨not_not.mp active, by rw [record]; rfl, by rw [record]⟩

/-- The identifier a draft is given is new. -/
def PolicyCall.Fresh (store : PolicyStore) : PolicyCall → Prop
  | .createDraft _ _ policyId _ => ∀ key : PolicyKey, key.1 = policyId → store.items.get? key = none
  | _ => True

theorem PolicyCall.moves (digest : PolicyContent → String) (store : PolicyStore) (call : PolicyCall)
    (fresh : call.Fresh store) :
    (call.perform digest store).2 = store ∨
      ∃ policy, Move store policy ∧ (call.perform digest store).2 = store.put policy := by
  cases call with
  | createDraft arguments context policyId now =>
    rcases saving_cases digest store (Checked.create _) with unchanged | ⟨policy, made, saved⟩
    · exact Or.inl unchanged
    · have record := Checked.create_eq_ok_iff.mp made
      refine Or.inr ⟨policy, .drafted (by rw [record]) (by rw [record]) ?_, congrArg Prod.snd saved⟩
      intro version
      rw [record]
      exact fresh _ rfl
  | createNextDraft policyId version configuration context now =>
    simp only [PolicyCall.perform, Interventions.createNextDraft]
    cases found : getPolicy store policyId version context with
    | error raised => exact Or.inl rfl
    | ok current =>
      rcases saving_cases digest store (current.nextDraft context.actorId now configuration) with
        unchanged | ⟨policy, made, saved⟩
      · exact Or.inl unchanged
      · obtain ⟨active, content, draft⟩ := nextDraft_ok made
        exact Or.inr ⟨policy, .next current configuration (getPolicy_stored found) active content draft,
          congrArg Prod.snd saved⟩
  | validate policyId version context validated => exact Or.inl rfl
  | activate policyId version context validated now =>
    simp only [PolicyCall.perform, Interventions.activate]
    cases accepted : Interventions.validate store policyId version context validated with
    | error raised => exact Or.inl rfl
    | ok current =>
      have same := validate_ok accepted
      dsimp only
      split
      · exact Or.inl rfl
      · rename_i unopposed
        rcases saving_cases digest store (current.activate context.actorId now) with
          unchanged | ⟨policy, made, saved⟩
        · exact Or.inl unchanged
        · refine Or.inr ⟨policy, activate_move (getPolicy_stored same) ?_ made, congrArg Prod.snd saved⟩
          intro key other stored opposes tenant
          have owned := store.keyed (getPolicy_ok same)
          simp only [PolicyContent.key, Prod.mk.injEq] at owned
          obtain ⟨-, -, organization, project⟩ := owned
          simp only [PolicyContent.tenant, Prod.mk.injEq] at tenant
          have listed : other ∈ store.list context.organizationId context.projectId := by
            rw [mem_list, store.keyed stored]
            exact ⟨stored, tenant.1.trans organization, tenant.2.trans project⟩
          exact unopposed (List.any_eq_true.mpr ⟨other, listed, opposes⟩)
  | retire policyId version context now =>
    simp only [PolicyCall.perform, Interventions.retire]
    cases found : getPolicy store policyId version context with
    | error raised => exact Or.inl rfl
    | ok current =>
      rcases saving_cases digest store (current.retire now) with unchanged | ⟨policy, made, saved⟩
      · exact Or.inl unchanged
      · exact Or.inr ⟨policy, retire_move (getPolicy_stored found) made, congrArg Prod.snd saved⟩

/-! ## What holds at every point -/

/-- What holds of the repository at every point. -/
structure Sound (store : PolicyStore) : Prop where
  /-- One version at most is active for the evidence of a tool. -/
  alone : ∀ {left right leftPolicy rightPolicy}, store.items.get? left = some leftPolicy →
    store.items.get? right = some rightPolicy → leftPolicy.record.status = .active →
    rightPolicy.record.status = .active → leftPolicy.record.content.tenant = rightPolicy.record.content.tenant →
    sameEvidence leftPolicy.record.content rightPolicy.record.content = true → left = right
  /-- A version after the first was made from the one before it, which has been active, and is retired once the
  later one has left draft. -/
  made : ∀ {key policy}, store.items.get? key = some policy → policy.record.content.version ≠ 1 →
    ∃ current, store.items.get? current.record.content.key = some current ∧
      policy.record.content = current.record.content.next policy.record.content.strategyConfiguration ∧
      current.record.status ≠ .draft ∧ (policy.record.status ≠ .draft → current.record.status = .retired)

theorem sound_empty : Sound PolicyStore.empty where
  alone stored := by cases stored
  made stored := by cases stored

/-- The steps of a status. -/
inductive StatusStep : PolicyStatus → PolicyStatus → Prop where
  | activate : StatusStep .draft .active
  | retire : StatusStep .active .retired

/-- What becomes of a stored version: its status takes allowed steps, and its content is fixed once it has been
active. -/
structure Evolves (old new : EvidenceInterventionPolicy) : Prop where
  status : Relation.ReflTransGen StatusStep old.record.status new.record.status
  content : old.record.status ≠ .draft → new.record.content = old.record.content

theorem Evolves.refl (policy : EvidenceInterventionPolicy) : Evolves policy policy := ⟨.refl, fun _ => rfl⟩

theorem StatusStep.left {old new : PolicyStatus} (steps : Relation.ReflTransGen StatusStep old new)
    (out : old ≠ .draft) : new ≠ .draft := by
  cases steps with
  | refl => exact out
  | tail _ last => cases last <;> decide

theorem Evolves.trans {first second third : EvidenceInterventionPolicy} (before : Evolves first second)
    (after : Evolves second third) : Evolves first third where
  status := before.status.trans after.status
  content out := (after.content (StatusStep.left before.status out)).trans (before.content out)

/-- Every stored version is kept, or evolves. -/
def Keeps (store after : PolicyStore) : Prop :=
  ∀ key old, store.items.get? key = some old → ∃ new, after.items.get? key = some new ∧ Evolves old new

theorem Keeps.refl (store : PolicyStore) : Keeps store store := fun _ old stored => ⟨old, stored, .refl old⟩

theorem Keeps.trans {first second third : PolicyStore} (before : Keeps first second) (after : Keeps second third) :
    Keeps first third := by
  intro key old stored
  obtain ⟨middle, kept, evolved⟩ := before key old stored
  obtain ⟨new, keptAgain, evolvedAgain⟩ := after key middle kept
  exact ⟨new, keptAgain, evolved.trans evolvedAgain⟩

/-! ### One save -/

section Saves

variable {store : PolicyStore} {policy : EvidenceInterventionPolicy}

theorem version_positive (policy : EvidenceInterventionPolicy) : 1 ≤ policy.record.content.version := by
  have valid := policy.valid
  simp only [EvidenceInterventionPolicyRecord.violation, firstViolation_eq_none, List.mem_cons, List.not_mem_nil,
    or_false, forall_eq_or_imp, forall_eq] at valid
  obtain ⟨-, -, -, -, -, -, -, -, -, positive, -⟩ := valid
  simp only [rejectIf_eq_none, Bool.or_eq_false_iff, decide_eq_false_iff_not] at positive
  omega

/-- A version and the stored one after it. -/
theorem Sound.previous (sound : Sound store) {current later : EvidenceInterventionPolicy}
    (stored : store.items.get? current.record.content.key = some current)
    (after : store.items.get? (current.record.content.next configuration).key = some later) :
    later.record.content = current.record.content.next later.record.content.strategyConfiguration ∧
      current.record.status ≠ .draft ∧ (later.record.status ≠ .draft → current.record.status = .retired) := by
  have named := store.keyed after
  simp only [PolicyContent.key, PolicyContent.next, Prod.mk.injEq] at named
  have positive := version_positive current
  obtain ⟨maker, makerStored, content, left, retired⟩ := sound.made after (by omega)
  have same : maker.record.content.key = current.record.content.key := by
    rw [content] at named
    simp only [PolicyContent.next] at named
    simp only [PolicyContent.key, Prod.mk.injEq]
    exact ⟨named.1, by omega, named.2.2⟩
  rw [same, stored] at makerStored
  cases makerStored
  exact ⟨content, left, retired⟩

theorem next_key_ne (content : PolicyContent) : content.key ≠ (content.next configuration).key := by
  intro same
  simp only [PolicyContent.key, PolicyContent.next, Prod.mk.injEq] at same
  omega

theorem sameEvidence_comm (left right : PolicyContent) : sameEvidence left right = sameEvidence right left := by
  unfold sameEvidence
  simp only [eq_comm]

/-- Two versions of one tenant under different keys differ in identifier or number. -/
theorem competes_of_ne {current other : EvidenceInterventionPolicy} (active : other.record.status = .active)
    (evidence : sameEvidence other.record.content current.record.content = true)
    (tenant : other.record.content.tenant = current.record.content.tenant)
    (different : other.record.content.key ≠ current.record.content.key) : competes current other = true := by
  simp only [PolicyContent.tenant, Prod.mk.injEq] at tenant
  simp only [PolicyContent.key, ne_eq, Prod.mk.injEq, not_and] at different
  simp only [competes, active, evidence, decide_true, Bool.true_and, Bool.or_eq_true, decide_eq_true_eq]
  by_cases identified : other.record.content.policyId = current.record.content.policyId
  · exact Or.inr fun numbered => different identified numbered tenant.1 tenant.2
  · exact Or.inl identified

/-- A save keeps the active versions alone when it makes none, or one that nothing competes with. -/
theorem alone_put (sound : Sound store)
    (unopposed : policy.record.status = .active → ∀ {key other}, store.items.get? key = some other →
      key ≠ policy.record.content.key → other.record.status = .active →
      other.record.content.tenant = policy.record.content.tenant →
      sameEvidence other.record.content policy.record.content = true → False)
    {left right : PolicyKey} {leftPolicy rightPolicy : EvidenceInterventionPolicy}
    (leftStored : (store.put policy).items.get? left = some leftPolicy)
    (rightStored : (store.put policy).items.get? right = some rightPolicy)
    (leftActive : leftPolicy.record.status = .active) (rightActive : rightPolicy.record.status = .active)
    (tenant : leftPolicy.record.content.tenant = rightPolicy.record.content.tenant)
    (evidence : sameEvidence leftPolicy.record.content rightPolicy.record.content = true) : left = right := by
  rw [get?_put] at leftStored rightStored
  split at leftStored
  · rename_i here
    cases leftStored
    split at rightStored
    · rename_i alsoHere
      exact here.trans alsoHere.symm
    · rename_i elsewhere
      rw [sameEvidence_comm] at evidence
      exact (unopposed leftActive rightStored elsewhere rightActive tenant.symm evidence).elim
  · rename_i elsewhere
    split at rightStored
    · cases rightStored
      exact (unopposed rightActive leftStored elsewhere leftActive tenant evidence).elim
    · exact sound.alone leftStored rightStored leftActive rightActive tenant evidence

/-- What `Sound.made` says of one version. -/
def MadeFrom (store : PolicyStore) (policy : EvidenceInterventionPolicy) : Prop :=
  ∃ current, store.items.get? current.record.content.key = some current ∧
    policy.record.content = current.record.content.next policy.record.content.strategyConfiguration ∧
    current.record.status ≠ .draft ∧ (policy.record.status ≠ .draft → current.record.status = .retired)

theorem Move.made (move : Move store policy) (sound : Sound store) (numbered : policy.record.content.version ≠ 1) :
    MadeFrom store policy := by
  cases move with
  | drafted draft first absent => exact absurd first numbered
  | next current configuration stored active content draft =>
    refine ⟨current, stored, ?_, by simp [active], fun out => absurd draft out⟩
    rw [content]
    rfl
  | activated current stored draft alone content active =>
    rw [content] at numbered
    obtain ⟨maker, makerStored, made, left, -⟩ := sound.made stored numbered
    refine ⟨maker, makerStored, content ▸ made, left, fun _ => ?_⟩
    have tenant : maker.record.content.tenant = current.record.content.tenant := by rw [made]; rfl
    have evidence : sameEvidence maker.record.content current.record.content = true := by
      rw [made]
      simp [sameEvidence, PolicyContent.next]
    have different : maker.record.content.key ≠ current.record.content.key := by
      rw [made]
      exact next_key_ne _
    cases status : maker.record.status with
    | draft => exact absurd status left
    | retired => rfl
    | active => exact absurd tenant (alone makerStored (competes_of_ne status evidence tenant different))
  | retired current stored active content retired =>
    rw [content] at numbered
    obtain ⟨maker, makerStored, made, left, after⟩ := sound.made stored numbered
    exact ⟨maker, makerStored, content ▸ made, left, fun _ => after (by simp [active])⟩
  | kept stored => exact sound.made stored numbered

/-- A version that has left draft is saved as what it was, or retired. -/
theorem Move.of_left (move : Move store policy) (sound : Sound store) {old : EvidenceInterventionPolicy}
    (stored : store.items.get? policy.record.content.key = some old) (left : old.record.status ≠ .draft) :
    policy.record.content = old.record.content ∧ policy.record.status ≠ .draft ∧
      (old.record.status = .retired → policy.record.status = .retired) := by
  cases move with
  | drafted draft first absent =>
    have nothing : store.items.get? policy.record.content.key = none := absent _
    rw [nothing] at stored
    cases stored
  | next current configuration currentStored active content draft =>
    rw [content] at stored
    obtain ⟨-, -, retired⟩ := sound.previous currentStored stored
    rw [retired left] at active
    cases active
  | activated current currentStored draft alone content active =>
    rw [content, currentStored] at stored
    cases stored
    exact absurd draft left
  | retired current currentStored active content retired =>
    rw [content, currentStored] at stored
    cases stored
    exact ⟨content, by simp [retired], fun _ => retired⟩
  | kept policyStored =>
    rw [policyStored] at stored
    cases stored
    exact ⟨rfl, left, fun retired => retired⟩

theorem Move.sound (move : Move store policy) (sound : Sound store) : Sound (store.put policy) where
  alone := by
    refine alone_put sound ?_
    intro active key other stored elsewhere otherActive tenant evidence
    cases move with
    | drafted draft first absent => rw [draft] at active; cases active
    | next current configuration _ _ content draft => rw [draft] at active; cases active
    | activated current currentStored draft alone content _ =>
      rw [content] at tenant evidence elsewhere
      rw [← store.keyed stored] at elsewhere
      exact alone stored (competes_of_ne otherActive evidence tenant elsewhere) tenant
    | retired current _ _ content retired => rw [retired] at active; cases active
    | kept policyStored =>
      exact elsewhere (sound.alone stored policyStored otherActive active tenant evidence)
  made := by
    intro key later stored numbered
    have madeBefore : MadeFrom store later := by
      rw [get?_put] at stored
      split at stored
      · cases stored
        exact move.made sound numbered
      · exact sound.made stored numbered
    obtain ⟨maker, makerStored, content, left, retired⟩ := madeBefore
    by_cases here : maker.record.content.key = policy.record.content.key
    · rw [here] at makerStored
      obtain ⟨same, out, still⟩ := move.of_left sound makerStored left
      refine ⟨policy, ?_, by rw [same]; exact content, out, fun later => still (retired later)⟩
      rw [get?_put, if_pos rfl]
    · exact ⟨maker, by rw [get?_put, if_neg here]; exact makerStored, content, left, retired⟩

theorem Move.keeps (move : Move store policy) (sound : Sound store) : Keeps store (store.put policy) := by
  intro key old stored
  rw [get?_put]
  by_cases here : key = policy.record.content.key
  · subst here
    rw [if_pos rfl]
    refine ⟨policy, rfl, ?_, fun out => (move.of_left sound stored out).1⟩
    cases move with
    | drafted draft first absent =>
      have nothing : store.items.get? policy.record.content.key = none := absent _
      rw [nothing] at stored
      cases stored
    | next current configuration currentStored active content draft =>
      rw [content] at stored
      obtain ⟨-, -, retired⟩ := sound.previous currentStored stored
      have oldDraft : old.record.status = .draft := by
        by_contra out
        rw [retired out] at active
        cases active
      rw [oldDraft, draft]
    | activated current currentStored draft alone content active =>
      rw [content, currentStored] at stored
      cases stored
      rw [draft, active]
      exact .single .activate
    | retired current currentStored active content retired =>
      rw [content, currentStored] at stored
      cases stored
      rw [active, retired]
      exact .single .retire
    | kept policyStored =>
      rw [policyStored] at stored
      cases stored
      exact .refl
  · rw [if_neg here]
    exact ⟨old, stored, .refl old⟩

end Saves

/-! ## Runs -/

/-- One call, with a new identifier for a draft. -/
def CallStep (digest : PolicyContent → String) (store after : PolicyStore) : Prop :=
  ∃ call : PolicyCall, call.Fresh store ∧ after = (call.perform digest store).2

/-- Any number of calls. -/
def CallReaches (digest : PolicyContent → String) : PolicyStore → PolicyStore → Prop :=
  Relation.ReflTransGen (CallStep digest)

theorem CallStep.sound {digest : PolicyContent → String} {after : PolicyStore} (step : CallStep digest store after)
    (sound : Sound store) : Sound after ∧ Keeps store after := by
  obtain ⟨call, fresh, rfl⟩ := step
  rcases call.moves digest store fresh with unchanged | ⟨policy, move, saved⟩
  · rw [unchanged]
    exact ⟨sound, .refl store⟩
  · rw [saved]
    exact ⟨move.sound sound, move.keeps sound⟩

theorem CallReaches.sound {digest : PolicyContent → String} {after : PolicyStore}
    (reaches : CallReaches digest store after) (sound : Sound store) : Sound after ∧ Keeps store after := by
  induction reaches with
  | refl => exact ⟨sound, .refl store⟩
  | tail _ step ih =>
    obtain ⟨middle, kept⟩ := ih
    obtain ⟨last, keptAgain⟩ := step.sound middle
    exact ⟨last, kept.trans keptAgain⟩

theorem Sound.resolves (sound : Sound store) (descriptor : ToolEvidenceDescriptor)
    (strategy : ControlledEvidenceStrategy) (context : PolicyContext) :
    resolveActive store descriptor strategy context ≠
      .error ⟨.interventionPolicyAmbiguous, "AMBIGUOUS_INTERVENTION_POLICY"⟩ := by
  unfold resolveActive
  split
  · simp
  · simp
  · rename_i first second rest matched
    exfalso
    have distinct : (store.list context.organizationId context.projectId).Nodup :=
      (List.perm_insertionSort _ _).nodup_iff.mpr
        ((Dict.nodup_values_of_keyed (fun policy => policy.record.content.key) store.keyed).filter _)
    have differ := distinct.filter (matchesDescriptor descriptor strategy)
    rw [matched] at differ
    have found : ∀ policy ∈ [first, second], policy ∈ store.list context.organizationId context.projectId ∧
        matchesDescriptor descriptor strategy policy = true := by
      intro policy member
      have kept : policy ∈ (store.list context.organizationId context.projectId).filter
          (matchesDescriptor descriptor strategy) := by
        rw [matched]
        simp only [List.mem_cons, List.not_mem_nil, or_false] at member ⊢
        tauto
      exact List.mem_filter.mp kept
    obtain ⟨firstListed, firstMatches⟩ := found first (by simp)
    obtain ⟨secondListed, secondMatches⟩ := found second (by simp)
    obtain ⟨firstStored, firstOwned⟩ := mem_list.mp firstListed
    obtain ⟨secondStored, secondOwned⟩ := mem_list.mp secondListed
    simp only [matchesDescriptor, Bool.and_eq_true, decide_eq_true_eq] at firstMatches secondMatches
    obtain ⟨⟨⟨⟨firstActive, firstTool⟩, firstSchema⟩, firstVersion⟩, -⟩ := firstMatches
    obtain ⟨⟨⟨⟨secondActive, secondTool⟩, secondSchema⟩, secondVersion⟩, -⟩ := secondMatches
    have sameKey := sound.alone firstStored secondStored firstActive secondActive
      (by simp [PolicyContent.tenant, firstOwned, secondOwned])
      (by simp [sameEvidence, firstTool, firstSchema, firstVersion, secondTool, secondSchema, secondVersion])
    rw [sameKey, secondStored] at firstStored
    cases firstStored
    simp at differ

/-! ## Discarded drafts -/

/-- A call that makes a draft where another draft stands with another configuration. -/
def Discards (store : PolicyStore) : PolicyCall → Prop
  | .createNextDraft policyId version configuration context _ =>
    Text.isBlank context.actorId = false ∧ ∃ current draft : EvidenceInterventionPolicy,
      store.items.get? (policyId, version, context.organizationId, context.projectId) = some current ∧
        current.record.status = .active ∧
        store.items.get? (policyId, version + 1, context.organizationId, context.projectId) = some draft ∧
        draft.record.content.strategyConfiguration ≠ configuration
  | _ => False

/-- No stored version has another content afterwards. -/
def KeepsContent (store after : PolicyStore) : Prop :=
  ∀ key old, store.items.get? key = some old →
    ∃ new, after.items.get? key = some new ∧ new.record.content = old.record.content

theorem KeepsContent.refl (store : PolicyStore) : KeepsContent store store := fun _ old stored => ⟨old, stored, rfl⟩

theorem put_keepsContent (same : ∀ old, store.items.get? policy.record.content.key = some old →
      policy.record.content = old.record.content) : KeepsContent store (store.put policy) := by
  intro key old stored
  rw [get?_put]
  by_cases here : key = policy.record.content.key
  · subst here
    rw [if_pos rfl]
    exact ⟨policy, rfl, same old stored⟩
  · rw [if_neg here]
    exact ⟨old, stored, rfl⟩

theorem put_sameContent (stored : store.items.get? current.record.content.key = some current)
    (content : policy.record.content = current.record.content) : KeepsContent store (store.put policy) := by
  apply put_keepsContent
  intro old found
  rw [content, stored] at found
  cases found
  exact content

theorem activate_content (made : current.activate actorId now = .ok policy) :
    policy.record.content = current.record.content := by
  unfold EvidenceInterventionPolicy.activate at made
  split at made
  · cases made
    rfl
  · cases made
  · split at made
    · cases made
    · rw [Checked.create_eq_ok_iff.mp made]

theorem retire_content (made : current.retire now = .ok policy) : policy.record.content = current.record.content := by
  unfold EvidenceInterventionPolicy.retire at made
  split at made
  · cases made
    rfl
  · cases made
  · rw [Checked.create_eq_ok_iff.mp made]

theorem nextDraft_named (made : current.nextDraft actorId now configuration = .ok policy) :
    Text.isBlank actorId = false := by
  unfold EvidenceInterventionPolicy.nextDraft at made
  split at made
  · cases made
  · have record := Checked.create_eq_ok_iff.mp made
    have valid := policy.valid
    simp only [EvidenceInterventionPolicyRecord.violation, firstViolation_eq_none, List.mem_cons, List.not_mem_nil,
      or_false, forall_eq_or_imp, forall_eq, requirePolicy, rejectIf_eq_none] at valid
    obtain ⟨-, -, -, -, -, -, -, named, -⟩ := valid
    rw [record] at named
    exact named

/-- An active version can be edited by a named actor. -/
theorem nextDraft_of_active (active : current.record.status = .active) (named : Text.isBlank actorId = false)
    (now : Instant) (configuration : List (String × Json)) :
    ∃ policy, current.nextDraft actorId now configuration = .ok policy := by
  have valid := current.valid
  simp only [EvidenceInterventionPolicyRecord.violation, firstViolation_eq_none, List.mem_cons, List.not_mem_nil,
    or_false, forall_eq_or_imp, forall_eq, requirePolicy, rejectIf_eq_none] at valid
  have next : EvidenceInterventionPolicyRecord.violation {
      content := { current.record.content with
        version := current.record.content.version + 1
        strategyConfiguration := configuration }
      status := .draft
      createdAt := now
      createdBy := actorId } = none := by
    simp only [EvidenceInterventionPolicyRecord.violation, firstViolation_eq_none, List.mem_cons, List.not_mem_nil,
      or_false, forall_eq_or_imp, forall_eq, requirePolicy, rejectIf_eq_none]
    have positive := version_positive current
    obtain ⟨policyId, organization, tool, schema, schemaVersion, provider, providerVersion, -, project, versioned,
      strategies, -, -⟩ := valid
    refine ⟨policyId, organization, tool, schema, schemaVersion, provider, providerVersion, named, project, ?_,
      strategies, rfl, rfl⟩
    simp only [Bool.or_eq_false_iff, decide_eq_false_iff_not] at versioned ⊢
    exact ⟨by omega, versioned.2⟩
  refine ⟨⟨_, next⟩, ?_⟩
  unfold EvidenceInterventionPolicy.nextDraft
  rw [if_neg (by simp [active])]
  exact Checked.create_of_valid next

/-- A call keeps the content of the stored versions exactly when it discards no draft. -/
theorem keepsContent_iff (digest : PolicyContent → String) (sound : Sound store) (call : PolicyCall)
    (fresh : call.Fresh store) : KeepsContent store (call.perform digest store).2 ↔ ¬ Discards store call := by
  constructor
  · intro kept discards
    cases call with
    | createNextDraft policyId version configuration context now =>
      obtain ⟨named, current, draft, stored, active, following, edited⟩ := discards
      obtain ⟨policy, made⟩ := nextDraft_of_active active named now configuration
      obtain ⟨-, content, -⟩ := nextDraft_ok made
      have found : getPolicy store policyId version context = .ok current := by
        unfold getPolicy
        rw [stored]
      have key : policy.record.content.key = (policyId, version + 1, context.organizationId, context.projectId) := by
        have own := store.keyed stored
        simp only [PolicyContent.key, Prod.mk.injEq] at own
        rw [content]
        simp only [PolicyContent.key, PolicyContent.next, own]
      rw [← key] at following
      have free : draft.record.status ≠ .active := by
        have after := following
        rw [content] at after
        obtain ⟨-, -, retired⟩ := sound.previous (getPolicy_stored found) after
        intro started
        rw [retired (by simp [started])] at active
        cases active
      have unguarded : (store.items.get? policy.record.content.key).any
          (PolicyStore.guards digest · policy) = false := by
        rw [following]
        simp [PolicyStore.guards, free]
      have saved : (PolicyCall.perform digest (.createNextDraft policyId version configuration context now) store).2 =
          store.put policy := by
        simp [PolicyCall.perform, createNextDraft, found, saving, made, PolicyStore.save, unguarded]
      obtain ⟨new, newStored, same⟩ := kept _ draft following
      rw [saved, get?_put, if_pos rfl] at newStored
      cases newStored
      rw [content] at same
      exact edited (congrArg PolicyContent.strategyConfiguration same).symm
    | createDraft | validate | activate | retire => exact discards
  · intro harmless
    cases call with
    | createDraft arguments context policyId now =>
      simp only [PolicyCall.perform, Interventions.createDraft]
      rcases saving_cases digest store (Checked.create _) with unchanged | ⟨policy, made, saved⟩
      · rw [unchanged]
        exact .refl store
      · have record := Checked.create_eq_ok_iff.mp made
        rw [saved]
        apply put_keepsContent
        intro old stored
        have absent : store.items.get? policy.record.content.key = none := fresh _ (by rw [record]; rfl)
        rw [absent] at stored
        cases stored
    | createNextDraft policyId version configuration context now =>
      simp only [PolicyCall.perform, Interventions.createNextDraft]
      cases found : getPolicy store policyId version context with
      | error raised => exact .refl store
      | ok current =>
        dsimp only
        rcases saving_cases digest store (current.nextDraft context.actorId now configuration) with
          unchanged | ⟨policy, made, saved⟩
        · rw [unchanged]
          exact .refl store
        · rw [saved]
          apply put_keepsContent
          obtain ⟨active, content, -⟩ := nextDraft_ok made
          intro old stored
          rw [content] at stored ⊢
          have own := store.keyed (getPolicy_ok found)
          simp only [PolicyContent.key, Prod.mk.injEq] at own
          obtain ⟨follows, -, -⟩ := sound.previous (getPolicy_stored found) stored
          rw [follows]
          congr 1
          by_contra edited
          refine harmless ⟨nextDraft_named made, current, old, getPolicy_ok found, active, ?_, Ne.symm edited⟩
          simpa [PolicyContent.key, PolicyContent.next, own] using stored
    | validate policyId version context validated => exact .refl store
    | activate policyId version context validated now =>
      simp only [PolicyCall.perform, Interventions.activate]
      cases accepted : Interventions.validate store policyId version context validated with
      | error raised => exact .refl store
      | ok current =>
        dsimp only
        split
        · exact .refl store
        · rcases saving_cases digest store (current.activate context.actorId now) with
            unchanged | ⟨policy, made, saved⟩
          · rw [unchanged]
            exact .refl store
          · rw [saved]
            exact put_sameContent (getPolicy_stored (validate_ok accepted)) (activate_content made)
    | retire policyId version context now =>
      simp only [PolicyCall.perform, Interventions.retire]
      cases found : getPolicy store policyId version context with
      | error raised => exact .refl store
      | ok current =>
        dsimp only
        rcases saving_cases digest store (current.retire now) with unchanged | ⟨policy, made, saved⟩
        · rw [unchanged]
          exact .refl store
        · rw [saved]
          exact put_sameContent (getPolicy_stored found) (retire_content made)

/-- In every run: no evidence has two active versions, versions evolve, and a call replaces the content of a stored
version exactly when it discards a draft. -/
theorem intervention_policies_evolve (digest : PolicyContent → String) {store : PolicyStore}
    (reaches : CallReaches digest .empty store) :
    (∀ {left right leftPolicy rightPolicy}, store.items.get? left = some leftPolicy →
      store.items.get? right = some rightPolicy → leftPolicy.record.status = .active →
      rightPolicy.record.status = .active → leftPolicy.record.content.tenant = rightPolicy.record.content.tenant →
      sameEvidence leftPolicy.record.content rightPolicy.record.content = true → left = right) ∧
    (∀ descriptor strategy context, resolveActive store descriptor strategy context ≠
      .error ⟨.interventionPolicyAmbiguous, "AMBIGUOUS_INTERVENTION_POLICY"⟩) ∧
    (∀ later, CallReaches digest store later → Keeps store later) ∧
    ∀ call : PolicyCall, call.Fresh store →
      (KeepsContent store (call.perform digest store).2 ↔ ¬ Discards store call) := by
  obtain ⟨sound, -⟩ := reaches.sound sound_empty
  exact ⟨sound.alone, sound.resolves, fun later after => (after.sound sound).2, keepsContent_iff digest sound⟩

/-- The operator of the example. -/
def operator : PolicyContext := ⟨"org-1", some "project-1", "operator-1"⟩

/-- A policy for the evidence of a search tool. -/
def searchDraft : DraftArguments := ⟨"search", "schema-1", "1", "provider-1", "1", [.nullify], []⟩

/-- The store after some calls. -/
def storeAfter (calls : List PolicyCall) : PolicyStore :=
  calls.foldl (fun store call => (call.perform (fun _ => "digest") store).2) .empty

/-- A policy is drafted, activated and edited. -/
def edits : List PolicyCall :=
  [.createDraft searchDraft operator "policy-1" ⟨1⟩, .activate "policy-1" 1 operator (fun _ => .ok ()) ⟨2⟩,
    .createNextDraft "policy-1" 1 [("mode", .str "first")] operator ⟨3⟩]

theorem edits_reach : CallReaches (fun _ => "digest") .empty (storeAfter edits) := by
  refine .tail (.tail (.tail .refl ⟨edits.get ⟨0, by decide⟩, ?_, rfl⟩) ⟨edits.get ⟨1, by decide⟩, ?_, rfl⟩)
    ⟨edits.get ⟨2, by decide⟩, ?_, rfl⟩
  · intro key _
    rfl
  · trivial
  · trivial

/-- Once the active version is retired its draft is activated. -/
theorem intervention_policies_evolve_retired :
    Keeps (storeAfter edits) (storeAfter (edits ++ [.retire "policy-1" 1 operator ⟨4⟩,
      .activate "policy-1" 2 operator (fun _ => .ok ()) ⟨5⟩])) := by
  refine (intervention_policies_evolve _ edits_reach).2.2.1 _ ?_
  exact .tail (.single ⟨.retire "policy-1" 1 operator ⟨4⟩, trivial, rfl⟩)
    ⟨.activate "policy-1" 2 operator (fun _ => .ok ()) ⟨5⟩, trivial, rfl⟩

/-- The active version is edited a second time: the first draft is gone. -/
theorem intervention_policies_discarded : ¬ ∀ (digest : PolicyContent → String) (store : PolicyStore),
    CallReaches digest .empty store → ∀ call : PolicyCall, call.Fresh store →
      KeepsContent store (call.perform digest store).2 := by
  intro kept
  have same := kept _ _ edits_reach (.createNextDraft "policy-1" 1 [("mode", .str "second")] operator ⟨4⟩) trivial
  have first : ((storeAfter edits).items.get? ("policy-1", 2, "org-1", some "project-1")).map
      (fun policy => policy.record.content.strategyConfiguration) = some [("mode", .str "first")] := by decide +kernel
  have second : (((PolicyCall.createNextDraft "policy-1" 1 [("mode", .str "second")] operator ⟨4⟩).perform
      (fun _ => "digest") (storeAfter edits)).2.items.get? ("policy-1", 2, "org-1", some "project-1")).map
      (fun policy => policy.record.content.strategyConfiguration) = some [("mode", .str "second")] := by decide +kernel
  obtain ⟨old, stored, configured⟩ := Option.map_eq_some_iff.mp first
  obtain ⟨new, replaced, content⟩ := same _ old stored
  rw [replaced, Option.map_some, content, configured] at second
  exact absurd second (by decide)

end AiGovernance.Interventions
