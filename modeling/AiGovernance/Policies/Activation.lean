import AiGovernance.Policies.Versions
import AiGovernance.Semantics.Script

/-!
# An activation that fails

`activate_version` demotes the active version with a write of its own before it
promotes the draft, although `save_version` of an active version swaps both in
one write. A call that fails after the demotion leaves the policy without the
version that was enforced, and one that fails after the promotion leaves it with
the new one.
-/

namespace AiGovernance.PolicyAdministration

open AiGovernance.Std Domain Semantics
open Decisions (PolicyStatus)

variable {after : PolicyStore}

/-- `activate_version` with one repository call, the `point`-th, raising instead of acting. -/
def activateWithFault (store : PolicyStore) (policyId version activatedBy : String) (now touchedAt : Instant)
    (point : Nat) (raised : Raised) : Except Raised PolicyDetail × PolicyStore × Nat :=
  (activateVersion policyId version activatedBy now touchedAt).run
    (scripted policyStores (fun _ => true) (failsAt point raised)) (store, 0)

/-- Where the activation fails, the policy has the active version it had. -/
def AllOrNothing (store : PolicyStore) (policyId : String)
    (outcome : Except Raised PolicyDetail × PolicyStore × Nat) : Prop :=
  ∀ raised, outcome.1 = .error raised → outcome.2.1.getActiveVersion policyId = store.getActiveVersion policyId

/-- The activation gets as far as its writes: the version is a draft of a policy that may activate it. -/
def Activatable (store : PolicyStore) (policyId version : String) : Prop :=
  ∃ selected definition, store.versions.get? (policyId, version) = some selected ∧
    selected.record.status = .draft ∧ store.definitions.get? policyId = some definition ∧
    validateRuntimeAuthorizationActivation definition selected = .ok ()

/-- Another policy of the project has the name of the policy. -/
def NameTaken (store : PolicyStore) (policyId : String) : Prop :=
  ∃ definition, store.definitions.get? policyId = some definition ∧
    ∃ other ∈ store.definitions.values, other.record.policyId ≠ definition.record.policyId ∧
      other.record.projectId = definition.record.projectId ∧ other.record.name = definition.record.name

/-- The calls an activation makes: with an active version there is one more, which demotes it. -/
def callCount (store : PolicyStore) (policyId : String) : Nat :=
  if (store.getActiveVersion policyId).isSome then 8 else 7

/-! ## The store -/

variable {store : PolicyStore}

/-- A write leaves an inactive version of another number as it is. -/
theorem get?_saveVersion_of_inactive {version kept : PolicyVersion} {key : String × String}
    (stored : store.versions.get? key = some kept) (inactive : kept.record.status ≠ .active)
    (apart : key ≠ keyOf version) : (store.saveVersion version).versions.get? key = some kept := by
  unfold PolicyStore.saveVersion
  split
  · split
    · rename_i active found
      split
      · have distinct : key ≠ keyOf active := by
          rintro rfl
          obtain ⟨own, held, status⟩ := getActiveVersion_eq_some found
          rw [keyOf, own, held] at stored
          cases stored
          exact inactive status
        rw [get?_putVersion, if_neg apart, get?_putVersion]
        exact (if_neg distinct).trans stored
      · rw [get?_putVersion, if_neg apart]
        exact stored
    · rw [get?_putVersion, if_neg apart]
      exact stored
  · rw [get?_putVersion, if_neg apart]
    exact stored

theorem get?_saveVersion_self (version : PolicyVersion) :
    (store.saveVersion version).versions.get? (keyOf version) = some version := by
  unfold PolicyStore.saveVersion
  split
  · split
    · split <;> rw [get?_putVersion, if_pos rfl]
    · rw [get?_putVersion, if_pos rfl]
  · rw [get?_putVersion, if_pos rfl]

/-! ## Calls -/

section Calls

variable {α : Type} {script : FaultScript policyRepository} {store : PolicyStore} {policyId version : String}
  {calls : Nat}

/-- The repository with one failing call. -/
abbrev faulty (script : FaultScript policyRepository) : Handler policyRepository (PolicyStore × Nat) :=
  scripted policyStores (fun _ => true) script

variable {raised : Raised} {command : PolicyCommand}

theorem consult_run_fails (fails : script calls = some raised) (next : command.Answer → PolicyOperation α) :
    (consult command >>= next).run (faulty script) (store, calls) = (.error raised, store, calls + 1) :=
  Program.run_scripted_fails rfl fails store

theorem consult_run_acts {answer : command.Answer} (acts : script calls = none)
    (answered : policyStores command store = (.ok answer, after)) (next : command.Answer → PolicyOperation α) :
    (consult command >>= next).run (faulty script) (store, calls) =
      (next answer).run (faulty script) (after, calls + 1) :=
  Program.run_scripted_acts rfl acts answered

theorem consult_run_refuses (acts : script calls = none)
    (refused : policyStores command store = (.error raised, after)) (next : command.Answer → PolicyOperation α) :
    (consult command >>= next).run (faulty script) (store, calls) = (.error raised, after, calls + 1) :=
  Program.run_scripted_refuses rfl acts refused

/-- A read that leads a larger operation. -/
theorem read_run {β : Type} (acts : script calls = none) {answer : command.Answer}
    (answered : policyStores command store = (.ok answer, store)) (first : command.Answer → PolicyOperation β)
    (next : β → PolicyOperation α) : ((consult command >>= first) >>= next).run (faulty script) (store, calls) =
      (first answer >>= next).run (faulty script) (store, calls + 1) := by
  rw [Program.bind_assoc]
  exact consult_run_acts acts answered _

theorem getVersion_run_fails (fails : script calls = some raised) (next : PolicyVersion → PolicyOperation α) :
    (getVersion policyId version >>= next).run (faulty script) (store, calls) = (.error raised, store, calls + 1) := by
  unfold getVersion
  rw [Program.bind_assoc]
  exact consult_run_fails fails _

theorem getVersion_run_found (acts : script calls = none) {selected : PolicyVersion}
    (found : store.versions.get? (policyId, version) = some selected) (next : PolicyVersion → PolicyOperation α) :
    (getVersion policyId version >>= next).run (faulty script) (store, calls) =
      (next selected).run (faulty script) (store, calls + 1) :=
  read_run acts (show policyStores (.getVersion policyId version) store = (.ok (some selected), store) by
    rw [← found]; rfl) _ next

theorem getDefinition_run_fails (fails : script calls = some raised) (next : PolicyDefinition → PolicyOperation α) :
    (getDefinition policyId >>= next).run (faulty script) (store, calls) = (.error raised, store, calls + 1) := by
  unfold getDefinition
  rw [Program.bind_assoc]
  exact consult_run_fails fails _

variable {definition : PolicyDefinition}

theorem getDefinition_run_found (acts : script calls = none) (found : store.definitions.get? policyId = some definition)
    (next : PolicyDefinition → PolicyOperation α) :
    (getDefinition policyId >>= next).run (faulty script) (store, calls) =
      (next definition).run (faulty script) (store, calls + 1) :=
  read_run acts (show policyStores (.getDefinition policyId) store = (.ok (some definition), store) by
    rw [← found]; rfl) _ next

theorem saveDefinition_refused
    (taken : ∃ other ∈ store.definitions.values, other.record.policyId ≠ definition.record.policyId ∧
      other.record.projectId = definition.record.projectId ∧ other.record.name = definition.record.name) :
    ∃ raised, policyStores (.saveDefinition definition) store = (.error raised, store) := by
  obtain ⟨other, member, differs, project, name⟩ := taken
  have found : (store.definitions.values.find? fun item =>
      item.record.policyId ≠ definition.record.policyId && item.record.projectId = definition.record.projectId &&
        item.record.name = definition.record.name).isSome = true := by
    rw [List.find?_isSome]
    exact ⟨other, member, by simp [differs, project, name]⟩
  obtain ⟨_, clash⟩ := Option.isSome_iff_exists.mp found
  refine ⟨⟨.policyAdministrationConflictError, "Policy name must be unique within a project."⟩, ?_⟩
  change store.saveDefinition definition = _
  unfold PolicyStore.saveDefinition
  rw [clash]
  rfl

theorem saveDefinition_accepted
    (free : ¬ ∃ other ∈ store.definitions.values, other.record.policyId ≠ definition.record.policyId ∧
      other.record.projectId = definition.record.projectId ∧ other.record.name = definition.record.name) :
    policyStores (.saveDefinition definition) store = (.ok (), store.putDefinition definition) := by
  have missing : (store.definitions.values.find? fun item =>
      item.record.policyId ≠ definition.record.policyId && item.record.projectId = definition.record.projectId &&
        item.record.name = definition.record.name) = none := by
    rw [List.find?_eq_none]
    intro other member clash
    simp only [ne_eq, decide_not, Bool.and_eq_true, Bool.not_eq_eq_eq_not, Bool.not_true, decide_eq_false_iff_not,
      decide_eq_true_eq] at clash
    exact free ⟨other, member, clash.1.1, clash.1.2, clash.2⟩
  change store.saveDefinition definition = _
  unfold PolicyStore.saveDefinition
  rw [missing]
  rfl

theorem acts_of_ne {point call : Nat} (other : call ≠ point) :
    failsAt (I := policyRepository) point raised call = none :=
  failsAt_of_ne (I := policyRepository) other raised

/-- The end of an activation writes no version, and fails exactly where one of its three calls
does or the name of the policy is taken. -/
theorem finish_run {point : Nat} {touchedAt : Instant} (known : store.definitions.get? policyId = some definition)
    {outcome : Except Raised PolicyDetail × PolicyStore × Nat}
    (ran : (touchDefinition definition touchedAt >>= fun _ => getPolicyDetail policyId).run
      (faulty (failsAt point raised)) (store, calls) = outcome) :
    outcome.2.1.versions = store.versions ∧
      ((∃ error, outcome.1 = .error error) ↔ (calls ≤ point ∧ point < calls + 3) ∨ NameTaken store policyId) := by
  by_cases first : calls = point
  · subst first
    have ended := ran.symm.trans (consult_run_fails (failsAt_self ..) _)
    subst ended
    exact ⟨rfl, fun _ => Or.inl ⟨le_rfl, by omega⟩, fun _ => ⟨raised, rfl⟩⟩
  by_cases taken : NameTaken store policyId
  · obtain ⟨owner, same, clash⟩ := taken
    have ofPolicy : owner = definition := Option.some.inj (same.symm.trans known)
    subst ofPolicy
    obtain ⟨error, refused⟩ : ∃ error, policyStores (.saveDefinition (touched owner touchedAt)) store =
      (.error error, store) := saveDefinition_refused clash
    have ended := ran.symm.trans (consult_run_refuses (acts_of_ne first) refused _)
    subst ended
    exact ⟨rfl, fun _ => Or.inr ⟨owner, same, clash⟩, fun _ => ⟨error, rfl⟩⟩
  have accepted : policyStores (.saveDefinition (touched definition touchedAt)) store =
      (.ok (), store.putDefinition (touched definition touchedAt)) :=
    saveDefinition_accepted fun clash => taken ⟨definition, known, clash⟩
  have stored : (store.putDefinition (touched definition touchedAt)).definitions.get? policyId =
      some (touched definition touchedAt) := by
    have own := store.definitionKeyed known
    subst own
    exact Dict.get?_set_self _
  have reading := ran.symm.trans (consult_run_acts (acts_of_ne first) accepted _)
  simp only [taken, or_false]
  by_cases second : calls + 1 = point
  · subst second
    have ended := reading.trans (getDefinition_run_fails (failsAt_self ..) _)
    subst ended
    exact ⟨rfl, fun _ => ⟨by omega, by omega⟩, fun _ => ⟨raised, rfl⟩⟩
  have listing := reading.trans (getDefinition_run_found (acts_of_ne second) stored _)
  by_cases third : calls + 1 + 1 = point
  · subst third
    have ended := listing.trans (consult_run_fails (failsAt_self ..) _)
    subst ended
    exact ⟨rfl, fun _ => ⟨by omega, by omega⟩, fun _ => ⟨raised, rfl⟩⟩
  have ended := listing.trans (consult_run_acts (acts_of_ne third) rfl _)
  subst ended
  refine ⟨rfl, fun failed => ?_, fun within => by omega⟩
  obtain ⟨_, failed⟩ := failed
  cases failed

end Calls

/-! ## The activation -/

section Outcomes

variable {store : PolicyStore} {policyId : String} {outcome : Except Raised PolicyDetail × PolicyStore × Nat}

theorem allOrNothing_of_same (same : outcome.2.1.getActiveVersion policyId = store.getActiveVersion policyId) :
    AllOrNothing store policyId outcome := fun _ _ => same

theorem allOrNothing_of_lost (lost : outcome.2.1.getActiveVersion policyId ≠ store.getActiveVersion policyId) :
    AllOrNothing store policyId outcome ↔ ¬ ∃ error, outcome.1 = .error error := by
  constructor
  · rintro keeps ⟨error, failed⟩
    exact lost (keeps error failed)
  · exact fun succeeds error failed => absurd ⟨error, failed⟩ succeeds

theorem definitions_saveVersion (version : PolicyVersion) :
    (store.saveVersion version).definitions = store.definitions := by
  unfold PolicyStore.saveVersion
  split
  · split
    · split <;> rfl
    · rfl
  · rfl

theorem nameTaken_saveVersion (version : PolicyVersion) :
    NameTaken (store.saveVersion version) policyId ↔ NameTaken store policyId := by
  unfold NameTaken
  rw [definitions_saveVersion]

/-- The demoted version is not the active one any more, whatever is promoted. -/
theorem getActiveVersion_of_demoted {active : PolicyVersion} {now : Instant}
    (found : store.getActiveVersion policyId = some active)
    (demoted : after.versions.get? (keyOf active) = some (PolicyStore.demoted active now)) :
    after.getActiveVersion policyId ≠ store.getActiveVersion policyId := by
  intro same
  obtain ⟨own, -, -⟩ := getActiveVersion_eq_some found
  obtain ⟨-, stored, status⟩ := getActiveVersion_eq_some (same.trans found)
  rw [keyOf, own, stored] at demoted
  have lowered : active.record.status = .deprecated := congrArg (·.record.status) (Option.some.inj demoted)
  rw [status] at lowered
  cases lowered

end Outcomes

variable {touchedAt now : Instant} {selected : PolicyVersion} {raised : Raised} {activatedBy policyId : String}
  {outcome : Except Raised PolicyDetail × PolicyStore × Nat} {point : Nat}

/-- The writes of an activation, over a policy with an active version. -/
theorem promote_run_some {active : PolicyVersion} {definition : PolicyDefinition}
    (found : store.getActiveVersion policyId = some active) (apart : keyOf active ≠ keyOf selected)
    (known : store.definitions.get? policyId = some definition) (late : 3 ≤ point)
    (ran : (consult (.saveVersion (PolicyStore.demoted active now)) >>= fun _ =>
      consult (.saveVersion (activated selected activatedBy now)) >>= fun _ =>
        touchDefinition definition touchedAt >>= fun _ => getPolicyDetail policyId).run
      (faulty (failsAt point raised)) (store, 3) = outcome) :
    AllOrNothing store policyId outcome ↔ point ≤ 3 ∨ (8 ≤ point ∧ ¬ NameTaken store policyId) := by
  by_cases demoting : 3 = point
  · subst demoting
    have ended := ran.symm.trans (consult_run_fails (failsAt_self ..) _)
    subst ended
    exact ⟨fun _ => Or.inl le_rfl, fun _ => allOrNothing_of_same rfl⟩
  have promoting := ran.symm.trans (consult_run_acts (acts_of_ne demoting) rfl _)
  have inactive : (PolicyStore.demoted active now).record.status ≠ .active := by simp [PolicyStore.demoted]
  have demoted : (store.saveVersion (PolicyStore.demoted active now)).versions.get? (keyOf active) =
    some (PolicyStore.demoted active now) := get?_saveVersion_self _
  by_cases second : 4 = point
  · subst second
    have ended := promoting.trans (consult_run_fails (failsAt_self ..) _)
    subst ended
    rw [allOrNothing_of_lost (getActiveVersion_of_demoted found demoted)]
    constructor
    · exact fun succeeds => absurd ⟨raised, rfl⟩ succeeds
    · omega
  have finishing := promoting.trans (consult_run_acts (acts_of_ne second) rfl _)
  have still : ((store.saveVersion (PolicyStore.demoted active now)).saveVersion
      (activated selected activatedBy now)).definitions.get? policyId = some definition := by
    rw [definitions_saveVersion, definitions_saveVersion]
    exact known
  obtain ⟨same, failed⟩ := finish_run still finishing.symm
  have lost : outcome.2.1.getActiveVersion policyId ≠ store.getActiveVersion policyId := by
    apply getActiveVersion_of_demoted found
    rw [same]
    exact get?_saveVersion_of_inactive demoted inactive apart
  rw [allOrNothing_of_lost lost, failed, nameTaken_saveVersion, nameTaken_saveVersion]
  by_cases taken : NameTaken store policyId
  · simp only [taken, or_true, not_true_eq_false, and_false, or_false, false_iff]
    omega
  · simp only [taken, or_false, not_false_eq_true, and_true]
    omega

/-- The writes of an activation, over a policy without an active version. -/
theorem promote_run_none {definition : PolicyDefinition} (missing : store.getActiveVersion policyId = none)
    (own : selected.record.policyId = policyId) (known : store.definitions.get? policyId = some definition)
    (late : 3 ≤ point) (ran : (consult (.saveVersion (activated selected activatedBy now)) >>= fun _ =>
        touchDefinition definition touchedAt >>= fun _ => getPolicyDetail policyId).run
      (faulty (failsAt point raised)) (store, 3) = outcome) :
    AllOrNothing store policyId outcome ↔ point ≤ 3 ∨ (7 ≤ point ∧ ¬ NameTaken store policyId) := by
  by_cases promoting : 3 = point
  · subst promoting
    have ended := ran.symm.trans (consult_run_fails (failsAt_self ..) _)
    subst ended
    exact ⟨fun _ => Or.inl le_rfl, fun _ => allOrNothing_of_same rfl⟩
  have finishing := ran.symm.trans (consult_run_acts (acts_of_ne promoting) rfl _)
  have still : (store.saveVersion (activated selected activatedBy now)).definitions.get? policyId =
      some definition := by
    rw [definitions_saveVersion]
    exact known
  obtain ⟨same, failed⟩ := finish_run still finishing.symm
  have lost : outcome.2.1.getActiveVersion policyId ≠ store.getActiveVersion policyId := by
    intro unchanged
    have stored : outcome.2.1.versions.get? (keyOf (activated selected activatedBy now)) =
        some (activated selected activatedBy now) := by
      rw [same]
      exact get?_saveVersion_self _
    exact getActiveVersion_eq_none (unchanged.trans missing) stored own rfl
  rw [allOrNothing_of_lost lost, failed, nameTaken_saveVersion]
  by_cases taken : NameTaken store policyId
  · simp only [taken, or_true, not_true_eq_false, and_false, or_false, false_iff]
    omega
  · simp only [taken, or_false, not_false_eq_true, and_true]
    omega

variable {version : String}

/-- What follows once the version is known to be a draft. -/
theorem activate_draft_run (chosen : store.versions.get? (policyId, version) = some selected)
    (draft : selected.record.status = .draft) (selecting : 0 ≠ point) (ran : outcome = (do
        let definition ← getDefinition policyId
        Program.ofExcept (validateRuntimeAuthorizationActivation definition selected)
        match ← consult (.getActiveVersion policyId) with
        | some active => consult (.saveVersion (PolicyStore.demoted active now))
        | none => pure ()
        consult (.saveVersion (activated selected activatedBy now))
        touchDefinition definition touchedAt
        getPolicyDetail policyId : PolicyOperation PolicyDetail).run
      (faulty (failsAt point raised)) (store, 0 + 1)) :
    AllOrNothing store policyId outcome ↔ ¬ Activatable store policyId version ∨ point ≤ 3 ∨
      (callCount store policyId ≤ point ∧ ¬ NameTaken store policyId) := by
  have ofPolicy : selected.record.policyId = policyId := congrArg Prod.fst (store.versionKeyed chosen)
  by_cases defining : 1 = point
  · subst defining
    have ended := ran.trans (getDefinition_run_fails (failsAt_self ..) _)
    subst ended
    exact ⟨fun _ => Or.inr (Or.inl (by omega)), fun _ => allOrNothing_of_same rfl⟩
  cases known : store.definitions.get? policyId with
  | none =>
    have missing : policyStores (.getDefinition policyId) store = (.ok none, store) := by
      rw [← known]
      rfl
    have ended := ran.trans (read_run (acts_of_ne defining) missing _ _)
    subst ended
    refine ⟨fun _ => Or.inl ?_, fun _ => allOrNothing_of_same rfl⟩
    rintro ⟨-, definition, -, -, present, -⟩
    rw [known] at present
    cases present
  | some definition =>
    have validating := ran.trans (getDefinition_run_found (acts_of_ne defining) known _)
    cases valid : validateRuntimeAuthorizationActivation definition selected with
    | error error =>
      have same : outcome.2.1 = store := by
        rw [validating, valid]
        rfl
      refine ⟨fun _ => Or.inl ?_, fun _ => allOrNothing_of_same (by rw [same])⟩
      rintro ⟨other, another, present, -, owned, accepted⟩
      rw [chosen] at present
      rw [known] at owned
      cases present
      cases owned
      rw [valid] at accepted
      cases accepted
    | ok _ =>
      have activatable : Activatable store policyId version := ⟨selected, definition, chosen, draft, known, valid⟩
      rw [valid] at validating
      simp only [activatable, not_true_eq_false, false_or]
      by_cases reading : 2 = point
      · subst reading
        have ended := validating.trans (consult_run_fails (failsAt_self ..) _)
        subst ended
        exact ⟨fun _ => Or.inl (by omega), fun _ => allOrNothing_of_same rfl⟩
      have writing := validating.trans (consult_run_acts (acts_of_ne reading) rfl _)
      dsimp only at writing
      have late : 3 ≤ point := by omega
      unfold callCount
      cases found : store.getActiveVersion policyId with
      | none =>
        rw [found] at writing
        exact promote_run_none found ofPolicy known late writing.symm
      | some active =>
        rw [found] at writing
        have apart : keyOf active ≠ keyOf selected := by
          intro equal
          obtain ⟨own, stored, status⟩ := getActiveVersion_eq_some found
          have numbered : active.record.version = version :=
            (congrArg Prod.snd equal).trans (congrArg Prod.snd (store.versionKeyed chosen))
          rw [numbered, chosen] at stored
          cases stored
          rw [draft] at status
          cases status
        exact promote_run_some found apart known late writing.symm

/-- The activation of a draft, failing anywhere. -/
theorem activateWithFault_of_draft (chosen : store.versions.get? (policyId, version) = some selected)
    (draft : selected.record.status = .draft) (activatedBy : String) (now touchedAt : Instant) (point : Nat)
    (raised : Raised) :
    AllOrNothing store policyId (activateWithFault store policyId version activatedBy now touchedAt point raised) ↔
      ¬ Activatable store policyId version ∨ point ≤ 3 ∨
        (callCount store policyId ≤ point ∧ ¬ NameTaken store policyId) := by
  generalize ran : activateWithFault store policyId version activatedBy now touchedAt point raised = outcome
  by_cases selecting : 0 = point
  · subst selecting
    have ended := ran.symm.trans (getVersion_run_fails (failsAt_self (I := policyRepository) 0 raised) _)
    subst ended
    exact ⟨fun _ => Or.inr (Or.inl (by omega)), fun _ => allOrNothing_of_same rfl⟩
  · have checking := ran.symm.trans
      (getVersion_run_found (failsAt_of_ne (I := policyRepository) selecting raised) chosen _)
    dsimp only at checking
    rw [if_neg (by simp [draft]), if_neg (not_not.mpr draft)] at checking
    exact activate_draft_run chosen draft selecting checking

/-- The activation of a version that is no draft writes nothing. -/
theorem activateWithFault_refused
    (refused : ∀ selected, store.versions.get? (policyId, version) = some selected → selected.record.status ≠ .draft)
    (activatedBy : String) (now touchedAt : Instant) (point : Nat) (raised : Raised) :
    (activateWithFault store policyId version activatedBy now touchedAt point raised).2.1 = store := by
  generalize ran : activateWithFault store policyId version activatedBy now touchedAt point raised = outcome
  by_cases selecting : 0 = point
  · subst selecting
    have ended := ran.symm.trans (getVersion_run_fails (failsAt_self (I := policyRepository) 0 raised) _)
    rw [ended]
  have acts := failsAt_of_ne (I := policyRepository) selecting raised
  cases chosen : store.versions.get? (policyId, version) with
  | none =>
    have missing : policyStores (.getVersion policyId version) store = (.ok none, store) := by
      rw [← chosen]
      rfl
    rw [ran.symm.trans (read_run acts missing _ _)]
    rfl
  | some selected =>
    have checking := ran.symm.trans (getVersion_run_found acts chosen _)
    dsimp only at checking
    rw [if_pos (refused selected chosen)] at checking
    rw [checking]
    split <;> rfl

private def groundedRule : Decisions.PolicyRule :=
  ⟨{ ruleId := "rule-1", name := "Grounded"
     conditions := [⟨{ fieldPath := "drift.severity", operator := .present, expectedValue := .null }, by decide⟩]
     effect := .block, reasonTemplate := "Drift was found.", priority := 1 }, by decide⟩

private def driftVersion (version : String) (status : PolicyStatus)
    (valid : PolicyVersionRecord.violation {
      policyId := "policy-1", version, status, targetTypes := [.candidate], rules := [groundedRule]
      createdBy := "author", createdAt := ⟨0⟩ } = none) : PolicyVersion := ⟨_, valid⟩

private def enforcedVersion : PolicyVersion := driftVersion "1" .active (by decide)

private def draftedVersion : PolicyVersion := driftVersion "2" .draft (by decide)

private def driftDefinition : PolicyDefinition :=
  ⟨{ policyId := "policy-1", organizationId := "organization-1", projectId := "project-1", name := "Drift"
     description := none, category := .modelRisk, owner := "owner", createdBy := "author", createdAt := ⟨0⟩
     updatedAt := ⟨0⟩, metadata := [] }, by decide⟩

/-- A policy with an active version and a draft. -/
private def driftPolicy : PolicyStore :=
  ((PolicyStore.empty.putDefinition driftDefinition).putVersion enforcedVersion).putVersion draftedVersion

private def outage : Raised := ⟨.operationalError, "The database is not available."⟩

end AiGovernance.PolicyAdministration
