import AiGovernance.Registries.Lifecycle

/-!
# Observed evidence

An observed record is evidence and no operation ought to change it. Three do:
an activation deprecates an observed sibling, `archive_prompt` archives an
observed prompt, and an observation replaces another whose identity joins to
the same text. `Spares` says that a call does none of these; exactly the runs
of such calls keep their evidence.
-/

namespace AiGovernance.Registries

open AiGovernance.Std Domain Semantics

/-- How a record is told to be observed, and the identifier that an observation of its fields has. -/
structure Evidence {R N C : Type} (described : Described R String (AssetName N) String C) where
  observed : R → Bool
  derivedId : R → String
  unmanaged : ∀ record, observed record = true → described.managed record = false
  observed_withStatus : ∀ record status, observed (described.withStatus record status) = observed record
  derivedId_withStatus : ∀ record status, derivedId (described.withStatus record status) = derivedId record
  withStatus_self : ∀ record, described.withStatus record (described.status record) = record

namespace Evidence

variable {R N C : Type} {described : Described R String (AssetName N) String C} (evidence : Evidence described)

/-- The observed records stay as they are. -/
def Kept (before after : Dict String R) : Prop :=
  ∀ key record, before.get? key = some record → evidence.observed record = true → after.get? key = some record

/-- What holds of a tenant's store as long as its evidence is kept. -/
structure Evident (context : TenantContext) (store : Dict String R) : Prop where
  keyed : ∀ {key record}, store.get? key = some record → described.key record = key
  held : ∀ key record, store.get? key = some record → Held described context (fun _ => False) record
  derived : ∀ {key record}, store.get? key = some record → evidence.observed record = true →
    described.key record = evidence.derivedId record
  active : ∀ {key record}, store.get? key = some record → evidence.observed record = true →
    described.status record = .active

variable {evidence} {context : TenantContext} {store : Dict String R}

theorem Kept.refl (store : Dict String R) : evidence.Kept store store := fun _ _ found _ => found

theorem Kept.trans {first second third : Dict String R} (before : evidence.Kept first second)
    (after : evidence.Kept second third) : evidence.Kept first third :=
  fun key record found observed => after key record (before key record found observed) observed

theorem Evident.empty : evidence.Evident context .empty where
  keyed := by
    intro key record found
    rw [Dict.get?_empty] at found
    cases found
  held := Sound.empty.held
  derived := by
    intro key record found
    rw [Dict.get?_empty] at found
    cases found
  active := by
    intro key record found
    rw [Dict.get?_empty] at found
    cases found

theorem Evident.unchanged {spares : Prop} (holds : spares) (evident : evidence.Evident context store) :
    (evidence.Kept store store ↔ spares) ∧ (spares → evidence.Evident context store) :=
  ⟨iff_of_true (.refl _) holds, fun _ => evident⟩

variable {record : R}

/-- A written record that is as it should be. -/
theorem Evident.save (evident : evidence.Evident context store) (held : Held described context (fun _ => False) record)
    (derived : evidence.observed record = true → described.key record = evidence.derivedId record)
    (active : evidence.observed record = true → described.status record = .active) :
    evidence.Evident context (save described record store) where
  keyed := by
    intro key found read
    rcases Described.get?_set_cases read with ⟨rfl, rfl⟩ | ⟨-, old⟩
    · rfl
    · exact evident.keyed old
  held := by
    intro key found read
    rcases Described.get?_set_cases read with ⟨-, rfl⟩ | ⟨-, old⟩
    · exact held
    · exact evident.held key found old
  derived := by
    intro key found read
    rcases Described.get?_set_cases read with ⟨-, rfl⟩ | ⟨-, old⟩
    · exact derived
    · exact evident.derived old
  active := by
    intro key found read
    rcases Described.get?_set_cases read with ⟨-, rfl⟩ | ⟨-, old⟩
    · exact active
    · exact evident.active old

/-- A write keeps the evidence exactly when what it replaces is no evidence, or the same. -/
theorem kept_save : evidence.Kept store (save described record store) ↔
    ∀ old, store.get? (described.key record) = some old → evidence.observed old = true → old = record := by
  constructor
  · intro kept old found observed
    have still := kept _ old found observed
    unfold Registries.save at still
    rw [Dict.get?_set_self] at still
    exact (Option.some.inj still).symm
  · intro same key old found observed
    unfold Registries.save
    by_cases written : key = described.key record
    · subst written
      rw [Dict.get?_set_self, same old found observed]
    · rw [Dict.get?_set_of_ne _ written, found]

theorem held_withStatus (status : AssetStatus) (held : Held described context (fun _ => False) record) :
    Held described context (fun _ => False) (described.withStatus record status) := by
  unfold Held
  rw [described.asset_withStatus]
  exact ⟨held.1, held.2.1, fun _ => id⟩

/-! ## What each kind of write does -/

section Registered

variable [DecidableEq N] {generatedId : String} {chosen : Option String} {record : R}

theorem registered_kept {spares : Prop} (holds : spares) (evident : evidence.Evident context store) (unused : store.get? generatedId = none)
    (new : NewManaged described context store generatedId chosen record) :
    (evidence.Kept store (save described record store) ↔ spares) ∧
      (spares → evidence.Evident context (save described record store)) := by
  have unobserved : evidence.observed record ≠ true := by
    intro observed
    have unmanaged := evidence.unmanaged record observed
    rw [new.managed] at unmanaged
    cases unmanaged
  refine ⟨iff_of_true ?_ holds, fun _ => evident.save ⟨new.organization, new.project, fun _ => id⟩
    (absurd · unobserved) (absurd · unobserved)⟩
  rw [kept_save, new.unused evident.held unused]
  nofun

end Registered

/-- A recorded observation keeps the evidence exactly when no other has its identifier. -/
theorem observed_kept_iff [DecidableEq N] (evident : evidence.Evident context store)
    (derived : described.key record = evidence.derivedId record)
    (unrecorded : findByNameAndVersion described store (described.asset record) (described.version record) = none) :
    evidence.Kept store (save described record store) ↔
      ∀ key old, store.get? key = some old → evidence.observed old = true →
        evidence.derivedId old ≠ evidence.derivedId record := by
  rw [kept_save]
  constructor
  · intro same key old found observed alike
    have place : described.key record = key := by
      rw [derived, ← alike, ← evident.derived found observed, evident.keyed found]
    obtain rfl := same old (place ▸ found) observed
    exact (findByNameAndVersion_eq_none.mp unrecorded) key old found rfl rfl
  · intro apart old found observed
    have alike : evidence.derivedId old = evidence.derivedId record := by
      rw [← evident.derived found observed, evident.keyed found, derived]
    exact absurd alike (apart _ old found observed)

/-- Another status of a record keeps the evidence exactly when the record is none, unless the status is the active
one. -/
theorem restated_kept_iff {status : AssetStatus} (evident : evidence.Evident context store)
    (present : store.get? (described.key record) = some record) (inactive : status ≠ .active) :
    evidence.Kept store (save described (described.withStatus record status) store) ↔
      evidence.observed record = false := by
  rw [kept_save, described.key_withStatus]
  constructor
  · intro same
    by_contra observed
    have observed : evidence.observed record = true := by simpa using observed
    have unchanged := same record present observed
    have active := evident.active present observed
    rw [unchanged, described.status_withStatus] at active
    exact inactive active
  · intro unobserved old found observed
    rw [present] at found
    obtain rfl := Option.some.inj found
    rw [unobserved] at observed
    cases observed

theorem Evident.restated {status : AssetStatus} (evident : evidence.Evident context store)
    (present : store.get? (described.key record) = some record) (unobserved : evidence.observed record = false) :
    evidence.Evident context (Registries.save described (described.withStatus record status) store) := by
  apply evident.save (held_withStatus status (evident.held _ record present))
  · intro observed
    rw [evidence.observed_withStatus, unobserved] at observed
    cases observed
  · intro observed
    rw [evidence.observed_withStatus, unobserved] at observed
    cases observed

section Deprecated

variable {records : List R}

theorem kept_deprecateAll (present : ∀ record ∈ records, store.get? (described.key record) = some record)
    (unobserved : ∀ record ∈ records, evidence.observed record = false) :
    evidence.Kept store (described.deprecateAll records store) := by
  intro key old found observed
  rw [Described.get?_deprecateAll_of_not_mem, found]
  rintro record member rfl
  rw [present record member] at found
  obtain rfl := Option.some.inj found
  rw [unobserved record member] at observed
  cases observed

theorem Evident.deprecated (evident : evidence.Evident context store) (distinct : (records.map described.key).Nodup)
    (present : ∀ record ∈ records, store.get? (described.key record) = some record)
    (unobserved : ∀ record ∈ records, evidence.observed record = false) :
    evidence.Evident context (described.deprecateAll records store) where
  keyed := by
    intro key found read
    rcases Described.get?_deprecateAll_cases distinct read with ⟨record, -, rfl, rfl⟩ | ⟨old, -⟩
    · exact described.key_withStatus _ _
    · exact evident.keyed old
  held := by
    intro key found read
    rcases Described.get?_deprecateAll_cases distinct read with ⟨record, member, -, rfl⟩ | ⟨old, -⟩
    · exact held_withStatus _ (evident.held _ record (present record member))
    · exact evident.held key found old
  derived := by
    intro key found read observed
    rcases Described.get?_deprecateAll_cases distinct read with ⟨record, member, -, rfl⟩ | ⟨old, -⟩
    · rw [evidence.observed_withStatus, unobserved record member] at observed
      cases observed
    · exact evident.derived old observed
  active := by
    intro key found read observed
    rcases Described.get?_deprecateAll_cases distinct read with ⟨record, member, -, rfl⟩ | ⟨old, -⟩
    · rw [evidence.observed_withStatus, unobserved record member] at observed
      cases observed
    · exact evident.active old observed

end Deprecated

section Activation

theorem activateAmong_store (retire announce : R → Except Raised Unit) (target : R) (versions : List R) :
    (activateAmong described retire announce target versions store).2 =
        described.deprecateAll (demoted described retire target versions) store ∨
      (activateAmong described retire announce target versions store).2 =
        save described (described.withStatus target .active)
          (described.deprecateAll (demoted described retire target versions) store) := by
  have left : (deprecateOthers described retire target versions store).2 =
      described.deprecateAll (demoted described retire target versions) store := deprecateOthers_eq retire target versions
  unfold activateAmong
  rcases outcome : deprecateOthers described retire target versions store with ⟨result, after⟩
  rw [outcome] at left
  dsimp only at left
  subst left
  cases result with
  | error raised => exact Or.inl rfl
  | ok done => exact Or.inr rfl

variable [DecidableEq N] {retire announce : R → Except Raised Unit} {target : R}

/-- An activation keeps the evidence exactly when none of the records it demotes is evidence. -/
theorem activation_kept_iff (evident : evidence.Evident context store)
    (present : store.get? (described.key target) = some target) (asset : AssetName N) :
    evidence.Kept store
        (activateAmong described retire announce target (findByName described store asset) store).2 ↔
      ∀ record ∈ demoted described retire target (findByName described store asset),
        evidence.observed record = false := by
  have stored : ∀ record ∈ demoted described retire target (findByName described store asset),
      store.get? (described.key record) = some record ∧ described.status record = .active ∧
        described.key record ≠ described.key target := fun record member => demoted_stored evident.keyed member
  have distinct : ((demoted described retire target (findByName described store asset)).map described.key).Nodup :=
    demoted_distinct evident.keyed asset
  constructor
  · intro kept record member
    by_contra observed
    have observed : evidence.observed record = true := by simpa using observed
    obtain ⟨found, -, apart⟩ := stored record member
    have still := kept _ record found observed
    have demotion : (described.deprecateAll (demoted described retire target (findByName described store asset))
        store).get? (described.key record) = some (described.withStatus record .deprecated) :=
      Described.get?_deprecateAll_of_mem distinct member
    have changed : described.withStatus record .deprecated = record := by
      rcases activateAmong_store retire announce target (findByName described store asset) with left | left
      · rw [left, demotion] at still
        exact Option.some.inj still
      · rw [left] at still
        unfold save at still
        rw [described.key_withStatus, Dict.get?_set_of_ne _ apart, demotion] at still
        exact Option.some.inj still
    have active := evident.active found observed
    rw [← changed, described.status_withStatus] at active
    cases active
  · intro unobserved
    have before : evidence.Kept store (described.deprecateAll
        (demoted described retire target (findByName described store asset)) store) :=
      kept_deprecateAll (fun record member => (stored record member).1) unobserved
    rcases activateAmong_store retire announce target (findByName described store asset) with left | left
    · rw [left]
      exact before
    · rw [left]
      refine before.trans (kept_save.mpr ?_)
      intro old found observed
      rw [described.key_withStatus,
        Described.get?_deprecateAll_of_not_mem fun record member => (stored record member).2.2, present] at found
      obtain rfl := Option.some.inj found
      rw [← evident.active present observed, evidence.withStatus_self]

theorem Evident.activated (evident : evidence.Evident context store)
    (present : store.get? (described.key target) = some target) (asset : AssetName N)
    (unobserved : ∀ record ∈ demoted described retire target (findByName described store asset),
      evidence.observed record = false) :
    evidence.Evident context
      (activateAmong described retire announce target (findByName described store asset) store).2 := by
  have stored : ∀ record ∈ demoted described retire target (findByName described store asset),
      store.get? (described.key record) = some record := fun record member => (demoted_stored evident.keyed member).1
  have distinct : ((demoted described retire target (findByName described store asset)).map described.key).Nodup :=
    demoted_distinct evident.keyed asset
  have before := evident.deprecated distinct stored unobserved
  rcases activateAmong_store retire announce target (findByName described store asset) with left | left
  · rw [left]
    exact before
  · rw [left]
    apply before.save (held_withStatus _ (evident.held _ target present))
    · intro observed
      rw [evidence.observed_withStatus] at observed
      rw [described.key_withStatus, evidence.derivedId_withStatus]
      exact evident.derived present observed
    · exact fun _ => described.status_withStatus _ _

end Activation

end Evidence

/-! ## The evidence of the two registries -/

section Operations

variable {primitives : RegistryPrimitives} {context : TenantContext} {meets : RegistryMeets}

/-- The text the identifier of an observed prompt with these fields is derived from. -/
def promptIdentity (prompt : Prompt) : String :=
  PromptRegistry.observedIdentity prompt.record.organizationId prompt.record.projectId
    (prompt.record.sourceSystem.getD "") prompt.record.sourceReference prompt.record.name prompt.record.version
    (prompt.record.contentHash.getD "")

/-- Observed prompts. -/
def promptEvidence (primitives : RegistryPrimitives) : Evidence Prompt.described where
  observed prompt := prompt.record.provenance = .observed
  derivedId prompt := PromptRegistry.observedId primitives (promptIdentity prompt)
  unmanaged := by
    intro prompt observed
    simp only [decide_eq_true_eq] at observed
    simp [Prompt.described, observed]
  observed_withStatus _ _ := rfl
  derivedId_withStatus _ _ := rfl
  withStatus_self _ := rfl

/-- The text the identifier of an observed model with these fields is derived from. -/
def modelIdentity (model : Model) : String :=
  ModelRegistry.observedIdentity model.record.organizationId model.record.projectId
    (model.record.sourceSystem.getD "") model.record.sourceReference model.record.provider model.record.modelName
    model.record.version

/-- Observed models. -/
def modelEvidence (primitives : RegistryPrimitives) : Evidence Model.described where
  observed model := model.record.provenance = .observed
  derivedId model := ModelRegistry.observedId primitives (modelIdentity model)
  unmanaged := by
    intro model observed
    simp only [decide_eq_true_eq] at observed
    simp [Model.described, observed]
  observed_withStatus _ _ := rfl
  derivedId_withStatus _ _ := rfl
  withStatus_self _ := rfl

/-- The operation deprecates, archives and replaces no observed prompt: an observation that is recorded joins to a text
of its own, an activation demotes only other versions, and no observed prompt is archived. -/
def PromptOperation.Spares (primitives : RegistryPrimitives) (context : TenantContext) (meets : RegistryMeets)
    (store : PromptStore) : PromptOperation → Prop
  | .createPrompt _ | .versionPrompt _ => True
  | .observePrompt observation =>
    ∀ prompt, PromptRegistry.observed primitives context meets store observation = .ok (.inr prompt) →
      ∀ promptId old, store.get? promptId = some old → old.record.provenance = .observed →
        promptIdentity old ≠ promptIdentity prompt
  | .activatePrompt promptId =>
    ∀ prompt versions, PromptRegistry.activated context store promptId = .ok (prompt, versions) →
      ∀ other ∈ demoted Prompt.described (PromptRegistry.publishPromptEvent meets "PromptVersionDeprecated") prompt
        versions, other.record.provenance ≠ .observed
  | .archivePrompt promptId =>
    ∀ prompt, PromptRegistry.getPrompt context store promptId = .ok prompt → prompt.record.provenance ≠ .observed

/-- The operation deprecates and replaces no observed model. -/
def ModelOperation.Spares (primitives : RegistryPrimitives) (context : TenantContext) (meets : RegistryMeets)
    (store : ModelStore) : ModelOperation → Prop
  | .registerModel _ _ | .createModelVersion _ | .deprecateModelVersion _ | .archiveModel _ => True
  | .observeModel observation =>
    ∀ model, ModelRegistry.observed primitives context meets store observation = .ok (.inr model) →
      ∀ modelId old, store.get? modelId = some old → old.record.provenance = .observed →
        modelIdentity old ≠ modelIdentity model
  | .activateModelVersion modelId =>
    ∀ model versions, ModelRegistry.activated context store modelId = .ok (model, versions) →
      ∀ other ∈ demoted Model.described (ModelRegistry.publishModelEvent meets "ModelVersionDeprecated") model
        versions, other.record.provenance ≠ .observed

variable {store : PromptStore}

namespace PromptRegistry

theorem observedId_injective (injective : Function.Injective primitives.uuid5) :
    Function.Injective (observedId primitives) := by
  intro left right same
  exact String.append_right_inj _ |>.mp (injective same)

theorem observed_recorded {observation : PromptObservation} {prompt : Prompt}
    (made : observed primitives context meets store observation = .ok (.inr prompt)) :
    prompt.record.promptId = observedId primitives (promptIdentity prompt) ∧ prompt.record.provenance = .observed ∧
      prompt.record.status = .active ∧ prompt.record.sourceSystem = some observation.sourceSystem ∧
      prompt.record.sourceReference = observation.sourceReference ∧ prompt.record.name = observation.name ∧
      prompt.record.version = observation.version := by
  obtain ⟨hash, resolved, made⟩ := bind_ok made
  obtain ⟨asset, found, made⟩ := bind_ok made
  cases looked : findByNameAndVersion Prompt.described store asset observation.version with
  | some existing =>
    rw [looked] at made
    dsimp only at made
    split at made <;> cases made
  | none =>
    rw [looked] at made
    obtain ⟨_, created, same⟩ := map_ok made
    cases same
    apply Checked.created_induct created
    intro valid
    exact ⟨rfl, rfl, rfl, rfl, rfl, rfl, rfl⟩

end PromptRegistry

theorem PromptOperation.kept_iff (injective : Function.Injective primitives.uuid5) (operation : PromptOperation)
    (evident : (promptEvidence primitives).Evident context store) (fresh : store.get? meets.generatedId = none) :
    ((promptEvidence primitives).Kept store (operation.serve primitives context meets store).2 ↔
        operation.Spares primitives context meets store) ∧
      (operation.Spares primitives context meets store →
        (promptEvidence primitives).Evident context (operation.serve primitives context meets store).2) := by
  have present : ∀ {promptId prompt}, PromptRegistry.getPrompt context store promptId = .ok prompt →
      store.get? (Prompt.described.key prompt) = some prompt := by
    intro promptId prompt found
    have stored := (PromptRegistry.getPrompt_eq_ok found).1
    rw [evident.keyed stored]
    exact stored
  cases operation with
  | createPrompt registration =>
    dsimp only [serve, PromptRegistry.createPrompt]
    cases made : PromptRegistry.registered primitives context meets store registration with
    | error raised => exact evident.unchanged trivial
    | ok prompt =>
      exact Evidence.registered_kept trivial evident fresh (PromptRegistry.registered_new made)
  | versionPrompt revision =>
    dsimp only [serve, PromptRegistry.versionPrompt]
    cases made : PromptRegistry.revised primitives context meets store revision with
    | error raised => exact evident.unchanged trivial
    | ok prompt =>
      exact Evidence.registered_kept trivial evident fresh (PromptRegistry.revised_new made)
  | observePrompt observation =>
    dsimp only [serve, PromptRegistry.observePrompt, Spares]
    cases made : PromptRegistry.observed primitives context meets store observation with
    | error raised =>
      exact evident.unchanged (by rintro _ ⟨⟩)
    | ok outcome =>
      cases outcome with
      | inl existing =>
        exact evident.unchanged (by rintro _ ⟨⟩)
      | inr prompt =>
        have new := PromptRegistry.observed_new made
        obtain ⟨key, observed, active, -⟩ := PromptRegistry.observed_recorded made
        constructor
        · refine (Evidence.observed_kept_iff evident key new.unrecorded).trans ?_
          constructor
          · intro apart other same promptId old found recorded alike
            obtain rfl : prompt = other := Sum.inr.inj (Except.ok.inj same)
            apply apart promptId old found (decide_eq_true recorded)
            exact congrArg (PromptRegistry.observedId primitives) alike
          · intro apart promptId old found recorded alike
            apply apart prompt rfl promptId old found (of_decide_eq_true recorded)
            exact PromptRegistry.observedId_injective injective alike
        · intro _
          exact evident.save ⟨new.organization, new.project, fun _ => id⟩ (fun _ => key) (fun _ => active)
  | activatePrompt promptId =>
    dsimp only [serve, PromptRegistry.activatePrompt, Spares]
    cases made : PromptRegistry.activated context store promptId with
    | error raised =>
      exact evident.unchanged (by rintro _ _ ⟨⟩)
    | ok outcome =>
      obtain ⟨prompt, versions⟩ := outcome
      obtain ⟨found, -, rfl⟩ := PromptRegistry.activated_found made
      dsimp only
      constructor
      · refine (Evidence.activation_kept_iff evident (present found) _).trans ?_
        constructor
        · intro unobserved other versions same
          cases same
          exact fun record member => of_decide_eq_false (unobserved record member)
        · exact fun spared record member => decide_eq_false (spared prompt _ rfl record member)
      · intro spared
        apply evident.activated (present found)
        exact fun record member => decide_eq_false (spared prompt _ rfl record member)
  | archivePrompt promptId =>
    dsimp only [serve, PromptRegistry.archivePrompt, Spares]
    cases found : PromptRegistry.getPrompt context store promptId with
    | error raised =>
      exact evident.unchanged (by rintro _ ⟨⟩)
    | ok prompt =>
      dsimp only
      by_cases archived : prompt.record.status = .archived
      · rw [if_pos archived]
        refine evident.unchanged fun other same observed => ?_
        cases same
        have active := evident.active (present found) (decide_eq_true observed)
        rw [show Prompt.described.status prompt = .archived from archived] at active
        cases active
      · rw [if_neg archived]
        have inactive : VersionStatus.archived ≠ .active := nofun
        constructor
        · refine (Evidence.restated_kept_iff evident (present found) inactive).trans ?_
          constructor
          · intro unobserved other same
            cases same
            exact of_decide_eq_false unobserved
          · exact fun spared => decide_eq_false (spared prompt rfl)
        · intro spared
          exact evident.restated (present found) (decide_eq_false (spared prompt rfl))

variable {models : ModelStore}

namespace ModelRegistry

theorem observedId_injective (injective : Function.Injective primitives.uuid5) :
    Function.Injective (observedId primitives) := by
  intro left right same
  exact String.append_right_inj _ |>.mp (injective same)

theorem observed_recorded {observation : ModelObservation} {model : Model}
    (made : observed primitives context meets models observation = .ok (.inr model)) :
    model.record.modelId = observedId primitives (modelIdentity model) ∧ model.record.provenance = .observed ∧
      model.record.status = .active ∧ model.record.sourceSystem = some observation.sourceSystem ∧
      model.record.sourceReference = observation.sourceReference ∧ model.record.provider = observation.provider ∧
      model.record.modelName = observation.modelName ∧ model.record.version = observation.version := by
  obtain ⟨asset, found, made⟩ := bind_ok made
  cases looked : findByNameAndVersion Model.described models asset observation.version with
  | some existing =>
    rw [looked] at made
    dsimp only at made
    split at made <;> cases made
  | none =>
    rw [looked] at made
    obtain ⟨_, created, same⟩ := map_ok made
    cases same
    apply Checked.created_induct created
    intro valid
    exact ⟨rfl, rfl, rfl, rfl, rfl, rfl, rfl, rfl⟩

end ModelRegistry

theorem unobserved_of_managed {model : Model} (managed : model.record.provenance = .managed) :
    (modelEvidence primitives).observed model = false :=
  decide_eq_false (by simp [managed])

theorem ModelOperation.kept_iff (injective : Function.Injective primitives.uuid5) (operation : ModelOperation)
    (evident : (modelEvidence primitives).Evident context models) (fresh : models.get? meets.generatedId = none) :
    ((modelEvidence primitives).Kept models (operation.serve primitives context meets models).2 ↔
        operation.Spares primitives context meets models) ∧
      (operation.Spares primitives context meets models →
        (modelEvidence primitives).Evident context (operation.serve primitives context meets models).2) := by
  have present : ∀ {modelId model}, ModelRegistry.getModel context models modelId = .ok model →
      models.get? (Model.described.key model) = some model := by
    intro modelId model found
    have stored := (ModelRegistry.getModel_eq_ok found).1
    rw [evident.keyed stored]
    exact stored
  cases operation with
  | registerModel allowed registration =>
    dsimp only [serve, ModelRegistry.registerModel]
    cases made : ModelRegistry.registered context meets allowed models registration with
    | error raised => exact evident.unchanged trivial
    | ok model =>
      exact Evidence.registered_kept trivial evident fresh (ModelRegistry.registered_new made)
  | createModelVersion revision =>
    dsimp only [serve, ModelRegistry.createModelVersion]
    cases made : ModelRegistry.revised context meets models revision with
    | error raised => exact evident.unchanged trivial
    | ok model =>
      exact Evidence.registered_kept trivial evident fresh (ModelRegistry.revised_new made)
  | observeModel observation =>
    dsimp only [serve, ModelRegistry.observeModel, Spares]
    cases made : ModelRegistry.observed primitives context meets models observation with
    | error raised =>
      exact evident.unchanged (by rintro _ ⟨⟩)
    | ok outcome =>
      cases outcome with
      | inl existing =>
        exact evident.unchanged (by rintro _ ⟨⟩)
      | inr model =>
        have new := ModelRegistry.observed_new made
        obtain ⟨key, observed, active, -⟩ := ModelRegistry.observed_recorded made
        constructor
        · refine (Evidence.observed_kept_iff evident key new.unrecorded).trans ?_
          constructor
          · intro apart other same modelId old found recorded alike
            obtain rfl : model = other := Sum.inr.inj (Except.ok.inj same)
            apply apart modelId old found (decide_eq_true recorded)
            exact congrArg (ModelRegistry.observedId primitives) alike
          · intro apart modelId old found recorded alike
            apply apart model rfl modelId old found (of_decide_eq_true recorded)
            exact ModelRegistry.observedId_injective injective alike
        · intro _
          exact evident.save ⟨new.organization, new.project, fun _ => id⟩ (fun _ => key) (fun _ => active)
  | activateModelVersion modelId =>
    dsimp only [serve, ModelRegistry.activateModelVersion, Spares]
    cases made : ModelRegistry.activated context models modelId with
    | error raised =>
      exact evident.unchanged (by rintro _ _ ⟨⟩)
    | ok outcome =>
      obtain ⟨model, versions⟩ := outcome
      obtain ⟨transitioned, rfl⟩ := ModelRegistry.activated_found made
      have found := (ModelRegistry.transitioned_eq_ok transitioned).1
      dsimp only
      constructor
      · refine (Evidence.activation_kept_iff evident (present found) _).trans ?_
        constructor
        · intro unobserved other versions same
          cases same
          exact fun record member => of_decide_eq_false (unobserved record member)
        · exact fun spared record member => decide_eq_false (spared model _ rfl record member)
      · intro spared
        apply evident.activated (present found)
        exact fun record member => decide_eq_false (spared model _ rfl record member)
  | deprecateModelVersion modelId =>
    dsimp only [serve, ModelRegistry.deprecateModelVersion]
    cases made : ModelRegistry.transitioned context models modelId "deprecated" with
    | error raised => exact evident.unchanged trivial
    | ok model =>
      obtain ⟨found, managed, -⟩ := ModelRegistry.transitioned_eq_ok made
      have inactive : VersionStatus.deprecated ≠ .active := nofun
      have unobserved : (modelEvidence primitives).observed model = false := unobserved_of_managed managed
      constructor
      · exact iff_of_true ((Evidence.restated_kept_iff evident (present found) inactive).mpr unobserved) trivial
      · exact fun _ => evident.restated (present found) unobserved
  | archiveModel modelId =>
    dsimp only [serve, ModelRegistry.archiveModel]
    cases made : ModelRegistry.archivable context models modelId with
    | error raised => exact evident.unchanged trivial
    | ok model =>
      obtain ⟨stored, found, rest⟩ := bind_ok made
      obtain ⟨_, managed, rest⟩ := bind_ok rest
      cases rest
      have inactive : VersionStatus.archived ≠ .active := nofun
      have unobserved : (modelEvidence primitives).observed model = false :=
        unobserved_of_managed (ModelRegistry.requireManagedLifecycle_eq_ok managed)
      dsimp only
      by_cases archived : model.record.status = .archived
      · rw [if_pos archived]
        exact evident.unchanged trivial
      · rw [if_neg archived]
        constructor
        · exact iff_of_true ((Evidence.restated_kept_iff evident (present found) inactive).mpr unobserved) trivial
        · exact fun _ => evident.restated (present found) unobserved

/-! ## What an observation answers -/

/-- What identifies an observed prompt: its source, its name and its version. -/
def observedPromptAs (prompt : Prompt) : Option String × Option String × String × String :=
  (prompt.record.sourceSystem, prompt.record.sourceReference, prompt.record.name, prompt.record.version)

def PromptObservation.identity (observation : PromptObservation) : Option String × Option String × String × String :=
  (some observation.sourceSystem, observation.sourceReference, observation.name, observation.version)

/-- What identifies an observed model. -/
def observedModelAs (model : Model) : Option String × Option String × String × String × String :=
  (model.record.sourceSystem, model.record.sourceReference, model.record.provider, model.record.modelName,
    model.record.version)

def ModelObservation.identity (observation : ModelObservation) :
    Option String × Option String × String × String × String :=
  (some observation.sourceSystem, observation.sourceReference, observation.provider, observation.modelName,
    observation.version)

theorem observePrompt_answer {observation : PromptObservation} {prompt : Prompt}
    (keyed : ∀ {key record}, store.get? key = some record → Prompt.described.key record = key)
    (answered : (PromptRegistry.observePrompt primitives context meets observation store).1 = .ok prompt) :
    (PromptRegistry.observePrompt primitives context meets observation store).2.get? prompt.record.promptId =
        some prompt ∧
      prompt.record.provenance = .observed ∧ observedPromptAs prompt = observation.identity := by
  unfold PromptRegistry.observePrompt at answered ⊢
  cases made : PromptRegistry.observed primitives context meets store observation with
  | error raised =>
    rw [made] at answered
    cases answered
  | ok outcome =>
    rw [made] at answered
    cases outcome with
    | inr recorded =>
      obtain ⟨_, -, same⟩ := map_ok answered
      cases same
      obtain ⟨-, observed, -, system, reference, name, version⟩ := PromptRegistry.observed_recorded made
      refine ⟨Dict.get?_set_self _, observed, ?_⟩
      unfold observedPromptAs PromptObservation.identity
      rw [system, reference, name, version]
    | inl existing =>
      cases answered
      obtain ⟨hash, -, made⟩ := bind_ok made
      obtain ⟨asset, named, made⟩ := bind_ok made
      obtain ⟨project, -, rfl⟩ := PromptRegistry.named_eq_ok named
      cases looked : findByNameAndVersion Prompt.described store
          ⟨context.scope.organizationId, project, observation.name⟩ observation.version with
      | none =>
        rw [looked] at made
        obtain ⟨_, -, other⟩ := map_ok made
        cases other
      | some found =>
        rw [looked] at made
        dsimp only at made
        split at made
        · rename_i evidence
          cases made
          obtain ⟨⟨key, stored⟩, asset, version⟩ := findByNameAndVersion_eq_some looked
          obtain rfl := keyed stored
          refine ⟨stored, evidence.1, ?_⟩
          have name : prompt.record.name = observation.name := congrArg AssetName.name asset
          unfold observedPromptAs PromptObservation.identity
          rw [evidence.2.1, evidence.2.2.1, name]
          exact congrArg _ (congrArg _ (congrArg _ version))
        · cases made

theorem observeModel_answer {observation : ModelObservation} {model : Model}
    (keyed : ∀ {key record}, models.get? key = some record → Model.described.key record = key)
    (answered : (ModelRegistry.observeModel primitives context meets observation models).1 = .ok model) :
    (ModelRegistry.observeModel primitives context meets observation models).2.get? model.record.modelId = some model ∧
      model.record.provenance = .observed ∧ observedModelAs model = observation.identity := by
  unfold ModelRegistry.observeModel at answered ⊢
  cases made : ModelRegistry.observed primitives context meets models observation with
  | error raised =>
    rw [made] at answered
    cases answered
  | ok outcome =>
    rw [made] at answered
    cases outcome with
    | inr recorded =>
      obtain ⟨_, -, same⟩ := map_ok answered
      cases same
      obtain ⟨-, observed, -, system, reference, provider, name, version⟩ := ModelRegistry.observed_recorded made
      refine ⟨Dict.get?_set_self _, observed, ?_⟩
      unfold observedModelAs ModelObservation.identity
      rw [system, reference, provider, name, version]
    | inl existing =>
      cases answered
      obtain ⟨asset, named, made⟩ := bind_ok made
      obtain ⟨project, -, rfl⟩ := ModelRegistry.named_eq_ok named
      cases looked : findByNameAndVersion Model.described models
          ⟨context.scope.organizationId, project, observation.provider, observation.modelName⟩
          observation.version with
      | none =>
        rw [looked] at made
        obtain ⟨_, -, other⟩ := map_ok made
        cases other
      | some found =>
        rw [looked] at made
        dsimp only at made
        split at made
        · rename_i evidence
          cases made
          obtain ⟨⟨key, stored⟩, asset, version⟩ := findByNameAndVersion_eq_some looked
          obtain rfl := keyed stored
          unfold ModelRegistry.sameEvidence at evidence
          simp only [Bool.and_eq_true, decide_eq_true_eq] at evidence
          obtain ⟨⟨⟨⟨⟨⟨observed, system⟩, reference⟩, -⟩, -⟩, -⟩, -⟩ := evidence
          refine ⟨stored, observed, ?_⟩
          have name := congrArg AssetName.name asset
          have provider : model.record.provider = observation.provider := congrArg Prod.fst name
          have modelName : model.record.modelName = observation.modelName := congrArg Prod.snd name
          unfold observedModelAs ModelObservation.identity
          rw [system, reference, provider, modelName]
          exact congrArg _ (congrArg _ (congrArg _ (congrArg _ version)))
        · cases made

end Operations

/-! ## Runs -/

/-- The observed records stay as they are. -/
def RegistryStores.KeepsEvidence (before after : RegistryStores) : Prop :=
  (∀ promptId prompt, before.prompts.get? promptId = some prompt → prompt.record.provenance = .observed →
    after.prompts.get? promptId = some prompt) ∧
  ∀ modelId model, before.models.get? modelId = some model → model.record.provenance = .observed →
    after.models.get? modelId = some model

/-- The identifier a call draws is not in use. -/
def RegistryCall.DrawsNew (stores : RegistryStores) : RegistryCall → Prop
  | .prompt _ meets => stores.prompts.get? meets.generatedId = none
  | .model _ meets => stores.models.get? meets.generatedId = none

instance (stores : RegistryStores) (call : RegistryCall) : Decidable (call.DrawsNew stores) :=
  match call with
  | .prompt _ meets => inferInstanceAs (Decidable (stores.prompts.get? meets.generatedId = none))
  | .model _ meets => inferInstanceAs (Decidable (stores.models.get? meets.generatedId = none))

/-- The call deprecates, archives and replaces no observed record. -/
def RegistryCall.Spares (primitives : RegistryPrimitives) (context : TenantContext) (stores : RegistryStores) :
    RegistryCall → Prop
  | .prompt operation meets => operation.Spares primitives context meets stores.prompts
  | .model operation meets => operation.Spares primitives context meets stores.models

/-- Evidence is immutable in a run: what is observed stays as it is, and observations of different identities that are
answered are stored as two records. -/
structure ImmutableEvidence (primitives : RegistryPrimitives) (context : TenantContext) (calls : List RegistryCall) :
    Prop where
  kept : ∀ earlier middle later, calls = earlier ++ (middle ++ later) →
    ((registries primitives context).after earlier .empty).KeepsEvidence
      ((registries primitives context).after (earlier ++ middle) .empty)
  prompts : ∀ earlier middle later first firstMeets second secondMeets left right,
    calls = earlier ++ .prompt (.observePrompt first) firstMeets ::
      (middle ++ .prompt (.observePrompt second) secondMeets :: later) →
    first.identity ≠ second.identity →
    ((registries primitives context).serve (.prompt (.observePrompt first) firstMeets)
      ((registries primitives context).after earlier .empty)).1 = .ok (.inl left) →
    ((registries primitives context).serve (.prompt (.observePrompt second) secondMeets)
      ((registries primitives context).after (earlier ++ .prompt (.observePrompt first) firstMeets :: middle)
        .empty)).1 = .ok (.inl right) →
    left.record.promptId ≠ right.record.promptId ∧
      ((registries primitives context).after calls .empty).prompts.get? left.record.promptId = some left ∧
      ((registries primitives context).after calls .empty).prompts.get? right.record.promptId = some right
  models : ∀ earlier middle later first firstMeets second secondMeets left right,
    calls = earlier ++ .model (.observeModel first) firstMeets ::
      (middle ++ .model (.observeModel second) secondMeets :: later) →
    first.identity ≠ second.identity →
    ((registries primitives context).serve (.model (.observeModel first) firstMeets)
      ((registries primitives context).after earlier .empty)).1 = .ok (.inr left) →
    ((registries primitives context).serve (.model (.observeModel second) secondMeets)
      ((registries primitives context).after (earlier ++ .model (.observeModel first) firstMeets :: middle)
        .empty)).1 = .ok (.inr right) →
    left.record.modelId ≠ right.record.modelId ∧
      ((registries primitives context).after calls .empty).models.get? left.record.modelId = some left ∧
      ((registries primitives context).after calls .empty).models.get? right.record.modelId = some right

/-- What holds of both stores as long as their evidence is kept. -/
structure RegistryStores.Evident (primitives : RegistryPrimitives) (context : TenantContext)
    (stores : RegistryStores) : Prop where
  prompts : (promptEvidence primitives).Evident context stores.prompts
  models : (modelEvidence primitives).Evident context stores.models

section Runs

variable {primitives : RegistryPrimitives} {context : TenantContext} {stores : RegistryStores} {call : RegistryCall}

variable (primitives) in
theorem keepsEvidence_iff {before after : RegistryStores} : before.KeepsEvidence after ↔
    (promptEvidence primitives).Kept before.prompts after.prompts ∧
      (modelEvidence primitives).Kept before.models after.models := by
  apply and_congr
  · exact forall_congr' fun _ => forall_congr' fun _ => forall_congr' fun _ =>
      imp_congr_left decide_eq_true_iff.symm
  · exact forall_congr' fun _ => forall_congr' fun _ => forall_congr' fun _ =>
      imp_congr_left decide_eq_true_iff.symm

theorem RegistryStores.KeepsEvidence.refl (stores : RegistryStores) : stores.KeepsEvidence stores :=
  ⟨fun _ _ found _ => found, fun _ _ found _ => found⟩

theorem RegistryStores.KeepsEvidence.trans {first second third : RegistryStores}
    (before : first.KeepsEvidence second) (after : second.KeepsEvidence third) : first.KeepsEvidence third where
  left promptId prompt found observed := after.1 promptId prompt (before.1 promptId prompt found observed) observed
  right modelId model found observed := after.2 modelId model (before.2 modelId model found observed) observed

theorem serve_keepsEvidence_iff (injective : Function.Injective primitives.uuid5)
    (evident : stores.Evident primitives context) (fresh : call.DrawsNew stores) :
    stores.KeepsEvidence ((registries primitives context).serve call stores).2 ↔
      call.Spares primitives context stores := by
  rw [keepsEvidence_iff primitives]
  cases call with
  | prompt operation meets =>
    exact (and_iff_left (.refl _)).trans (operation.kept_iff injective evident.prompts fresh).1
  | model operation meets =>
    exact (and_iff_right (.refl _)).trans (operation.kept_iff injective evident.models fresh).1

theorem serve_evident (injective : Function.Injective primitives.uuid5) (evident : stores.Evident primitives context)
    (fresh : call.DrawsNew stores) (spares : call.Spares primitives context stores) :
    ((registries primitives context).serve call stores).2.Evident primitives context := by
  cases call with
  | prompt operation meets => exact ⟨(operation.kept_iff injective evident.prompts fresh).2 spares, evident.models⟩
  | model operation meets => exact ⟨evident.prompts, (operation.kept_iff injective evident.models fresh).2 spares⟩

theorem evident_empty : RegistryStores.empty.Evident primitives context := ⟨.empty, .empty⟩

/-- In a run that spares the evidence, it is kept from any point on. -/
theorem kept_of_spares (injective : Function.Injective primitives.uuid5) {calls : List RegistryCall}
    (fresh : (registries primitives context).Along RegistryCall.DrawsNew calls stores)
    (spares : (registries primitives context).Along (RegistryCall.Spares primitives context) calls stores)
    (evident : stores.Evident primitives context) :
    stores.KeepsEvidence ((registries primitives context).after calls stores) ∧
      ((registries primitives context).after calls stores).Evident primitives context := by
  have along := fresh.and spares
  have next : ∀ {stores call}, stores.Evident primitives context →
      call.DrawsNew stores ∧ call.Spares primitives context stores →
        ((registries primitives context).serve call stores).2.Evident primitives context :=
    fun evident condition => serve_evident injective evident condition.1 condition.2
  constructor
  · apply along.related next .refl .trans _ evident
    exact fun evident condition => (serve_keepsEvidence_iff injective evident condition.1).mpr condition.2
  · exact along.invariant next evident

end Runs

/-! ## Observed and managed versions of one model -/

theorem tagged_injective : Function.Injective taggedPrimitives.uuid5 := by
  intro left right same
  exact String.append_right_inj _ |>.mp same

/-- The version of a model that a catalogue reports. -/
def reported (version : String) : RegistryCall :=
  .model (.observeModel {
    provider := "openai"
    modelName := "gpt"
    version
    sourceSystem := "gateway"
    sourceReference := none
    parameters := []
    contextWindow := 8192
    observedBy := "gateway" }) (quietly "model-0")

/-- Two versions of a model are observed. -/
def reportedTwice : List RegistryCall := [reported "1", reported "2"]

/-- A version is observed, and another of the same model registered and activated. -/
def reportedThenActivated : List RegistryCall := [
  reported "1",
  .model (.registerModel none {
    provider := "openai"
    modelName := "gpt"
    version := "2"
    parameters := []
    contextWindow := 8192
    creator := "ada" }) (quietly "model-2"),
  .model (.activateModelVersion "model-2") (quietly "model-3")]

end AiGovernance.Registries
