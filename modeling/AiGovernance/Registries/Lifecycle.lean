import AiGovernance.Semantics.Machine
import AiGovernance.Services.ModelRegistry
import AiGovernance.Services.PromptRegistry

/-!
# The lifecycle of registered assets

Prompts and models are catalogues of versions. Every operation of either
registry is a run of catalogue steps, whatever its publishers raise in between,
and what the registry itself refuses changes nothing. So the rules of a
catalogue hold at every point of every run.
-/

namespace AiGovernance.Registries

open AiGovernance.Std Domain Semantics

variable {derived : String → Prop} {generatedId : String}

/-- The conflict, lifecycle and not-found errors of the registries. -/
def registryErrors : List ErrorKind :=
  [.promptNotFoundError, .promptVersionConflictError, .promptLifecycleError, .modelNotFoundError,
    .modelVersionConflictError, .modelLifecycleError]

/-- The publishers of a call raise errors of their own. -/
structure RegistryMeets.Foreign (meets : RegistryMeets) : Prop where
  entity : ∀ event raised, meets.publishEntityEvent event = .error raised → raised.kind ∉ registryErrors
  resource : ∀ event raised, meets.publish event = .error raised → raised.kind ∉ registryErrors

section Lawful

variable {R N C : Type} {described : Described R String (AssetName N) String C}

/-- What an operation does: a run of catalogue steps, or nothing where the registry refuses it, and it keeps what is
true of every record whatever its status. -/
structure Lawful (described : Described R String (AssetName N) String C) (belongs : R → Prop) (store : Dict String R)
    (outcome : Except Raised R × Dict String R) : Prop where
  changes : described.Changes store outcome.2
  refused : ∀ raised, outcome.1 = .error raised → raised.kind ∈ registryErrors → outcome.2 = store
  members : ∀ key record, outcome.2.get? key = some record → belongs record

variable {belongs : R → Prop} {store : Dict String R} {publish : R → Except Raised Unit}

theorem lawful_unchanged (members : ∀ key record, store.get? key = some record → belongs record)
    (result : Except Raised R) : Lawful described belongs store (result, store) where
  changes := .refl
  refused := fun _ _ _ => rfl
  members := members

variable {record : R}

/-- A save that is announced is one step; only the publisher raises. -/
theorem lawful_saveAndPublish {before : Dict String R}
    (foreign : ∀ record raised, publish record = .error raised → raised.kind ∉ registryErrors)
    (earlier : described.Changes before store) (change : described.Change store (save described record store))
    (members : ∀ key record, store.get? key = some record → belongs record) (belonging : belongs record) :
    Lawful described belongs before (saveAndPublish described publish record store) where
  changes := earlier.tail change
  refused := by
    intro raised failed kind
    unfold saveAndPublish at failed
    cases announced : publish record with
    | ok done =>
      rw [announced] at failed
      cases failed
    | error exception =>
      rw [announced] at failed
      cases failed
      exact absurd kind (foreign record raised announced)
  members := by
    intro key found read
    rcases Described.get?_set_cases read with ⟨-, rfl⟩ | ⟨-, old⟩
    · exact belonging
    · exact members key found old

/-- A new version in an unused or observed place. -/
theorem change_record [DecidableEq N] (unused : ∀ old, store.get? (described.key record) = some old →
      described.managed old = false ∧ described.managed record = false)
    (unrecorded : findByNameAndVersion described store (described.asset record) (described.version record) = none)
    (draft : described.managed record = true → described.status record = .draft) :
    described.Change store (save described record store) :=
  .record record unused (findByNameAndVersion_eq_none.mp unrecorded) draft

section Activation

variable [DecidableEq N] {retire announce : R → Except Raised Unit} {target : R}

/-- The versions an activation demotes are active, in the store, and other than its target. -/
theorem demoted_stored (keyed : ∀ {key record}, store.get? key = some record → described.key record = key) {asset : AssetName N} {record : R}
    (member : record ∈ demoted described retire target (findByName described store asset)) :
    store.get? (described.key record) = some record ∧ described.status record = .active ∧
      described.key record ≠ described.key target := by
  obtain ⟨listed, other, active⟩ := mem_demoted member
  obtain ⟨⟨key, found⟩, -⟩ := mem_findByName.mp listed
  obtain rfl := keyed found
  exact ⟨found, active, other⟩

theorem demoted_distinct (keyed : ∀ {key record}, store.get? key = some record → described.key record = key)
    (asset : AssetName N) :
    ((demoted described retire target (findByName described store asset)).map described.key).Nodup := by
  have listed : (demoted described retire target (findByName described store asset)).Sublist store.values :=
    (demoted_sublist).trans List.filter_sublist
  exact (Described.distinct_of_keyed keyed).sublist (listed.map described.key)

theorem changes_demoted (consistent : described.Consistent store) (asset : AssetName N) :
    described.Changes store
      (described.deprecateAll (demoted described retire target (findByName described store asset)) store) := by
  apply Described.changes_deprecateAll (demoted_distinct consistent.keyed asset)
  · exact fun record member => (demoted_stored consistent.keyed member).1
  · exact fun record member => (demoted_stored consistent.keyed member).2.1

/-- Once every other active version is demoted, the target may become the active one. -/
theorem change_activated (consistent : described.Consistent store)
    (present : store.get? (described.key target) = some target) (unarchived : described.status target ≠ .archived)
    (completed : (deprecateOthers described retire target (findByName described store (described.asset target))
      store).1 = .ok ()) {after : Dict String R}
    (left : after = described.deprecateAll
      (demoted described retire target (findByName described store (described.asset target))) store) :
    described.Change after (save described (described.withStatus target .active) after) := by
  have kept : after.get? (described.key target) = some target := by
    rw [left, Described.get?_deprecateAll_of_not_mem, present]
    exact fun record member => (demoted_stored consistent.keyed member).2.2
  unfold save
  rw [described.key_withStatus]
  apply Described.Change.restate target .active kept
  · exact fun _ archived => absurd archived unarchived
  · intro _ _ key other read managed asset active
    rw [left] at read
    rcases Described.get?_deprecateAll_cases (demoted_distinct consistent.keyed _) read with ⟨record, -, -, rfl⟩ | ⟨old, rest⟩
    · rw [described.status_withStatus] at active
      cases active
    · obtain rfl := consistent.keyed old
      by_contra different
      have listed := mem_findByName.mpr ⟨⟨_, old⟩, asset⟩
      exact rest other (mem_demoted_of_completed completed listed different active) rfl

theorem lawful_activation (consistent : described.Consistent store)
    (members : ∀ key record, store.get? key = some record → belongs record)
    (keeps : ∀ record status, belongs record → belongs (described.withStatus record status))
    (retiring : ∀ record raised, retire record = .error raised → raised.kind ∉ registryErrors)
    (announcing : ∀ record raised, announce record = .error raised → raised.kind ∉ registryErrors)
    (present : store.get? (described.key target) = some target) (unarchived : described.status target ≠ .archived) :
    Lawful described belongs store
      (activateAmong described retire announce target (findByName described store (described.asset target)) store) := by
  unfold activateAmong
  have left : (deprecateOthers described retire target (findByName described store (described.asset target)) store).2 =
      described.deprecateAll (demoted described retire target (findByName described store (described.asset target)))
        store := deprecateOthers_eq retire target _
  have failed : ∀ raised, (deprecateOthers described retire target
      (findByName described store (described.asset target)) store).1 = .error raised →
        ∃ record, retire record = .error raised := fun _ => deprecateOthers_error
  have completed : (deprecateOthers described retire target (findByName described store (described.asset target))
      store).1 = .ok () → ∀ after, after = described.deprecateAll
        (demoted described retire target (findByName described store (described.asset target))) store →
          described.Change after (save described (described.withStatus target .active) after) :=
    fun done _ => change_activated consistent present unarchived done
  have earlier : described.Changes store (described.deprecateAll
      (demoted described retire target (findByName described store (described.asset target))) store) :=
    changes_demoted consistent (described.asset target)
  have demotedMembers : ∀ key record, (described.deprecateAll (demoted described retire target
      (findByName described store (described.asset target))) store).get? key = some record → belongs record := by
    intro key record read
    rcases Described.get?_deprecateAll_cases (demoted_distinct consistent.keyed _) read with ⟨old, member, -, rfl⟩ | ⟨old, -⟩
    · exact keeps old _ (members _ old (demoted_stored consistent.keyed member).1)
    · exact members key record old
  rcases outcome : deprecateOthers described retire target (findByName described store (described.asset target)) store
    with ⟨result, after⟩
  rw [outcome] at left failed completed
  dsimp only at left failed completed
  cases result with
  | error raised =>
    refine ⟨left ▸ earlier, ?_, left ▸ demotedMembers⟩
    rintro _ ⟨⟩ kind
    obtain ⟨record, retired⟩ := failed raised rfl
    exact absurd kind (retiring record raised retired)
  | ok done =>
    refine lawful_saveAndPublish announcing (left ▸ earlier) (completed rfl after left) (left ▸ demotedMembers) ?_
    exact keeps target _ (members _ target present)

end Activation

/-! ## New records -/

/-- A record is its tenant's, and a managed one has no identifier that is derived for observations. -/
def Held (described : Described R String (AssetName N) String C) (context : TenantContext) (derived : String → Prop)
    (record : R) : Prop :=
  (described.asset record).organizationId = context.scope.organizationId ∧
    context.scope.projectId = some (described.asset record).projectId ∧
      (described.managed record = true → ¬ derived (described.key record))

/-- A consistent store of one tenant. -/
structure Sound (described : Described R String (AssetName N) String C) (context : TenantContext)
    (derived : String → Prop) (store : Dict String R) : Prop where
  consistent : described.Consistent store
  held : ∀ key record, store.get? key = some record → Held described context derived record

/-- The identifier drawn is new, and neither it nor the one the caller has chosen is derived for an observation. -/
structure FreshIds (derived : String → Prop) (store : Dict String R) (generatedId : String) (chosen : Option String) :
    Prop where
  generated : store.get? generatedId = none
  apart : ¬ derived generatedId
  chosen : ∀ recordId, chosen = some recordId → ¬ derived recordId

/-- A record that a registration makes. -/
structure NewManaged [DecidableEq N] (described : Described R String (AssetName N) String C) (context : TenantContext)
    (store : Dict String R) (generatedId : String) (chosen : Option String) (record : R) : Prop where
  managed : described.managed record = true
  draft : described.status record = .draft
  organization : (described.asset record).organizationId = context.scope.organizationId
  project : context.scope.projectId = some (described.asset record).projectId
  unrecorded : findByNameAndVersion described store (described.asset record) (described.version record) = none
  key : described.key record = generatedId ∨ (chosen = some (described.key record) ∧
    findById described store (described.key record) context.scope.organizationId (described.asset record).projectId =
      none)

/-- A record that an observation makes. -/
structure NewObserved [DecidableEq N] (described : Described R String (AssetName N) String C)
    (context : TenantContext) (derived : String → Prop) (store : Dict String R) (record : R) : Prop where
  observed : described.managed record = false
  organization : (described.asset record).organizationId = context.scope.organizationId
  project : context.scope.projectId = some (described.asset record).projectId
  unrecorded : findByNameAndVersion described store (described.asset record) (described.version record) = none
  derived : derived (described.key record)

theorem lawful_restated {context : TenantContext} {announce : R → Except Raised Unit}
    (sound : Sound described context derived store)
    (announcing : ∀ record raised, announce record = .error raised → raised.kind ∉ registryErrors)
    (present : store.get? (described.key record) = some record) (unarchived : described.status record ≠ .archived)
    {status : VersionStatus} (inactive : status ≠ .active) :
    Lawful described (Held described context derived) store
      (saveAndPublish described announce (described.withStatus record status) store) := by
  have change : described.Change store (save described (described.withStatus record status) store) := by
    unfold save
    rw [described.key_withStatus]
    apply Described.Change.restate record status present
    · exact fun _ archived => absurd archived unarchived
    · exact fun _ active => absurd active inactive
  apply lawful_saveAndPublish announcing .refl change sound.held
  have before := sound.held _ record present
  unfold Held
  rw [described.asset_withStatus, described.managed_withStatus, described.key_withStatus]
  exact before

section New

variable [DecidableEq N] {context : TenantContext} {derived : String → Prop} {announce : R → Except Raised Unit}
  {record : R}

/-- The store has no record under the identifier of a new managed one. -/
theorem NewManaged.unused {chosen : Option String}
    (new : NewManaged described context store generatedId chosen record)
    (held : ∀ key record, store.get? key = some record → Held described context derived record)
    (generated : store.get? generatedId = none) : store.get? (described.key record) = none := by
  rcases new.key with drawn | ⟨-, absent⟩
  · rw [drawn]
    exact generated
  · cases found : store.get? (described.key record) with
    | none => rfl
    | some old =>
      obtain ⟨organization, project, -⟩ := held _ old found
      have present := findById_eq_some.mpr ⟨found, organization, Option.some.inj (project.symm.trans new.project)⟩
      rw [present] at absent
      cases absent

theorem lawful_registered {chosen : Option String} (sound : Sound described context derived store)
    (fresh : FreshIds derived store generatedId chosen)
    (announcing : ∀ record raised, announce record = .error raised → raised.kind ∉ registryErrors)
    (new : NewManaged described context store generatedId chosen record) :
    Lawful described (Held described context derived) store (saveAndPublish described announce record store) := by
  have unused := new.unused sound.held fresh.generated
  apply lawful_saveAndPublish announcing .refl _ sound.held
  · refine ⟨new.organization, new.project, fun _ => ?_⟩
    rcases new.key with drawn | ⟨chose, -⟩
    · rw [drawn]
      exact fresh.apart
    · exact fresh.chosen _ chose
  · apply change_record
    · intro old found
      rw [unused] at found
      cases found
    · exact new.unrecorded
    · exact fun _ => new.draft

theorem lawful_observed (sound : Sound described context derived store)
    (announcing : ∀ record raised, announce record = .error raised → raised.kind ∉ registryErrors)
    (new : NewObserved described context derived store record) :
    Lawful described (Held described context derived) store (saveAndPublish described announce record store) := by
  apply lawful_saveAndPublish announcing .refl _ sound.held
  · refine ⟨new.organization, new.project, fun managed => ?_⟩
    rw [new.observed] at managed
    cases managed
  · apply change_record
    · intro old found
      refine ⟨?_, new.observed⟩
      -- Only an observation may have a derived identifier.
      by_contra managed
      have key := sound.consistent.keyed found
      exact (sound.held _ old found).2.2 (by simpa using managed) (key ▸ new.derived)
    · exact new.unrecorded
    · intro managed
      rw [new.observed] at managed
      cases managed

end New

end Lawful

/-! ## The operations -/

section Operations

variable {primitives : RegistryPrimitives} {context : TenantContext} {meets : RegistryMeets}

/-- What the publishers of the prompt registry raise is their own. -/
theorem publishPromptEvent_foreign (foreign : meets.Foreign) (eventType : String) (prompt : Prompt) (raised : Raised)
    (failed : PromptRegistry.publishPromptEvent meets eventType prompt = .error raised) :
    raised.kind ∉ registryErrors := by
  rcases bind_error failed with first | ⟨-, -, second⟩
  · exact foreign.entity _ _ first
  · cases state : PromptRegistry.announcedState eventType with
    | none =>
      rw [state] at second
      cases second
    | some announced =>
      rw [state] at second
      exact foreign.resource _ _ second

/-- What the publishers of the model registry raise is their own. -/
theorem publishModelEvent_foreign (foreign : meets.Foreign) (eventType : String) (model : Model) (raised : Raised)
    (failed : ModelRegistry.publishModelEvent meets eventType model = .error raised) :
    raised.kind ∉ registryErrors := by
  rcases bind_error failed with first | ⟨-, -, second⟩
  · exact foreign.entity _ _ first
  · cases state : ModelRegistry.announcedState eventType with
    | none =>
      rw [state] at second
      cases second
    | some announced =>
      rw [state] at second
      exact foreign.resource _ _ second

/-- The identifier an operation is given for a new record. -/
def PromptOperation.chosenId : PromptOperation → Option String
  | .createPrompt registration => registration.promptId
  | .versionPrompt _ | .observePrompt _ | .activatePrompt _ | .archivePrompt _ => none

/-- An identifier of an observed prompt. -/
def PromptDerived (primitives : RegistryPrimitives) (promptId : String) : Prop :=
  ∃ identity, promptId = PromptRegistry.observedId primitives identity

variable {store : PromptStore}

/-- The identifier of a registered record is the one drawn, or the one chosen. -/
theorem chosen_or_generated (chosen : Option String) (generatedId : String) :
    (chosen.filter (· ≠ "")).getD generatedId = generatedId ∨
      chosen = some ((chosen.filter (· ≠ "")).getD generatedId) := by
  cases chosen with
  | none => exact Or.inl rfl
  | some text =>
    rw [Option.filter_some]
    by_cases empty : text = ""
    · exact Or.inl (by simp [empty])
    · exact Or.inr (by simp [empty])

namespace PromptRegistry

variable {prompt : Prompt}

theorem registered_new {registration : PromptRegistration}
    (made : registered primitives context meets store registration = .ok prompt) :
    NewManaged Prompt.described context store meets.generatedId registration.promptId prompt := by
  obtain ⟨_, available, made⟩ := bind_ok made
  obtain ⟨_, chosen, made⟩ := bind_ok made
  obtain ⟨project, owned, made⟩ := bind_ok made
  rw [projectId_eq_ok] at owned
  have unrecorded := ensureVersionAvailable_eq_ok available owned
  apply Checked.created_induct made
  intro valid
  refine ⟨rfl, rfl, rfl, owned, unrecorded, ?_⟩
  rcases chosen_or_generated registration.promptId meets.generatedId with drawn | chose
  · exact Or.inl drawn
  · refine Or.inr ⟨chose, ?_⟩
    rw [chose] at chosen
    exact ensureIdAvailable_eq_ok chosen owned

theorem revised_new {revision : PromptRevision} (made : revised primitives context meets store revision = .ok prompt) :
    NewManaged Prompt.described context store meets.generatedId none prompt := by
  obtain ⟨source, found, made⟩ := bind_ok made
  obtain ⟨_, available, made⟩ := bind_ok made
  obtain ⟨project, owned, made⟩ := bind_ok made
  rw [projectId_eq_ok] at owned
  have unrecorded := ensureVersionAvailable_eq_ok available owned
  apply Checked.created_induct made
  intro valid
  exact ⟨rfl, rfl, rfl, owned, unrecorded, Or.inl rfl⟩

theorem observed_new {observation : PromptObservation}
    (made : observed primitives context meets store observation = .ok (.inr prompt)) :
    NewObserved Prompt.described context (PromptDerived primitives) store prompt := by
  obtain ⟨hash, resolved, made⟩ := bind_ok made
  obtain ⟨asset, found, made⟩ := bind_ok made
  obtain ⟨project, owned, rfl⟩ := named_eq_ok found
  cases looked : findByNameAndVersion Prompt.described store
      ⟨context.scope.organizationId, project, observation.name⟩ observation.version with
  | some existing =>
    rw [looked] at made
    dsimp only at made
    split at made <;> cases made
  | none =>
    rw [looked] at made
    obtain ⟨_, created, same⟩ := map_ok made
    cases same
    apply Checked.created_induct created
    intro valid
    exact ⟨rfl, rfl, owned, looked, _, rfl⟩

theorem activated_found {promptId : String} {versions : List Prompt}
    (found : activated context store promptId = .ok (prompt, versions)) :
    getPrompt context store promptId = .ok prompt ∧ prompt.record.status ≠ .archived ∧
      versions = findByName Prompt.described store (Prompt.described.asset prompt) := by
  obtain ⟨stored, present, rest⟩ := bind_ok found
  by_cases archived : stored.record.status = .archived
  · rw [if_pos archived] at rest
    cases rest
  · rw [if_neg archived] at rest
    obtain ⟨asset, given, rest⟩ := bind_ok rest
    obtain ⟨project, owned, rfl⟩ := named_eq_ok given
    cases rest
    obtain ⟨-, organization, mine⟩ := getPrompt_eq_ok present
    rw [owned] at mine
    cases mine
    refine ⟨present, archived, ?_⟩
    rw [← organization]
    rfl

theorem getPrompt_present {promptId : String} (sound : Sound Prompt.described context (PromptDerived primitives) store)
    (found : getPrompt context store promptId = .ok prompt) :
    store.get? (Prompt.described.key prompt) = some prompt := by
  have present := (getPrompt_eq_ok found).1
  rw [sound.consistent.keyed present]
  exact present

end PromptRegistry

theorem PromptOperation.serve_lawful (operation : PromptOperation)
    (sound : Sound Prompt.described context (PromptDerived primitives) store)
    (fresh : FreshIds (PromptDerived primitives) store meets.generatedId operation.chosenId) (foreign : meets.Foreign) :
    Lawful Prompt.described (Held Prompt.described context (PromptDerived primitives)) store
      (operation.serve primitives context meets store) := by
  have unchanged : ∀ result, Lawful Prompt.described (Held Prompt.described context (PromptDerived primitives)) store
      (result, store) := lawful_unchanged sound.held
  have announcing := fun eventType => publishPromptEvent_foreign foreign eventType
  cases operation with
  | createPrompt registration =>
    dsimp only [serve, PromptRegistry.createPrompt]
    cases made : PromptRegistry.registered primitives context meets store registration with
    | error raised => exact unchanged _
    | ok prompt => exact lawful_registered sound fresh (announcing _) (PromptRegistry.registered_new made)
  | versionPrompt revision =>
    dsimp only [serve, PromptRegistry.versionPrompt]
    cases made : PromptRegistry.revised primitives context meets store revision with
    | error raised => exact unchanged _
    | ok prompt => exact lawful_registered sound fresh (announcing _) (PromptRegistry.revised_new made)
  | observePrompt observation =>
    dsimp only [serve, PromptRegistry.observePrompt]
    cases made : PromptRegistry.observed primitives context meets store observation with
    | error raised => exact unchanged _
    | ok outcome =>
      cases outcome with
      | inl existing => exact unchanged _
      | inr prompt => exact lawful_observed sound (announcing _) (PromptRegistry.observed_new made)
  | activatePrompt promptId =>
    dsimp only [serve, PromptRegistry.activatePrompt]
    cases made : PromptRegistry.activated context store promptId with
    | error raised => exact unchanged _
    | ok outcome =>
      obtain ⟨prompt, versions⟩ := outcome
      obtain ⟨found, unarchived, rfl⟩ := PromptRegistry.activated_found made
      dsimp only
      exact lawful_activation sound.consistent sound.held (fun _ _ => id) (announcing _) (announcing _)
        (PromptRegistry.getPrompt_present sound found) unarchived
  | archivePrompt promptId =>
    dsimp only [serve, PromptRegistry.archivePrompt]
    cases found : PromptRegistry.getPrompt context store promptId with
    | error raised => exact unchanged _
    | ok prompt =>
      dsimp only
      by_cases archived : prompt.record.status = .archived
      · rw [if_pos archived]
        exact unchanged _
      · rw [if_neg archived]
        exact lawful_restated sound (announcing _) (PromptRegistry.getPrompt_present sound found) archived nofun

/-- The identifier an operation is given for a new record. -/
def ModelOperation.chosenId : ModelOperation → Option String
  | .registerModel _ registration => registration.modelId
  | .createModelVersion _ | .observeModel _ | .activateModelVersion _ | .deprecateModelVersion _ | .archiveModel _ =>
    none

/-- An identifier of an observed model. -/
def ModelDerived (primitives : RegistryPrimitives) (modelId : String) : Prop :=
  ∃ identity, modelId = ModelRegistry.observedId primitives identity

variable {models : ModelStore}

namespace ModelRegistry

variable {model : Model}

theorem registered_new {allowed : Option (Except Raised (List String))} {registration : ModelRegistration}
    (made : registered context meets allowed models registration = .ok model) :
    NewManaged Model.described context models meets.generatedId registration.modelId model := by
  obtain ⟨_, provider, made⟩ := bind_ok made
  obtain ⟨_, chosen, made⟩ := bind_ok made
  obtain ⟨_, available, made⟩ := bind_ok made
  obtain ⟨_, defaults, made⟩ := bind_ok made
  obtain ⟨project, owned, made⟩ := bind_ok made
  rw [projectId_eq_ok] at owned
  have unrecorded := ensureVersionAvailable_eq_ok available owned
  apply Checked.created_induct made
  intro valid
  refine ⟨rfl, rfl, rfl, owned, unrecorded, ?_⟩
  rcases chosen_or_generated registration.modelId meets.generatedId with drawn | chose
  · exact Or.inl drawn
  · refine Or.inr ⟨chose, ?_⟩
    rw [chose] at chosen
    exact ensureIdAvailable_eq_ok chosen owned

theorem revised_new {revision : ModelRevision} (made : revised context meets models revision = .ok model) :
    NewManaged Model.described context models meets.generatedId none model := by
  obtain ⟨source, found, made⟩ := bind_ok made
  obtain ⟨_, managed, made⟩ := bind_ok made
  obtain ⟨_, available, made⟩ := bind_ok made
  obtain ⟨_, defaults, made⟩ := bind_ok made
  obtain ⟨project, owned, made⟩ := bind_ok made
  rw [projectId_eq_ok] at owned
  have unrecorded := ensureVersionAvailable_eq_ok available owned
  apply Checked.created_induct made
  intro valid
  exact ⟨rfl, rfl, rfl, owned, unrecorded, Or.inl rfl⟩

theorem observed_new {observation : ModelObservation}
    (made : observed primitives context meets models observation = .ok (.inr model)) :
    NewObserved Model.described context (ModelDerived primitives) models model := by
  obtain ⟨asset, found, made⟩ := bind_ok made
  obtain ⟨project, owned, rfl⟩ := named_eq_ok found
  cases looked : findByNameAndVersion Model.described models
      ⟨context.scope.organizationId, project, observation.provider, observation.modelName⟩ observation.version with
  | some existing =>
    rw [looked] at made
    dsimp only at made
    split at made <;> cases made
  | none =>
    rw [looked] at made
    obtain ⟨_, created, same⟩ := map_ok made
    cases same
    apply Checked.created_induct created
    intro valid
    exact ⟨rfl, rfl, owned, looked, _, rfl⟩

theorem activated_found {modelId : String} {versions : List Model}
    (found : activated context models modelId = .ok (model, versions)) :
    transitioned context models modelId "activated" = .ok model ∧
      versions = findByName Model.described models (Model.described.asset model) := by
  obtain ⟨stored, present, rest⟩ := bind_ok found
  obtain ⟨asset, given, rest⟩ := bind_ok rest
  obtain ⟨project, owned, rfl⟩ := named_eq_ok given
  cases rest
  obtain ⟨-, organization, mine⟩ := getModel_eq_ok (transitioned_eq_ok present).1
  rw [owned] at mine
  cases mine
  refine ⟨present, ?_⟩
  rw [← organization]
  rfl

theorem getModel_present {modelId : String} (sound : Sound Model.described context (ModelDerived primitives) models)
    (found : getModel context models modelId = .ok model) : models.get? (Model.described.key model) = some model := by
  have present := (getModel_eq_ok found).1
  rw [sound.consistent.keyed present]
  exact present

end ModelRegistry

theorem ModelOperation.serve_lawful (operation : ModelOperation)
    (sound : Sound Model.described context (ModelDerived primitives) models)
    (fresh : FreshIds (ModelDerived primitives) models meets.generatedId operation.chosenId) (foreign : meets.Foreign) :
    Lawful Model.described (Held Model.described context (ModelDerived primitives)) models
      (operation.serve primitives context meets models) := by
  have unchanged : ∀ result, Lawful Model.described (Held Model.described context (ModelDerived primitives)) models
      (result, models) := lawful_unchanged sound.held
  have announcing := fun eventType => publishModelEvent_foreign foreign eventType
  cases operation with
  | registerModel allowed registration =>
    dsimp only [serve, ModelRegistry.registerModel]
    cases made : ModelRegistry.registered context meets allowed models registration with
    | error raised => exact unchanged _
    | ok model => exact lawful_registered sound fresh (announcing _) (ModelRegistry.registered_new made)
  | createModelVersion revision =>
    dsimp only [serve, ModelRegistry.createModelVersion]
    cases made : ModelRegistry.revised context meets models revision with
    | error raised => exact unchanged _
    | ok model => exact lawful_registered sound fresh (announcing _) (ModelRegistry.revised_new made)
  | observeModel observation =>
    dsimp only [serve, ModelRegistry.observeModel]
    cases made : ModelRegistry.observed primitives context meets models observation with
    | error raised => exact unchanged _
    | ok outcome =>
      cases outcome with
      | inl existing => exact unchanged _
      | inr model => exact lawful_observed sound (announcing _) (ModelRegistry.observed_new made)
  | activateModelVersion modelId =>
    dsimp only [serve, ModelRegistry.activateModelVersion]
    cases made : ModelRegistry.activated context models modelId with
    | error raised => exact unchanged _
    | ok outcome =>
      obtain ⟨model, versions⟩ := outcome
      obtain ⟨found, rfl⟩ := ModelRegistry.activated_found made
      obtain ⟨present, -, unarchived⟩ := ModelRegistry.transitioned_eq_ok found
      dsimp only
      exact lawful_activation sound.consistent sound.held (fun _ _ => id) (announcing _) (announcing _)
        (ModelRegistry.getModel_present sound present) unarchived
  | deprecateModelVersion modelId =>
    dsimp only [serve, ModelRegistry.deprecateModelVersion]
    cases found : ModelRegistry.transitioned context models modelId "deprecated" with
    | error raised => exact unchanged _
    | ok model =>
      obtain ⟨present, -, unarchived⟩ := ModelRegistry.transitioned_eq_ok found
      dsimp only
      exact lawful_restated sound (announcing _) (ModelRegistry.getModel_present sound present) unarchived nofun
  | archiveModel modelId =>
    dsimp only [serve, ModelRegistry.archiveModel]
    cases found : ModelRegistry.archivable context models modelId with
    | error raised => exact unchanged _
    | ok model =>
      obtain ⟨stored, present, rest⟩ := bind_ok found
      obtain ⟨_, -, rest⟩ := bind_ok rest
      cases rest
      dsimp only
      by_cases archived : model.record.status = .archived
      · rw [if_pos archived]
        exact unchanged _
      · rw [if_neg archived]
        exact lawful_restated sound (announcing _) (ModelRegistry.getModel_present sound present) archived nofun

end Operations

/-! ## Runs of both registries -/

/-- The stores of the two registries. -/
structure RegistryStores where
  prompts : PromptStore
  models : ModelStore

/-- No asset is stored. -/
def RegistryStores.empty : RegistryStores := ⟨.empty, .empty⟩

/-- An operation of either registry, with what it meets. -/
inductive RegistryCall where
  | prompt (operation : PromptOperation) (meets : RegistryMeets)
  | model (operation : ModelOperation) (meets : RegistryMeets)

/-- The registries of one tenant. -/
def registries (primitives : RegistryPrimitives) (context : TenantContext) :
    Machine RegistryStores RegistryCall (Except Raised (Prompt ⊕ Model)) where
  serve call stores :=
    match call with
    | .prompt operation meets =>
      let outcome := operation.serve primitives context meets stores.prompts
      (outcome.1.map .inl, { stores with prompts := outcome.2 })
    | .model operation meets =>
      let outcome := operation.serve primitives context meets stores.models
      (outcome.1.map .inr, { stores with models := outcome.2 })

/-- A call draws a new identifier, its caller chooses none that is derived, and its publishers raise their own errors. -/
def RegistryCall.Regular (primitives : RegistryPrimitives) (stores : RegistryStores) : RegistryCall → Prop
  | .prompt operation meets =>
    FreshIds (PromptDerived primitives) stores.prompts meets.generatedId operation.chosenId ∧ meets.Foreign
  | .model operation meets =>
    FreshIds (ModelDerived primitives) stores.models meets.generatedId operation.chosenId ∧ meets.Foreign

/-- What holds of the stores at every point. -/
structure RegistryStores.Sound (primitives : RegistryPrimitives) (context : TenantContext) (stores : RegistryStores) :
    Prop where
  prompts : Registries.Sound Prompt.described context (PromptDerived primitives) stores.prompts
  models : Registries.Sound Model.described context (ModelDerived primitives) stores.models

/-- The managed versions of both stores stay, with their content, and stay archived. -/
def RegistryStores.Preserves (before after : RegistryStores) : Prop :=
  Prompt.described.Preserves before.prompts after.prompts ∧ Model.described.Preserves before.models after.models

section Runs

variable {primitives : RegistryPrimitives} {context : TenantContext} {stores : RegistryStores} {call : RegistryCall}

theorem Lawful.sound {R N C : Type} {described : Described R String (AssetName N) String C} {store : Dict String R}
    {outcome : Except Raised R × Dict String R}
    (lawful : Lawful described (Held described context derived) store outcome)
    (sound : Sound described context derived store) : Sound described context derived outcome.2 where
  consistent := lawful.changes.consistent sound.consistent
  held := lawful.members

/-- What one call does. -/
theorem serve_registries (sound : stores.Sound primitives context) (regular : call.Regular primitives stores) :
    ((registries primitives context).serve call stores).2.Sound primitives context ∧
      stores.Preserves ((registries primitives context).serve call stores).2 ∧
      ∀ raised, ((registries primitives context).serve call stores).1 = .error raised →
        raised.kind ∈ registryErrors → ((registries primitives context).serve call stores).2 = stores := by
  cases call with
  | prompt operation meets =>
    have lawful := operation.serve_lawful sound.prompts regular.1 regular.2
    refine ⟨⟨lawful.sound sound.prompts, sound.models⟩, ⟨lawful.changes.preserves, .refl _⟩, ?_⟩
    intro raised failed kind
    have unchanged := lawful.refused raised (map_error failed) kind
    change { stores with prompts := (operation.serve primitives context meets stores.prompts).2 } = stores
    rw [unchanged]
  | model operation meets =>
    have lawful := operation.serve_lawful sound.models regular.1 regular.2
    refine ⟨⟨sound.prompts, lawful.sound sound.models⟩, ⟨.refl _, lawful.changes.preserves⟩, ?_⟩
    intro raised failed kind
    have unchanged := lawful.refused raised (map_error failed) kind
    change { stores with models := (operation.serve primitives context meets stores.models).2 } = stores
    rw [unchanged]

theorem Sound.empty {R N C : Type} {described : Described R String (AssetName N) String C} :
    Sound described context derived .empty where
  consistent := Described.consistent_empty
  held := by
    intro key record found
    rw [Dict.get?_empty] at found
    cases found

theorem sound_empty : RegistryStores.empty.Sound primitives context where
  prompts := .empty
  models := .empty

theorem RegistryStores.Preserves.refl (stores : RegistryStores) : stores.Preserves stores := ⟨.refl _, .refl _⟩

theorem RegistryStores.Preserves.trans {first second third : RegistryStores} (before : first.Preserves second)
    (after : second.Preserves third) : first.Preserves third :=
  ⟨Described.Preserves.trans before.1 after.1, Described.Preserves.trans before.2 after.2⟩

/-- The rules of the registries' lifecycle, at every point of every run. -/
theorem registry_lifecycle (primitives : RegistryPrimitives) (context : TenantContext)
    (earlier later : List RegistryCall)
    (regular : (registries primitives context).Along (fun stores call => call.Regular primitives stores)
      (earlier ++ later) .empty) :
    let stores := (registries primitives context).after earlier .empty
    let final := (registries primitives context).after (earlier ++ later) .empty
    Prompt.described.Consistent stores.prompts ∧ Model.described.Consistent stores.models ∧
      stores.Preserves final ∧
      ∀ call rest, later = call :: rest →
        ∀ raised, ((registries primitives context).serve call stores).1 = .error raised →
          raised.kind ∈ registryErrors → ((registries primitives context).serve call stores).2 = stores := by
  intro stores final
  rw [Machine.along_append] at regular
  obtain ⟨before, afterwards⟩ := regular
  have sound : stores.Sound primitives context :=
    before.invariant (fun sound regular => (serve_registries sound regular).1) sound_empty
  refine ⟨sound.prompts.consistent, sound.models.consistent, ?_, ?_⟩
  · dsimp only [final]
    rw [Machine.after_append]
    exact afterwards.related (fun sound regular => (serve_registries sound regular).1) .refl .trans
      (fun sound regular => (serve_registries sound regular).2.1) sound
  · rintro call rest rfl
    exact (serve_registries sound afterwards.1).2.2

end Runs

/-- Sample primitives: identifiers and hashes that show what they were made of. -/
def taggedPrimitives : RegistryPrimitives where
  sha256 text := text
  uuid5 text := "uuid5:" ++ text

/-- A tenant's operator. -/
def operator : TenantContext := ⟨⟨"org", some "project"⟩, "operator", none⟩

/-- A call whose publishers take every event. -/
def quietly (generatedId : String) : RegistryMeets where
  generatedId
  now := ⟨0⟩

/-- Two versions of a prompt are registered and activated in turn, and the second archived. -/
def greetingCalls : List RegistryCall := [
  .prompt (.createPrompt ⟨"greeting", "1", "Hello {name}", ["name"], "ada", none⟩) (quietly "prompt-1"),
  .prompt (.activatePrompt "prompt-1") (quietly "prompt-2"),
  .prompt (.versionPrompt ⟨"prompt-1", "2", "ada", none, none⟩) (quietly "prompt-2"),
  .prompt (.activatePrompt "prompt-2") (quietly "prompt-3"),
  .prompt (.archivePrompt "prompt-2") (quietly "prompt-3")]

theorem quietly_foreign (generatedId : String) : (quietly generatedId).Foreign := ⟨nofun, nofun⟩

theorem untagged {store : PromptStore} (unused : store.get? generatedId = none)
    (plain : generatedId.toList.head? = some 'p') :
    FreshIds (PromptDerived taggedPrimitives) store generatedId none where
  generated := unused
  apart := by
    rintro ⟨identity, rfl⟩
    simp [PromptRegistry.observedId, taggedPrimitives] at plain
  chosen := nofun

theorem registry_lifecycle_greeting :
    let final := (registries taggedPrimitives operator).after greetingCalls .empty
    final.prompts.values.map (fun prompt => prompt.record.status) = [.deprecated, .archived] ∧
      Prompt.described.Consistent final.prompts := by
  refine ⟨by decide +kernel, (registry_lifecycle taggedPrimitives operator greetingCalls [] ?_).1⟩
  refine ⟨⟨untagged ?_ ?_, quietly_foreign _⟩, ⟨untagged ?_ ?_, quietly_foreign _⟩, ⟨untagged ?_ ?_, quietly_foreign _⟩,
    ⟨untagged ?_ ?_, quietly_foreign _⟩, ⟨untagged ?_ ?_, quietly_foreign _⟩, trivial⟩
  all_goals decide +kernel

end AiGovernance.Registries
