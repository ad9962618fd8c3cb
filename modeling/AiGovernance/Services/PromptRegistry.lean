import AiGovernance.Repositories.Assets

/-!
# The prompt registry

`PromptRegistryService`: what each operation makes of the stored prompts. An
operation first reads and checks, then writes; an exception of its checks leaves
the store as it is, one of a publisher leaves what was written before it.
-/

namespace AiGovernance.Registries

open AiGovernance.Std Domain

/-- The stored prompts. -/
abbrev PromptStore := Dict String Prompt

/-- The arguments of `create_prompt`. -/
structure PromptRegistration where
  name : String
  version : String
  template : String
  variableNames : List String
  createdBy : String
  promptId : Option String := none

/-- The arguments of `version_prompt`. -/
structure PromptRevision where
  promptId : String
  version : String
  createdBy : String
  template : Option String := none
  variableNames : Option (List String) := none

/-- The arguments of `observe_prompt`. -/
structure PromptObservation where
  name : String
  version : String
  sourceSystem : String
  sourceReference : Option String
  template : Option String
  contentHash : Option String
  variableNames : List String
  observedBy : String

namespace PromptRegistry

variable (primitives : RegistryPrimitives) (context : TenantContext) (meets : RegistryMeets)

/-- `_project_id`. -/
def projectId : Except Raised String :=
  match context.scope.projectId with
  | some projectId => .ok projectId
  | none => .error ⟨.valueError, "Prompt registry operations require project scope."⟩

/-- The tenant's name of a prompt. -/
def named (name : String) : Except Raised (AssetName String) := do
  pure ⟨context.scope.organizationId, ← projectId context, name⟩

/-- A hash as it is recorded. -/
def recordedHash (template : String) : String := "sha256:" ++ primitives.sha256 template

/-- `_content_hash`. -/
def contentHash (template : Option String) : Option String := template.map (recordedHash primitives)

/-- The state that `_publish_prompt_event` announces an event as. -/
def announcedState (eventType : String) : Option String :=
  if eventType = "PromptVersionRegistered" then some "registered"
  else if eventType = "PromptVersionObserved" then some "version.created"
  else if eventType = "PromptVersionArchived" then some "archived"
  else none

/-- `_publish_prompt_event`. -/
def publishPromptEvent (eventType : String) (prompt : Prompt) : Except Raised Unit := do
  meets.publishEntityEvent {
    eventType
    entityType := "PromptVersion"
    entityId := prompt.record.promptId
    scopeIdentifier := "prompt_registry"
    payload := [("prompt_id", some prompt.record.promptId), ("name", some prompt.record.name),
      ("version", some prompt.record.version), ("status", some prompt.record.status.value),
      ("provenance", some prompt.record.provenance.value), ("source_system", prompt.record.sourceSystem)] }
  match announcedState eventType with
  | none => pure ()
  | some state => meets.publish {
      tenantId := prompt.record.tenantId
      organizationId := prompt.record.organizationId
      projectId := prompt.record.projectId
      resourceKind := "asset"
      resourceId := prompt.record.promptId
      state
      payload := [("asset_type", "PromptVersion"), ("version", prompt.record.version),
        ("status", prompt.record.status.value)] }

/-- `_get_prompt`. -/
def getPrompt (store : PromptStore) (promptId : String) : Except Raised Prompt := do
  match findById Prompt.described store promptId context.scope.organizationId (← projectId context) with
  | some prompt => pure prompt
  | none => .error ⟨.promptNotFoundError, "Prompt '" ++ promptId ++ "' does not exist."⟩

/-- `_ensure_version_available`. -/
def ensureVersionAvailable (store : PromptStore) (name version : String) : Except Raised Unit := do
  match findByNameAndVersion Prompt.described store (← named context name) version with
  | some _ => .error ⟨.promptVersionConflictError, "Prompt '" ++ name ++ "' version '" ++ version ++ "' already exists."⟩
  | none => pure ()

/-- The check of an identifier the caller has chosen. -/
def ensureIdAvailable (store : PromptStore) : Option String → Except Raised Unit
  | none => .ok ()
  | some promptId => do
      match findById Prompt.described store promptId context.scope.organizationId (← projectId context) with
      | some _ => .error ⟨.promptVersionConflictError, "Prompt ID '" ++ promptId ++ "' already exists."⟩
      | none => pure ()

/-- The prompt `create_prompt` registers. -/
def registered (store : PromptStore) (registration : PromptRegistration) : Except Raised Prompt := do
  ensureVersionAvailable context store registration.name registration.version
  ensureIdAvailable context store registration.promptId
  Checked.create {
    promptId := (registration.promptId.filter (· ≠ "")).getD meets.generatedId
    name := registration.name
    version := registration.version
    template := some registration.template
    variableNames := registration.variableNames
    createdAt := meets.now
    createdBy := registration.createdBy
    status := .draft
    contentHash := contentHash primitives (some registration.template)
    tenantId := context.scope.organizationId
    organizationId := context.scope.organizationId
    projectId := ← projectId context }

/-- The prompt `version_prompt` registers. -/
def revised (store : PromptStore) (revision : PromptRevision) : Except Raised Prompt := do
  let source ← getPrompt context store revision.promptId
  ensureVersionAvailable context store source.record.name revision.version
  let resolvedTemplate := revision.template.or source.record.template
  Checked.create {
    promptId := meets.generatedId
    name := source.record.name
    version := revision.version
    template := resolvedTemplate
    variableNames := revision.variableNames.getD source.record.variableNames
    createdAt := meets.now
    createdBy := revision.createdBy
    status := .draft
    contentHash := contentHash primitives resolvedTemplate
    tenantId := context.scope.organizationId
    organizationId := context.scope.organizationId
    projectId := ← projectId context }

/-- The hash `observe_prompt` resolves. -/
def resolvedHash (observation : PromptObservation) : Except Raised String :=
  match (contentHash primitives observation.template).or observation.contentHash with
  | some hash => .ok hash
  | none => .error ⟨.valueError, "Observed prompts require content or content_hash."⟩

/-- The text the identifier of an observed prompt is derived from. -/
def observedIdentity (organizationId projectId sourceSystem : String) (sourceReference : Option String)
    (name version hash : String) : String :=
  "|".intercalate [organizationId, projectId, sourceSystem, sourceReference.getD "", name, version, hash]

/-- The identifier of an observed prompt. -/
def observedId (identity : String) : String := primitives.uuid5 ("ai-governance:observed-prompt:" ++ identity)

/-- The prompt that is recorded with the same evidence, or the one `observe_prompt` records. -/
def observed (store : PromptStore) (observation : PromptObservation) : Except Raised (Prompt ⊕ Prompt) := do
  let hash ← resolvedHash primitives observation
  let asset ← named context observation.name
  match findByNameAndVersion Prompt.described store asset observation.version with
  | some existing =>
    if existing.record.provenance = .observed ∧ existing.record.sourceSystem = some observation.sourceSystem ∧
        existing.record.sourceReference = observation.sourceReference ∧
        existing.record.contentHash = some hash then pure (.inl existing)
    else .error ⟨.promptVersionConflictError, "Prompt '" ++ observation.name ++ "' version '" ++
      observation.version ++ "' is already recorded with different evidence."⟩
  | none =>
    (Checked.create {
      promptId := observedId primitives (observedIdentity context.scope.organizationId asset.projectId
        observation.sourceSystem observation.sourceReference observation.name observation.version hash)
      name := observation.name
      version := observation.version
      template := observation.template
      variableNames := observation.variableNames
      createdAt := meets.now
      createdBy := observation.observedBy
      status := .active
      provenance := .observed
      sourceSystem := some observation.sourceSystem
      sourceReference := observation.sourceReference
      contentHash := some hash
      contentAvailable := observation.template.isSome
      tenantId := context.scope.organizationId
      organizationId := context.scope.organizationId
      projectId := asset.projectId } : Except Raised Prompt).map .inr

/-- The prompt `activate_prompt` activates, and the versions it looks through. -/
def activated (store : PromptStore) (promptId : String) : Except Raised (Prompt × List Prompt) := do
  let prompt ← getPrompt context store promptId
  if prompt.record.status = .archived then
    .error ⟨.promptLifecycleError, "Archived prompts cannot be activated."⟩
  else pure (prompt, findByName Prompt.described store (← named context prompt.record.name))

/-- `create_prompt`. -/
def createPrompt (registration : PromptRegistration) (store : PromptStore) : Except Raised Prompt × PromptStore :=
  match registered primitives context meets store registration with
  | .error raised => (.error raised, store)
  | .ok prompt => saveAndPublish Prompt.described (publishPromptEvent meets "PromptVersionRegistered") prompt store

/-- `version_prompt`. -/
def versionPrompt (revision : PromptRevision) (store : PromptStore) : Except Raised Prompt × PromptStore :=
  match revised primitives context meets store revision with
  | .error raised => (.error raised, store)
  | .ok prompt => saveAndPublish Prompt.described (publishPromptEvent meets "PromptVersionRegistered") prompt store

/-- `observe_prompt`. -/
def observePrompt (observation : PromptObservation) (store : PromptStore) : Except Raised Prompt × PromptStore :=
  match observed primitives context meets store observation with
  | .error raised => (.error raised, store)
  | .ok (.inl existing) => (.ok existing, store)
  | .ok (.inr prompt) =>
    saveAndPublish Prompt.described (publishPromptEvent meets "PromptVersionObserved") prompt store

/-- `activate_prompt`. -/
def activatePrompt (promptId : String) (store : PromptStore) : Except Raised Prompt × PromptStore :=
  match activated context store promptId with
  | .error raised => (.error raised, store)
  | .ok (prompt, versions) =>
    activateAmong Prompt.described (publishPromptEvent meets "PromptVersionDeprecated")
      (publishPromptEvent meets "PromptVersionActivated") prompt versions store

/-- `archive_prompt`. -/
def archivePrompt (promptId : String) (store : PromptStore) : Except Raised Prompt × PromptStore :=
  match getPrompt context store promptId with
  | .error raised => (.error raised, store)
  | .ok prompt =>
    if prompt.record.status = .archived then (.ok prompt, store)
    else saveAndPublish Prompt.described (publishPromptEvent meets "PromptVersionArchived")
      (prompt.withStatus .archived) store

/-! ## What the checks find -/

variable {context} {store : PromptStore}

variable {project : String}

theorem projectId_eq_ok : projectId context = .ok project ↔ context.scope.projectId = some project := by
  unfold projectId
  cases context.scope.projectId <;> simp

theorem named_eq_ok {name : String} {asset : AssetName String} (found : named context name = .ok asset) :
    ∃ project, context.scope.projectId = some project ∧ asset = ⟨context.scope.organizationId, project, name⟩ := by
  obtain ⟨project, owned, rest⟩ := bind_ok found
  cases rest
  exact ⟨project, projectId_eq_ok.mp owned, rfl⟩

theorem getPrompt_eq_ok {promptId : String} {prompt : Prompt} (found : getPrompt context store promptId = .ok prompt) :
    store.get? promptId = some prompt ∧ prompt.record.organizationId = context.scope.organizationId ∧
      context.scope.projectId = some prompt.record.projectId := by
  obtain ⟨project, owned, rest⟩ := bind_ok found
  cases looked : findById Prompt.described store promptId context.scope.organizationId project with
  | none =>
    rw [looked] at rest
    cases rest
  | some stored =>
    rw [looked] at rest
    cases rest
    obtain ⟨present, organization, same⟩ := findById_eq_some.mp looked
    refine ⟨present, organization, ?_⟩
    rw [projectId_eq_ok.mp owned, ← same]
    rfl

theorem ensureVersionAvailable_eq_ok {name version : String}
    (available : ensureVersionAvailable context store name version = .ok ())
    (owned : context.scope.projectId = some project) :
    findByNameAndVersion Prompt.described store ⟨context.scope.organizationId, project, name⟩ version = none := by
  obtain ⟨asset, found, rest⟩ := bind_ok available
  obtain ⟨_, same, rfl⟩ := named_eq_ok found
  rw [owned] at same
  cases same
  cases looked : findByNameAndVersion Prompt.described store ⟨context.scope.organizationId, project, name⟩ version with
  | none => rfl
  | some stored =>
    rw [looked] at rest
    cases rest

theorem ensureIdAvailable_eq_ok {promptId : String}
    (available : ensureIdAvailable context store (some promptId) = .ok ())
    (owned : context.scope.projectId = some project) :
    findById Prompt.described store promptId context.scope.organizationId project = none := by
  obtain ⟨found, same, rest⟩ := bind_ok available
  rw [projectId_eq_ok, owned] at same
  cases same
  cases looked : findById Prompt.described store promptId context.scope.organizationId project with
  | none => rfl
  | some stored =>
    rw [looked] at rest
    cases rest

end PromptRegistry

/-- An operation of the prompt registry. -/
inductive PromptOperation where
  | createPrompt (registration : PromptRegistration)
  | versionPrompt (revision : PromptRevision)
  | observePrompt (observation : PromptObservation)
  | activatePrompt (promptId : String)
  | archivePrompt (promptId : String)

/-- `PromptRegistryService`, one operation at a time. -/
def PromptOperation.serve (primitives : RegistryPrimitives) (context : TenantContext) (meets : RegistryMeets) :
    PromptOperation → PromptStore → Except Raised Prompt × PromptStore
  | .createPrompt registration => PromptRegistry.createPrompt primitives context meets registration
  | .versionPrompt revision => PromptRegistry.versionPrompt primitives context meets revision
  | .observePrompt observation => PromptRegistry.observePrompt primitives context meets observation
  | .activatePrompt promptId => PromptRegistry.activatePrompt context meets promptId
  | .archivePrompt promptId => PromptRegistry.archivePrompt context meets promptId

end AiGovernance.Registries
