import AiGovernance.Repositories.Assets

/-!
# The model registry

`ModelRegistryService`: what each operation makes of the stored models, in the
same way as the prompt registry. Only managed models have a lifecycle here.
-/

namespace AiGovernance.Registries

open AiGovernance.Std Domain

/-- The stored models. -/
abbrev ModelStore := Dict String Model

/-- The arguments of `register_model`. -/
structure ModelRegistration where
  provider : String
  modelName : String
  version : String
  parameters : List (String × Json)
  contextWindow : Int
  creator : String
  providerModelId : Option String := none
  cost : Option (List (String × Rat)) := none
  latency : Option Rat := none
  modelId : Option String := none

/-- The arguments of `create_model_version`. -/
structure ModelRevision where
  modelId : String
  version : String
  creator : String
  parameters : Option (List (String × Json)) := none
  cost : Option (List (String × Rat)) := none
  latency : Option Rat := none
  contextWindow : Option Int := none
  providerModelId : Option String := none

/-- The arguments of `observe_model`. -/
structure ModelObservation where
  provider : String
  modelName : String
  version : String
  sourceSystem : String
  sourceReference : Option String
  parameters : List (String × Json)
  contextWindow : Int
  observedBy : String
  cost : Option (List (String × Rat)) := none
  latency : Option Rat := none

namespace ModelRegistry

variable (primitives : RegistryPrimitives) (context : TenantContext) (meets : RegistryMeets)

/-- `_project_id`. -/
def projectId : Except Raised String :=
  match context.scope.projectId with
  | some projectId => .ok projectId
  | none => .error ⟨.valueError, "Model registry operations require project scope."⟩

/-- The tenant's name of a model. -/
def named (provider modelName : String) : Except Raised (AssetName (String × String)) := do
  pure ⟨context.scope.organizationId, ← projectId context, provider, modelName⟩

/-- The state that `_publish_model_event` announces an event as. -/
def announcedState (eventType : String) : Option String :=
  if eventType = "ModelVersionRegistered" then some "registered"
  else if eventType = "ModelVersionObserved" then some "version.created"
  else if eventType = "ModelVersionActivated" then some "active"
  else if eventType = "ModelVersionDeprecated" then some "deprecated"
  else if eventType = "ModelVersionArchived" then some "archived"
  else none

/-- `_publish_model_event`. -/
def publishModelEvent (eventType : String) (model : Model) : Except Raised Unit := do
  meets.publishEntityEvent {
    eventType
    entityType := "ModelVersion"
    entityId := model.record.modelId
    scopeIdentifier := "model_registry"
    payload := [("model_id", some model.record.modelId), ("provider", some model.record.provider),
      ("model_name", some model.record.modelName), ("version", some model.record.version),
      ("status", some model.record.status.value), ("provenance", some model.record.provenance.value),
      ("source_system", model.record.sourceSystem)] }
  match announcedState eventType with
  | none => pure ()
  | some state => meets.publish {
      tenantId := model.record.tenantId
      organizationId := model.record.organizationId
      projectId := model.record.projectId
      resourceKind := "asset"
      resourceId := model.record.modelId
      state
      payload := [("asset_type", "ModelVersion"), ("version", model.record.version),
        ("status", model.record.status.value)] }

/-- `_get_model`. -/
def getModel (store : ModelStore) (modelId : String) : Except Raised Model := do
  match findById Model.described store modelId context.scope.organizationId (← projectId context) with
  | some model => pure model
  | none => .error ⟨.modelNotFoundError, "Model '" ++ modelId ++ "' does not exist."⟩

/-- `_ensure_version_available`. -/
def ensureVersionAvailable (store : ModelStore) (provider modelName version : String) : Except Raised Unit := do
  match findByNameAndVersion Model.described store (← named context provider modelName) version with
  | some _ => .error ⟨.modelVersionConflictError, "Model '" ++ provider ++ "/" ++ modelName ++ "' version '" ++
      version ++ "' already exists."⟩
  | none => pure ()

/-- The check of an identifier the caller has chosen. -/
def ensureIdAvailable (store : ModelStore) : Option String → Except Raised Unit
  | none => .ok ()
  | some modelId => do
      match findById Model.described store modelId context.scope.organizationId (← projectId context) with
      | some _ => .error ⟨.modelVersionConflictError, "Model ID '" ++ modelId ++ "' already exists."⟩
      | none => pure ()

/-- `_ensure_managed_provider_allowed`. -/
def ensureManagedProviderAllowed (allowed : Option (Except Raised (List String))) (provider : String) :
    Except Raised Unit :=
  match allowed with
  | none => .ok ()
  | some values => do
      let allowed := (← values).filterMap runtimeModelProviderKey
      match runtimeModelProviderKey provider with
      | some providerKey =>
        if providerKey ∈ allowed then pure ()
        else .error ⟨.modelProviderNotAllowedError,
          "Runtime provider '" ++ provider ++ "' is not allowed for managed model registration."⟩
      | none => .error ⟨.modelProviderNotAllowedError,
          "Runtime provider '" ++ provider ++ "' is not allowed for managed model registration."⟩

/-- `_require_managed_lifecycle`. -/
def requireManagedLifecycle (model : Model) : Except Raised Unit :=
  if model.record.provenance = .managed then .ok ()
  else .error ⟨.modelLifecycleError,
    "Observed model evidence cannot be transitioned by managed lifecycle actions."⟩

/-- The model `register_model` registers. -/
def registered (allowed : Option (Except Raised (List String))) (store : ModelStore)
    (registration : ModelRegistration) : Except Raised Model := do
  ensureManagedProviderAllowed allowed registration.provider
  ensureIdAvailable context store registration.modelId
  ensureVersionAvailable context store registration.provider registration.modelName registration.version
  let runtimeCapabilities := resolveRuntimeCapabilities registration.provider
    ((registration.providerModelId.filter (· ≠ "")).getD registration.modelName)
  validateRuntimeDefaults registration.parameters runtimeCapabilities
  Checked.create {
    modelId := (registration.modelId.filter (· ≠ "")).getD meets.generatedId
    provider := registration.provider
    modelName := registration.modelName
    version := registration.version
    parameters := registration.parameters
    cost := registration.cost
    latency := registration.latency
    contextWindow := registration.contextWindow
    creator := registration.creator
    createdAt := meets.now
    status := .draft
    tenantId := context.scope.organizationId
    organizationId := context.scope.organizationId
    projectId := ← projectId context
    runtimeCapabilities
    providerModelId := registration.providerModelId }

/-- The model `create_model_version` registers. -/
def revised (store : ModelStore) (revision : ModelRevision) : Except Raised Model := do
  let source ← getModel context store revision.modelId
  requireManagedLifecycle source
  ensureVersionAvailable context store source.record.provider source.record.modelName revision.version
  let providerModelId := Text.orElse revision.providerModelId source.record.providerModelId
  let runtimeCapabilities :=
    if source.record.runtimeCapabilities.profileId = "legacy-runtime-contract" ∨
        providerModelId ≠ source.record.providerModelId then
      resolveRuntimeCapabilities source.record.provider
        ((providerModelId.filter (· ≠ "")).getD source.record.modelName)
    else source.record.runtimeCapabilities
  let parameters := revision.parameters.getD source.record.parameters
  validateRuntimeDefaults parameters runtimeCapabilities
  Checked.create {
    modelId := meets.generatedId
    provider := source.record.provider
    modelName := source.record.modelName
    version := revision.version
    parameters
    cost := revision.cost.or source.record.cost
    latency := revision.latency.or source.record.latency
    contextWindow := revision.contextWindow.getD source.record.contextWindow
    creator := revision.creator
    createdAt := meets.now
    status := .draft
    tenantId := context.scope.organizationId
    organizationId := context.scope.organizationId
    projectId := ← projectId context
    runtimeCapabilities
    providerModelId }

/-- The text the identifier of an observed model is derived from. -/
def observedIdentity (organizationId projectId sourceSystem : String) (sourceReference : Option String)
    (provider modelName version : String) : String :=
  "|".intercalate [organizationId, projectId, sourceSystem, sourceReference.getD "", provider, modelName, version]

/-- The identifier of an observed model. -/
def observedId (identity : String) : String := primitives.uuid5 ("ai-governance:observed-model:" ++ identity)

/-- The language's equality of two costs. -/
def sameCost (left right : Option (List (String × Rat))) : Bool :=
  match left, right with
  | none, none => true
  | some left, some right =>
    Json.canonical (.obj (left.map fun entry => (entry.1, .float entry.2))) =
      Json.canonical (.obj (right.map fun entry => (entry.1, .float entry.2)))
  | none, some _ | some _, none => false

/-- A recorded model is the evidence observed. -/
def sameEvidence (existing : Model) (observation : ModelObservation) : Bool :=
  existing.record.provenance = .observed && existing.record.sourceSystem = some observation.sourceSystem &&
    existing.record.sourceReference = observation.sourceReference &&
    Json.canonical (.obj existing.record.parameters) = Json.canonical (.obj observation.parameters) &&
    existing.record.contextWindow = observation.contextWindow && sameCost existing.record.cost observation.cost &&
    existing.record.latency = observation.latency

/-- The model that is recorded with the same evidence, or the one `observe_model` records. -/
def observed (store : ModelStore) (observation : ModelObservation) : Except Raised (Model ⊕ Model) := do
  let asset ← named context observation.provider observation.modelName
  match findByNameAndVersion Model.described store asset observation.version with
  | some existing =>
    if sameEvidence existing observation then pure (.inl existing)
    else .error ⟨.modelVersionConflictError, "Model '" ++ observation.provider ++ "/" ++ observation.modelName ++
      "' version '" ++ observation.version ++ "' is already recorded with different evidence."⟩
  | none =>
    (Checked.create {
      modelId := observedId primitives (observedIdentity context.scope.organizationId asset.projectId
        observation.sourceSystem observation.sourceReference observation.provider observation.modelName
        observation.version)
      provider := observation.provider
      modelName := observation.modelName
      version := observation.version
      parameters := observation.parameters
      cost := observation.cost
      latency := observation.latency
      contextWindow := observation.contextWindow
      creator := observation.observedBy
      createdAt := meets.now
      status := .active
      provenance := .observed
      sourceSystem := some observation.sourceSystem
      sourceReference := observation.sourceReference
      tenantId := context.scope.organizationId
      organizationId := context.scope.organizationId
      projectId := asset.projectId
      runtimeCapabilities :=
        { resolveRuntimeCapabilities observation.provider observation.modelName with verification := .observed } } :
      Except Raised Model).map .inr

/-- A managed model for a lifecycle action that archived models refuse. -/
def transitioned (store : ModelStore) (modelId action : String) : Except Raised Model := do
  let model ← getModel context store modelId
  requireManagedLifecycle model
  if model.record.status = .archived then
    .error ⟨.modelLifecycleError, "Archived models cannot be " ++ action ++ "."⟩
  else pure model

/-- The model `activate_model_version` activates, and the versions it looks through. -/
def activated (store : ModelStore) (modelId : String) : Except Raised (Model × List Model) := do
  let model ← transitioned context store modelId "activated"
  pure (model, findByName Model.described store (← named context model.record.provider model.record.modelName))

/-- `register_model`. -/
def registerModel (allowed : Option (Except Raised (List String))) (registration : ModelRegistration)
    (store : ModelStore) : Except Raised Model × ModelStore :=
  match registered context meets allowed store registration with
  | .error raised => (.error raised, store)
  | .ok model => saveAndPublish Model.described (publishModelEvent meets "ModelVersionRegistered") model store

/-- `create_model_version`. -/
def createModelVersion (revision : ModelRevision) (store : ModelStore) : Except Raised Model × ModelStore :=
  match revised context meets store revision with
  | .error raised => (.error raised, store)
  | .ok model => saveAndPublish Model.described (publishModelEvent meets "ModelVersionRegistered") model store

/-- `observe_model`. -/
def observeModel (observation : ModelObservation) (store : ModelStore) : Except Raised Model × ModelStore :=
  match observed primitives context meets store observation with
  | .error raised => (.error raised, store)
  | .ok (.inl existing) => (.ok existing, store)
  | .ok (.inr model) => saveAndPublish Model.described (publishModelEvent meets "ModelVersionObserved") model store

/-- `activate_model_version`. -/
def activateModelVersion (modelId : String) (store : ModelStore) : Except Raised Model × ModelStore :=
  match activated context store modelId with
  | .error raised => (.error raised, store)
  | .ok (model, versions) =>
    activateAmong Model.described (publishModelEvent meets "ModelVersionDeprecated")
      (publishModelEvent meets "ModelVersionActivated") model versions store

/-- `deprecate_model_version`. -/
def deprecateModelVersion (modelId : String) (store : ModelStore) : Except Raised Model × ModelStore :=
  match transitioned context store modelId "deprecated" with
  | .error raised => (.error raised, store)
  | .ok model => saveAndPublish Model.described (publishModelEvent meets "ModelVersionDeprecated")
      (model.withStatus .deprecated) store

/-- The managed model `archive_model` archives. -/
def archivable (store : ModelStore) (modelId : String) : Except Raised Model := do
  let model ← getModel context store modelId
  requireManagedLifecycle model
  pure model

/-- `archive_model`. -/
def archiveModel (modelId : String) (store : ModelStore) : Except Raised Model × ModelStore :=
  match archivable context store modelId with
  | .error raised => (.error raised, store)
  | .ok model =>
    if model.record.status = .archived then (.ok model, store)
    else saveAndPublish Model.described (publishModelEvent meets "ModelVersionArchived")
      (model.withStatus .archived) store

/-! ## What the checks find -/

variable {context} {store : ModelStore}

variable {project : String}

theorem projectId_eq_ok : projectId context = .ok project ↔ context.scope.projectId = some project := by
  unfold projectId
  cases context.scope.projectId <;> simp

theorem named_eq_ok {provider modelName : String} {asset : AssetName (String × String)}
    (found : named context provider modelName = .ok asset) :
    ∃ project, context.scope.projectId = some project ∧ asset = ⟨context.scope.organizationId, project, provider, modelName⟩ := by
  obtain ⟨project, owned, rest⟩ := bind_ok found
  cases rest
  exact ⟨project, projectId_eq_ok.mp owned, rfl⟩

variable {model : Model} {modelId : String}

theorem getModel_eq_ok (found : getModel context store modelId = .ok model) :
    store.get? modelId = some model ∧ model.record.organizationId = context.scope.organizationId ∧
      context.scope.projectId = some model.record.projectId := by
  obtain ⟨project, owned, rest⟩ := bind_ok found
  cases looked : findById Model.described store modelId context.scope.organizationId project with
  | none =>
    rw [looked] at rest
    cases rest
  | some stored =>
    rw [looked] at rest
    cases rest
    obtain ⟨present, organization, same⟩ := findById_eq_some.mp looked
    refine ⟨present, organization, ?_⟩
    rw [projectId_eq_ok.mp owned, ← same]
    rfl

theorem ensureVersionAvailable_eq_ok {provider modelName version : String}
    (available : ensureVersionAvailable context store provider modelName version = .ok ())
    (owned : context.scope.projectId = some project) :
    findByNameAndVersion Model.described store ⟨context.scope.organizationId, project, provider, modelName⟩
      version = none := by
  obtain ⟨asset, found, rest⟩ := bind_ok available
  obtain ⟨_, same, rfl⟩ := named_eq_ok found
  rw [owned] at same
  cases same
  cases looked : findByNameAndVersion Model.described store ⟨context.scope.organizationId, project, provider, modelName⟩
      version with
  | none => rfl
  | some stored =>
    rw [looked] at rest
    cases rest

theorem ensureIdAvailable_eq_ok (available : ensureIdAvailable context store (some modelId) = .ok ())
    (owned : context.scope.projectId = some project) :
    findById Model.described store modelId context.scope.organizationId project = none := by
  obtain ⟨found, same, rest⟩ := bind_ok available
  rw [projectId_eq_ok, owned] at same
  cases same
  cases looked : findById Model.described store modelId context.scope.organizationId project with
  | none => rfl
  | some stored =>
    rw [looked] at rest
    cases rest

theorem requireManagedLifecycle_eq_ok (managed : requireManagedLifecycle model = .ok ()) :
    model.record.provenance = .managed := by
  unfold requireManagedLifecycle at managed
  split at managed
  · assumption
  · cases managed

theorem transitioned_eq_ok {action : String} (found : transitioned context store modelId action = .ok model) :
    getModel context store modelId = .ok model ∧ model.record.provenance = .managed ∧
      model.record.status ≠ .archived := by
  obtain ⟨stored, present, rest⟩ := bind_ok found
  obtain ⟨_, managed, rest⟩ := bind_ok rest
  by_cases archived : stored.record.status = .archived
  · rw [if_pos archived] at rest
    cases rest
  · rw [if_neg archived] at rest
    cases rest
    exact ⟨present, requireManagedLifecycle_eq_ok managed, archived⟩

end ModelRegistry

/-- An operation of the model registry. A registration comes with the providers its tenant allows. -/
inductive ModelOperation where
  | registerModel (allowed : Option (Except Raised (List String))) (registration : ModelRegistration)
  | createModelVersion (revision : ModelRevision)
  | observeModel (observation : ModelObservation)
  | activateModelVersion (modelId : String)
  | deprecateModelVersion (modelId : String)
  | archiveModel (modelId : String)

/-- `ModelRegistryService`, one operation at a time. -/
def ModelOperation.serve (primitives : RegistryPrimitives) (context : TenantContext) (meets : RegistryMeets) :
    ModelOperation → ModelStore → Except Raised Model × ModelStore
  | .registerModel allowed registration => ModelRegistry.registerModel context meets allowed registration
  | .createModelVersion revision => ModelRegistry.createModelVersion context meets revision
  | .observeModel observation => ModelRegistry.observeModel primitives context meets observation
  | .activateModelVersion modelId => ModelRegistry.activateModelVersion context meets modelId
  | .deprecateModelVersion modelId => ModelRegistry.deprecateModelVersion context meets modelId
  | .archiveModel modelId => ModelRegistry.archiveModel context meets modelId

end AiGovernance.Registries
