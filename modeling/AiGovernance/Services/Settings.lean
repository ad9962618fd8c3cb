import AiGovernance.Repositories.Settings

/-!
# The configuration service

`ConfigurationService` (`settings_control/service.py`) over the in-memory store,
which knows no transactions: an update is checked, saved, announced to the event
publisher, and answered with the setting as it now resolves. The process
environment, the plugin enforcers, the publisher, the clock and the identifiers
of a call come with it.
-/

namespace AiGovernance.Settings

open AiGovernance.Std Domain

/-- The variables of the process. -/
abbrev Environment := String → Option String

/-- The facts a plugin enforcer is asked about. -/
structure SettingEnforcementRequest where
  context : TenantContext
  resourceId : String
  lifecycleState : String
  category : String
  sensitive : Bool
deriving DecidableEq

/-- The metadata of `_setting_changed_event`. -/
structure SettingChangedEvent where
  tenantId : String
  organizationId : String
  projectId : String
  resourceId : String
  key : String
  scopeType : String
  scopeId : String
  previousEffectiveVersion : Int
  newVersion : Nat
  changedBy : String
  changedAt : Instant
  sensitive : Bool
deriving DecidableEq

/-- A call of `update`, with what it meets. -/
structure SettingUpdate (V : Type) where
  key : String
  value : V
  actorId : String
  reason : String
  expectedVersion : Int
  scope : SettingScope := .system
  context : SettingContext := {}
  tenantContext : Option TenantContext := none
  environment : Environment := fun _ => none
  enforcers : List (SettingEnforcementRequest → Except Raised Bool) := []
  publisher : Option (SettingChangedEvent → Except Raised Unit) := none
  now : Instant
  auditId : String

/-- `ConfigurationService`; the registry files each definition under its key. -/
structure ConfigurationService (V : Type) where
  conversions : Conversions V
  registry : String → Option (SettingDefinition V)
  keyed : ∀ {key definition}, registry key = some definition → definition.key = key
  pythonVersion : String

/-- A text that is there and not empty. -/
def nonEmpty (text : Option String) : Option String := text.filter (· ≠ "")

/-- `_scope_id`. -/
def scopeIdFor (scope : SettingScope) (context : SettingContext) : Except Raised String :=
  let required (named : Option String) : Except Raised String :=
    match nonEmpty named with
    | some scopeId => .ok scopeId
    | none => .error ⟨.settingScopeInvalid, scope.value ++ " scope requires matching tenant context"⟩
  match scope with
  | .system => .ok ""
  | .organization => required context.organizationId
  | .project => required context.projectId

/-- The value the environment gives a setting. -/
def SettingDefinition.override {V : Type} (definition : SettingDefinition V) (environment : Environment) :
    Option String :=
  (nonEmpty definition.environmentVariable).bind environment

/-- The first enforcer that does not allow the request. -/
def askEnforcers (request : SettingEnforcementRequest) :
    List (SettingEnforcementRequest → Except Raised Bool) → Except Raised Unit
  | [] => .ok ()
  | enforcer :: rest => do
      let allowed ← enforcer request
      if allowed then askEnforcers request rest
      else .error ⟨.authorizationDenied, "Actor is not authorized for this operation"⟩

/-- `_enforce_update`. -/
def enforceUpdate {V : Type} (definition : SettingDefinition V) (call : SettingUpdate V) (scopeId : String) :
    Except Raised Unit :=
  if call.enforcers.isEmpty then .ok ()
  else
    match call.tenantContext with
    | none => .error ⟨.authorizationDenied, "Actor is not authorized for this operation"⟩
    | some context =>
      askEnforcers {
        context
        resourceId := call.scope.value ++ ":" ++ scopeId ++ ":" ++ call.key
        lifecycleState := call.scope.value
        category := definition.category
        sensitive := definition.sensitive } call.enforcers

/-- `_setting_changed_event`. -/
def settingChangedEvent {V : Type} (definition : SettingDefinition V) (call : SettingUpdate V)
    (saved : RuntimeSetting V) : SettingChangedEvent where
  tenantId := (nonEmpty call.context.organizationId).getD "system"
  organizationId := call.context.organizationId.getD ""
  projectId := call.context.projectId.getD ""
  resourceId := saved.scope.value ++ ":" ++ saved.scopeId ++ ":" ++ call.key
  key := call.key
  scopeType := saved.scope.value
  scopeId := saved.scopeId
  previousEffectiveVersion := call.expectedVersion
  newVersion := saved.version
  changedBy := call.actorId
  changedAt := saved.updatedAt
  sensitive := definition.sensitive

namespace ConfigurationService

variable {V : Type} (service : ConfigurationService V)

/-- The scopes `_resolve_runtime` looks in, innermost first. -/
def candidates (context : SettingContext) : List (SettingScope × Option String) :=
  [(.project, context.projectId), (.organization, context.organizationId), (.system, some "")]

/-- `_resolve_runtime`. -/
def resolveRuntime (store : SettingsStore V) (key : String) (allowedScopes : List SettingScope)
    (context : SettingContext) : Option (RuntimeSetting V) :=
  (candidates context).findSome? fun (scope, scopeId) =>
    if allowedScopes.contains scope then scopeId.bind fun scopeId => store.get ⟨key, scope, scopeId⟩ else none

/-- `_environment_value`. -/
def environmentValue (definition : SettingDefinition V) (text : String) : Except Raised V :=
  if Text.startsWith "integrations." definition.key then
    .ok (service.conversions.ofText (if Text.isBlank text then "disconnected" else "connected"))
  else parseValue service.conversions definition (service.conversions.ofText text)

/-- `_computed_default`. -/
def computedDefault (definition : SettingDefinition V) : V :=
  if definition.key = "system.python_version" then service.conversions.ofText service.pythonVersion
  else definition.defaultValue

/-- The effective value of a setting, its source and the scope it comes from. -/
def effective (environment : Environment) (store : SettingsStore V) (definition : SettingDefinition V)
    (context : SettingContext) : Except Raised (V × SettingSource × Option SettingScope) :=
  match definition.override environment with
  | some text => do
      let value ← service.environmentValue definition text
      return (if definition.sensitive then service.conversions.ofText "connected" else value, .environment, none)
  | none =>
    match resolveRuntime store definition.key definition.allowedScopes context with
    | some inherited => .ok (inherited.value, inherited.scope.source, some inherited.scope)
    | none => .ok (service.computedDefault definition, .default, none)

/-- The scope a setting is edited in: the one asked for, or the system where it is not allowed. -/
def editedIn (definition : SettingDefinition V) (scope : SettingScope) (scopeId : String) : SettingIdentity :=
  if definition.allowedScopes.contains scope then ⟨definition.key, scope, scopeId⟩ else ⟨definition.key, .system, ""⟩

/-- `resolve`. -/
def resolve (environment : Environment) (store : SettingsStore V) (key : String) (context : SettingContext)
    (editScope : SettingScope) : Except Raised (ResolvedSetting V) :=
  match service.registry key with
  | none => .error ⟨.settingNotFound, key⟩
  | some definition => do
      let scopeId ← scopeIdFor editScope context
      let edited := editedIn definition editScope scopeId
      let (value, source, inheritedFrom) ← service.effective environment store definition context
      return {
        key
        editScope := edited.scope
        editScopeId := edited.scopeId
        runtimeValue := (store.get edited).map (·.value)
        effectiveValue := value
        source
        inheritedFrom
        version := (store.get edited).map (·.version)
        updatedBy := (store.get edited).map (·.updatedBy)
        updatedAt := (store.get edited).map (·.updatedAt) }

/-- The checks `update` makes before it saves, and the write it then asks for. -/
def prepare (call : SettingUpdate V) : Except Raised (SettingDefinition V × SettingWrite V) :=
  match service.registry call.key with
  | none => .error ⟨.settingNotFound, call.key⟩
  | some definition =>
    if !definition.mutable then .error ⟨.settingReadOnly, call.key⟩
    else if !definition.runtimeApplied then .error ⟨.settingReadOnly, call.key ++ " has no live runtime consumer"⟩
    else if !definition.allowedScopes.contains call.scope then
      .error ⟨.settingScopeInvalid, call.key ++ " does not support " ++ call.scope.value ++ " scope"⟩
    else if (definition.override call.environment).isSome then .error ⟨.settingEnvironmentOverride, call.key⟩
    else do
      let scopeId ← scopeIdFor call.scope call.context
      enforceUpdate definition call scopeId
      let parsed ← parseValue service.conversions definition call.value
      return (definition, {
        identity := ⟨call.key, call.scope, scopeId⟩
        value := parsed
        actorId := call.actorId
        reason := call.reason
        expectedVersion := call.expectedVersion
        now := call.now
        auditId := call.auditId })

/-- Tell the publisher, if there is one. -/
def announce (definition : SettingDefinition V) (call : SettingUpdate V) (saved : RuntimeSetting V) :
    Except Raised Unit :=
  match call.publisher with
  | none => .ok ()
  | some publish => publish (settingChangedEvent definition call saved)

/-- `update`: the save comes before the publisher, which may raise. -/
def update (call : SettingUpdate V) (store : SettingsStore V) : Except Raised (ResolvedSetting V) × SettingsStore V :=
  match service.prepare call with
  | .error raised => (.error raised, store)
  | .ok (definition, write) =>
    match store.save write with
    | .error raised => (.error raised, store)
    | .ok (saved, next) =>
      match announce definition call saved with
      | .error raised => (.error raised, next)
      | .ok () => (service.resolve call.environment next call.key call.context call.scope, next)

/-- The store a run of updates leaves. -/
def updateAll (calls : List (SettingUpdate V)) (store : SettingsStore V) : SettingsStore V :=
  calls.foldl (fun store call => (service.update call store).2) store

variable {service} {call : SettingUpdate V} {store : SettingsStore V}

/-- What a call that passed the checks satisfies. -/
structure Prepared (service : ConfigurationService V) (call : SettingUpdate V) (definition : SettingDefinition V)
    (write : SettingWrite V) : Prop where
  registered : service.registry call.key = some definition
  allowed : definition.allowedScopes.contains call.scope = true
  free : definition.override call.environment = none
  identified : ∃ scopeId, scopeIdFor call.scope call.context = .ok scopeId ∧
    write.identity = ⟨call.key, call.scope, scopeId⟩
  parsed : parseValue service.conversions definition call.value = .ok write.value
  expected : write.expectedVersion = call.expectedVersion

variable {definition : SettingDefinition V} {write : SettingWrite V}

theorem prepare_ok (passed : service.prepare call = .ok (definition, write)) :
    Prepared service call definition write := by
  unfold prepare at passed
  cases found : service.registry call.key with
  | none =>
    rw [found] at passed
    cases passed
  | some known =>
    rw [found] at passed
    dsimp only at passed
    split at passed
    · cases passed
    · split at passed
      · cases passed
      · split at passed
        · cases passed
        · rename_i allowed
          split at passed
          · cases passed
          · rename_i free
            obtain ⟨scopeId, identified, passed⟩ := bind_ok passed
            obtain ⟨_, -, passed⟩ := bind_ok passed
            obtain ⟨value, parsed, passed⟩ := bind_ok passed
            cases passed
            exact ⟨found, by simpa using allowed, by simpa using free, ⟨scopeId, identified, rfl⟩, parsed, rfl⟩

/-- A call that passed the checks resolves afterwards, whatever is stored. -/
theorem Prepared.resolves (prepared : Prepared service call definition write) (store : SettingsStore V) :
    ∃ resolved, service.resolve call.environment store call.key call.context call.scope = .ok resolved := by
  obtain ⟨scopeId, identified, -⟩ := prepared.identified
  have answered : ∃ answer, service.effective call.environment store definition call.context = .ok answer := by
    unfold effective
    rw [prepared.free]
    dsimp only
    split
    · exact ⟨_, rfl⟩
    · exact ⟨_, rfl⟩
  obtain ⟨answer, same⟩ := answered
  unfold resolve
  rw [prepared.registered]
  dsimp only
  rw [identified, same]
  exact ⟨_, rfl⟩

/-- What an update does: nothing, or it accepts its write, and then raises only what the publisher raises. -/
inductive Updated (service : ConfigurationService V) (call : SettingUpdate V) (store : SettingsStore V) :
    Except Raised (ResolvedSetting V) → SettingsStore V → Prop
  | refused (raised : Raised) : Updated service call store (.error raised) store
  | saved {definition : SettingDefinition V} {write : SettingWrite V} {result : Except Raised (ResolvedSetting V)}
      (passed : service.prepare call = .ok (definition, write))
      (current : (store.currentVersion write.identity : Int) = write.expectedVersion)
      (answered : (∃ resolved, result = .ok resolved) ∨
        ∃ raised, announce definition call (store.written write) = .error raised ∧ result = .error raised) :
      Updated service call store result (store.accept write)

theorem update_does (service : ConfigurationService V) (call : SettingUpdate V) (store : SettingsStore V) :
    Updated service call store (service.update call store).1 (service.update call store).2 := by
  unfold update
  cases passed : service.prepare call with
  | error raised => exact .refused raised
  | ok prepared =>
    obtain ⟨definition, write⟩ := prepared
    dsimp only
    obtain ⟨raised, refused⟩ | ⟨current, saved⟩ := store.save_cases write
    · rw [refused]
      exact .refused raised
    · rw [saved]
      dsimp only
      cases announced : announce definition call (store.written write) with
      | error raised => exact .saved passed current (Or.inr ⟨raised, announced, rfl⟩)
      | ok => exact .saved passed current (Or.inl ((prepare_ok passed).resolves _))

/-- A call that passes its checks and names the stored version is saved. -/
theorem update_saves (passed : service.prepare call = .ok (definition, write))
    (current : (store.currentVersion write.identity : Int) = write.expectedVersion) :
    (service.update call store).2 = store.accept write := by
  unfold update
  rw [passed]
  dsimp only
  obtain ⟨raised, refused⟩ | ⟨-, saved⟩ := store.save_cases write
  · unfold SettingsStore.save at refused
    rw [if_neg (not_not.mpr current)] at refused
    cases refused
  · rw [saved]
    dsimp only
    split
    · rfl
    · rfl

end ConfigurationService

/-! ## Two of the built-in settings -/

/-- The scopes of a mutable setting. -/
def everyScope : List SettingScope := [.system, .organization, .project]

/-- `mcp.dry_run_default`. -/
def dryRunDefault : SettingDefinition Json where
  key := "mcp.dry_run_default"
  category := "MCP"
  valueType := .boolean
  defaultValue := .bool false
  mutable := true
  environmentVariable := some "AI_GOVERNANCE_MCP_DRY_RUN_DEFAULT"
  allowedScopes := everyScope
  runtimeApplied := true

/-- `evaluation.thresholds`. -/
def evaluationThresholds : SettingDefinition Json where
  key := "evaluation.thresholds"
  category := "Evaluation"
  valueType := .json
  defaultValue := .obj []
  mutable := true
  environmentVariable := some "AI_GOVERNANCE_EVALUATION_THRESHOLDS"
  allowedScopes := everyScope
  runtimeApplied := true

/-- A service that knows the two settings, and the JSON texts `"0.9"` with and without its quotes. -/
def twoSettings : ConfigurationService Json where
  conversions := .tabulated [("\"0.9\"", .str "0.9"), ("0.9", .float (9 / 10))]
  registry := fun key => [dryRunDefault, evaluationThresholds].find? (·.key = key)
  keyed := by
    intro key definition found
    simpa using List.find?_some found
  pythonVersion := "3.12.0"

end AiGovernance.Settings
