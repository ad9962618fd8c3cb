import AiGovernance.Domain.RuntimeConnection
import AiGovernance.Repositories.Settings
import AiGovernance.Semantics.Pool

/-!
# Runtime connections in the settings store

`SettingsRuntimeConnectionRepository`: a connection is one setting of its
organization or project. A lookup takes the stored value apart, and a save reads
the setting once more for the version it hands to the store.
-/

namespace AiGovernance.Connections

open AiGovernance.Std Domain Settings Semantics

/-- The dictionary `_to_value` builds. -/
structure ConnectionValue where
  runtimeConnectionId : String
  displayName : String
  provider : String
  settings : List (String × Json)
  secretRefs : List (String × String)
  enabled : Bool
  organizationId : String
  projectId : Option String
  createdBy : String
  updatedBy : String
  createdAt : String
  updatedAt : String
  lastTestedAt : Option String
  lastTestStatus : String
  lastTestMessage : Option String
deriving DecidableEq

/-- `_to_value`. -/
def toValue (connection : RuntimeConnection) : ConnectionValue where
  runtimeConnectionId := connection.record.runtimeConnectionId
  displayName := connection.record.displayName
  provider := connection.record.provider
  settings := connection.record.settings
  secretRefs := connection.record.secretRefs
  enabled := connection.record.enabled
  organizationId := connection.record.organizationId
  projectId := connection.record.projectId
  createdBy := connection.record.createdBy
  updatedBy := connection.record.updatedBy
  createdAt := connection.record.createdAt.isoformat
  updatedAt := connection.record.updatedAt.isoformat
  lastTestedAt := connection.record.lastTestedAt.map Instant.isoformat
  lastTestStatus := connection.record.lastTestStatus.value
  lastTestMessage := connection.record.lastTestMessage

/-- `datetime.fromisoformat`. -/
def readInstant (text : String) : Except Raised Instant :=
  match Instant.fromisoformat text with
  | some instant => .ok instant
  | none => .error ⟨.valueError, "Invalid isoformat string: '" ++ text ++ "'"⟩

/-- `_from_value`. -/
def fromValue (value : ConnectionValue) (version : Nat) : Except Raised RuntimeConnection := do
  let createdAt ← readInstant value.createdAt
  let updatedAt ← readInstant value.updatedAt
  let lastTestedAt ← (value.lastTestedAt.filter (· ≠ "")).mapM readInstant
  let lastTestStatus ← RuntimeConnectionTestStatus.ofValue
    (if value.lastTestStatus = "" then RuntimeConnectionTestStatus.notTested.value else value.lastTestStatus)
  RuntimeConnection.create {
    runtimeConnectionId := value.runtimeConnectionId
    displayName := value.displayName
    provider := value.provider
    settings := value.settings
    secretRefs := value.secretRefs
    enabled := value.enabled
    organizationId := value.organizationId
    projectId := value.projectId.filter (· ≠ "")
    createdBy := value.createdBy
    updatedBy := if value.updatedBy = "" then value.createdBy else value.updatedBy
    createdAt
    updatedAt
    lastTestedAt
    lastTestStatus
    lastTestMessage := value.lastTestMessage.filter (· ≠ "")
    version }

/-- `_key`. -/
def connectionKey (runtimeConnectionId : String) : String := "runtime_connection." ++ runtimeConnectionId

/-- `_project_scope_id`. -/
def projectScopeId (organizationId projectId : String) : String := organizationId ++ ":" ++ projectId

/-- Where a connection of an organization is stored. -/
def organizationIdentity (runtimeConnectionId organizationId : String) : SettingIdentity :=
  ⟨connectionKey runtimeConnectionId, .organization, organizationId⟩

/-- Where a connection of a project is stored. -/
def projectIdentity (runtimeConnectionId organizationId projectId : String) : SettingIdentity :=
  ⟨connectionKey runtimeConnectionId, .project, projectScopeId organizationId projectId⟩

/-- `_key` and `_scope` of a connection. -/
def connectionIdentity (connection : RuntimeConnection) : SettingIdentity :=
  match connection.record.projectId with
  | none => organizationIdentity connection.record.runtimeConnectionId connection.record.organizationId
  | some projectId =>
    projectIdentity connection.record.runtimeConnectionId connection.record.organizationId projectId

/-! ## The adapter -/

/-- A setting with a connection in it. -/
abbrev ConnectionSetting := RuntimeSetting ConnectionValue

/-- The settings that hold the connections. -/
abbrev ConnectionStore := SettingsStore ConnectionValue

/-- The steps of the adapter on the store: a lookup of `find_by_id`, the lookup of `save`, and its write. -/
inductive ConnectionCommand where
  | find (identity : SettingIdentity)
  | get (identity : SettingIdentity)
  | save (write : SettingWrite ConnectionValue)

/-- What the store answers. -/
abbrev connectionStorage : Interface where
  Command := ConnectionCommand
  Answer
    | .find _ => Option ConnectionSetting
    | .get _ => Option ConnectionSetting
    | .save _ => ConnectionSetting
  Exception := Raised

/-- The in-memory settings store. -/
def storing : Handler connectionStorage ConnectionStore
  | .find identity, store => (.ok (store.get identity), store)
  | .get identity, store => (.ok (store.get identity), store)
  | .save write, store =>
    match store.save write with
    | .ok (saved, after) => (.ok saved, after)
    | .error raised => (.error raised, store)

/-- What the save of a call draws: the clock of the store and the identifier of the record. -/
structure SaveDraw where
  now : Instant
  auditId : String

/-- The write of a save that has looked up `existing`. -/
def connectionWrite (draw : SaveDraw) (connection : RuntimeConnection) (existing : Option ConnectionSetting) :
    SettingWrite ConnectionValue where
  identity := connectionIdentity connection
  value := toValue connection
  actorId := connection.record.updatedBy
  reason := "runtime connection updated"
  expectedVersion := ((existing.map (·.version)).getD 0 : Nat)
  now := draw.now
  auditId := draw.auditId

/-- `SettingsRuntimeConnectionRepository.save`. -/
def saveConnection (draw : SaveDraw) (connection : RuntimeConnection) :
    Program connectionStorage RuntimeConnection := do
  let existing ← Program.call (I := connectionStorage) (.get (connectionIdentity connection))
  let saved ← Program.call (I := connectionStorage) (.save (connectionWrite draw connection existing))
  .ofExcept (fromValue saved.value saved.version)

/-- One lookup of `find_by_id`, and what it goes on with where nothing is stored. -/
def lookUp (identity : SettingIdentity) (absent : Program connectionStorage (Option RuntimeConnection)) :
    Program connectionStorage (Option RuntimeConnection) := do
  let item ← Program.call (I := connectionStorage) (.find identity)
  match item with
  | some item => .ofExcept ((fromValue item.value item.version).map some)
  | none => absent

/-- `SettingsRuntimeConnectionRepository.find_by_id`. -/
def findConnection (runtimeConnectionId organizationId : String) (projectId : Option String) :
    Program connectionStorage (Option RuntimeConnection) :=
  let inOrganization := lookUp (organizationIdentity runtimeConnectionId organizationId) (pure none)
  match projectId.filter (· ≠ "") with
  | none => inOrganization
  | some projectId => lookUp (projectIdentity runtimeConnectionId organizationId projectId) inOrganization

end AiGovernance.Connections
