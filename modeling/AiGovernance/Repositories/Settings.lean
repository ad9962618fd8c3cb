import AiGovernance.Domain.Setting
import AiGovernance.Std.Dict

/-!
# The in-memory settings store

`InMemorySettingsRepository`: the current settings by key, scope and scope
identifier, and the trail of their changes. A save compares the caller's version
with the stored one and appends to both.
-/

namespace AiGovernance.Settings

open AiGovernance.Std Domain

/-- What a setting is stored under. -/
structure SettingIdentity where
  key : String
  scope : SettingScope
  scopeId : String
deriving DecidableEq

/-- The settings and their audit trail, oldest record first. -/
structure SettingsStore (V : Type) where
  values : Dict SettingIdentity (RuntimeSetting V)
  audit : List (SettingAuditRecord V)

/-- What a record is filed under. -/
def SettingAuditRecord.identity {V : Type} (record : SettingAuditRecord V) : SettingIdentity :=
  ⟨record.key, record.scope, record.scopeId⟩

/-- The arguments of one save, with the clock reading and the identifier it draws. -/
structure SettingWrite (V : Type) where
  identity : SettingIdentity
  value : V
  actorId : String
  reason : String
  expectedVersion : Int
  now : Instant
  auditId : String

namespace SettingsStore

variable {V : Type}

/-- A new store. -/
def empty : SettingsStore V := ⟨.empty, []⟩

/-- `get`. -/
def get (store : SettingsStore V) (identity : SettingIdentity) : Option (RuntimeSetting V) :=
  store.values.get? identity

/-- The version stored under an identity, zero where there is none. -/
def currentVersion (store : SettingsStore V) (identity : SettingIdentity) : Nat :=
  ((store.get identity).map (·.version)).getD 0

/-- The setting a write stores. -/
def written (store : SettingsStore V) (write : SettingWrite V) : RuntimeSetting V where
  key := write.identity.key
  scope := write.identity.scope
  scopeId := write.identity.scopeId
  value := write.value
  version := store.currentVersion write.identity + 1
  updatedBy := write.actorId
  updatedAt := write.now

/-- The record a write appends. -/
def recorded (store : SettingsStore V) (write : SettingWrite V) : SettingAuditRecord V where
  auditId := write.auditId
  key := write.identity.key
  scope := write.identity.scope
  scopeId := write.identity.scopeId
  oldValue := (store.get write.identity).map (·.value)
  newValue := write.value
  actorId := write.actorId
  reason := write.reason
  version := store.currentVersion write.identity + 1
  createdAt := write.now

/-- The store after a write that was not refused. -/
def accept (store : SettingsStore V) (write : SettingWrite V) : SettingsStore V where
  values := store.values.set write.identity (store.written write)
  audit := store.audit ++ [store.recorded write]

/-- `save`. -/
def save (store : SettingsStore V) (write : SettingWrite V) : Except Raised (RuntimeSetting V × SettingsStore V) :=
  if (store.currentVersion write.identity : Int) ≠ write.expectedVersion then
    .error ⟨.settingVersionConflict, "Setting '" ++ write.identity.key ++ "' changed from expected version " ++
      toString write.expectedVersion ++ " to " ++ toString (store.currentVersion write.identity) ++
      ". Refresh and retry."⟩
  else .ok (store.written write, store.accept write)

/-- `list_audit`, newest record first. -/
def listAudit (store : SettingsStore V) (key : Option String) (scope : Option SettingScope)
    (scopeId : Option String) : List (SettingAuditRecord V) :=
  store.audit.reverse.filter fun record =>
    key.all (record.key = ·) && scope.all (record.scope = ·) && scopeId.all (record.scopeId = ·)

/-- The records of one identity, oldest first. -/
def trail (store : SettingsStore V) (identity : SettingIdentity) : List (SettingAuditRecord V) :=
  (store.listAudit (some identity.key) (some identity.scope) (some identity.scopeId)).reverse

theorem trail_eq (store : SettingsStore V) (identity : SettingIdentity) :
    store.trail identity = store.audit.filter (·.identity = identity) := by
  unfold trail listAudit
  rw [List.filter_reverse, List.reverse_reverse]
  congr 1
  ext record
  obtain ⟨key, scope, scopeId⟩ := identity
  simp [SettingAuditRecord.identity, Bool.and_assoc]

theorem trail_accept (store : SettingsStore V) (write : SettingWrite V) (identity : SettingIdentity) :
    (store.accept write).trail identity =
      store.trail identity ++ if write.identity = identity then [store.recorded write] else [] := by
  rw [trail_eq, trail_eq]
  unfold accept
  rw [List.filter_append]
  congr 1
  have filed : (store.recorded write).identity = write.identity := rfl
  by_cases here : write.identity = identity
  · rw [if_pos here, List.filter_cons_of_pos (by simpa [filed] using here), List.filter_nil]
  · rw [if_neg here, List.filter_cons_of_neg (by simpa [filed] using here), List.filter_nil]

theorem get_accept (store : SettingsStore V) (write : SettingWrite V) (identity : SettingIdentity) :
    (store.accept write).get identity =
      if identity = write.identity then some (store.written write) else store.get identity :=
  Dict.get?_set _

theorem save_cases (store : SettingsStore V) (write : SettingWrite V) :
    (∃ raised, store.save write = .error raised) ∨
      ((store.currentVersion write.identity : Int) = write.expectedVersion ∧
        store.save write = .ok (store.written write, store.accept write)) := by
  unfold save
  by_cases current : (store.currentVersion write.identity : Int) = write.expectedVersion
  · exact Or.inr ⟨current, if_neg (not_not.mpr current)⟩
  · exact Or.inl ⟨_, if_pos current⟩

end SettingsStore

end AiGovernance.Settings
