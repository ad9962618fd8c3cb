import AiGovernance.Semantics.Honours
import AiGovernance.Services.RuntimeConnections

/-!
# Lost updates of runtime connections

A save hands the store the version it has just looked up itself, not the one the
call has read. The store compares versions, so a change between the two lookups
is overwritten, and a change after the second is refused. Where every save looks
up the setting its call has read, the connection is what the calls that were
served make of it, one on top of the other.
-/

namespace AiGovernance.Connections

open AiGovernance.Std Domain Settings Semantics List

variable {write : SettingWrite ConnectionValue}

/-- What a call has logged. -/
abbrev ConnectionLog := CommandLog connectionStorage ConnectionStore

/-- The calls in flight. -/
abbrev ConnectionConfig := Config connectionStorage ConnectionStore ConnectionCall RuntimeConnection

/-- The commands of a run. -/
abbrev ConnectionTrace := List (ConnectionCall × ConnectionStore × connectionStorage.Command)

/-- The setting a call has read: what its last lookup of `find_by_id` found. -/
def readSetting (log : ConnectionLog) : Option ConnectionSetting :=
  log.foldl (fun read entry =>
    match entry.2 with
    | .find identity => entry.1.get identity
    | .get _ | .save _ => read) none

/-- The lookup of a save finds the setting that the call has read. -/
def Undisturbed (store : ConnectionStore) (log : ConnectionLog) : ConnectionCommand → Prop
  | .get identity => store.get identity = readSetting log
  | .find _ | .save _ => True

/-- Any number of calls of the service over one store, on the schedules considered. -/
def connectionPool (language : ConnectionLanguage)
    (admits : ConnectionStore → ConnectionLog → ConnectionCommand → Prop) :
    Pool connectionStorage ConnectionStore ConnectionCall RuntimeConnection where
  handler := storing
  body := ConnectionCall.program language
  offered := fun _ => True
  environment := fun _ _ => False
  admits := admits

/-! ## What calls leave -/

/-- The store takes a write. -/
def Accepts (store : ConnectionStore) (write : SettingWrite ConnectionValue) : Prop :=
  (store.currentVersion write.identity : Int) = write.expectedVersion

instance (store : ConnectionStore) (write : SettingWrite ConnectionValue) : Decidable (Accepts store write) :=
  inferInstanceAs (Decidable (_ = _))

/-- A setting is what a call makes of another. -/
def Builds (language : ConnectionLanguage) (call : ConnectionCall) (item next : ConnectionSetting) : Prop :=
  ∃ connection changed, fromValue item.value item.version = .ok connection ∧
    call.changed language connection = .ok changed ∧ next.value = toValue changed ∧ next.version = item.version + 1

/-- A setting is what calls make of another, one on top of the other. -/
inductive Carried (language : ConnectionLanguage) (first : Option ConnectionSetting) :
    List ConnectionCall → Option ConnectionSetting → Prop where
  | nil : Carried language first [] first
  | snoc {calls : List ConnectionCall} {call : ConnectionCall} {item next : ConnectionSetting}
      (before : Carried language first calls (some item)) (built : Builds language call item next) :
      Carried language first (calls ++ [call]) (some next)

/-- The calls whose writes to an identity were taken, in order. -/
def committed (identity : SettingIdentity) (trace : ConnectionTrace) : List ConnectionCall :=
  trace.filterMap fun (call, store, command) =>
    match command with
    | .save write => if write.identity = identity ∧ Accepts store write then some call else none
    | .find _ | .get _ => none

/-- The connection stored under an identity is disabled. -/
def Disabled (store : ConnectionStore) (identity : SettingIdentity) : Prop :=
  ∃ item, store.get identity = some item ∧ item.value.enabled = false

/-- What a run without lost updates is like. -/
structure NoLostUpdate (language : ConnectionLanguage) (start final : ConnectionConfig) (trace : ConnectionTrace) :
    Prop where
  /-- A connection is what the calls whose writes were taken make of it, each on top of those before. -/
  carried : ∀ identity,
    Carried language (start.state.get identity) (committed identity trace) (final.state.get identity)
  /-- A call that returns has had its write taken. -/
  returned : ∀ thread ∈ final.threads, ∀ connection, thread.Finished (.ok connection) →
    ∃ store write, (thread.call, store, .save write) ∈ trace ∧ Accepts store write
  /-- A call whose connection was changed after it was read is refused for the version. -/
  rejected : ∀ thread ∈ final.threads, ∀ store write, (store, .save write) ∈ thread.log →
    store.get write.identity ≠ readSetting thread.log →
      ∃ message, storing (.save write) store = (.error ⟨.settingVersionConflict, message⟩, store) ∧
        thread.Finished (.error ⟨.settingVersionConflict, message⟩)
  /-- Only an update that enables it ends that a connection is disabled. -/
  disabled : ∀ call store command, (call, store, command) ∈ trace → ∀ identity, Disabled store identity →
    ¬ call.Enables → Disabled (storing command store).2 identity

/-! ## Versions -/

/-- Each setting is kept, or replaced under a higher version. -/
def Advances (before after : ConnectionStore) : Prop :=
  ∀ identity item, before.get identity = some item →
    ∃ later, after.get identity = some later ∧ item.version ≤ later.version ∧
      (later.version = item.version → later = item)

theorem Advances.refl (store : ConnectionStore) : Advances store store :=
  fun _ item found => ⟨item, found, le_refl _, fun _ => rfl⟩

theorem Advances.trans {first second third : ConnectionStore} (before : Advances first second)
    (after : Advances second third) : Advances first third := by
  intro identity item found
  obtain ⟨middle, kept, above, same⟩ := before identity item found
  obtain ⟨last, found, higher, equal⟩ := after identity middle kept
  refine ⟨last, found, above.trans higher, ?_⟩
  intro back
  have level : last.version = middle.version := le_antisymm (by omega) higher
  rw [equal level]
  apply same
  omega

variable {store : ConnectionStore}

theorem currentVersion_of_get {identity : SettingIdentity} {item : ConnectionSetting}
    (found : store.get identity = some item) : store.currentVersion identity = item.version := by
  unfold SettingsStore.currentVersion
  rw [found]
  rfl

theorem storing_save :
    storing (.save write) store =
      match store.save write with
      | .ok (saved, after) => (.ok saved, after)
      | .error raised => (.error raised, store) := rfl

/-- A save that is not taken is refused for the version, and changes nothing. -/
theorem storing_refused (refused : ¬ Accepts store write) :
    ∃ message, store.save write = .error ⟨.settingVersionConflict, message⟩ ∧
      storing (.save write) store = (.error ⟨.settingVersionConflict, message⟩, store) := by
  have answered : store.save write = .error _ := if_pos refused
  refine ⟨_, answered, ?_⟩
  rw [storing_save, answered]

theorem storing_accepted (accepted : Accepts store write) :
    store.save write = .ok (store.written write, store.accept write) ∧
      storing (.save write) store = (.ok (store.written write), store.accept write) := by
  have answered : store.save write = .ok (store.written write, store.accept write) := if_neg (not_not.mpr accepted)
  refine ⟨answered, ?_⟩
  rw [storing_save, answered]

/-- Every command advances the settings. -/
theorem advances_storing (command : ConnectionCommand) : Advances store (storing command store).2 := by
  cases command with
  | find identity => exact .refl store
  | get identity => exact .refl store
  | save write =>
    by_cases accepted : Accepts store write
    · rw [(storing_accepted accepted).2]
      intro identity item found
      by_cases here : identity = write.identity
      · refine ⟨store.written write, ?_, ?_, ?_⟩
        · rw [SettingsStore.get_accept, if_pos here]
        all_goals
          subst here
          have version : (store.written write).version = item.version + 1 :=
            congrArg (· + 1) (currentVersion_of_get found)
          omega
      · refine ⟨item, ?_, le_refl _, fun _ => rfl⟩
        rw [SettingsStore.get_accept, if_neg here]
        exact found
    · obtain ⟨message, -, unchanged⟩ := storing_refused accepted
      rw [unchanged]
      exact .refl store

/-! ## What a call does -/

/-- The call has saved nothing so far. -/
def Unsaved (log : ConnectionLog) : Prop := ∀ entry ∈ log, ∀ write, entry.2 ≠ .save write

/-- A write has in it what the call makes of the setting it has read, and the version its lookup found. -/
def Prepared (language : ConnectionLanguage) (call : ConnectionCall) (earlier : ConnectionLog)
    (found : ConnectionStore) (write : SettingWrite ConnectionValue) : Prop :=
  ∃ item connection changed, readSetting earlier = some item ∧ fromValue item.value item.version = .ok connection ∧
    call.changed language connection = .ok changed ∧ write.value = toValue changed ∧
    write.expectedVersion = (((found.get write.identity).map (·.version)).getD 0 : Nat)

/-- A call looks things up, and saves once, right after the lookup of the save. -/
def Follows (language : ConnectionLanguage) (call : ConnectionCall) (log : ConnectionLog) : ConnectionCommand → Prop
  | .find _ | .get _ => Unsaved log
  | .save write => Unsaved log ∧ ∃ earlier found, log = earlier ++ [(found, .get write.identity)] ∧
      Prepared language call earlier found write

/-- A call ends in an exception before its save, or in what the save answered. -/
def Concludes (language : ConnectionLanguage) (call : ConnectionCall) (log : ConnectionLog)
    (result : Except Raised RuntimeConnection) : Prop :=
  (Unsaved log ∧ ∃ raised, result = .error raised) ∨
    ∃ earlier found store write, log = earlier ++ [(found, .get write.identity), (store, .save write)] ∧
      Unsaved earlier ∧ Prepared language call earlier found write ∧
      ((Accepts store write ∧ result = fromValue (store.written write).value (store.written write).version) ∨
        ∃ message, ¬ Accepts store write ∧ storing (.save write) store = (.error ⟨.settingVersionConflict, message⟩, store) ∧
          result = .error ⟨.settingVersionConflict, message⟩)

section Conduct

variable {language : ConnectionLanguage} {call : ConnectionCall}

variable {log : ConnectionLog}

theorem Unsaved.snoc {entry : ConnectionStore × ConnectionCommand} (unsaved : Unsaved log)
    (looks : ∀ write, entry.2 ≠ .save write) : Unsaved (log ++ [entry]) := by
  intro other member
  rcases mem_append.mp member with earlier | last
  · exact unsaved other earlier
  · rw [mem_singleton.mp last]
    exact looks

@[simp] theorem readSetting_find (identity : SettingIdentity) :
    readSetting (log ++ [(store, .find identity)]) = store.get identity := by
  simp [readSetting, foldl_append]

@[simp] theorem readSetting_get (identity : SettingIdentity) :
    readSetting (log ++ [(store, .get identity)]) = readSetting log := by
  simp [readSetting, foldl_append]

@[simp] theorem readSetting_save : readSetting (log ++ [(store, .save write)]) = readSetting log := by
  simp [readSetting, foldl_append]

/-- What `get` leaves: nothing is saved, and a connection returned is the setting it has read. -/
def HasRead (log : ConnectionLog) (result : Except Raised RuntimeConnection) : Prop :=
  Unsaved log ∧ ∀ connection, result = .ok connection →
    ∃ item, readSetting log = some item ∧ fromValue item.value item.version = .ok connection

/-- What `find_by_id` leaves, where it returns a connection. -/
def HasFound (log : ConnectionLog) (result : Except Raised (Option RuntimeConnection)) : Prop :=
  Unsaved log ∧ ∀ connection, result = .ok (some connection) →
    ∃ item, readSetting log = some item ∧ fromValue item.value item.version = .ok connection

theorem honours_lookUp (identity : SettingIdentity) (unsaved : Unsaved log)
    {absent : Program connectionStorage (Option RuntimeConnection)}
    (otherwise : ∀ later, Unsaved later → Honours storing (Follows language call) HasFound absent later) :
    Honours storing (Follows language call) HasFound (lookUp identity absent) log := by
  apply honours_call_bind
  case allowed => exact unsaved
  case raised => exact fun _ _ raised => nomatch raised
  intro store answer answered
  have looked : Unsaved (log ++ [(store, ConnectionCommand.find identity)]) := unsaved.snoc nofun
  obtain rfl : store.get identity = answer := Except.ok.inj answered
  cases found : store.get identity with
  | none => exact otherwise _ looked
  | some item =>
    apply honours_ofExcept
    refine ⟨looked, ?_⟩
    intro connection read
    refine ⟨item, by rw [readSetting_find, found], ?_⟩
    cases value : fromValue item.value item.version with
    | error raised =>
      rw [value] at read
      cases read
    | ok other =>
      rw [value] at read
      cases read
      rfl

theorem honours_findConnection (runtimeConnectionId organizationId : String) (projectId : Option String) :
    Honours storing (Follows language call) HasFound (findConnection runtimeConnectionId organizationId projectId)
      [] := by
  have unsaved : Unsaved [] := nofun
  have inOrganization : ∀ log, Unsaved log → Honours storing (Follows language call) HasFound
      (lookUp (organizationIdentity runtimeConnectionId organizationId) (pure none)) log := by
    intro log before
    apply honours_lookUp _ before
    exact fun later looked => ⟨looked, nofun⟩
  unfold findConnection
  cases projectId.filter (· ≠ "") with
  | none => exact inOrganization [] unsaved
  | some projectId => exact honours_lookUp _ unsaved inOrganization

theorem honours_getConnection (runtimeConnectionId : String) (context : TenantContext) :
    Honours storing (Follows language call) HasRead (getConnection runtimeConnectionId context) [] := by
  apply honours_bind
  apply (honours_findConnection runtimeConnectionId context.scope.organizationId context.scope.projectId).mono
  rintro log result ⟨looked, read⟩
  cases result with
  | error raised => exact ⟨looked, nofun⟩
  | ok found =>
    cases found with
    | none => exact ⟨looked, nofun⟩
    | some connection =>
      refine ⟨looked, ?_⟩
      rintro _ ⟨⟩
      exact read connection rfl

variable {connection : RuntimeConnection}

theorem honours_saveConnection (draw : SaveDraw) (unsaved : Unsaved log) {item : ConnectionSetting}
    {changed : RuntimeConnection} (read : readSetting log = some item)
    (value : fromValue item.value item.version = .ok connection)
    (made : call.changed language connection = .ok changed) :
    Honours storing (Follows language call) (Concludes language call) (saveConnection draw changed) log := by
  apply honours_call_bind
  case allowed => exact unsaved
  case raised => exact fun _ _ raised => nomatch raised
  intro found answer answered
  obtain rfl : found.get (connectionIdentity changed) = answer := Except.ok.inj answered
  have looked : Unsaved (log ++ [(found, ConnectionCommand.get (connectionIdentity changed))]) := unsaved.snoc nofun
  generalize issued : connectionWrite draw changed (found.get (connectionIdentity changed)) = write
  have here : write.identity = connectionIdentity changed := by rw [← issued]; rfl
  have prepared : Prepared language call log found write := by
    refine ⟨item, connection, changed, read, value, made, ?_, ?_⟩
    · rw [← issued]
      rfl
    · rw [← issued]
      rfl
  rw [← here] at looked ⊢
  apply honours_call_bind
  case allowed => exact ⟨looked, log, found, rfl, prepared⟩
  case answered =>
      intro store saved answered
      by_cases accepted : Accepts store write
      · rw [(storing_accepted accepted).2] at answered
        obtain rfl := Except.ok.inj answered
        refine honours_ofExcept (Or.inr ⟨log, found, store, write, ?_, unsaved, prepared, Or.inl ⟨accepted, rfl⟩⟩)
        exact append_assoc _ _ _
      · obtain ⟨message, -, refused⟩ := storing_refused accepted
        rw [refused] at answered
        cases answered
  case raised =>
      intro store raised answered
      by_cases accepted : Accepts store write
      · rw [(storing_accepted accepted).2] at answered
        cases answered
      · obtain ⟨message, -, refused⟩ := storing_refused accepted
        rw [refused] at answered
        obtain rfl := Except.error.inj answered
        refine Or.inr ⟨log, found, store, write, ?_, unsaved, prepared, Or.inr ⟨message, accepted, refused, rfl⟩⟩
        exact append_assoc _ _ _

theorem honours_program :
    Honours storing (Follows language call) (Concludes language call) (call.program language) [] := by
  rw [call.program_eq]
  apply honours_bind
  refine (honours_getConnection call.runtimeConnectionId call.context).mono ?_
  rintro log result ⟨unsaved, read⟩
  cases result with
  | error raised => exact Or.inl ⟨unsaved, raised, rfl⟩
  | ok connection =>
    obtain ⟨item, found, value⟩ := read connection rfl
    change Honours storing _ _ (Program.ofExcept (call.changed language connection) >>= saveConnection call.draw) log
    cases made : call.changed language connection with
    | error raised => exact Or.inl ⟨unsaved, raised, rfl⟩
    | ok changed => exact honours_saveConnection call.draw unsaved found value made

/-- A test, and an update that does not set it, leave a disabled connection disabled. -/
theorem changed_disabled {changed : RuntimeConnection} (made : call.changed language connection = .ok changed)
    (quiet : ¬ call.Enables) (disabled : connection.record.enabled = false) : changed.record.enabled = false := by
  cases call with
  | update runtimeConnectionId changes context meets =>
    obtain ⟨built, created, rest⟩ := bind_ok made
    obtain ⟨_, -, rest⟩ := bind_ok rest
    obtain rfl : built = changed := Except.ok.inj rest
    rw [RuntimeConnection.record_create created, RuntimeConnectionFields.canonical_enabled]
    dsimp only
    cases set : changes.enabled with
    | none => exact disabled
    | some enabled =>
      cases enabled with
      | false => rfl
      | true => exact absurd set quiet
  | test runtimeConnectionId context meets =>
    have kept : ∀ {status message}, withTestResult context meets connection status message = .ok changed →
        changed.record.enabled = false := by
      intro status message created
      rw [RuntimeConnection.record_create created, RuntimeConnectionFields.canonical_enabled]
      exact disabled
    change tested language context meets connection = .ok changed at made
    unfold tested at made
    cases validated : validateConfiguration language meets connection.record.provider connection.record.settings
        connection.record.secretRefs true with
    | ok passed =>
      rw [validated] at made
      exact kept made
    | error raised =>
      rw [validated] at made
      by_cases fails : failsTest raised.kind
      · exact kept ((if_pos fails).symm.trans made)
      · exact nomatch (if_neg fails).symm.trans made

/-- A connection that is read is enabled as its setting says. -/
theorem enabled_fromValue {value : ConnectionValue} {version : Nat} (read : fromValue value version = .ok connection) :
    connection.record.enabled = value.enabled := by
  obtain ⟨_, -, read⟩ := bind_ok read
  obtain ⟨_, -, read⟩ := bind_ok read
  obtain ⟨_, -, read⟩ := bind_ok read
  obtain ⟨_, -, read⟩ := bind_ok read
  rw [RuntimeConnection.record_create read, RuntimeConnectionFields.canonical_enabled]

/-- What a call that does not enable makes of a disabled connection is disabled. -/
theorem Builds.disabled {item next : ConnectionSetting} (built : Builds language call item next)
    (quiet : ¬ call.Enables) (disabled : item.value.enabled = false) : next.value.enabled = false := by
  obtain ⟨connection, changed, read, made, valued, -⟩ := built
  rw [valued]
  apply changed_disabled made quiet
  rw [enabled_fromValue read, disabled]

/-- A write taken after its lookup found what the call has read is on top of that. -/
theorem Prepared.builds {earlier : ConnectionLog} {found store : ConnectionStore}
    (prepared : Prepared language call earlier found write)
    (undisturbed : found.get write.identity = readSetting earlier) (advances : Advances found store)
    (accepted : Accepts store write) :
    ∃ item, readSetting earlier = some item ∧ store.get write.identity = some item ∧
      Builds language call item (store.written write) := by
  obtain ⟨item, connection, changed, read, value, made, valued, versioned⟩ := prepared
  rw [read] at undisturbed
  obtain ⟨later, kept, -, same⟩ := advances write.identity item undisturbed
  have current : store.currentVersion write.identity = item.version := by
    unfold Accepts at accepted
    rw [versioned, undisturbed] at accepted
    exact Int.ofNat_inj.mp accepted
  obtain rfl : later = item := by
    apply same
    rw [← currentVersion_of_get kept, current]
  exact ⟨later, read, kept, connection, changed, value, made, valued, congrArg (· + 1) current⟩

end Conduct

/-! ## Runs -/

section Runs

variable {language : ConnectionLanguage} {start final : ConnectionConfig} {trace : ConnectionTrace}

theorem along_advances (trace : ConnectionTrace) : (connectionPool language Undisturbed).Along trace Advances where
  refl := Advances.refl
  trans := Advances.trans
  environment := False.elim
  steps := fun entry _ => advances_storing entry.2.2

/-- Every call in flight goes on as the rule says, and ends as it says. -/
theorem honours_thread (runs : (connectionPool language Undisturbed).Runs start trace final)
    (unstarted : start.threads = [])
    {thread : Thread connectionStorage ConnectionStore ConnectionCall RuntimeConnection}
    (member : thread ∈ final.threads) :
    Honours storing (Follows language thread.call) (Concludes language thread.call) thread.program thread.log := by
  have entering : ∀ call, (connectionPool language Undisturbed).offered call →
      Honours storing (Follows language call) (Concludes language call) (call.program language) [] :=
    fun call _ => honours_program
  exact Pool.honours_of_reaches (Follows language) (Concludes language) entering runs.reaches unstarted thread member

/-- A save issued in a run is on top of what the call has read, where the store takes it. -/
theorem issue_builds (runs : (connectionPool language Undisturbed).Runs start trace final)
    (unstarted : start.threads = []) {next : ConnectionConfig} {call : ConnectionCall} {log : ConnectionLog}
    (issues : (connectionPool language Undisturbed).Issues final next call log (.save write))
    (accepted : Accepts final.state write) :
    ∃ item, final.state.get write.identity = some item ∧ Builds language call item (final.state.written write) := by
  obtain ⟨continuation, member⟩ := issues.mem
  obtain ⟨⟨-, earlier, found, rfl, prepared⟩, -⟩ := honours_thread runs unstarted member
  have undisturbed : Undisturbed found earlier (.get write.identity) :=
    runs.log_admitted unstarted _ member earlier _ [] rfl
  have recorded := runs.logged (by simp [unstarted]) _ member (found, .get write.identity) (by simp)
  have advances : Advances found final.state := ((runs.ordered (along_advances trace)).2.2 _ recorded).2
  obtain ⟨item, -, present, built⟩ := prepared.builds undisturbed advances accepted
  exact ⟨item, present, built⟩

variable {store : ConnectionStore}

/-- What a command that is not a taken save leaves is what it has found. -/
theorem storing_unchanged {command : ConnectionCommand}
    (quiet : ∀ write, command = .save write → ¬ Accepts store write) : (storing command store).2 = store := by
  cases command with
  | find identity => rfl
  | get identity => rfl
  | save write =>
    obtain ⟨message, -, refused⟩ := storing_refused (quiet write rfl)
    rw [refused]

/-- One more command of a trace is one more committed call where it is a taken save to the identity. -/
theorem committed_snoc (identity : SettingIdentity) (call : ConnectionCall) (command : ConnectionCommand) :
    committed identity (trace ++ [(call, store, command)]) =
      committed identity trace ++ committed identity [(call, store, command)] :=
  filterMap_append

/-- A connection is what the committed calls make of it. -/
theorem carried_of_runs (runs : (connectionPool language Undisturbed).Runs start trace final)
    (unstarted : start.threads = []) (identity : SettingIdentity) :
    Carried language (start.state.get identity) (committed identity trace) (final.state.get identity) := by
  induction runs with
  | refl => exact .nil
  | enter call _ offered ih => exact ih
  | environment _ changed => exact changed.elim
  | @issue trace config next call log command before issues ih =>
    have state : next.state = (storing command config.state).2 := issues.state
    rw [committed_snoc, state]
    by_cases taken : ∃ write, command = .save write ∧ Accepts config.state write
    · obtain ⟨write, rfl, accepted⟩ := taken
      rw [(storing_accepted accepted).2, SettingsStore.get_accept]
      by_cases here : identity = write.identity
      · subst here
        obtain ⟨item, present, built⟩ := issue_builds before unstarted issues accepted
        rw [if_pos rfl]
        rw [present] at ih
        have one : committed write.identity [(call, config.state, .save write)] = [call] := by
          simp [committed, accepted]
        rw [one]
        exact .snoc ih built
      · rw [if_neg here]
        have none : committed identity [(call, config.state, .save write)] = [] := by
          simp [committed, Ne.symm here]
        rw [none, append_nil]
        exact ih
    · have quiet : ∀ write, command = .save write → ¬ Accepts config.state write :=
        fun write saves accepted => taken ⟨write, saves, accepted⟩
      rw [storing_unchanged quiet]
      have none : committed identity [(call, config.state, command)] = [] := by
        cases command with
        | find other => rfl
        | get other => rfl
        | save write => simp [committed, quiet write rfl]
      rw [none, append_nil]
      exact ih

/-- Every call but an update that enables it leaves a disabled connection disabled. -/
theorem disabled_of_runs (runs : (connectionPool language Undisturbed).Runs start trace final)
    (unstarted : start.threads = []) {call : ConnectionCall} {command : ConnectionCommand}
    (member : (call, store, command) ∈ trace) {identity : SettingIdentity} (disabled : Disabled store identity)
    (quiet : ¬ call.Enables) : Disabled (storing command store).2 identity := by
  induction runs with
  | refl => cases member
  | enter call _ offered ih => exact ih member
  | environment _ changed => exact changed.elim
  | @issue trace config next other log issued before issues ih =>
    rcases mem_append.mp member with earlier | last
    · exact ih earlier
    · cases mem_singleton.mp last
      by_cases taken : ∃ write, command = .save write ∧ Accepts config.state write
      · obtain ⟨write, rfl, accepted⟩ := taken
        obtain ⟨item, present, built⟩ := issue_builds before unstarted issues accepted
        obtain ⟨current, found, off⟩ := disabled
        rw [(storing_accepted accepted).2]
        unfold Disabled
        rw [SettingsStore.get_accept]
        by_cases here : identity = write.identity
        · subst here
          rw [present] at found
          obtain rfl := Option.some.inj found
          rw [if_pos rfl]
          exact ⟨_, rfl, built.disabled quiet off⟩
        · rw [if_neg here]
          exact ⟨current, found, off⟩
      · rw [storing_unchanged fun write saves accepted => taken ⟨write, saves, accepted⟩]
        exact disabled

/-- A call that has saved has ended, in what its save was answered. -/
theorem concludes_of_saved (runs : (connectionPool language Undisturbed).Runs start trace final)
    (unstarted : start.threads = [])
    {thread : Thread connectionStorage ConnectionStore ConnectionCall RuntimeConnection}
    (member : thread ∈ final.threads) (saved : (store, .save write) ∈ thread.log) :
    ∃ result, thread.Finished result ∧ Concludes language thread.call thread.log result := by
  have honours := honours_thread runs unstarted member
  have used : ¬ Unsaved thread.log := fun unsaved => unsaved _ saved write rfl
  obtain ⟨call, program, log⟩ := thread
  cases program with
  | done value => exact ⟨.ok value, rfl, honours⟩
  | raise raised => exact ⟨.error raised, rfl, honours⟩
  | perform command next =>
    exfalso
    apply used
    cases command with
    | find identity => exact honours.1
    | get identity => exact honours.1
    | save write => exact honours.1.1

/-- Where every save looks up the setting that its call has read, no update is lost. -/
theorem no_lost_update {language : ConnectionLanguage} {start final : ConnectionConfig} {trace : ConnectionTrace}
    (unstarted : start.threads = []) (runs : (connectionPool language Undisturbed).Runs start trace final) :
    NoLostUpdate language start final trace where
  carried := carried_of_runs runs unstarted
  returned := by
    intro thread member connection finished
    have honours := honours_thread runs unstarted member
    unfold Thread.Finished at finished
    rw [finished] at honours
    rcases honours with ⟨-, raised, impossible⟩ | ⟨earlier, found, store, write, log, -, -, outcome⟩
    · cases impossible
    · rcases outcome with ⟨accepted, -⟩ | ⟨message, -, -, impossible⟩
      · exact ⟨store, write, runs.logged (by simp [unstarted]) thread member (store, .save write) (by simp [log]),
          accepted⟩
      · cases impossible
  rejected := by
    intro thread member store write saved moved
    obtain ⟨result, finished, concludes⟩ := concludes_of_saved runs unstarted member saved
    rcases concludes with ⟨unsaved, -⟩ | ⟨earlier, found, other, issued, log, before, prepared, outcome⟩
    · exact absurd rfl (unsaved _ saved write)
    · have same : (store, ConnectionCommand.save write) = (other, .save issued) := by
        rw [log] at saved
        rcases mem_append.mp saved with among | tail
        · exact absurd rfl (before _ among write)
        · simpa using tail
      cases same
      have undisturbed : Undisturbed found earlier (.get write.identity) :=
        runs.log_admitted unstarted thread member earlier (found, .get write.identity) [(store, .save write)] log
      have advances : Advances found store := by
        have ordered := runs.log_ordered (along_advances trace) unstarted thread member
        rw [log] at ordered
        exact rel_of_pairwise_cons (pairwise_append.mp ordered).2.1 (mem_singleton_self _)
      have refused : ¬ Accepts store write := by
        intro accepted
        obtain ⟨item, read, present, -⟩ := prepared.builds undisturbed advances accepted
        apply moved
        have whole : readSetting thread.log = readSetting earlier := by
          rw [log]
          change readSetting (earlier ++ ([_] ++ [_])) = _
          rw [← append_assoc, readSetting_save, readSetting_get]
        rw [whole, present, read]
      rcases outcome with ⟨accepted, -⟩ | ⟨message, -, answered, rfl⟩
      · exact absurd accepted refused
      · exact ⟨message, answered, finished⟩
  disabled := fun _ _ _ member _ disabled quiet => disabled_of_runs runs unstarted member disabled quiet

end Runs

/-! ## Runs on samples -/

/-- The language on the texts of the samples, which name no URL. -/
def sampleLanguage : ConnectionLanguage where
  str := fun value => match value with
    | .str text => text
    | _ => ""
  urlparse := fun _ => .ok ("", "")

def sampleContext : TenantContext := ⟨⟨"org", none⟩, "operator", none⟩

/-- The secrets resolve, and every provider is allowed. -/
def sampleMeets (second : Nat) : ConnectionMeets where
  resolve := fun _ => .ok "key"
  now := ⟨second * Instant.second⟩
  draw := ⟨⟨second * Instant.second⟩, "audit"⟩

/-- A connection that is enabled. -/
def enabledConnection : ConnectionValue where
  runtimeConnectionId := "connection"
  displayName := "Primary"
  provider := "openai"
  settings := []
  secretRefs := [("api_key", "env://KEY")]
  enabled := true
  organizationId := "org"
  projectId := none
  createdBy := "operator"
  updatedBy := "operator"
  createdAt := Instant.isoformat ⟨0⟩
  updatedAt := Instant.isoformat ⟨0⟩
  lastTestedAt := none
  lastTestStatus := "NOT_TESTED"
  lastTestMessage := none

def sampleIdentity : SettingIdentity := organizationIdentity "connection" "org"

/-- The connection in the store, and no call in flight. -/
def enabledConfig : ConnectionConfig where
  state := (SettingsStore.empty).accept ⟨sampleIdentity, enabledConnection, "operator", "created", 0, ⟨0⟩, "audit"⟩
  threads := []

def testCall : ConnectionCall := .test "connection" sampleContext (sampleMeets 1)

def disableCall : ConnectionCall := .update "connection" { enabled := some false } sampleContext (sampleMeets 2)

/-- A connection is disabled, and tested afterwards. -/
def disabledThenTested : List (Pool.Move ConnectionCall) :=
  [.enter disableCall, .issue 0, .issue 0, .issue 0, .enter testCall, .issue 1, .issue 1, .issue 1]

/-- A connection is disabled after a test has read it and before the test saves it. -/
def disabledDuringTest : List (Pool.Move ConnectionCall) :=
  [.enter testCall, .issue 0, .enter disableCall, .issue 1, .issue 1, .issue 1, .issue 0, .issue 0]

/-- The test of `Undisturbed`. -/
def undisturbed (store : ConnectionStore) (log : ConnectionLog) : ConnectionCommand → Bool
  | .get identity => store.get identity == readSetting log
  | .find _ | .save _ => true

theorem undisturbed_sound (store : ConnectionStore) (log : ConnectionLog) (command : ConnectionCommand)
    (passes : undisturbed store log command = true) : Undisturbed store log command := by
  cases command with
  | find identity => trivial
  | get identity => exact eq_of_beq passes
  | save write => trivial

theorem no_lost_update_disabledThenTested :
    NoLostUpdate sampleLanguage enabledConfig
      ((connectionPool sampleLanguage Undisturbed).play disabledThenTested enabledConfig)
      ((connectionPool sampleLanguage Undisturbed).traced disabledThenTested enabledConfig) := by
  have passes : (connectionPool sampleLanguage Undisturbed).tested (fun _ => true) undisturbed disabledThenTested
      enabledConfig = true := by decide +kernel
  have legal := Pool.legal_of_tested (fun _ _ => trivial) undisturbed_sound passes
  exact no_lost_update rfl (by simpa using Pool.Runs.refl.play legal)

/-- The commands of the run in which the connection is disabled during the test. -/
def overwritingTrace : ConnectionTrace :=
  (connectionPool sampleLanguage fun _ _ _ => True).traced disabledDuringTest enabledConfig

/-- A test that has read a connection enables it again after an update has disabled it. -/
theorem no_lost_update_fails :
    ¬ ∀ (language : ConnectionLanguage) (start final : ConnectionConfig) (trace : ConnectionTrace),
      start.threads = [] → (connectionPool language fun _ _ _ => True).Runs start trace final →
        NoLostUpdate language start final trace := by
  intro lossless
  have legal : (connectionPool sampleLanguage fun _ _ _ => True).Legal disabledDuringTest enabledConfig :=
    Pool.legal_of_free (fun _ => trivial) (fun _ _ _ => trivial) _ _
  have runs := lossless sampleLanguage enabledConfig _ overwritingTrace rfl
    (by simpa [overwritingTrace] using Pool.Runs.refl.play legal)
  have before : (overwritingTrace.getLast?.bind fun entry => entry.2.1.get sampleIdentity).map
      (·.value.enabled) = some false := by decide +kernel
  have after : (overwritingTrace.getLast?.bind fun entry => (storing entry.2.2 entry.2.1).2.get sampleIdentity).map
      (·.value.enabled) = some true := by decide +kernel
  have quiet : overwritingTrace.getLast?.map (fun entry => decide entry.1.Enables) = some false := by decide +kernel
  cases last : overwritingTrace.getLast? with
  | none =>
    rw [last] at before
    cases before
  | some entry =>
    rw [last] at before after quiet
    obtain ⟨item, found, off⟩ := Option.map_eq_some_iff.mp before
    obtain ⟨later, kept, disabled⟩ := runs.disabled entry.1 entry.2.1 entry.2.2 (mem_of_getLast? last)
      sampleIdentity ⟨item, found, off⟩ (of_decide_eq_false (Option.some.inj quiet))
    rw [Option.bind_some, kept, Option.map_some, disabled] at after
    cases after

end AiGovernance.Connections
