import AiGovernance.Services.Settings

/-!
# The settings ledger

The audit trail of a setting is the history of its value: versions count up from
one, each record takes over where the one before it left, and the stored setting
is what the last record says. That holds in every run. Two things break the rest
of the contract: a publisher that raises after the save, and a JSON setting given
the text of a JSON string, which is stored as a text that reads as something else.
-/

namespace AiGovernance.Settings

open AiGovernance.Std Domain List

variable {V : Type}

/-- The trail of one identity is its history, and the stored setting is where it ends. -/
structure Chained (store : SettingsStore V) (identity : SettingIdentity) : Prop where
  versions : (store.trail identity).map (·.version) = List.range' 1 (store.trail identity).length
  continued : (store.trail identity).map (·.oldValue) =
    ((none : Option V) :: (store.trail identity).map (some ·.newValue)).dropLast
  stored : (store.get identity).map (fun setting => (setting.value, setting.version)) =
    (store.trail identity).getLast?.map fun record => (record.newValue, record.version)

/-- The ledger of a service: chained trails, and stored values that the parser takes as they are. -/
structure Ledger (service : ConfigurationService V) (store : SettingsStore V) : Prop where
  chained : ∀ identity, Chained store identity
  parsed : ∀ {identity setting}, store.get identity = some setting →
    ∃ definition, service.registry identity.key = some definition ∧
      parseValue service.conversions definition setting.value = .ok setting.value

/-- A call the contract holds for: no publisher raises, and the value is not the text of a JSON string. -/
structure SettingUpdate.Sound (service : ConfigurationService V) (call : SettingUpdate V) : Prop where
  quiet : ∀ publish, call.publisher = some publish → ∀ event, publish event = .ok ()
  plain : ∀ definition, service.registry call.key = some definition → ¬ Reread service.conversions definition call.value

namespace Chained

variable {store : SettingsStore V} {identity : SettingIdentity}

theorem initial (identity : SettingIdentity) : Chained (.empty : SettingsStore V) identity where
  versions := rfl
  continued := rfl
  stored := rfl

theorem currentVersion (chained : Chained store identity) :
    store.currentVersion identity = (store.trail identity).length := by
  have version : (store.get identity).map (·.version) = (store.trail identity).getLast?.map (·.version) := by
    have both := congrArg (Option.map Prod.snd) chained.stored
    simpa only [Option.map_map, Function.comp_def] using both
  unfold SettingsStore.currentVersion
  rw [version, ← getLast?_map, chained.versions]
  cases length : (store.trail identity).length with
  | zero => rfl
  | succ n =>
    rw [range'_1_concat, getLast?_concat, Option.getD_some]
    omega

theorem accept (chained : Chained store identity) (write : SettingWrite V) :
    Chained (store.accept write) identity := by
  have trail := store.trail_accept write identity
  have get := store.get_accept write identity
  by_cases here : write.identity = identity
  · subst here
    rw [if_pos rfl] at trail get
    refine ⟨?_, ?_, ?_⟩
    · rw [trail, map_append, length_append, chained.versions, map_singleton, length_singleton,
        range'_concat]
      simp only [SettingsStore.recorded, chained.currentVersion]
      congr 2
      omega
    · rw [trail, map_append, map_append, map_singleton, map_singleton, ← cons_append,
        dropLast_concat, chained.continued]
      -- The old value of the new record is the last new value so far.
      have taken : (store.recorded write).oldValue = (store.trail write.identity).getLast?.map (·.newValue) := by
        change (store.get write.identity).map (·.value) = _
        simpa only [Option.map_map, Function.comp_def] using congrArg (Option.map Prod.fst) chained.stored
      rw [taken]
      rcases eq_nil_or_concat (store.trail write.identity) with none | ⟨rest, last, shape⟩
      · rw [none]
        rfl
      · rw [shape, concat_eq_append, getLast?_concat, map_append, map_singleton,
          ← cons_append, dropLast_concat]
        rfl
    · rw [trail, get, getLast?_concat]
      rfl
  · rw [if_neg here, append_nil] at trail
    rw [if_neg (Ne.symm here)] at get
    refine ⟨?_, ?_, ?_⟩
    · rw [trail]
      exact chained.versions
    · rw [trail]
      exact chained.continued
    · rw [trail, get]
      exact chained.stored

end Chained

namespace Ledger

variable {service : ConfigurationService V} {store : SettingsStore V} {call : SettingUpdate V}

theorem initial (service : ConfigurationService V) : Ledger service .empty where
  chained := Chained.initial
  parsed := by
    intro identity setting found
    cases found

theorem update (ledger : Ledger service store) (sound : call.Sound service) :
    Ledger service (service.update call store).2 := by
  have does := service.update_does call store
  generalize (service.update call store).1 = result at does
  generalize (service.update call store).2 = after at does
  cases does with
  | refused => exact ledger
  | @saved definition write _ passed current answered =>
    have prepared := ConfigurationService.prepare_ok passed
    refine ⟨fun identity => (ledger.chained identity).accept write, fun {identity setting} found => ?_⟩
    rw [SettingsStore.get_accept] at found
    split at found
    · rename_i here
      cases found
      obtain ⟨scopeId, -, named⟩ := prepared.identified
      refine ⟨definition, ?_, ?_⟩
      · rw [here, named]
        exact prepared.registered
      · exact parseValue_idempotent (sound.plain definition prepared.registered) prepared.parsed
    · exact ledger.parsed found

theorem updateAll {calls : List (SettingUpdate V)} (ledger : Ledger service store)
    (sound : ∀ call ∈ calls, call.Sound service) : Ledger service (service.updateAll calls store) := by
  induction calls generalizing store with
  | nil => exact ledger
  | cons call rest ih =>
    exact ih (ledger.update (sound call (by simp))) fun other member => sound other (by simp [member])

end Ledger

theorem update_raises {service : ConfigurationService V} {call : SettingUpdate V} (store : SettingsStore V)
    (sound : call.Sound service) {raised : Raised} (failed : (service.update call store).1 = .error raised) :
    (service.update call store).2 = store := by
  have does := service.update_does call store
  generalize (service.update call store).1 = result at does failed
  generalize (service.update call store).2 = after at does
  cases does with
  | refused => rfl
  | @saved definition write _ passed current answered =>
    obtain ⟨resolved, same⟩ | ⟨other, announced, -⟩ := answered
    · cases same.symm.trans failed
    · -- A publisher that raises nothing cannot be why the call failed.
      unfold ConfigurationService.announce at announced
      split at announced
      · cases announced
      · rename_i publish given
        cases (sound.quiet publish given _).symm.trans announced

/-- In every run of sound updates the ledger holds in every state reached, and every call that raised left the
store as it was. -/
theorem settings_ledger (service : ConfigurationService V) (calls : List (SettingUpdate V))
    (sound : ∀ call ∈ calls, call.Sound service) :
    Ledger service (service.updateAll calls .empty) ∧
      ∀ {earlier call later}, calls = earlier ++ call :: later →
        ∀ {raised}, (service.update call (service.updateAll earlier .empty)).1 = .error raised →
          (service.update call (service.updateAll earlier .empty)).2 = service.updateAll earlier .empty := by
  refine ⟨(Ledger.initial service).updateAll sound, ?_⟩
  intro earlier call later split raised failed
  have member : call ∈ calls := by
    rw [split]
    simp
  exact update_raises _ (sound call member) failed

/-- The dry run is turned on, and off again by a second update. -/
def dryRunTwice : List (SettingUpdate Json) :=
  [{ key := "mcp.dry_run_default", value := .bool true, actorId := "actor-1", reason := "Safe default",
      expectedVersion := 0, now := ⟨63840268800000000⟩, auditId := "audit-1" },
    { key := "mcp.dry_run_default", value := .str "off", actorId := "actor-1", reason := "Automation",
      expectedVersion := 1, now := ⟨63840268860000000⟩, auditId := "audit-2" }]

theorem settings_ledger_dryRunTwice :
    (∀ call ∈ dryRunTwice, call.Sound twoSettings) ∧
      ((twoSettings.updateAll dryRunTwice .empty).trail ⟨"mcp.dry_run_default", .system, ""⟩).map
        (fun record => (record.oldValue, record.newValue, record.version)) =
          [(none, .bool true, 1), (some (.bool true), .bool false, 2)] ∧
      Ledger twoSettings (twoSettings.updateAll dryRunTwice .empty) := by
  have sound : ∀ call ∈ dryRunTwice, call.Sound twoSettings := by
    intro call member
    refine ⟨fun publish given => ?_, fun definition found reread => ?_⟩
    · simp only [dryRunTwice, mem_cons, not_mem_nil, or_false] at member
      obtain rfl | rfl := member <;> cases given
    · -- The setting is a boolean, not JSON.
      simp only [dryRunTwice, mem_cons, not_mem_nil, or_false] at member
      obtain rfl | rfl := member <;> cases found <;> cases reread.1
  exact ⟨sound, by decide +kernel, (settings_ledger twoSettings dryRunTwice sound).1⟩

/-- The dry run is turned on under a publisher that fails closed. -/
def unannounced : SettingUpdate Json :=
  { key := "mcp.dry_run_default", value := .bool true, actorId := "actor-1", reason := "Safe default",
    expectedVersion := 0, now := ⟨63840268800000000⟩, auditId := "audit-1",
    publisher := some fun _ => .error ⟨.backend, "outbox unavailable"⟩ }

/-- The thresholds are set to a text that holds a JSON string. -/
def quotedThreshold : SettingUpdate Json :=
  { key := "evaluation.thresholds", value := .str "\"0.9\"", actorId := "actor-1", reason := "Thresholds",
    expectedVersion := 0, now := ⟨63840268800000000⟩, auditId := "audit-1" }

/-- The update that failed is stored and recorded; the stored threshold is parsed to another value. -/
theorem settings_ledger_broken :
    (twoSettings.update unannounced .empty).1 = .error ⟨.backend, "outbox unavailable"⟩ ∧
      (((twoSettings.update unannounced .empty).2.get ⟨"mcp.dry_run_default", .system, ""⟩).map (·.value) =
        some (.bool true) ∧
      (twoSettings.update unannounced .empty).2.audit.length = 1) ∧
      ((twoSettings.update quotedThreshold .empty).2.get ⟨"evaluation.thresholds", .system, ""⟩).map (·.value) =
        some (.str "0.9") ∧
      parseValue twoSettings.conversions evaluationThresholds (.str "0.9") ≠ .ok (.str "0.9") := by
  refine ⟨?_, by decide +kernel, by decide +kernel, ?_⟩
  · rfl
  · intro same
    cases same

end AiGovernance.Settings
