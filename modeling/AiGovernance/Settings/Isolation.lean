import AiGovernance.Services.Settings

/-!
# Settings of several tenants

An organization setting is stored under the organization, a project setting
under the project identifier alone. An update of another organization therefore
reaches the settings a context resolves exactly when it is a project update under
the project identifier of that context.
-/

namespace AiGovernance.Settings

open AiGovernance.Std Domain ConfigurationService

variable {V : Type}

/-- What a caller sees of a resolved setting: value, source and version. -/
def ResolvedSetting.seen (resolved : ResolvedSetting V) : V × SettingSource × Option Nat :=
  (resolved.effectiveValue, resolved.source, resolved.version)

/-- Every setting resolves alike in two stores, in every scope and under every environment. -/
def SameSettings (service : ConfigurationService V) (context : SettingContext) (left right : SettingsStore V) : Prop :=
  ∀ environment key editScope,
    (service.resolve environment left key context editScope).map ResolvedSetting.seen =
      (service.resolve environment right key context editScope).map ResolvedSetting.seen

/-- A call that passes the checks of an update and names the version that is stored. -/
def SettingUpdate.TakesEffect (service : ConfigurationService V) (call : SettingUpdate V) (store : SettingsStore V) :
    Prop :=
  ∃ definition write, service.prepare call = .ok (definition, write) ∧
    (store.currentVersion write.identity : Int) = call.expectedVersion

/-- The identities a context reads a setting from. -/
def reads (context : SettingContext) (identity : SettingIdentity) : Prop :=
  match identity.scope with
  | .system => identity.scopeId = ""
  | .organization => context.organizationId = some identity.scopeId
  | .project => context.projectId = some identity.scopeId

section Resolution

variable {service : ConfigurationService V} {context : SettingContext} {left right : SettingsStore V}

theorem required_ok {named : Option String} {scopeId : String} {raised : Raised}
    (found : (match nonEmpty named with
      | some scopeId => Except.ok scopeId
      | none => Except.error raised) = .ok scopeId) : named = some scopeId := by
  cases kept : nonEmpty named with
  | none =>
    rw [kept] at found
    cases found
  | some text =>
    rw [kept] at found
    cases found
    exact (Option.filter_eq_some_iff.mp kept).1

theorem reads_of_scopeIdFor {scope : SettingScope} {scopeId : String} (named : scopeIdFor scope context = .ok scopeId)
    (key : String) : reads context ⟨key, scope, scopeId⟩ := by
  cases scope with
  | system =>
    cases named
    rfl
  | organization => exact required_ok named
  | project => exact required_ok named

theorem resolveRuntime_congr {key : String} {allowedScopes : List SettingScope}
    (same : ∀ identity, reads context identity → left.get identity = right.get identity) :
    resolveRuntime left key allowedScopes context =
      resolveRuntime right key allowedScopes context := by
  have candidate : ∀ (scope : SettingScope) (scopeId : Option String),
      (∀ text, scopeId = some text → reads context ⟨key, scope, text⟩) →
      (scopeId.bind fun scopeId => left.get ⟨key, scope, scopeId⟩) =
        scopeId.bind fun scopeId => right.get ⟨key, scope, scopeId⟩ := by
    intro scope scopeId read
    cases scopeId with
    | none => rfl
    | some text => exact same _ (read text rfl)
  unfold resolveRuntime candidates
  simp only [List.findSome?_cons, List.findSome?_nil]
  rw [candidate .project context.projectId fun text named => named,
    candidate .organization context.organizationId fun text named => named,
    candidate .system (some "") fun text named => (Option.some.inj named).symm]

theorem sameSettings_of_reads (same : ∀ identity, reads context identity → left.get identity = right.get identity) :
    SameSettings service context left right := by
  intro environment key editScope
  congr 1
  unfold resolve
  cases service.registry key with
  | none => rfl
  | some definition =>
    dsimp only
    cases named : scopeIdFor editScope context with
    | error raised => rfl
    | ok scopeId =>
      have edited : left.get (editedIn definition editScope scopeId) =
          right.get (editedIn definition editScope scopeId) := by
        unfold editedIn
        split
        · exact same _ (reads_of_scopeIdFor named _)
        · exact same _ rfl
      have effective : service.effective environment left definition context =
          service.effective environment right definition context := by
        unfold ConfigurationService.effective
        rw [resolveRuntime_congr same]
      dsimp only [bind, Except.bind]
      rw [edited, effective]

end Resolution

section Updates

variable {service : ConfigurationService V} {call : SettingUpdate V} {context : SettingContext}
  {store : SettingsStore V}

theorem sameSettings_update (apart : ∀ definition write, service.prepare call = .ok (definition, write) →
      (store.currentVersion write.identity : Int) = call.expectedVersion → ¬ reads context write.identity) :
    SameSettings service context (service.update call store).2 store := by
  have does := service.update_does call store
  generalize (service.update call store).1 = result at does
  generalize (service.update call store).2 = after at does
  cases does with
  | refused =>
    intro environment key editScope
    rfl
  | @saved definition write _ passed current answered =>
    have prepared := prepare_ok passed
    have unread := apart definition write passed (current.trans prepared.expected)
    refine sameSettings_of_reads fun identity read => ?_
    rw [SettingsStore.get_accept, if_neg]
    rintro rfl
    exact unread read

theorem resolve_plain {key : String} {definition : SettingDefinition V} {scope : SettingScope} {scopeId : String}
    (registered : service.registry key = some definition) (named : scopeIdFor scope context = .ok scopeId)
    (allowed : definition.allowedScopes.contains scope = true) (store : SettingsStore V) :
    ∃ resolved, service.resolve (fun _ => none) store key context scope = .ok resolved ∧
      resolved.version = (store.get ⟨key, scope, scopeId⟩).map (·.version) := by
  have free : definition.override (fun _ => none) = none := by
    unfold SettingDefinition.override
    cases nonEmpty definition.environmentVariable <;> rfl
  have answered : ∃ answer, service.effective (fun _ => none) store definition context = .ok answer := by
    unfold ConfigurationService.effective
    rw [free]
    dsimp only
    split
    · exact ⟨_, rfl⟩
    · exact ⟨_, rfl⟩
  obtain ⟨answer, same⟩ := answered
  have edited : editedIn definition scope scopeId = ⟨key, scope, scopeId⟩ := by
    unfold editedIn
    rw [if_pos allowed, service.keyed registered]
  unfold resolve
  rw [registered]
  dsimp only
  rw [named, same]
  refine ⟨_, rfl, ?_⟩
  dsimp only
  rw [edited]

theorem not_sameSettings_update {definition : SettingDefinition V} {write : SettingWrite V}
    (passed : service.prepare call = .ok (definition, write))
    (current : (store.currentVersion write.identity : Int) = call.expectedVersion)
    (named : scopeIdFor call.scope context = scopeIdFor call.scope call.context) :
    ¬ SameSettings service context (service.update call store).2 store := by
  intro same
  have prepared := prepare_ok passed
  obtain ⟨scopeId, identified, filed⟩ := prepared.identified
  rw [identified] at named
  rw [update_saves passed (current.trans prepared.expected.symm)] at same
  obtain ⟨later, laterOk, laterVersion⟩ := resolve_plain prepared.registered named prepared.allowed (store.accept write)
  obtain ⟨earlier, earlierOk, earlierVersion⟩ := resolve_plain prepared.registered named prepared.allowed store
  have seen := same (fun _ => none) call.key call.scope
  rw [laterOk, earlierOk] at seen
  have version : later.version = earlier.version := congrArg (·.2.2) (Except.ok.inj seen)
  rw [laterVersion, earlierVersion, ← filed, SettingsStore.get_accept, if_pos rfl, Option.map_some] at version
  -- The new version is one more than the stored one.
  have next : (store.written write).version = store.currentVersion write.identity + 1 := rfl
  unfold SettingsStore.currentVersion at next
  rw [← version, Option.getD_some] at next
  omega

end Updates

/-- After any run, an organization or project update of another organization leaves every setting as it resolves in
a context, exactly when it is not a project update under the project of that context that takes effect. -/
theorem foreign_update_unseen_iff (service : ConfigurationService V) (calls : List (SettingUpdate V))
    (call : SettingUpdate V) (context : SettingContext) (organization other : String)
    (own : context.organizationId = some organization) (foreign : call.context.organizationId = some other)
    (apart : other ≠ organization) (tenant : call.scope ≠ .system) :
    SameSettings service context (service.update call (service.updateAll calls .empty)).2
        (service.updateAll calls .empty) ↔
      ¬ (call.scope = .project ∧ call.context.projectId = context.projectId ∧
        call.TakesEffect service (service.updateAll calls .empty)) := by
  constructor
  · rintro same ⟨project, shared, definition, write, passed, current⟩
    refine not_sameSettings_update passed current ?_ same
    rw [project]
    unfold scopeIdFor
    dsimp only
    rw [shared]
  · intro unshared
    refine sameSettings_update fun definition write passed current read => ?_
    obtain ⟨scopeId, identified, filed⟩ := (prepare_ok passed).identified
    rw [filed] at read
    have theirs := reads_of_scopeIdFor identified call.key
    cases scope : call.scope with
    | system => exact tenant scope
    | organization =>
      rw [scope] at read theirs
      have mine : context.organizationId = some scopeId := read
      have yours : call.context.organizationId = some scopeId := theirs
      apply apart
      exact Option.some.inj (foreign.symm.trans (yours.trans (mine.symm.trans own)))
    | project =>
      rw [scope] at read theirs
      have mine : context.projectId = some scopeId := read
      have yours : call.context.projectId = some scopeId := theirs
      exact unshared ⟨scope, yours.trans mine.symm, definition, write, passed, current⟩

/-- Organization B turns the dry run on in its project. -/
def projectUpdate (projectId : String) : SettingUpdate Json :=
  { key := "mcp.dry_run_default", value := .bool true, actorId := "actor-b", reason := "Project safety",
    expectedVersion := 0, scope := .project, context := ⟨some "org-b", some projectId⟩,
    now := ⟨63840268800000000⟩, auditId := "audit-1" }

theorem foreign_update_unseen_iff_otherProject :
    SameSettings twoSettings ⟨some "org-a", some "project-1"⟩
        (twoSettings.update (projectUpdate "project-2") (twoSettings.updateAll [] .empty)).2
        (twoSettings.updateAll [] .empty) := by
  refine (foreign_update_unseen_iff twoSettings [] (projectUpdate "project-2") ⟨some "org-a", some "project-1"⟩ "org-a"
    "org-b" rfl rfl (by decide) (by decide)).mpr ?_
  rintro ⟨-, shared, -⟩
  exact absurd shared (by decide)

/-- Both organizations have a project `project-1`: what B sets there is what A resolves. -/
theorem foreign_update_seen :
    (twoSettings.resolve (fun _ => none) .empty "mcp.dry_run_default" ⟨some "org-a", some "project-1"⟩ .project).map
        ResolvedSetting.seen = .ok (.bool false, .default, none) ∧
      (twoSettings.resolve (fun _ => none) (twoSettings.update (projectUpdate "project-1") .empty).2
        "mcp.dry_run_default" ⟨some "org-a", some "project-1"⟩ .project).map ResolvedSetting.seen =
          .ok (.bool true, .runtimeProject, some 1) := by
  exact ⟨rfl, rfl⟩

end AiGovernance.Settings
