import AiGovernance.Services.Platform
import Mathlib.Data.List.Induction

/-!
# Tenants of the in-memory execution store

Several tenants share one `InMemoryAgentExecutionRepository`. What a tenant is
answered is compared with the run in which only its own calls are made. The
table by identifier separates the tenants; the index by external identity does
not, so a lookup through it answers as in the tenant's own run exactly when the
entry it meets is the tenant's own latest one.
-/

namespace AiGovernance.Tenancy

open AiGovernance.Std Domain Repositories ExecutionStore List
open Semantics Services

variable {execution : AgentExecution}

/-- A caller: an organization and one of its projects. -/
structure Tenant where
  organizationId : String
  projectId : String
deriving DecidableEq

namespace Tenant

/-- The scope the tenant's calls are made in. -/
def scope (tenant : Tenant) : Scope := ⟨tenant.organizationId, some tenant.projectId⟩

/-- The execution carries the organization and the project of the tenant. -/
def owns (tenant : Tenant) (execution : AgentExecution) : Bool :=
  tenant.scope.sees execution.record.organizationId execution.record.projectId

theorem owns_iff {tenant : Tenant} :
    tenant.owns execution = true ↔ execution.record.organizationId = tenant.organizationId ∧
      execution.record.projectId = some tenant.projectId := by
  simp [owns, scope, Scope.sees_iff]

theorem owner_unique {tenant other : Tenant} (owned : tenant.owns execution = true)
    (alsoOwned : other.owns execution = true) : tenant = other := by
  rw [owns_iff] at owned alsoOwned
  cases tenant
  cases other
  simp_all

end Tenant

/-- The calls of the repository. -/
inductive RepositoryCall where
  | save (execution : AgentExecution)
  | updateStatus (executionId : String) (newStatus : AgentExecutionStatus)
      (completedAt : Option Instant) (expectedVersion : Nat)
  | get (executionId : String)
  | getByExternalId (externalExecutionId runtimeProvider : String)
  | list (filters : ExecutionListFilters)

/-- What a call returns. -/
inductive RepositoryAnswer where
  | execution (execution : AgentExecution)
  | found (execution : Option AgentExecution)
  | listed (executions : List AgentExecution)
deriving DecidableEq

/-- A call made by a tenant; the executions it saves are its own. -/
structure TenantCall where
  tenant : Tenant
  call : RepositoryCall
  owned : ∀ execution, call = .save execution → tenant.owns execution = true

/-- How the store answers a call made in a scope. -/
def answer (store : ExecutionStore) (scope : Scope) :
    RepositoryCall → Except Raised RepositoryAnswer × ExecutionStore
  | .save execution => (.ok (.execution execution), store.save execution)
  | .updateStatus executionId newStatus completedAt expectedVersion =>
    let outcome := store.updateStatus executionId scope newStatus completedAt expectedVersion
    (outcome.1.map .execution, outcome.2)
  | .get executionId => (.ok (.found (store.get executionId scope)), store)
  | .getByExternalId externalExecutionId runtimeProvider =>
    (.ok (.found (store.getByExternalId externalExecutionId runtimeProvider scope)), store)
  | .list filters => (.ok (.listed (store.list filters scope)), store)

/-- Serve one call. -/
def serve (store : ExecutionStore) (call : TenantCall) :
    Except Raised RepositoryAnswer × ExecutionStore :=
  answer store call.tenant.scope call.call

/-- The store after a run of calls. -/
def run (calls : List TenantCall) : ExecutionStore :=
  calls.foldl (fun store call => (serve store call).2) .empty

/-- What `tenant` is answered in a run that starts from `store`. -/
def answersFrom (tenant : Tenant) : ExecutionStore → List TenantCall →
    List (Except Raised RepositoryAnswer)
  | _, [] => []
  | store, call :: rest =>
    if call.tenant = tenant then
      (serve store call).1 :: answersFrom tenant (serve store call).2 rest
    else answersFrom tenant (serve store call).2 rest

/-- What `tenant` is answered in the run of the calls on a new store. -/
def answers (tenant : Tenant) (calls : List TenantCall) : List (Except Raised RepositoryAnswer) :=
  answersFrom tenant .empty calls

/-- The run from which the calls of all other tenants are deleted. -/
def ownCalls (tenant : Tenant) (calls : List TenantCall) : List TenantCall :=
  calls.filter (·.tenant = tenant)

/-- The saves of a run, each with the tenant that made it. -/
def saves (calls : List TenantCall) : List (Tenant × AgentExecution) :=
  calls.filterMap fun call =>
    match call.call with
    | .save execution => some (call.tenant, execution)
    | _ => none

/-- The saves under one external identity. -/
def savesUnder (external : String × String) (calls : List TenantCall) : List (Tenant × AgentExecution) :=
  (saves calls).filter fun saved => ExecutionStore.externalKey saved.2 = external

/-- Platform identifiers are unique: no two tenants save an execution under the same one. -/
def UniqueIds (calls : List TenantCall) : Prop :=
  ∀ left ∈ saves calls, ∀ right ∈ saves calls,
    left.2.record.executionId = right.2.record.executionId → left.1 = right.1

/-- After `before`, the call of `tenant` meets nothing another tenant left: the latest save
under the external identity it looks up is its own, if it saved any; the execution it
updates was saved by no other tenant. -/
def Undisturbed (tenant : Tenant) (before : List TenantCall) : RepositoryCall → Prop
  | .getByExternalId externalExecutionId runtimeProvider =>
    ∀ saved ∈ savesUnder (externalExecutionId, runtimeProvider) before, saved.1 = tenant →
      ∀ last ∈ (savesUnder (externalExecutionId, runtimeProvider) before).getLast?, last.1 = tenant
  | .updateStatus executionId _ _ _ =>
    ∀ saved ∈ saves before, saved.2.record.executionId = executionId → saved.1 = tenant
  | .save _ | .get _ | .list _ => True

/-- Every call of `tenant` in the run meets nothing another tenant left. -/
def UndisturbedRun (tenant : Tenant) (calls : List TenantCall) : Prop :=
  ∀ before call after, calls = before ++ call :: after → call.tenant = tenant →
    Undisturbed tenant before call.call

/-! ## Runs, one call at a time -/

variable {call : TenantCall} {calls : List TenantCall} {tenant : Tenant}

theorem run_concat : run (calls ++ [call]) = (serve (run calls) call).2 := by
  simp [run, foldl_append]

theorem answersFrom_concat (store : ExecutionStore) :
    answersFrom tenant store (calls ++ [call]) = answersFrom tenant store calls ++
      if call.tenant = tenant then
        [(serve (calls.foldl (fun store call => (serve store call).2) store) call).1]
      else [] := by
  induction calls generalizing store with
  | nil => simp [answersFrom]
  | cons first rest ih =>
    simp only [cons_append, answersFrom, ih, foldl_cons]
    split
    · rfl
    · rfl

theorem answers_concat :
    answers tenant (calls ++ [call]) = answers tenant calls ++
      if call.tenant = tenant then [(serve (run calls) call).1] else [] :=
  answersFrom_concat .empty

theorem saves_concat :
    saves (calls ++ [call]) = saves calls ++
      match call.call with
      | .save execution => [(call.tenant, execution)]
      | _ => [] := by
  rw [saves, saves, filterMap_append]
  cases made : call.call <;> simp [made]

theorem UniqueIds.earlier (unique : UniqueIds (calls ++ [call])) : UniqueIds calls := by
  intro left inLeft right inRight same
  rw [UniqueIds, saves_concat] at unique
  exact unique left (mem_append_left _ inLeft) right (mem_append_left _ inRight) same

theorem ownCalls_concat_self (own : call.tenant = tenant) :
    ownCalls tenant (calls ++ [call]) = ownCalls tenant calls ++ [call] := by
  simp [ownCalls, own]

theorem ownCalls_concat_other (other : call.tenant ≠ tenant) :
    ownCalls tenant (calls ++ [call]) = ownCalls tenant calls := by
  simp [ownCalls, other]

/-- What a call can do to the store: save an execution, replace one of the caller's own
executions by its update, or nothing. -/
theorem serve_cases (store : ExecutionStore) (call : TenantCall) :
    (∃ execution, call.call = .save execution ∧ (serve store call).2 = store.save execution) ∨
      (∀ execution, call.call ≠ .save execution) ∧
        ((serve store call).2 = store ∨
          ∃ executionId old new, store.byId.get? executionId = some old ∧
            call.tenant.owns old = true ∧ call.tenant.owns new = true ∧
            (serve store call).2.byId = store.byId.set executionId new ∧
            (serve store call).2.byExternal = store.byExternal) := by
  unfold serve
  cases made : call.call with
  | save execution => exact Or.inl ⟨execution, rfl, rfl⟩
  | get executionId => exact Or.inr ⟨by simp, Or.inl rfl⟩
  | getByExternalId externalExecutionId runtimeProvider => exact Or.inr ⟨by simp, Or.inl rfl⟩
  | list filters => exact Or.inr ⟨by simp, Or.inl rfl⟩
  | updateStatus executionId newStatus completedAt expectedVersion =>
    refine Or.inr ⟨by simp, ?_⟩
    simp only [answer]
    rcases store.updateStatus_cases executionId call.tenant.scope newStatus completedAt
      expectedVersion with ⟨raised, refused⟩ | ⟨result, next, replaced, succeeded, byId, byExternal⟩
    · rw [refused]
      exact Or.inl rfl
    · obtain ⟨old, found, seen, -, record⟩ := updated_eq_ok succeeded
      rw [replaced]
      refine Or.inr ⟨executionId, old, result, found, seen, ?_, byId, byExternal⟩
      rw [Tenant.owns, record]
      exact seen

theorem saved_of_stored {executionId : String} (found : (run calls).byId.get? executionId = some execution) :
    ∃ saved ∈ saves calls, saved.2.record.executionId = executionId ∧ saved.1.owns execution = true := by
  induction calls using List.reverseRecOn generalizing executionId execution with
  | nil => cases found
  | append_singleton calls call ih =>
    have kept : ∀ {executionId execution}, (run calls).byId.get? executionId = some execution →
        ∃ saved ∈ saves (calls ++ [call]),
          saved.2.record.executionId = executionId ∧ saved.1.owns execution = true := by
      intro executionId execution found
      obtain ⟨saved, member, rest⟩ := ih found
      exact ⟨saved, by rw [saves_concat]; exact mem_append_left _ member, rest⟩
    rw [run_concat] at found
    rcases serve_cases (run calls) call with
      ⟨saving, made, after⟩ | ⟨-, after | ⟨updatedId, old, new, stored, ownedOld, owned, after, -⟩⟩
    · rw [after, ExecutionStore.save, Dict.get?_set] at found
      split at found
      · rename_i same
        cases found
        exact ⟨(call.tenant, execution), by simp [saves_concat, made], same.symm,
          call.owned execution made⟩
      · exact kept found
    · rw [after] at found
      exact kept found
    · rw [after, Dict.get?_set] at found
      split at found
      · rename_i same
        cases found
        obtain ⟨saved, member, identity, ownsOld⟩ := kept stored
        refine ⟨saved, member, identity.trans same.symm, ?_⟩
        rwa [Tenant.owner_unique ownsOld ownedOld]
      · exact kept found

variable {saved : Tenant × AgentExecution}

theorem stored_of_saved (member : saved ∈ saves calls) :
    ((run calls).byId.get? saved.2.record.executionId).isSome = true := by
  induction calls using List.reverseRecOn with
  | nil => cases member
  | append_singleton calls call ih =>
    rw [run_concat]
    rw [saves_concat, mem_append] at member
    rcases serve_cases (run calls) call with
      ⟨saving, made, after⟩ | ⟨noSave, after | ⟨updatedId, old, new, -, -, -, after, -⟩⟩
    · rw [after, ExecutionStore.save, Dict.get?_set]
      split
      · rfl
      · rename_i different
        refine ih (member.resolve_right fun last => ?_)
        rw [made] at last
        obtain rfl := mem_singleton.mp last
        exact different rfl
    all_goals
      have earlier : saved ∈ saves calls := by
        refine member.resolve_right fun last => ?_
        split at last
        · exact noSave _ (by assumption)
        · cases last
    · rw [after]
      exact ih earlier
    · rw [after, Dict.get?_set]
      split
      · rfl
      · exact ih earlier

/-- With unique identifiers, what is stored under a saved identifier is the saver's. -/
theorem UniqueIds.owned (unique : UniqueIds calls) (member : saved ∈ saves calls)
    (found : (run calls).byId.get? saved.2.record.executionId = some execution) : saved.1.owns execution = true := by
  obtain ⟨other, otherMember, sameId, owned⟩ := saved_of_stored found
  rwa [unique saved member other otherMember sameId.symm]

/-! ## The table by identifier -/

/-- The tenant's own store holds exactly the tenant's executions of the shared store. -/
def Simulates (tenant : Tenant) (shared own : ExecutionStore) : Prop :=
  own.byId = shared.byId.restrict tenant.owns

section Simulation

variable {shared own : ExecutionStore} {newStatus : AgentExecutionStatus} {completedAt : Option Instant} {expectedVersion : Nat}

theorem Simulates.serve_other (simulates : Simulates tenant shared own) (other : call.tenant ≠ tenant)
    (fresh : ∀ execution, call.call = .save execution → ∀ old,
      shared.byId.get? execution.record.executionId = some old → call.tenant.owns old = true) :
    Simulates tenant (serve shared call).2 own := by
  have foreign : ∀ {execution}, call.tenant.owns execution = true → tenant.owns execution = false := by
    intro execution owned
    refine Bool.eq_false_iff.mpr fun alsoOwned => ?_
    exact other (Tenant.owner_unique owned alsoOwned)
  rw [Simulates] at simulates ⊢
  rcases serve_cases shared call with
    ⟨saving, made, after⟩ | ⟨-, after | ⟨updatedId, old, new, stored, ownedOld, owned, after, -⟩⟩
  · rw [after, simulates]
    refine (Dict.restrict_set_of_drop (foreign (call.owned saving made)) ?_).symm
    exact fun old found => foreign (fresh saving made old found)
  · rw [after, simulates]
  · rw [after, simulates]
    refine (Dict.restrict_set_of_drop (foreign owned) ?_).symm
    intro previous found
    rw [stored] at found
    cases found
    exact foreign ownedOld

theorem Simulates.get?_eq (simulates : Simulates tenant shared own) (executionId : String) :
    own.byId.get? executionId = (shared.byId.get? executionId).filter tenant.owns := by
  rw [simulates, Dict.get?_restrict]

theorem Simulates.get_eq (simulates : Simulates tenant shared own) (executionId : String) :
    own.get executionId tenant.scope = shared.get executionId tenant.scope := by
  change (own.byId.get? executionId).filter tenant.owns =
    (shared.byId.get? executionId).filter tenant.owns
  rw [simulates.get?_eq, Option.filter_filter]
  simp

theorem Simulates.list_eq (simulates : Simulates tenant shared own) (filters : ExecutionListFilters) :
    own.list filters tenant.scope = shared.list filters tenant.scope := by
  have listed : own.byId.values.filter (fun execution =>
        tenant.owns execution && passes filters execution) =
      shared.byId.values.filter fun execution =>
        tenant.owns execution && passes filters execution := by
    rw [simulates, Dict.values_restrict, filter_filter]
    refine filter_congr fun execution _ => ?_
    cases tenant.owns execution <;> simp
  exact congrArg (fun executions =>
    (List.insertionSort listedBefore executions).take filters.limit) listed

variable {executionId : String}

/-- An update of an execution that is the tenant's, or unknown, is answered alike. -/
theorem Simulates.updated_eq (simulates : Simulates tenant shared own)
    (visible : ∀ execution, shared.byId.get? executionId = some execution → tenant.owns execution = true) :
    own.updated executionId tenant.scope newStatus completedAt expectedVersion =
      shared.updated executionId tenant.scope newStatus completedAt expectedVersion := by
  have same : own.byId.get? executionId = shared.byId.get? executionId := by
    rw [simulates.get?_eq]
    cases found : shared.byId.get? executionId with
    | none => rfl
    | some execution => rw [Option.filter_some, if_pos (visible execution found)]
  simp only [ExecutionStore.updated, same]

/-- An update of another tenant's execution is refused in other words than an unknown one. -/
theorem updated_of_foreign (found : shared.byId.get? executionId = some execution)
    (foreign : tenant.owns execution = false) (newStatus : AgentExecutionStatus) (completedAt : Option Instant)
    (expectedVersion : Nat) :
    ∃ message, (message = "Organization mismatch." ∨ message = "Project mismatch.") ∧
      shared.updated executionId tenant.scope newStatus completedAt expectedVersion =
        .error ⟨.valueError, message⟩ := by
  simp only [ExecutionStore.updated, found]
  by_cases organization : execution.record.organizationId = tenant.scope.organizationId
  · have project : execution.record.projectId ≠ tenant.scope.projectId := by
      intro same
      have owned : tenant.owns execution = true := Tenant.owns_iff.mpr ⟨organization, same⟩
      rw [foreign] at owned
      cases owned
    refine ⟨_, Or.inr rfl, ?_⟩
    rw [if_neg (not_not.mpr organization), if_pos ⟨rfl, project⟩]
  · exact ⟨_, Or.inl rfl, if_pos organization⟩

theorem updated_of_unknown {store : ExecutionStore} {scope : Scope} (unknown : store.byId.get? executionId = none) :
    store.updated executionId scope newStatus completedAt expectedVersion =
      .error ⟨.valueError, "Execution '" ++ executionId ++ "' not found."⟩ := by
  simp only [ExecutionStore.updated, unknown]

theorem notFound_ne {message : String}
    (mismatch : message = "Organization mismatch." ∨ message = "Project mismatch.") :
    "Execution '" ++ executionId ++ "' not found." ≠ message := by
  intro same
  have characters := congrArg String.toList same
  rcases mismatch with rfl | rfl <;> simp [String.toList_append] at characters

/-- A call of the tenant does the same to its executions in both stores. -/
theorem Simulates.serve_own (simulates : Simulates tenant shared own) (made : call.tenant = tenant)
    (fresh : ∀ execution, call.call = .save execution → ∀ old,
      shared.byId.get? execution.record.executionId = some old → tenant.owns old = true) :
    Simulates tenant (serve shared call).2 (serve own call).2 := by
  subst made
  rw [Simulates] at simulates ⊢
  unfold serve
  cases requested : call.call with
  | get executionId => exact simulates
  | getByExternalId externalExecutionId runtimeProvider => exact simulates
  | list filters => exact simulates
  | save execution =>
    simp only [answer, ExecutionStore.save]
    rw [simulates]
    exact (Dict.restrict_set_of_keep (call.owned execution requested) (fresh execution requested)).symm
  | updateStatus executionId newStatus completedAt expectedVersion =>
    simp only [answer]
    rw [(own.updateStatus_eq ..).2, (shared.updateStatus_eq ..).2]
    by_cases visible : ∀ execution, shared.byId.get? executionId = some execution →
        call.tenant.owns execution = true
    · rw [Simulates.updated_eq simulates visible]
      cases updated : shared.updated executionId call.tenant.scope newStatus completedAt
        expectedVersion with
      | error raised => exact simulates
      | ok result =>
        obtain ⟨old, -, seen, -, record⟩ := updated_eq_ok updated
        have owned : call.tenant.owns result = true := by
          rw [Tenant.owns, record]
          exact seen
        simp only [simulates]
        exact (Dict.restrict_set_of_keep owned visible).symm
    · push Not at visible
      obtain ⟨execution, found, foreign⟩ := visible
      obtain ⟨message, -, refused⟩ := updated_of_foreign found (Bool.eq_false_iff.mpr foreign)
        newStatus completedAt expectedVersion
      have unknown : own.byId.get? executionId = none := by
        rw [Simulates.get?_eq simulates, found, Option.filter_some, if_neg foreign]
      rw [refused, updated_of_unknown unknown]
      exact simulates

end Simulation

theorem run_simulates (tenant : Tenant) (unique : UniqueIds calls) :
    Simulates tenant (run calls) (run (ownCalls tenant calls)) := by
  induction calls using List.reverseRecOn with
  | nil => rfl
  | append_singleton calls call ih =>
    have simulates := ih unique.earlier
    have fresh : ∀ execution, call.call = .save execution → ∀ old,
        (run calls).byId.get? execution.record.executionId = some old →
          call.tenant.owns old = true := by
      intro execution made old found
      obtain ⟨saved, member, sameId, owned⟩ := saved_of_stored found
      have same := unique saved (by rw [saves_concat]; exact mem_append_left _ member)
        (call.tenant, execution) (by simp [saves_concat, made]) sameId
      rw [same] at owned
      exact owned
    rw [run_concat]
    by_cases made : call.tenant = tenant
    · rw [ownCalls_concat_self made, run_concat]
      exact simulates.serve_own made (made ▸ fresh)
    · rw [ownCalls_concat_other made]
      exact simulates.serve_other made fresh

/-! ## The index by external identity -/

theorem savesUnder_concat (external : String × String) :
    savesUnder external (calls ++ [call]) = savesUnder external calls ++
      match call.call with
      | .save execution =>
        if externalKey execution = external then [(call.tenant, execution)] else []
      | _ => [] := by
  rw [savesUnder, savesUnder, saves_concat, filter_append]
  cases made : call.call with
  | save execution =>
    by_cases same : externalKey execution = external <;> simp [same]
  | _ => simp

/-- The index names the execution saved last under the identity, whoever saved it. -/
theorem byExternal_run (external : String × String) :
    (run calls).byExternal.get? external =
      (savesUnder external calls).getLast?.map (·.2.record.executionId) := by
  induction calls using List.reverseRecOn with
  | nil => rfl
  | append_singleton calls call ih =>
    rw [run_concat, savesUnder_concat]
    rcases serve_cases (run calls) call with
      ⟨saving, made, after⟩ | ⟨noSave, after⟩
    · rw [after, ExecutionStore.save, Dict.get?_set, made]
      by_cases same : externalKey saving = external
      · simp [same]
      · simp [same, Ne.symm same, ih]
    · have unchanged : (serve (run calls) call).2.byExternal = (run calls).byExternal := by
        rcases after with after | ⟨_, _, _, _, _, _, _, after⟩
        · rw [after]
        · exact after
      rw [unchanged, ih]
      split
      · exact absurd (by assumption) (noSave _)
      · simp

theorem savesUnder_ownCalls (external : String × String) :
    savesUnder external (ownCalls tenant calls) =
      (savesUnder external calls).filter (·.1 = tenant) := by
  induction calls using List.reverseRecOn with
  | nil => rfl
  | append_singleton calls call ih =>
    by_cases made : call.tenant = tenant
    · rw [ownCalls_concat_self made, savesUnder_concat, savesUnder_concat,
        filter_append, ih]
      cases call.call with
      | save execution =>
        by_cases same : externalKey execution = external <;> simp [same, made]
      | _ => simp
    · rw [ownCalls_concat_other made, savesUnder_concat, filter_append,
        ih]
      cases call.call with
      | save execution =>
        by_cases same : externalKey execution = external <;> simp [same, made]
      | _ => simp

theorem mem_saves_of_savesUnder {external : String × String} (member : saved ∈ savesUnder external calls) :
    saved ∈ saves calls :=
  (mem_filter.mp member).1

/-- A tenant reads what it saved, and nothing another tenant saved. -/
theorem get_of_saved (unique : UniqueIds calls) (member : saved ∈ saves calls) (tenant : Tenant) :
    ((run calls).get saved.2.record.executionId tenant.scope).isSome = true ↔ saved.1 = tenant := by
  obtain ⟨execution, found⟩ := Option.isSome_iff_exists.mp (stored_of_saved member)
  have owned := unique.owned member found
  change ((Dict.get? _ _).filter tenant.owns).isSome = true ↔ _
  rw [found, Option.filter_some]
  constructor
  · intro read
    split at read
    · exact Tenant.owner_unique owned (by assumption)
    · cases read
  · rintro rfl
    rw [if_pos owned]
    rfl

/-- A lookup by external identity reads the execution saved last under it. -/
theorem getByExternalId_run (externalExecutionId runtimeProvider : String) (scope : Scope) :
    (run calls).getByExternalId externalExecutionId runtimeProvider scope =
      (savesUnder (externalExecutionId, runtimeProvider) calls).getLast?.bind fun saved =>
        (run calls).get saved.2.record.executionId scope := by
  rw [ExecutionStore.getByExternalId, byExternal_run, Option.bind_map]
  rfl

/-- The same lookup in the tenant's own run reads what the tenant saved last. -/
theorem getByExternalId_ownCalls (unique : UniqueIds calls) (externalExecutionId runtimeProvider : String) :
    (run (ownCalls tenant calls)).getByExternalId externalExecutionId runtimeProvider tenant.scope =
      ((savesUnder (externalExecutionId, runtimeProvider) calls).filter (·.1 = tenant)).getLast?.bind
        fun saved => (run calls).get saved.2.record.executionId tenant.scope := by
  rw [getByExternalId_run, savesUnder_ownCalls]
  refine congrArg (Option.bind _) (funext fun saved => ?_)
  exact (run_simulates tenant unique).get_eq _

/-- A lookup is answered as in the tenant's own run exactly when it is undisturbed. -/
theorem lookup_eq_iff (unique : UniqueIds calls) (externalExecutionId runtimeProvider : String) :
    (run calls).getByExternalId externalExecutionId runtimeProvider tenant.scope =
        (run (ownCalls tenant calls)).getByExternalId externalExecutionId runtimeProvider tenant.scope ↔
      Undisturbed tenant calls (.getByExternalId externalExecutionId runtimeProvider) := by
  rw [getByExternalId_run, getByExternalId_ownCalls unique, Undisturbed]
  have readable : ∀ saved ∈ savesUnder (externalExecutionId, runtimeProvider) calls,
      ((run calls).get saved.2.record.executionId tenant.scope).isSome = true ↔ saved.1 = tenant :=
    fun saved member => get_of_saved unique (mem_saves_of_savesUnder member) tenant
  rcases eq_nil_or_concat (savesUnder (externalExecutionId, runtimeProvider) calls) with
    none | ⟨earlier, last, split⟩
  · simp [none]
  · rw [concat_eq_append] at split
    rw [split] at readable ⊢
    simp only [getLast?_append_cons, getLast?_singleton, Option.bind_some,
      Option.mem_def, Option.some.injEq, forall_eq']
    by_cases own : last.1 = tenant
    · simp [own]
    · have unread := mt (readable last (by simp)).mp own
      simp only [Bool.not_eq_true, Option.isSome_eq_false_iff, Option.isNone_iff_eq_none] at unread
      rw [unread, filter_append, filter_singleton]
      simp only [own, decide_false, cond_false, append_nil]
      constructor
      · intro same saved member made
        -- A save of the tenant is readable in its own run, but not through the shared index.
        obtain ⟨latest, found⟩ : ∃ latest, (earlier.filter (·.1 = tenant)).getLast? = some latest := by
          refine Option.ne_none_iff_exists'.mp fun none => ?_
          have inEarlier : saved ∈ earlier := by
            rcases mem_append.mp member with old | new
            · exact old
            · obtain rfl := mem_singleton.mp new
              exact absurd made own
          have kept : saved ∈ earlier.filter (·.1 = tenant) :=
            mem_filter.mpr ⟨inEarlier, decide_eq_true made⟩
          rw [getLast?_eq_none_iff.mp none] at kept
          cases kept
        have latestMember := mem_filter.mp (mem_of_getLast? found)
        have read := (readable latest (mem_append_left _ latestMember.1)).mpr
          (of_decide_eq_true latestMember.2)
        rw [found, Option.bind_some] at same
        rw [← same] at read
        cases read
      · intro undisturbed
        have nothing : earlier.filter (·.1 = tenant) = [] := by
          refine filter_eq_nil_iff.mpr fun saved member made => ?_
          exact undisturbed saved (mem_append_left _ member) (of_decide_eq_true made)
        rw [nothing]
        rfl

/-! ## Noninterference -/

/-- One call of the tenant is answered as in its own run exactly when it is undisturbed. -/
theorem serve_eq_iff (unique : UniqueIds calls) (made : call.tenant = tenant) :
    (serve (run calls) call).1 = (serve (run (ownCalls tenant calls)) call).1 ↔
      Undisturbed tenant calls call.call := by
  subst made
  have simulates := run_simulates call.tenant unique
  unfold serve
  cases call.call with
  | save execution => simp [answer, Undisturbed]
  | get executionId => simp [answer, Undisturbed, simulates.get_eq]
  | list filters => simp [answer, Undisturbed, simulates.list_eq]
  | getByExternalId externalExecutionId runtimeProvider =>
    rw [← lookup_eq_iff unique]
    simp [answer]
  | updateStatus executionId newStatus completedAt expectedVersion =>
    simp only [answer, Undisturbed]
    rw [((run calls).updateStatus_eq ..).1, (updateStatus_eq ..).1]
    constructor
    · intro same saved member identity
      subst identity
      obtain ⟨execution, found⟩ := Option.isSome_iff_exists.mp (stored_of_saved member)
      have owned := unique.owned member found
      by_contra other
      have foreign : call.tenant.owns execution = false :=
        Bool.eq_false_iff.mpr fun alsoOwned => other (Tenant.owner_unique owned alsoOwned)
      obtain ⟨message, mismatch, refused⟩ := updated_of_foreign found foreign
        newStatus completedAt expectedVersion
      have unknown := simulates.get?_eq saved.2.record.executionId
      rw [found, Option.filter_some, if_neg (by simp [foreign])] at unknown
      rw [refused, updated_of_unknown unknown] at same
      exact notFound_ne mismatch (congrArg Raised.message (Except.error.inj same)).symm
    · intro undisturbed
      rw [simulates.updated_eq fun execution found => ?_]
      obtain ⟨saved, member, identity, owned⟩ := saved_of_stored found
      rwa [← undisturbed saved member identity]

theorem undisturbedRun_concat :
    UndisturbedRun tenant (calls ++ [call]) ↔ UndisturbedRun tenant calls ∧
      (call.tenant = tenant → Undisturbed tenant calls call.call) := by
  constructor
  · intro undisturbed
    refine ⟨?_, undisturbed calls call [] rfl⟩
    rintro before other after rfl
    exact undisturbed before other (after ++ [call]) (by simp)
  · rintro ⟨earlier, last⟩ before other after split
    rcases eq_nil_or_concat after with rfl | ⟨rest, final, rfl⟩
    · obtain ⟨rfl, same⟩ := append_inj' split rfl
      obtain rfl := singleton_inj.mp same
      exact last
    · rw [concat_eq_append, ← cons_append, ← append_assoc] at split
      obtain ⟨same, -⟩ := append_inj' split rfl
      exact earlier before other rest same

/-- The tenant is answered as in its own run exactly in the undisturbed runs. -/
theorem answers_eq_iff (tenant : Tenant) (unique : UniqueIds calls) :
    answers tenant calls = answers tenant (ownCalls tenant calls) ↔ UndisturbedRun tenant calls := by
  induction calls using List.reverseRecOn with
  | nil =>
    refine iff_of_true rfl ?_
    intro before call after split
    simp at split
  | append_singleton calls call ih =>
    rw [undisturbedRun_concat, ← ih unique.earlier, answers_concat]
    by_cases made : call.tenant = tenant
    · rw [ownCalls_concat_self made, answers_concat]
      simp only [forall_const, made]
      rw [← serve_eq_iff unique.earlier made]
      constructor
      · intro same
        obtain ⟨earlier, last⟩ := append_inj' same rfl
        exact ⟨earlier, singleton_inj.mp last⟩
      · rintro ⟨earlier, last⟩
        rw [earlier, last]
    · rw [ownCalls_concat_other made, if_neg made, append_nil]
      simp [made]

/-! ## Repeated starts -/

theorem withStatus_valid : AgentExecutionRecord.violation (withStatus execution newStatus none) = none := by
  have valid := execution.valid
  simp only [AgentExecutionRecord.violation, firstViolation_eq_none, mem_cons] at valid ⊢
  intro test member
  by_cases completion : test = rejectIf ((none : Option Instant).any
      (· < execution.record.startedAt)) .valueError "completed_at must not precede started_at."
  · rw [completion]
    rfl
  · refine valid test ?_
    simp only [withStatus] at member
    tauto

/-- The replay branch returns the execution it was given, updated in place if need be. -/
theorem replayStart_returns (primitives : Primitives) {stores : Stores} {existing : AgentExecution}
    {scope : Scope}
    (found : stores.executions.get existing.record.executionId scope = some existing) :
    (replayStart existing scope).Ensures (inMemory primitives) stores (fun result after =>
      (∃ execution, result = .ok execution ∧
        execution.record.executionId = existing.record.executionId) ∧
      ∀ executionId, (after.executions.byId.get? executionId).isSome =
        (stores.executions.byId.get? executionId).isSome) := by
  have unchanged : (∃ execution, (Except.ok existing : Except Raised AgentExecution) = .ok execution ∧
        execution.record.executionId = existing.record.executionId) ∧
      ∀ executionId, (stores.executions.byId.get? executionId).isSome =
        (stores.executions.byId.get? executionId).isSome :=
    ⟨⟨existing, rfl, rfl⟩, fun _ => rfl⟩
  unfold replayStart
  split
  · exact unchanged
  · split
    · refine Program.ensures_call.mpr ?_
      obtain ⟨stored, seen⟩ := Option.filter_eq_some_iff.mp found
      obtain ⟨organization, project⟩ := Scope.sees_iff.mp seen
      have succeeded : stores.executions.updated existing.record.executionId scope .running none
          existing.record.version =
          .ok ⟨withStatus existing .running none, withStatus_valid⟩ := by
        simp only [ExecutionStore.updated, stored]
        rw [if_neg (not_not.mpr organization), if_neg, if_neg (not_not.mpr rfl)]
        · exact Checked.create_of_valid _
        · rintro ⟨named, different⟩
          rcases project with unnamed | same
          · rw [unnamed] at named
            cases named
          · exact different same
      have outcome := stores.executions.updateStatus_eq existing.record.executionId scope .running none
        existing.record.version
      rw [succeeded] at outcome
      refine ⟨⟨_, outcome.1, rfl⟩, fun executionId => ?_⟩
      simp only [inMemory, outcome.2, Dict.get?_set]
      split
      · rename_i same
        rw [same, stored]
        rfl
      · rfl
    · exact unchanged

/-- A start under an external identity the tenant saved before returns what the tenant
saved last under it, and creates nothing. -/
def StartRepeats (primitives : Primitives) (tenant : Tenant) (calls : List TenantCall)
    (submission : StartSubmission) : Prop :=
  ∀ saved, ((savesUnder (submission.externalExecutionId, submission.runtimeProvider) calls).filter
      (·.1 = tenant)).getLast? = some saved →
    ∀ (context : Domain.TenantContext) (ambient : Ambient) (stores : Stores), context.scope = tenant.scope →
      ambient.permitted = true → stores.executions = run calls →
      (ingestStart primitives submission context ambient).Ensures (inMemory primitives) stores
        (fun result after =>
          (∃ execution, result = .ok execution ∧
            execution.record.executionId = saved.2.record.executionId) ∧
          ∀ executionId, (after.executions.byId.get? executionId).isSome =
            (stores.executions.byId.get? executionId).isSome)

theorem startRepeats (primitives : Primitives) (tenant : Tenant) (unique : UniqueIds calls)
    {submission : StartSubmission} (undisturbed : Undisturbed tenant calls
      (.getByExternalId submission.externalExecutionId submission.runtimeProvider)) :
    StartRepeats primitives tenant calls submission := by
  intro saved latest context ambient stores inScope permitted shared
  have member := mem_filter.mp (mem_of_getLast? latest)
  have readable := (get_of_saved unique (mem_saves_of_savesUnder member.1) tenant).mpr
    (of_decide_eq_true member.2)
  obtain ⟨existing, read⟩ := Option.isSome_iff_exists.mp readable
  have identity : existing.record.executionId = saved.2.record.executionId :=
    (run calls).keyed (Option.filter_eq_some_iff.mp read).1
  have found : stores.executions.getByExternalId submission.externalExecutionId
      submission.runtimeProvider context.scope = some existing := by
    rw [inScope, shared, (lookup_eq_iff unique _ _).mpr undisturbed,
      getByExternalId_ownCalls unique, latest]
    exact read
  unfold ingestStart enforce
  rw [if_pos permitted, Program.done_bind]
  refine Program.ensures_read_bind (by simp only [inMemory, found]; rfl) ?_
  rw [← identity]
  refine replayStart_returns primitives ?_
  rw [identity, inScope, shared]
  exact read

/-- For every run of calls of any number of tenants with unique platform identifiers: a
tenant is answered as in the run of its own calls alone exactly when each of its calls is
undisturbed; and after such a run, a start whose lookup is undisturbed returns the
execution the tenant has under the external identity and creates none. -/
theorem tenant_noninterference (primitives : Primitives) (tenant : Tenant) {calls : List TenantCall}
    (unique : UniqueIds calls) :
    (answers tenant calls = answers tenant (ownCalls tenant calls) ↔ UndisturbedRun tenant calls) ∧
      ∀ submission : StartSubmission,
        Undisturbed tenant calls
          (.getByExternalId submission.externalExecutionId submission.runtimeProvider) →
        StartRepeats primitives tenant calls submission :=
  ⟨answers_eq_iff tenant unique, fun _ undisturbed => startRepeats primitives tenant unique undisturbed⟩

/-! ## Two tenants and one external identity -/

/-- The run `run-1` of the runtime, as a project of the organization records it. -/
def runRecord (executionId projectId : String) : AgentExecutionRecord where
  executionId
  organizationId := "org-1"
  projectId := some projectId
  agentId := "agent-1"
  agentName := "Claims agent"
  agentVersion := "1"
  externalExecutionId := "run-1"
  runtimeProvider := "langgraph"
  status := .running
  startedAt := ⟨63000000000000000⟩
  completedAt := none
  correlationId := none
  parentExecutionId := none
  createdAt := ⟨63000000000000000⟩
  updatedAt := ⟨63000000000000000⟩
  metadata := []
  version := 0

/-- The first project saves its run. -/
def firstSave : TenantCall where
  tenant := ⟨"org-1", "project-1"⟩
  call := .save ⟨runRecord "exec-1" "project-1", by decide⟩
  owned := by
    intro execution made
    cases made
    decide

/-- The second project saves its run, which has the same external identity. -/
def secondSave : TenantCall where
  tenant := ⟨"org-1", "project-2"⟩
  call := .save ⟨runRecord "exec-2" "project-2", by decide⟩
  owned := by
    intro execution made
    cases made
    decide

/-- The first project looks its run up. -/
def firstLookup : TenantCall := ⟨⟨"org-1", "project-1"⟩, .getByExternalId "run-1" "langgraph", by simp⟩

/-- The second project saved first: the lookup of the first project is undisturbed. -/
theorem tenant_noninterference_latest_own :
    UniqueIds [secondSave, firstSave, firstLookup] ∧
      UndisturbedRun ⟨"org-1", "project-1"⟩ [secondSave, firstSave, firstLookup] := by
  have unique : UniqueIds [secondSave, firstSave, firstLookup] := by
    unfold UniqueIds
    decide
  refine ⟨unique, ?_⟩
  exact (tenant_noninterference claimsPlatform.primitives ⟨"org-1", "project-1"⟩ unique).1.mp (by decide)

/-- The second project saved last: the first project is told that its run does not exist. -/
theorem shared_identity_hides_run :
    UniqueIds [firstSave, secondSave, firstLookup] ∧
      answers ⟨"org-1", "project-1"⟩ [firstSave, secondSave, firstLookup] ≠
        answers ⟨"org-1", "project-1"⟩
          (ownCalls ⟨"org-1", "project-1"⟩ [firstSave, secondSave, firstLookup]) := by
  constructor
  · unfold UniqueIds
    decide
  · decide

end AiGovernance.Tenancy
