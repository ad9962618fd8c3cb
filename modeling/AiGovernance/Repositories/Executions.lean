import AiGovernance.Domain.AgentExecution
import AiGovernance.Std.Dict

/-!
# The in-memory execution store

`InMemoryAgentExecutionRepository`: executions by platform identifier, and an
index from `(external_execution_id, runtime_provider)` to that identifier. The
index is not keyed by tenant.
-/

namespace AiGovernance.Repositories

open AiGovernance.Std Domain

/-- `AgentExecutionListFilters`. -/
structure ExecutionListFilters where
  agentId : Option String := none
  status : Option AgentExecutionStatus := none
  runtimeProvider : Option String := none
  createdAfter : Option Instant := none
  createdBefore : Option Instant := none
  limit : Nat
deriving DecidableEq

/-- The two tables of the store; each execution is filed under its own identifier, and
the index names a stored execution with the key it is found under. -/
structure ExecutionStore where
  byId : Dict String AgentExecution
  byExternal : Dict (String × String) String
  keyed : ∀ {executionId execution}, byId.get? executionId = some execution →
    execution.record.executionId = executionId
  indexed : ∀ {external executionId}, byExternal.get? external = some executionId →
    (byId.get? executionId).isSome = true

namespace ExecutionStore

/-- A new store. -/
def empty : ExecutionStore where
  byId := Dict.empty
  byExternal := Dict.empty
  keyed := by intro executionId execution found; cases found
  indexed := by intro external executionId found; cases found

/-- `(execution.external_execution_id, execution.runtime_provider)`. -/
def externalKey (execution : AgentExecution) : String × String :=
  (execution.record.externalExecutionId, execution.record.runtimeProvider)

/-- `save`: both tables are overwritten. -/
def save (store : ExecutionStore) (execution : AgentExecution) : ExecutionStore where
  byId := store.byId.set execution.record.executionId execution
  byExternal := store.byExternal.set (externalKey execution) execution.record.executionId
  keyed := store.byId.keyed_set store.keyed rfl
  indexed := by
    intro external executionId found
    rw [Dict.get?_set] at found ⊢
    split
    · rfl
    · rename_i different
      split at found
      · cases found
        exact absurd rfl different
      · exact store.indexed found

/-- `get`. -/
def get (store : ExecutionStore) (executionId : String) (scope : Scope) : Option AgentExecution :=
  (store.byId.get? executionId).filter fun execution =>
    scope.sees execution.record.organizationId execution.record.projectId

/-- `get_by_external_id`. -/
def getByExternalId (store : ExecutionStore) (externalExecutionId runtimeProvider : String)
    (scope : Scope) : Option AgentExecution :=
  (store.byExternal.get? (externalExecutionId, runtimeProvider)).bind (store.get · scope)

/-- The tests `list` makes for each filter that is set. -/
def passes (filters : ExecutionListFilters) (execution : AgentExecution) : Bool :=
  filters.agentId.all (execution.record.agentId = ·) &&
    filters.status.all (execution.record.status = ·) &&
    filters.runtimeProvider.all (execution.record.runtimeProvider = ·) &&
    filters.createdAfter.all (¬ execution.record.createdAt < ·) &&
    filters.createdBefore.all (¬ · < execution.record.createdAt)

/-- The order of `sorted(results, key=lambda e: (e.created_at, e.execution_id))`. -/
def listedBefore (left right : AgentExecution) : Prop :=
  left.record.createdAt < right.record.createdAt ∨
    (left.record.createdAt = right.record.createdAt ∧
      left.record.executionId ≤ right.record.executionId)

instance (left right : AgentExecution) : Decidable (listedBefore left right) :=
  inferInstanceAs (Decidable (_ ∨ _))

/-- `list`. -/
def list (store : ExecutionStore) (filters : ExecutionListFilters) (scope : Scope) :
    List AgentExecution :=
  ((store.byId.values.filter fun execution =>
      scope.sees execution.record.organizationId execution.record.projectId &&
        passes filters execution).insertionSort listedBefore).take filters.limit

/-- The fields `update_status` replaces. -/
def withStatus (execution : AgentExecution) (newStatus : AgentExecutionStatus)
    (completedAt : Option Instant) : AgentExecutionRecord :=
  { execution.record with
    status := newStatus
    completedAt := completedAt
    version := execution.record.version + 1 }

/-- The execution `update_status` stores, or what it raises. -/
def updated (store : ExecutionStore) (executionId : String) (scope : Scope)
    (newStatus : AgentExecutionStatus) (completedAt : Option Instant) (expectedVersion : Nat) :
    Except Raised AgentExecution :=
  match store.byId.get? executionId with
  | none => .error ⟨.valueError, "Execution '" ++ executionId ++ "' not found."⟩
  | some execution =>
    if execution.record.organizationId ≠ scope.organizationId then
      .error ⟨.valueError, "Organization mismatch."⟩
    else if scope.projectId.isSome ∧ execution.record.projectId ≠ scope.projectId then
      .error ⟨.valueError, "Project mismatch."⟩
    else if execution.record.version ≠ expectedVersion then
      .error ⟨.agentExecutionConcurrencyConflict,
        "Version mismatch: expected " ++ toString expectedVersion ++ ", got " ++
          toString execution.record.version ++ "."⟩
    else Checked.create (withStatus execution newStatus completedAt)

/-- A successful update replaces a stored, visible execution of the expected version. -/
theorem updated_eq_ok {store : ExecutionStore} {executionId : String} {scope : Scope}
    {newStatus : AgentExecutionStatus} {completedAt : Option Instant} {expectedVersion : Nat}
    {result : AgentExecution}
    (succeeded : store.updated executionId scope newStatus completedAt expectedVersion = .ok result) :
    ∃ execution, store.byId.get? executionId = some execution ∧
      scope.sees execution.record.organizationId execution.record.projectId = true ∧
      execution.record.version = expectedVersion ∧
      result.record = withStatus execution newStatus completedAt := by
  unfold updated at succeeded
  split at succeeded
  · cases succeeded
  · rename_i execution found
    split at succeeded
    · cases succeeded
    · rename_i organization
      split at succeeded
      · cases succeeded
      · rename_i project
        split at succeeded
        · cases succeeded
        · rename_i version
          refine ⟨execution, found, ?_, Decidable.not_not.mp version,
            Checked.create_eq_ok_iff.mp succeeded⟩
          rw [Scope.sees_iff]
          refine ⟨Decidable.not_not.mp organization, ?_⟩
          by_cases named : scope.projectId.isSome
          · exact Or.inr (by simpa [named] using project)
          · exact Or.inl (by simpa using named)

/-- `update_status`. -/
def updateStatus (store : ExecutionStore) (executionId : String) (scope : Scope)
    (newStatus : AgentExecutionStatus) (completedAt : Option Instant) (expectedVersion : Nat) :
    Except Raised AgentExecution × ExecutionStore :=
  match succeeded : store.updated executionId scope newStatus completedAt expectedVersion with
  | .error raised => (.error raised, store)
  | .ok result =>
    (.ok result,
      { byId := store.byId.set executionId result
        byExternal := store.byExternal
        keyed := by
          intro otherId stored found
          rw [Dict.get?_set] at found
          split at found
          · rename_i same
            cases found
            obtain ⟨execution, lookup, -, -, record⟩ := updated_eq_ok succeeded
            rw [same, record]
            exact store.keyed lookup
          · exact store.keyed found
        indexed := by
          intro external otherId found
          rw [Dict.get?_set]
          split
          · rfl
          · exact store.indexed found })

theorem updateStatus_cases (store : ExecutionStore) (executionId : String) (scope : Scope)
    (newStatus : AgentExecutionStatus) (completedAt : Option Instant) (expectedVersion : Nat) :
    (∃ raised, store.updateStatus executionId scope newStatus completedAt expectedVersion =
        (.error raised, store)) ∨
      ∃ result next, store.updateStatus executionId scope newStatus completedAt expectedVersion =
          (.ok result, next) ∧
        store.updated executionId scope newStatus completedAt expectedVersion = .ok result ∧
        next.byId = store.byId.set executionId result ∧ next.byExternal = store.byExternal := by
  unfold updateStatus
  split
  · rename_i raised found
    exact Or.inl ⟨raised, rfl⟩
  · rename_i result found
    exact Or.inr ⟨result, _, rfl, found, rfl, rfl⟩

/-- `update_status` answers what it computes, and stores it when it raises nothing. -/
theorem updateStatus_eq (store : ExecutionStore) (executionId : String) (scope : Scope)
    (newStatus : AgentExecutionStatus) (completedAt : Option Instant) (expectedVersion : Nat) :
    (store.updateStatus executionId scope newStatus completedAt expectedVersion).1 =
        store.updated executionId scope newStatus completedAt expectedVersion ∧
      (store.updateStatus executionId scope newStatus completedAt expectedVersion).2.byId =
        match store.updated executionId scope newStatus completedAt expectedVersion with
        | .ok result => store.byId.set executionId result
        | .error _ => store.byId := by
  unfold updateStatus
  split
  · rename_i raised failed
    simp only [failed, and_self]
  · rename_i result succeeded
    simp only [succeeded, and_self]

end ExecutionStore

end AiGovernance.Repositories
