import AiGovernance.Services.ExecutionListing
import AiGovernance.Std.Paging

/-!
# Reading all executions page by page

`list_executions` gives a cursor with a page that is not the last, and does not
read the cursor it is given. A chain of calls ends, and then has listed every
execution once, exactly when all of them fit on one page.
-/

namespace AiGovernance.Lifecycle

open AiGovernance.Std Domain Repositories Services Semantics

variable {primitives : Primitives} {stores : Stores} {request : ExecutionListRequest} {context : TenantContext}
  {ambient : Ambient}

/-- The executions of a tenant that a request matches, in the order they are listed in. -/
def matchingExecutions (stores : Stores) (request : ExecutionListRequest) (scope : Scope) : List AgentExecution :=
  (stores.executions.byId.values.filter fun execution =>
    scope.sees execution.record.organizationId execution.record.projectId &&
      ExecutionStore.passes request.filters execution).insertionSort ExecutionStore.listedBefore

/-- The page a call returns; a call that raises has none. -/
def executionPage (primitives : Primitives) (stores : Stores) (request : ExecutionListRequest)
    (context : TenantContext) (ambient : Ambient) (cursor : Option String) :
    Option (Paging.Page AgentExecutionSummary String) :=
  ((listExecutions primitives request cursor context ambient).run (inMemory primitives) stores).1.toOption.map
    fun page => ⟨page.items, page.nextCursor⟩

/-- The summary of an execution as it is stored. -/
def storedSummary (stores : Stores) (scope : Scope) (execution : AgentExecution) : AgentExecutionSummary :=
  summaryOf execution (stores.events.maxSequenceNumber execution.record.executionId scope + 1)

theorem summarize_run (scope : Scope) (executions : List AgentExecution) :
    (summarize scope executions).run (inMemory primitives) stores =
      (.ok (executions.map (storedSummary stores scope)), stores) := by
  induction executions with
  | nil => rfl
  | cons execution rest ih =>
    unfold summarize
    rw [Program.run_read_bind _ rfl, Program.run_bind, ih]
    rfl

theorem executionPage_eq (permitted : ambient.permitted = true) (cursor : Option String) :
    executionPage primitives stores request context ambient cursor =
      some ⟨((matchingExecutions stores request context.scope).take request.limit).map
          (storedSummary stores context.scope),
        if request.limit < (matchingExecutions stores request context.scope).length then
          (((matchingExecutions stores request context.scope).take request.limit).map
            (storedSummary stores context.scope)).getLast?.map fun last =>
              encodeCursor primitives last.startedAt.isoformat last.executionId
        else none⟩ := by
  have listed : stores.executions.list request.filters context.scope =
      (matchingExecutions stores request context.scope).take (request.limit + 1) := rfl
  have enforced : enforce ambient = .done () := by
    unfold enforce
    rw [if_pos permitted]
  unfold executionPage listExecutions
  rw [enforced, Program.done_bind, Program.run_read_bind _ rfl, listed]
  by_cases more : request.limit < (matchingExecutions stores request context.scope).length
  · have longer : request.limit < ((matchingExecutions stores request context.scope).take (request.limit + 1)).length := by
      rw [List.length_take]
      omega
    have page : ((matchingExecutions stores request context.scope).take (request.limit + 1)).take request.limit =
        (matchingExecutions stores request context.scope).take request.limit := by
      rw [List.take_take, Nat.min_eq_left (Nat.le_succ _)]
    simp only [decide_eq_true longer, if_true, page, if_pos more]
    rw [Program.run_bind, summarize_run]
    rfl
  · have whole : (matchingExecutions stores request context.scope).take (request.limit + 1) =
        matchingExecutions stores request context.scope := List.take_of_length_le (by omega)
    have page : (matchingExecutions stores request context.scope).take request.limit =
        matchingExecutions stores request context.scope := List.take_of_length_le (by omega)
    simp only [whole, page, decide_eq_false more, if_neg more, Bool.false_eq_true, if_false]
    rw [Program.run_bind, summarize_run]
    rfl

/-- Reading page by page ends with every matching execution listed once, in order, exactly when one page holds them
all. -/
theorem pages_list_executions_iff (primitives : Primitives) (stores : Stores) (request : ExecutionListRequest)
    (context : TenantContext) (ambient : Ambient) (permitted : ambient.permitted = true)
    (positive : 1 ≤ request.limit) :
    (∃ listed, Paging.Yields (executionPage primitives stores request context ambient) none listed ∧
        listed.map (·.executionId) =
          (matchingExecutions stores request context.scope).map (·.record.executionId)) ↔
      (matchingExecutions stores request context.scope).length ≤ request.limit := by
  constructor
  · rintro ⟨listed, yields, -⟩
    by_contra more
    rw [Nat.not_le] at more
    refine Paging.not_yields_of_endless ?_ yields
    intro cursor page fetched
    rw [executionPage_eq permitted, if_pos more] at fetched
    cases fetched
    have nonempty : ((matchingExecutions stores request context.scope).take request.limit).map
        (storedSummary stores context.scope) ≠ [] := by
      rw [Ne, List.map_eq_nil_iff, List.take_eq_nil_iff, not_or]
      constructor
      · exact Nat.ne_of_gt positive
      · exact List.ne_nil_of_length_pos (Nat.zero_lt_of_lt more)
    rw [Option.isSome_map]
    exact List.getLast?_isSome.mpr nonempty
  · intro fits
    have page : (matchingExecutions stores request context.scope).take request.limit =
        matchingExecutions stores request context.scope := List.take_of_length_le fits
    have fetched : executionPage primitives stores request context ambient none = _ := executionPage_eq permitted none
    rw [if_neg (Nat.not_lt.mpr fits), page] at fetched
    refine ⟨_, (Paging.yields_of_last fetched rfl).mpr rfl, ?_⟩
    rw [List.map_map]
    rfl

/-! ## Two executions, page by page -/

/-- An execution of the tenant. -/
private def listedExecution (executionId : String) : AgentExecutionRecord where
  executionId := executionId
  organizationId := "org"
  projectId := none
  agentId := "agent"
  agentName := "Agent"
  agentVersion := "1"
  externalExecutionId := executionId
  runtimeProvider := "runtime"
  status := .running
  startedAt := ⟨0⟩
  completedAt := none
  correlationId := none
  parentExecutionId := none
  createdAt := ⟨0⟩
  updatedAt := ⟨0⟩
  metadata := []
  version := 1

private def twoExecutions : Stores :=
  { Stores.empty with
    executions := (ExecutionStore.empty.save ⟨listedExecution "a", by decide +kernel⟩).save
      ⟨listedExecution "b", by decide +kernel⟩ }

private def reader : TenantContext := ⟨⟨"org", none⟩, "reader", none⟩

private def reading : Ambient := ⟨true, ⟨0⟩, "", "", 2, []⟩

private def untabulated : Primitives := .tabulated [] [] Primitives.noTexts Primitives.noValues

/-- A page of two holds both executions. -/
theorem pages_list_executions_two :
    ∃ listed, Paging.Yields (executionPage untabulated twoExecutions { limit := 2 } reader reading) none listed ∧
      listed.map (·.executionId) =
        (matchingExecutions twoExecutions { limit := 2 } reader.scope).map (·.record.executionId) :=
  (pages_list_executions_iff untabulated twoExecutions { limit := 2 } reader reading rfl (by decide)).mpr
    (by decide +kernel)

/-- Pages of one never come to an end. -/
theorem pages_of_one_endless : ¬ (∀ (primitives : Primitives) (stores : Stores) (request : ExecutionListRequest)
    (context : TenantContext) (ambient : Ambient), ambient.permitted = true → 1 ≤ request.limit →
      ∃ listed, Paging.Yields (executionPage primitives stores request context ambient) none listed ∧
        listed.map (·.executionId) =
          (matchingExecutions stores request context.scope).map (·.record.executionId)) := by
  intro every
  obtain ⟨listed, yields, -⟩ := every untabulated twoExecutions { limit := 1 } reader reading rfl (by decide)
  refine Paging.not_yields_of_endless ?_ yields
  intro cursor page fetched
  have first : executionPage untabulated twoExecutions { limit := 1 } reader reading cursor = _ :=
    executionPage_eq rfl cursor
  rw [fetched] at first
  cases first
  decide +kernel

end AiGovernance.Lifecycle
