import AiGovernance.Domain.ReplayResult
import AiGovernance.Std.Ranking
import Mathlib.Data.Prod.Lex

/-!
# The in-memory replay result repository

`list` of `InMemoryReplayResultRepository`: the results of a tenant that pass
the filters, newest first, and of these the ones whose identifier is below the
cursor.
-/

namespace AiGovernance.Replays

open AiGovernance.Std Domain

/-- `ReplayResultListFilters`, but for the cursor. -/
structure ReplayResultListFilters where
  sourceExecutionId : Option String := none
  replayExecutionId : Option String := none
  driftSeverity : Option String := none
  createdAfter : Option Instant.Stamp := none
  createdBefore : Option Instant.Stamp := none
  limit : Nat := 100

/-- The stored results, each under its own identifier. -/
structure ReplayResultStore where
  results : List ReplayResult
  distinct : (results.map (·.record.resultId)).Nodup

/-- The result is below the cursor; an empty cursor is none. -/
def below (cursor : String) (result : ReplayResult) : Bool := cursor = "" || result.record.resultId < cursor

namespace ReplayResultStore

/-- The tests `list` makes of a result. -/
def keeps (filters : ReplayResultListFilters) (organizationId projectId : String) (result : ReplayResult) : Bool :=
  result.record.organizationId = organizationId && result.record.projectId = projectId &&
    filters.sourceExecutionId.all (result.record.sourceExecutionId = ·) &&
    filters.replayExecutionId.all (result.record.replayExecutionId = ·) &&
    filters.driftSeverity.all (result.record.driftSummary.severity = ·) &&
    filters.createdAfter.all (·.instant ≤ result.record.createdAt.instant) &&
    filters.createdBefore.all (result.record.createdAt.instant ≤ ·.instant)

/-- The key results are sorted by. -/
def sortKey (result : ReplayResult) : Nat ×ₗ String :=
  toLex (result.record.createdAt.instant.micros, result.record.resultId)

/-- The results that pass the filters, newest first. -/
def matching (store : ReplayResultStore) (filters : ReplayResultListFilters) (organizationId projectId : String) :
    List ReplayResult :=
  Ranking.descending sortKey (store.results.filter (keeps filters organizationId projectId))

/-- `list`. -/
def list (store : ReplayResultStore) (filters : ReplayResultListFilters) (cursor : Option String)
    (organizationId projectId : String) : List ReplayResult :=
  let results := store.matching filters organizationId projectId
  let results := match cursor with
    | none => results
    | some cursor => results.filter (below cursor)
  results.take filters.limit

end ReplayResultStore

end AiGovernance.Replays
