import AiGovernance.Std.Keyset
import AiGovernance.Std.Like
import AiGovernance.Std.Offset
import AiGovernance.Std.Text
import Mathlib.Data.Prod.Lex

/-!
# Searching the replay execution catalog

`InMemoryReplayExecutionCatalog.search` and `SQLiteReplayExecutionCatalog.search`
give one page of the matching executions, newest first. The one compares times,
the other their ISO texts. At one UTC offset both read a catalog faithfully.
-/

namespace AiGovernance.Replays

open AiGovernance.Std

/-- The fields of `ReplayExecutionProjection` that a search reads. -/
structure ReplayExecutionProjection where
  executionId : String
  organizationId : String
  projectId : String
  workflowId : String
  workflowName : String
  workflowVersion : String
  executionStatus : String
  executedAt : Instant.Stamp
  replayable : Bool
  replayabilitySummary : Option String

/-- `ReplayExecutionSearchItem`. -/
structure ReplayExecutionSearchItem where
  executionId : String
  workflowId : String
  workflowName : String
  workflowVersion : String
  executionStatus : String
  createdAt : Instant.Stamp
  replayable : Bool
  replayabilityReason : Option String

/-- `ReplayExecutionSearchFilters` without its cursor. -/
structure ReplayExecutionSearchFilters where
  query : Option String := none
  workflowId : Option String := none
  status : Option String := none
  createdAfter : Option Instant.Stamp := none
  createdBefore : Option Instant.Stamp := none
  replayableOnly : Bool := false
  limit : Nat := 20

/-- The tenant of a `TenantContext`; the project is `context.project_id or ""`. -/
structure CatalogTenant where
  organizationId : String
  projectId : String

/-- `str.lower`, and cursors: `isoformat`, JSON and base64 of a time and an identifier, and the way back. -/
structure SearchPrimitives where
  lower : String → String
  Cursor : Type
  encode : Instant.Stamp → String → Cursor
  decode : Cursor → Option (Instant.Stamp × String)
  decode_encode : ∀ executedAt executionId, decode (encode executedAt executionId) = some (executedAt, executionId)

/-- A filter that counts as set: it is there and is not empty. -/
def given : Option String → Option String := Option.filter (· ≠ "")

/-- `_search_item`. -/
def searchItem (projection : ReplayExecutionProjection) : ReplayExecutionSearchItem where
  executionId := projection.executionId
  workflowId := projection.workflowId
  workflowName := projection.workflowName
  workflowVersion := projection.workflowVersion
  executionStatus := projection.executionStatus
  createdAt := projection.executedAt
  replayable := projection.replayable
  replayabilityReason := projection.replayabilitySummary

variable (primitives : SearchPrimitives)

/-- `_encode_cursor` of the last row of a page. -/
def encodeCursor (item : ReplayExecutionSearchItem) : primitives.Cursor :=
  primitives.encode item.createdAt item.executionId

/-- The page of the rows, one of which may be left for the next page. -/
def searchPage (limit : Nat) (rows : List ReplayExecutionProjection) :
    Keyset.Page ReplayExecutionSearchItem primitives.Cursor :=
  let hasMore := decide (limit < rows.length)
  let items := (rows.take limit).map searchItem
  { items, hasMore, next := if hasMore then items.getLast?.map (encodeCursor primitives) else none }

namespace InMemoryReplayExecutionCatalog

/-- `_matches`. -/
def «matches» (filters : ReplayExecutionSearchFilters) (projection : ReplayExecutionProjection) : Bool :=
  let query := primitives.lower (Text.strip (filters.query.getD ""))
  let searched := primitives.lower
    (projection.executionId ++ " " ++ projection.workflowId ++ " " ++ projection.workflowName)
  (query = "" || decide (query.toList <:+: searched.toList)) &&
    (given filters.workflowId).all (projection.workflowId = ·) &&
    (given filters.status).all (projection.executionStatus = ·) &&
    filters.createdAfter.all (fun after => after.instant ≤ projection.executedAt.instant) &&
    filters.createdBefore.all (fun before => projection.executedAt.instant < before.instant) &&
    (!filters.replayableOnly || projection.replayable)

/-- The matching projections of the tenant. -/
def matching (filters : ReplayExecutionSearchFilters) (tenant : CatalogTenant)
    (projections : List ReplayExecutionProjection) : List ReplayExecutionProjection :=
  projections.filter fun projection => projection.organizationId = tenant.organizationId &&
    projection.projectId = tenant.projectId && «matches» primitives filters projection

/-- `(item.executed_at, item.execution_id)`. -/
def sortKey (projection : ReplayExecutionProjection) : Nat ×ₗ String :=
  toLex (projection.executedAt.instant.micros, projection.executionId)

/-- `_is_after_cursor`. -/
def isAfterCursor (cursor : Instant.Stamp × String) (projection : ReplayExecutionProjection) : Bool :=
  projection.executedAt.instant < cursor.1.instant ||
    projection.executedAt.instant = cursor.1.instant && decide (projection.executionId < cursor.2)

/-- `search`. -/
def search (filters : ReplayExecutionSearchFilters) (tenant : CatalogTenant)
    (projections : List ReplayExecutionProjection) (cursor : Option primitives.Cursor) :
    Keyset.Page ReplayExecutionSearchItem primitives.Cursor :=
  let sorted := Ranking.descending sortKey (matching primitives filters tenant projections)
  let after := match cursor.bind primitives.decode with
    | some cursor => sorted.filter (isAfterCursor cursor)
    | none => sorted
  searchPage primitives filters.limit (after.take (filters.limit + 1))

end InMemoryReplayExecutionCatalog

namespace SQLiteReplayExecutionCatalog

/-- The clauses of the statement before that of the cursor. -/
def selects (filters : ReplayExecutionSearchFilters) (tenant : CatalogTenant)
    (row : ReplayExecutionProjection) : Bool :=
  row.organizationId = tenant.organizationId && row.projectId = tenant.projectId &&
    (given filters.query).all (fun query => [row.executionId, row.workflowId, row.workflowName].any
      (Like.like ("%" ++ Text.strip query ++ "%"))) &&
    (given filters.workflowId).all (row.workflowId = ·) &&
    (given filters.status).all (row.executionStatus = ·) &&
    filters.createdAfter.all (fun after => after.isoformat ≤ row.executedAt.isoformat) &&
    filters.createdBefore.all (fun before => row.executedAt.isoformat < before.isoformat) &&
    (!filters.replayableOnly || row.replayable)

/-- `ORDER BY executed_at DESC, execution_id DESC`. -/
def orderKey (row : ReplayExecutionProjection) : String ×ₗ String :=
  toLex (row.executedAt.isoformat, row.executionId)

/-- The clause of the cursor. -/
def selectsAfter (cursor : Instant.Stamp × String) (row : ReplayExecutionProjection) : Bool :=
  row.executedAt.isoformat < cursor.1.isoformat ||
    row.executedAt.isoformat = cursor.1.isoformat && decide (row.executionId < cursor.2)

/-- `search`. -/
def search (filters : ReplayExecutionSearchFilters) (tenant : CatalogTenant)
    (rows : List ReplayExecutionProjection) (cursor : Option primitives.Cursor) :
    Keyset.Page ReplayExecutionSearchItem primitives.Cursor :=
  let selected := rows.filter fun row => selects filters tenant row &&
    (cursor.bind primitives.decode).all (selectsAfter · row)
  searchPage primitives filters.limit ((Ranking.descending orderKey selected).take (filters.limit + 1))

end SQLiteReplayExecutionCatalog

/-- The contents of a catalog: no execution is in it twice. -/
structure ReplayExecutionCatalog where
  projections : List ReplayExecutionProjection
  distinct : (projections.map fun projection =>
    (projection.organizationId, projection.projectId, projection.executionId)).Nodup

/-- A catalog whose times are all given at one offset. -/
abbrev CatalogAt (offset : Instant.Offset) :=
  { catalog : ReplayExecutionCatalog // ∀ projection ∈ catalog.projections, projection.executedAt.offset = offset }

/-- The search items of some projections, in descending order of time and identifier. -/
def newestFirst (projections : List ReplayExecutionProjection) : List ReplayExecutionSearchItem :=
  (Ranking.descending InMemoryReplayExecutionCatalog.sortKey projections).map searchItem

section Searches

variable {primitives} {filters : ReplayExecutionSearchFilters} {tenant : CatalogTenant}

/-- The items of one tenant have distinct keys, as far as a key holds their identifier. -/
theorem ReplayExecutionCatalog.distinct_keys {K : Type} (catalog : ReplayExecutionCatalog) (tenant : CatalogTenant)
    (keep : ReplayExecutionProjection → Bool) (owned : ∀ projection, keep projection = true →
      projection.organizationId = tenant.organizationId ∧ projection.projectId = tenant.projectId)
    (key : ReplayExecutionSearchItem → K ×ₗ String) (named : ∀ item, (ofLex (key item)).2 = item.executionId) :
    (((catalog.projections.filter keep).map searchItem).map key).Nodup := by
  have apart := catalog.distinct.sublist ((List.filter_sublist (p := keep)).map _)
  rw [List.map_map]
  rw [List.Nodup, List.pairwise_map] at apart ⊢
  refine apart.imp_of_mem ?_
  intro left right leftKept rightKept different same
  obtain ⟨leftOrganization, leftProject⟩ := owned left (List.mem_filter.mp leftKept).2
  obtain ⟨rightOrganization, rightProject⟩ := owned right (List.mem_filter.mp rightKept).2
  have sameId : left.executionId = right.executionId := by
    have keys := congrArg (fun key => (ofLex key).2) same
    simp only [Function.comp_apply, named] at keys
    exact keys
  exact different (by rw [leftOrganization, rightOrganization, leftProject, rightProject, sameId])

theorem selects_owned (row : ReplayExecutionProjection)
    (selected : SQLiteReplayExecutionCatalog.selects filters tenant row = true) :
    row.organizationId = tenant.organizationId ∧ row.projectId = tenant.projectId := by
  simp only [SQLiteReplayExecutionCatalog.selects, Bool.and_eq_true, decide_eq_true_eq] at selected
  exact selected.1.1.1.1.1.1

/-- The key of an item by its time. -/
def timeKey (item : ReplayExecutionSearchItem) : Nat ×ₗ String := toLex (item.createdAt.instant.micros, item.executionId)

/-- The key of an item by the text of its time. -/
def isoKey (item : ReplayExecutionSearchItem) : String ×ₗ String := toLex (item.createdAt.isoformat, item.executionId)

/-- Cursors of the in-memory catalog. -/
def memoryCursors (primitives : SearchPrimitives) : Keyset.Cursors timeKey primitives.Cursor where
  encode := encodeCursor primitives
  decode cursor := (primitives.decode cursor).map fun read => toLex (read.1.instant.micros, read.2)
  decode_encode item := by rw [encodeCursor, primitives.decode_encode]; rfl

/-- Cursors of the SQLite catalog. -/
def sqliteCursors (primitives : SearchPrimitives) : Keyset.Cursors isoKey primitives.Cursor where
  encode := encodeCursor primitives
  decode cursor := (primitives.decode cursor).map fun read => toLex (read.1.isoformat, read.2)
  decode_encode item := by rw [encodeCursor, primitives.decode_encode]; rfl

/-- A page of the rows past a cursor is a page of their search items. -/
theorem searchPage_eq {K : Type} [LinearOrder K] {key : ReplayExecutionSearchItem → K}
    (cursors : Keyset.Cursors key primitives.Cursor) (encodes : cursors.encode = encodeCursor primitives) {limit : Nat}
    {rows selected : List ReplayExecutionProjection} {cursor : Option primitives.Cursor}
    (past : rows = (Ranking.descending (fun row => key (searchItem row)) selected).filter fun row =>
      (cursor.bind cursors.decode).all fun bound => key (searchItem row) < bound) :
    searchPage primitives limit (rows.take (limit + 1)) =
      Keyset.page cursors limit (selected.map searchItem) cursor := by
  have sorted : (Ranking.descending (fun row => key (searchItem row)) selected).map searchItem =
      Ranking.descending key (selected.map searchItem) := Ranking.map_descending fun _ _ => rfl
  have same : Keyset.below key (Ranking.descending key (selected.map searchItem)) (cursor.bind cursors.decode) =
      rows.map searchItem := by
    rw [past, ← sorted]
    cases cursor.bind cursors.decode with
    | none => simp [Keyset.below]
    | some bound =>
      dsimp only [Keyset.below]
      rw [List.filter_map]
      rfl
  unfold searchPage Keyset.page
  rw [same, encodes]
  simp only [← List.map_take, List.length_map, decide_eq_true_eq]

theorem memory_search_eq (projections : List ReplayExecutionProjection) (cursor : Option primitives.Cursor) :
    InMemoryReplayExecutionCatalog.search primitives filters tenant projections cursor =
      Keyset.page (memoryCursors primitives) filters.limit
        ((InMemoryReplayExecutionCatalog.matching primitives filters tenant projections).map searchItem) cursor := by
  refine searchPage_eq (memoryCursors primitives) rfl ?_
  have bounds : cursor.bind (memoryCursors primitives).decode =
      (cursor.bind primitives.decode).map fun read => toLex (read.1.instant.micros, read.2) := by
    cases cursor <;> rfl
  rw [bounds]
  cases cursor.bind primitives.decode with
  | none => exact (List.filter_eq_self.mpr fun _ _ => rfl).symm
  | some bound =>
    apply List.filter_congr
    intro row _
    rw [Option.map_some, Option.all_some, Bool.eq_iff_iff, decide_eq_true_eq, timeKey, Prod.Lex.toLex_lt_toLex]
    have equal : row.executedAt.instant = bound.1.instant ↔ row.executedAt.instant.micros = bound.1.instant.micros :=
      ⟨congrArg Instant.micros, congrArg Instant.mk⟩
    simp only [InMemoryReplayExecutionCatalog.isAfterCursor, Bool.or_eq_true, Bool.and_eq_true, decide_eq_true_eq, equal,
      Instant.lt_def, searchItem]

theorem sqlite_search_eq (catalog : ReplayExecutionCatalog) (cursor : Option primitives.Cursor) :
    SQLiteReplayExecutionCatalog.search primitives filters tenant catalog.projections cursor =
      Keyset.page (sqliteCursors primitives) filters.limit
        ((catalog.projections.filter (SQLiteReplayExecutionCatalog.selects filters tenant)).map searchItem) cursor := by
  refine searchPage_eq (sqliteCursors primitives) rfl ?_
  have bounds : cursor.bind (sqliteCursors primitives).decode =
      (cursor.bind primitives.decode).map fun read => toLex (read.1.isoformat, read.2) := by
    cases cursor <;> rfl
  have distinct := catalog.distinct_keys tenant (SQLiteReplayExecutionCatalog.selects filters tenant) selects_owned isoKey
    fun _ => rfl
  rw [List.map_map] at distinct
  rw [bounds]
  change _ = (Ranking.descending (isoKey ∘ searchItem) _).filter _
  rw [Ranking.filter_descending distinct, List.filter_filter]
  apply congrArg (Ranking.descending _)
  apply List.filter_congr
  intro row _
  rw [Bool.and_comm]
  congr 1
  cases cursor.bind primitives.decode with
  | none => rfl
  | some bound =>
    rw [Option.map_some, Option.all_some, Option.all_some, Bool.eq_iff_iff, decide_eq_true_eq, isoKey,
      Prod.Lex.toLex_lt_toLex]
    simp [SQLiteReplayExecutionCatalog.selectsAfter, searchItem]

theorem newestFirst_eq (projections : List ReplayExecutionProjection) :
    newestFirst projections = Ranking.descending timeKey (projections.map searchItem) :=
  Ranking.map_descending fun _ _ => rfl

/-- At one offset the texts of the times order the items as the times do. -/
theorem timeKey_lt_iff {left right : ReplayExecutionSearchItem}
    (same : left.createdAt.offset = right.createdAt.offset) :
    timeKey left < timeKey right ↔ isoKey left < isoKey right := by
  unfold timeKey isoKey Instant.Stamp.isoformat
  rw [Prod.Lex.toLex_lt_toLex, Prod.Lex.toLex_lt_toLex, same,
    Instant.Offset.isoformat_lt_iff (same ▸ left.createdAt.reads) right.createdAt.reads,
    Instant.Offset.isoformat_inj (same ▸ left.createdAt.reads) right.createdAt.reads]
  have equal : left.createdAt.instant = right.createdAt.instant ↔
      left.createdAt.instant.micros = right.createdAt.instant.micros :=
    ⟨congrArg Instant.micros, congrArg Instant.mk⟩
  rw [equal]
  rfl

end Searches

/-- Both catalogs are read faithfully page by page: in full and newest first if they stay as they are, and without
losing or repeating what stays if other executions come and go. -/
theorem replay_search_pages (primitives : SearchPrimitives) (filters : ReplayExecutionSearchFilters)
    (tenant : CatalogTenant) (offset : Instant.Offset) (positive : 1 ≤ filters.limit) :
    Keyset.Faithful
        (fun (catalog : ReplayExecutionCatalog) cursor =>
          InMemoryReplayExecutionCatalog.search primitives filters tenant catalog.projections cursor)
        (fun catalog => newestFirst
          (InMemoryReplayExecutionCatalog.matching primitives filters tenant catalog.projections)) ∧
      Keyset.Faithful
        (fun (catalog : CatalogAt offset) cursor =>
          SQLiteReplayExecutionCatalog.search primitives filters tenant catalog.1.projections cursor)
        (fun catalog => newestFirst
          (catalog.1.projections.filter (SQLiteReplayExecutionCatalog.selects filters tenant))) := by
  constructor
  · have faithful := Keyset.faithful (memoryCursors primitives) positive
      (fun catalog : ReplayExecutionCatalog => catalog.distinct_keys tenant _ (fun projection matched => by
        simp only [Bool.and_eq_true, decide_eq_true_eq] at matched
        exact matched.1) timeKey fun _ => rfl)
      fun catalog cursor => memory_search_eq catalog.projections cursor
    simpa only [newestFirst_eq, InMemoryReplayExecutionCatalog.matching] using faithful
  · have distinct (catalog : CatalogAt offset) := catalog.1.distinct_keys tenant
      (SQLiteReplayExecutionCatalog.selects filters tenant) selects_owned isoKey fun _ => rfl
    have faithful := Keyset.faithful (sqliteCursors primitives) positive distinct
      fun catalog cursor => sqlite_search_eq catalog.1 cursor
    have listed (catalog : CatalogAt offset) :
        newestFirst (catalog.1.projections.filter (SQLiteReplayExecutionCatalog.selects filters tenant)) =
          Ranking.descending isoKey
            ((catalog.1.projections.filter (SQLiteReplayExecutionCatalog.selects filters tenant)).map searchItem) := by
      rw [newestFirst_eq, Ranking.descending_eq_iff
        (catalog.1.distinct_keys tenant _ selects_owned timeKey fun _ => rfl) (distinct catalog)]
      have dated : ∀ item ∈ (catalog.1.projections.filter
          (SQLiteReplayExecutionCatalog.selects filters tenant)).map searchItem, item.createdAt.offset = offset := by
        intro item member
        obtain ⟨row, selected, rfl⟩ := List.mem_map.mp member
        exact catalog.2 row (List.mem_of_mem_filter selected)
      exact fun left leftMember right rightMember =>
        timeKey_lt_iff ((dated left leftMember).trans (dated right rightMember).symm)
    simpa only [listed] using faithful

/-- Searches over lower-case texts, with the pair itself for a cursor. -/
def pairCursors : SearchPrimitives where
  lower := id
  Cursor := Instant.Stamp × String
  encode := Prod.mk
  decode := some
  decode_encode _ _ := rfl

/-- An execution at the beginning of time. -/
def tiedExecution (executionId : String) : ReplayExecutionProjection where
  executionId := executionId
  organizationId := "org"
  projectId := "project"
  workflowId := "workflow"
  workflowName := "workflow"
  workflowVersion := "1"
  executionStatus := "SUCCEEDED"
  executedAt := .utc ⟨0⟩ (by decide)
  replayable := true
  replayabilitySummary := none

/-- Two executions of one time. -/
def tiedCatalog : ReplayExecutionCatalog := ⟨[tiedExecution "a", tiedExecution "b"], by decide⟩

/-- Two executions of one time are read one by one. -/
theorem replay_search_pages_tied : ∃ pages, Keyset.Chain (fun (catalog : ReplayExecutionCatalog) cursor =>
      InMemoryReplayExecutionCatalog.search pairCursors { limit := 1 } ⟨"org", "project"⟩ catalog.projections cursor)
      none (List.replicate pages.length tiedCatalog) pages ∧
    (Keyset.shown pages).map (·.executionId) = ["b", "a"] := by
  obtain ⟨faithful, -⟩ := replay_search_pages pairCursors { limit := 1 } ⟨"org", "project"⟩ .utc (Nat.le_refl 1)
  obtain ⟨pages, chain⟩ := faithful.ends tiedCatalog
  refine ⟨pages, chain, ?_⟩
  rw [faithful.whole _ _ _ chain]
  rfl

end AiGovernance.Replays
