import AiGovernance.Repositories.SqliteReplayResults
import AiGovernance.Std.Paging
import AiGovernance.Std.Steps

/-!
# Reading all replay results page by page

The results are sorted by time and identifier, and the cursor bounds the
identifier alone. The pages hold every result once exactly when at the end of
every page the results that follow are the ones with a smaller identifier. In
SQLite times are moreover compared as texts, which must order the results as
the times do.
-/

namespace AiGovernance.Replays

open AiGovernance.Std Domain ReplayResultPersistenceMapper Ranking

variable {store : ReplayResultStore} {filters : ReplayResultListFilters} {organizationId projectId : String}

/-- The page of a list of results; its last identifier is the next cursor. -/
def resultPage (results : List ReplayResult) : Paging.Page ReplayResult String :=
  ⟨results, results.getLast?.map (·.record.resultId)⟩

/-- The pages of the in-memory repository. -/
def memoryPages (store : ReplayResultStore) (filters : ReplayResultListFilters) (organizationId projectId : String)
    (cursor : Option String) : Option (Paging.Page ReplayResult String) :=
  some (resultPage (store.list filters cursor organizationId projectId))

/-- The pages of the SQLite repository; a row that cannot be read has none. -/
def sqlitePages (table : ReplayResultTable) (filters : ReplayResultListFilters) (organizationId projectId : String)
    (cursor : Option String) : Option (Paging.Page ReplayResult String) :=
  (table.list filters cursor organizationId projectId).toOption.map resultPage

/-! ## The results a table lists -/

/-- The results whose rows pass the filters. -/
def selected (store : ReplayResultStore) (filters : ReplayResultListFilters) (organizationId projectId : String) :
    List ReplayResult :=
  store.results.filter fun result =>
    ReplayResultTable.selects filters organizationId projectId (toPersistenceRecord result)

/-- The key of a result in the table. -/
def textKey (result : ReplayResult) : String ×ₗ String :=
  toLex (result.record.createdAt.isoformat, result.record.resultId)

theorem distinct_sortKey (keep : ReplayResult → Bool) :
    ((store.results.filter keep).map ReplayResultStore.sortKey).Nodup := by
  apply List.Nodup.of_map fun key : Nat ×ₗ String => (ofLex key).2
  rw [List.map_map]
  exact store.distinct.sublist (List.filter_sublist.map _)

theorem distinct_textKey (keep : ReplayResult → Bool) : ((store.results.filter keep).map textKey).Nodup := by
  apply List.Nodup.of_map fun key : String ×ₗ String => (ofLex key).2
  rw [List.map_map]
  exact store.distinct.sublist (List.filter_sublist.map _)

theorem mapM_fromPersistenceRecord (results : List ReplayResult) :
    (results.map toPersistenceRecord).mapM fromPersistenceRecord = .ok results :=
  mapM_readBack fun result _ => fromPersistenceRecord_toPersistenceRecord result

/-- The table of some results lists those of them that follow the cursor, in the order of its texts. -/
theorem sqlite_list (cursor : Option String) :
    ReplayResultTable.list (store.results.map toPersistenceRecord) filters cursor organizationId projectId =
      .ok ((Paging.remaining below (descending textKey (selected store filters organizationId projectId))
        cursor).take filters.limit) := by
  have kept : (store.results.map toPersistenceRecord).filter (fun row =>
        ReplayResultTable.selects filters organizationId projectId row && ReplayResultTable.selectsBelow cursor row) =
      ((selected store filters organizationId projectId).filter fun result =>
        ReplayResultTable.selectsBelow cursor (toPersistenceRecord result)).map toPersistenceRecord := by
    unfold selected
    rw [List.filter_map, List.filter_filter]
    congr 1
    apply List.filter_congr
    intro result _
    exact Bool.and_comm _ _
  have sorted : descending ReplayResultTable.orderKey
      (((selected store filters organizationId projectId).filter fun result =>
        ReplayResultTable.selectsBelow cursor (toPersistenceRecord result)).map toPersistenceRecord) =
      ((descending textKey (selected store filters organizationId projectId)).filter fun result =>
        ReplayResultTable.selectsBelow cursor (toPersistenceRecord result)).map toPersistenceRecord := by
    have distinct : ((selected store filters organizationId projectId).map textKey).Nodup := distinct_textKey _
    rw [filter_descending distinct]
    exact (map_descending fun _ _ => rfl).symm
  have following : (descending textKey (selected store filters organizationId projectId)).filter (fun result =>
        ReplayResultTable.selectsBelow cursor (toPersistenceRecord result)) =
      Paging.remaining below (descending textKey (selected store filters organizationId projectId)) cursor := by
    cases cursor with
    | none => exact List.filter_eq_self.mpr fun _ _ => rfl
    | some cursor => rfl
  unfold ReplayResultTable.list
  rw [kept, sorted, following, ← List.map_take, mapM_fromPersistenceRecord]

/-! ## Pages -/

/-- At the end of every page the results that follow are those with a smaller identifier. -/
abbrev PagesAlign (limit : Nat) (results : List ReplayResult) : Prop :=
  Paging.Aligned limit below (·.record.resultId) results

theorem below_resultId (result other : ReplayResult) :
    below result.record.resultId other = true ↔ other.record.resultId < result.record.resultId := by
  unfold below
  rw [Bool.or_eq_true, decide_eq_true_eq, decide_eq_true_eq]
  exact or_iff_right (ReplayResult.resultId_ne_empty result)

theorem below_further (result : ReplayResult) (cursor : String) (bounded : below cursor result = true)
    (other : ReplayResult) (past : below result.record.resultId other = true) : below cursor other = true := by
  rw [below_resultId] at past
  unfold below at bounded ⊢
  rw [Bool.or_eq_true, decide_eq_true_eq, decide_eq_true_eq] at bounded ⊢
  exact bounded.imp_right past.trans

theorem below_strict (result : ReplayResult) : below result.record.resultId result = false := by
  rw [← Bool.not_eq_true, below_resultId]
  exact lt_irrefl _

/-- Pages that seek past the last identifier list some results in full, in this order, exactly when they are listed in
this order and the pages align. -/
theorem seek_yields_iff {results listed : List ReplayResult} (positive : 1 ≤ filters.limit) (perm : listed.Perm results)
    (distinct : results.Nodup) :
    Paging.Yields (Paging.seek filters.limit below (·.record.resultId) results) none listed ↔
      results = listed ∧ PagesAlign filters.limit results :=
  Paging.yields_perm_iff positive below_further below_strict perm distinct

theorem memoryPages_eq_seek : memoryPages store filters organizationId projectId =
    Paging.seek filters.limit below (·.record.resultId) (store.matching filters organizationId projectId) := by
  funext cursor
  cases cursor <;> rfl

theorem sqlitePages_eq_seek : sqlitePages (store.results.map toPersistenceRecord) filters organizationId projectId =
    Paging.seek filters.limit below (·.record.resultId)
      (descending textKey (selected store filters organizationId projectId)) := by
  funext cursor
  unfold sqlitePages
  rw [sqlite_list]
  rfl

theorem nodup_matching : (store.matching filters organizationId projectId).Nodup :=
  perm_descending.nodup_iff.mpr (List.Nodup.of_map _ (distinct_sortKey _))

/-- Reading page by page gives every matching result once, newest first, in both repositories, exactly when the pages
align and the texts of the matching times order the results as the times do. -/
theorem result_pages_iff (store : ReplayResultStore) (filters : ReplayResultListFilters)
    (organizationId projectId : String) (positive : 1 ≤ filters.limit) :
    (Paging.Yields (memoryPages store filters organizationId projectId) none
        (store.matching filters organizationId projectId) ∧
      Paging.Yields (sqlitePages (store.results.map toPersistenceRecord) filters organizationId projectId) none
        (descending ReplayResultStore.sortKey (selected store filters organizationId projectId))) ↔
      PagesAlign filters.limit (store.matching filters organizationId projectId) ∧
        PagesAlign filters.limit
          (descending ReplayResultStore.sortKey (selected store filters organizationId projectId)) ∧
        ∀ left ∈ selected store filters organizationId projectId,
          ∀ right ∈ selected store filters organizationId projectId,
            textKey left < textKey right ↔ ReplayResultStore.sortKey left < ReplayResultStore.sortKey right := by
  have distinctSqlite : (descending textKey (selected store filters organizationId projectId)).Nodup :=
    perm_descending.nodup_iff.mpr (List.Nodup.of_map _ (distinct_textKey _))
  have sameResults : (descending ReplayResultStore.sortKey (selected store filters organizationId projectId)).Perm
      (descending textKey (selected store filters organizationId projectId)) :=
    perm_descending.trans perm_descending.symm
  have texts : ((selected store filters organizationId projectId).map textKey).Nodup := distinct_textKey _
  have times : ((selected store filters organizationId projectId).map ReplayResultStore.sortKey).Nodup :=
    distinct_sortKey _
  rw [memoryPages_eq_seek, sqlitePages_eq_seek, seek_yields_iff positive (.refl _) nodup_matching,
    seek_yields_iff positive sameResults distinctSqlite, ← descending_eq_iff texts times]
  constructor
  · rintro ⟨⟨-, aligned⟩, same, alignedText⟩
    exact ⟨aligned, same ▸ alignedText, same⟩
  · rintro ⟨aligned, alignedTime, same⟩
    exact ⟨⟨rfl, aligned⟩, same, same ▸ alignedTime⟩

/-! ## Two results, page by page -/

private def result (resultId : String) (createdAt : Nat) (reads : Instant.Offset.utc.Reads ⟨createdAt⟩) :
    ReplayResultRecord where
  resultId := resultId
  replayId := resultId
  sourceExecutionId := "source"
  replayExecutionId := "execution"
  baselineEvaluationId := "baseline"
  replayEvaluationId := "evaluation"
  comparisonId := "comparison"
  driftId := "drift"
  baselineStrategy := "LATEST"
  comparisonSummary := ⟨0, 0, 0, 0, 0, 0, none⟩
  driftSummary := ⟨"NONE", [], [], [], "1", []⟩
  organizationId := "org"
  projectId := "project"
  createdAt := .utc ⟨createdAt⟩ reads

private def older : ReplayResult := ⟨result "a" 1 (by decide), by decide +kernel⟩

private def newer : ReplayResult := ⟨result "b" 2 (by decide), by decide +kernel⟩

private def newerFirst : ReplayResult := ⟨result "a" 2 (by decide), by decide +kernel⟩

private def olderLast : ReplayResult := ⟨result "b" 1 (by decide), by decide +kernel⟩

private def inOrder : ReplayResultStore := ⟨[older, newer], by decide⟩

private def againstOrder : ReplayResultStore := ⟨[newerFirst, olderLast], by decide⟩

theorem inOrder_aligned : PagesAlign 1 [newer, older] := by
  intro start _ last member
  match start with
  | 0 =>
    cases member
    rfl
  | 1 =>
    cases member
    rfl
  | start + 2 => simp at member

/-- Two results whose identifiers grow with time are read one by one. -/
theorem result_pages_inOrder :
    Paging.Yields (memoryPages inOrder { limit := 1 } "org" "project") none
        (inOrder.matching { limit := 1 } "org" "project") ∧
      Paging.Yields (sqlitePages (inOrder.results.map toPersistenceRecord) { limit := 1 } "org" "project") none
        (descending ReplayResultStore.sortKey (selected inOrder { limit := 1 } "org" "project")) := by
  have filters : 1 ≤ ({ limit := 1 } : ReplayResultListFilters).limit := Nat.le_refl 1
  have memory : inOrder.matching { limit := 1 } "org" "project" = [newer, older] := rfl
  have table : descending ReplayResultStore.sortKey (selected inOrder { limit := 1 } "org" "project") =
      [newer, older] := rfl
  refine (result_pages_iff inOrder { limit := 1 } "org" "project" filters).mpr ?_
  rw [memory, table]
  exact ⟨inOrder_aligned, inOrder_aligned, by decide +kernel⟩

/-- An older result with a greater identifier is never listed. -/
theorem result_pages_lost : ¬ (∀ (store : ReplayResultStore) (filters : ReplayResultListFilters)
    (organizationId projectId : String), 1 ≤ filters.limit →
      Paging.Yields (memoryPages store filters organizationId projectId) none
          (store.matching filters organizationId projectId) ∧
        Paging.Yields (sqlitePages (store.results.map toPersistenceRecord) filters organizationId projectId) none
          (descending ReplayResultStore.sortKey (selected store filters organizationId projectId))) := by
  intro every
  have pages := (every againstOrder { limit := 1 } "org" "project" (Nat.le_refl 1)).1
  rw [memoryPages_eq_seek, seek_yields_iff (Nat.le_refl 1) (.refl _) nodup_matching] at pages
  have matching : againstOrder.matching { limit := 1 } "org" "project" = [newerFirst, olderLast] := rfl
  have first := pages.2 0 (Nat.dvd_zero 1) newerFirst rfl
  rw [matching] at first
  cases first

end AiGovernance.Replays
