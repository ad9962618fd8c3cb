import AiGovernance.Repositories.SqliteEvaluations
import AiGovernance.Std.Steps
import Mathlib.Data.List.Dedup

/-!
# SQLite evaluations answer as the in-memory ones

The table always holds the rows of the saved results, and what is read from it
are those results with their metrics in the order of their names. A result
without metrics has no row; a prefix is matched as a pattern, in either case of
its letters; and the results of an execution come in the order of their
identifiers. Where this makes no difference to the lookups of a run, the two
repositories answer alike.
-/

namespace AiGovernance.Evaluations

open AiGovernance.Std Domain Semantics EvaluationPersistenceMapper Ranking List EvaluationTable

variable {results : List EvaluationResult}

/-! ## The property -/

/-- Equal answers, up to the order of the metrics of a result. -/
inductive SameAnswer : Except Raised EvaluationAnswer → Except Raised EvaluationAnswer → Prop where
  | saved : SameAnswer (.ok .saved) (.ok .saved)
  | result {left right : Option EvaluationResult} (same : Option.Rel Shuffled left right) :
      SameAnswer (.ok (.result left)) (.ok (.result right))
  | results {left right : List EvaluationResult} (same : List.Forall₂ Shuffled left right) :
      SameAnswer (.ok (.results left)) (.ok (.results right))
  | page {left right : EvaluationResultPage} (same : List.Forall₂ Shuffled left.items right.items)
      (total : left.totalCount = right.totalCount) : SameAnswer (.ok (.page left)) (.ok (.page right))

/-- A save gives a new evaluation, metrics of different names, and a time that the offset can write. -/
def EvaluationCall.Admissible (offset : Instant.Offset) (store : EvaluationStore) : EvaluationCall → Prop
  | .save result => (∀ old ∈ store, old.evaluationId ≠ result.evaluationId) ∧
      (result.metrics.map (·.metricName)).Nodup ∧ offset.Reads result.createdAt
  | .findByEvaluationId _ | .findByExecutionId _ | .findPageByExecutionIdPrefix _ _ _ => True

/-- What a lookup asks for is told the same by rows: every result it is about has metrics, the results of an execution
were saved in the order of their identifiers, the prefix of a page is matched by `LIKE` exactly where it is one, and
the bounds of a page cut the same. -/
def EvaluationCall.Faithful (store : EvaluationStore) : EvaluationCall → Prop
  | .save _ => True
  | .findByEvaluationId evaluationId => ∀ result ∈ store, result.evaluationId = evaluationId → result.metrics ≠ []
  | .findByExecutionId executionId =>
    (∀ result ∈ store, result.executionId = executionId → result.metrics ≠ []) ∧
      (store.findByExecutionId executionId).Pairwise fun left right => left.evaluationId < right.evaluationId
  | .findPageByExecutionIdPrefix scope offset limit =>
    (∀ result ∈ store, scope.owns result.organizationId result.projectId = true →
      (Text.startsWith scope.executionIdPrefix result.executionId = true ↔
        Like.like (scope.executionIdPrefix ++ "%") result.executionId = true ∧ result.metrics ≠ [])) ∧
      Window.Agree offset limit (store.inScope scope).length

/-! ## Rows and results -/

/-- A result as it is read: its metrics in the order of their names. -/
def sortedMetrics (result : EvaluationResult) : EvaluationResult :=
  result.withMetrics (Ranking.ascending (·.metricName) result.metrics)

theorem shuffled_sortedMetrics (result : EvaluationResult) : Shuffled (sortedMetrics result) result :=
  ⟨result.metrics, perm_ascending, rfl⟩

/-- The metrics of a result have different names. -/
def Named (result : EvaluationResult) : Prop := (result.metrics.map (·.metricName)).Nodup

theorem toPersistenceRecords_sorted (result : EvaluationResult) :
    toPersistenceRecords (sortedMetrics result) =
      (ascending (·.metricName) result.metrics).map (rowOf result) := rfl

theorem readArtifact_document (artifact : EvaluationArtifact) : readArtifact (artifactDocument artifact) = .ok artifact := by
  obtain ⟨artifactType, uri, payload, metadata⟩ := artifact
  cases uri <;> cases payload <;> rfl

/-- The rows of a result as a group. -/
def block (result : EvaluationResult) : Option (Grouping.Group EvaluationRow) :=
  match result.metrics with
  | [] => none
  | metric :: rest => some (rowOf result metric, rest.map (rowOf result))

variable {result : EvaluationResult}

/-- A group of rows gives back its result. -/
theorem readResult_block {group : Grouping.Group EvaluationRow} (given : block result = some group) :
    readResult group = .ok result := by
  unfold block at given
  cases metrics : result.metrics with
  | nil =>
    rw [metrics] at given
    cases given
  | cons metric rest =>
    rw [metrics] at given
    cases given
    have read : (Grouping.items (rowOf result metric, rest.map (rowOf result))).map metricOf = result.metrics := by
      unfold Grouping.items
      rw [map_cons, map_map, metrics]
      exact congrArg _ (map_id rest)
    have artifacts : (result.artifacts.map artifactDocument).mapM readArtifact = .ok result.artifacts :=
      mapM_readBack fun artifact _ => readArtifact_document artifact
    unfold readResult
    change (result.artifacts.map artifactDocument).mapM readArtifact >>= _ = _
    rw [artifacts]
    refine congrArg Except.ok (EvaluationResult.ext rfl rfl rfl rfl read ?_ rfl ?_ rfl rfl rfl rfl)
    · exact congrArg Prod.fst result.shared
    · exact congrArg Prod.snd result.shared

theorem items_block {group : Grouping.Group EvaluationRow} (given : block result = some group) :
    Grouping.items group = toPersistenceRecords result ∧ group.1.evaluationId = result.evaluationId ∧
      ∀ row ∈ group.2, row.evaluationId = result.evaluationId := by
  unfold block at given
  unfold toPersistenceRecords
  cases metrics : result.metrics with
  | nil =>
    rw [metrics] at given
    cases given
  | cons metric rest =>
    rw [metrics] at given
    cases given
    refine ⟨rfl, rfl, ?_⟩
    intro row member
    obtain ⟨other, -, rfl⟩ := mem_map.mp member
    rfl

theorem block_eq_none : block result = none ↔ result.metrics = [] := by
  unfold block
  cases result.metrics <;> simp

/-- The rows of some results, each with its own identifier, give back those of them that have metrics. -/
theorem fromPersistenceRecords_flatMap (distinct : (results.map (·.evaluationId)).Nodup) :
    fromPersistenceRecords (results.flatMap toPersistenceRecords) = .ok (results.filter (·.metrics ≠ [])) := by
  have rows : results.flatMap toPersistenceRecords = (results.filterMap block).flatMap Grouping.items := by
    clear distinct
    induction results with
    | nil => rfl
    | cons result rest ih =>
      cases given : block result with
      | none =>
        have empty := block_eq_none.mp given
        rw [flatMap_cons, filterMap_cons_none given, ← ih]
        unfold toPersistenceRecords
        rw [empty]
        rfl
      | some group =>
        rw [flatMap_cons, filterMap_cons_some given, flatMap_cons, (items_block given).1,
          ih]
  have alike : ∀ group ∈ results.filterMap block, ∀ row ∈ group.2, row.evaluationId = group.1.evaluationId := by
    intro group member row among
    obtain ⟨result, -, given⟩ := mem_filterMap.mp member
    obtain ⟨-, first, others⟩ := items_block given
    rw [first, others row among]
  have apart : ((results.filterMap block).map fun group => group.1.evaluationId).Nodup := by
    have sublist : ((results.filterMap block).map fun group => group.1.evaluationId).Sublist
        (results.map (·.evaluationId)) := by
      clear distinct rows alike
      induction results with
      | nil => exact .slnil
      | cons result rest ih =>
        cases given : block result with
        | none =>
          rw [filterMap_cons_none given]
          exact ih.cons _
        | some group =>
          rw [filterMap_cons_some given, map_cons, map_cons, (items_block given).2.1]
          exact ih.cons_cons _
    exact distinct.sublist sublist
  unfold fromPersistenceRecords
  rw [rows, Grouping.grouped_blocks alike apart]
  clear rows alike apart distinct
  induction results with
  | nil => rfl
  | cons result rest ih =>
    cases given : block result with
    | none =>
      have empty := block_eq_none.mp given
      rw [filterMap_cons_none given, ih, filter_cons_of_neg (by simp [empty])]
    | some group =>
      have present : result.metrics ≠ [] := by
        intro empty
        rw [block_eq_none.mpr empty] at given
        cases given
      rw [filterMap_cons_some given, mapM_cons, readResult_block given, ih,
        filter_cons_of_pos (by simp [present])]
      rfl

/-! ## Selections -/

section Selections

variable {K : Type} [LinearOrder K] {key : EvaluationResult → K} {rowKey : EvaluationRow → K}

/-- The selected rows of some results are the rows of the selected results. -/
theorem filter_flatMap_rows {keepRow : EvaluationRow → Bool} {keep : EvaluationResult → Bool}
    (same : ∀ result ∈ results, ∀ metric ∈ result.metrics, keepRow (rowOf result metric) = keep result) :
    (results.flatMap toPersistenceRecords).filter keepRow = (results.filter keep).flatMap toPersistenceRecords := by
  induction results with
  | nil => rfl
  | cons result rest ih =>
    have self := same result mem_cons_self
    have others := ih fun other member => same other (mem_cons_of_mem _ member)
    rw [flatMap_cons, filter_append, others]
    by_cases kept : keep result = true
    · have all : (toPersistenceRecords result).filter keepRow = toPersistenceRecords result := by
        apply filter_eq_self.mpr
        intro row member
        obtain ⟨metric, measured, rfl⟩ := mem_map.mp member
        rw [self metric measured, kept]
      rw [all, filter_cons_of_pos kept, flatMap_cons]
    · have none : (toPersistenceRecords result).filter keepRow = [] := by
        apply filter_eq_nil_iff.mpr
        intro row member
        obtain ⟨metric, measured, rfl⟩ := mem_map.mp member
        rw [self metric measured]
        exact kept
      rw [none, filter_cons_of_neg kept, nil_append]

/-- Rows sorted by a key of their result and their metric are the rows of the sorted results. -/
theorem ascending_rows (named : ∀ result ∈ results, Named result) (distinct : (results.map key).Nodup)
    (same : ∀ result ∈ results, ∀ metric, rowKey (rowOf result metric) = key result) :
    ascending (fun row => (toLex (rowKey row, row.metricName) : K ×ₗ String))
        (results.flatMap toPersistenceRecords) =
      ((ascending key results).map sortedMetrics).flatMap toPersistenceRecords := by
  symm
  have member : ∀ {result}, result ∈ ascending key results → result ∈ results :=
    fun among => mem_ascending.mp among
  apply eq_ascending
  · rw [flatMap_map]
    refine (List.Perm.flatMap_left _ fun result among => ?_).trans (perm_ascending.flatMap_right _)
    rw [toPersistenceRecords_sorted]
    exact perm_ascending.map _
  · rw [flatMap_map, pairwise_flatMap]
    constructor
    · intro result among
      rw [toPersistenceRecords_sorted, pairwise_map]
      apply (strict_ascending (named result (member among))).imp
      intro left right less
      rw [Prod.Lex.toLex_lt_toLex, same result (member among), same result (member among)]
      exact Or.inr ⟨rfl, less⟩
    · apply (strict_ascending distinct).imp_of_mem
      intro left right amongLeft amongRight less leftRow leftMember rightRow rightMember
      rw [toPersistenceRecords_sorted] at leftMember rightMember
      obtain ⟨leftMetric, -, rfl⟩ := mem_map.mp leftMember
      obtain ⟨rightMetric, -, rfl⟩ := mem_map.mp rightMember
      rw [Prod.Lex.toLex_lt_toLex, same left (member amongLeft), same right (member amongRight)]
      exact Or.inl less

end Selections

theorem shuffled_map : List.Forall₂ Shuffled (results.map sortedMetrics) results := by
  rw [forall₂_map_left_iff]
  exact forall₂_same.mpr fun result _ => shuffled_sortedMetrics result

/-- The rows of sorted results that have metrics are read as these results. -/
theorem fromPersistenceRecords_sorted (distinct : (results.map (·.evaluationId)).Nodup)
    (measured : ∀ result ∈ results, result.metrics ≠ []) :
    fromPersistenceRecords ((results.map sortedMetrics).flatMap toPersistenceRecords) =
      .ok (results.map sortedMetrics) := by
  have ids : ((results.map sortedMetrics).map (·.evaluationId)).Nodup := by
    rw [map_map]
    exact distinct
  rw [fromPersistenceRecords_flatMap ids, filter_eq_self.mpr]
  intro read member
  obtain ⟨result, among, rfl⟩ := mem_map.mp member
  apply decide_eq_true
  intro empty
  have nothing : (sortedMetrics result).metrics.Perm result.metrics := perm_ascending
  rw [empty] at nothing
  exact measured result among (nil_perm.mp nothing)

/-! ## The refinement -/

/-- The table holds the rows of the saved results. -/
structure Mirrors (offset : Instant.Offset) (store : EvaluationStore) (table : EvaluationTable) : Prop where
  written : table.offset = offset
  rows : table.rows = store.flatMap toPersistenceRecords
  distinct : (store.map (·.evaluationId)).Nodup
  named : ∀ result ∈ store, Named result
  dated : ∀ result ∈ store, offset.Reads result.createdAt

namespace Mirrors

variable {offset : Instant.Offset} {store : EvaluationStore} {table : EvaluationTable}

theorem empty (offset : Instant.Offset) : Mirrors offset [] (.empty offset) where
  written := rfl
  rows := rfl
  distinct := nodup_nil
  named := nofun
  dated := nofun

/-- Rows of new keys are appended. -/
theorem foldl_insertOrReplace {rows new : List EvaluationRow}
    (unused : ∀ row ∈ new, ∀ old ∈ rows, ¬ (old.evaluationId = row.evaluationId ∧ old.metricName = row.metricName))
    (apart : new.Pairwise fun left right => left.metricName ≠ right.metricName) :
    new.foldl insertOrReplace rows = rows ++ new := by
  induction new generalizing rows with
  | nil => exact (append_nil rows).symm
  | cons row rest ih =>
    rw [pairwise_cons] at apart
    have inserted : insertOrReplace rows row = rows ++ [row] := by
      unfold insertOrReplace
      rw [filter_eq_self.mpr]
      intro old member
      have other := unused row mem_cons_self old member
      rw [not_and_or] at other
      simpa using other
    rw [foldl_cons, inserted, ih, append_assoc, singleton_append]
    · intro next member old among
      rcases mem_append.mp among with earlier | last
      · exact unused next (mem_cons_of_mem _ member) old earlier
      · rw [mem_singleton.mp last]
        exact fun both => apart.1 next member both.2
    · exact apart.2

theorem save (mirrors : Mirrors offset store table) {result : EvaluationResult}
    (admissible : (EvaluationCall.save result).Admissible offset store) :
    Mirrors offset (store ++ [result]) (table.save result) := by
  obtain ⟨new, named, dated⟩ := admissible
  refine ⟨mirrors.written, ?_, ?_, ?_, ?_⟩
  · unfold EvaluationTable.save
    rw [foldl_insertOrReplace, mirrors.rows, flatMap_append, flatMap_singleton]
    · intro row member old among
      rw [mirrors.rows] at among
      obtain ⟨metric, -, rfl⟩ := mem_map.mp member
      obtain ⟨other, saved, inside⟩ := mem_flatMap.mp among
      obtain ⟨otherMetric, -, rfl⟩ := mem_map.mp inside
      exact fun both => new other saved both.1
    · unfold toPersistenceRecords
      rw [pairwise_map]
      exact pairwise_map.mp named
  · rw [map_append, nodup_append]
    refine ⟨mirrors.distinct, nodup_singleton _, ?_⟩
    intro id member last single
    obtain ⟨old, saved, rfl⟩ := mem_map.mp member
    rw [mem_singleton.mp single]
    exact new old saved
  · intro other member
    rcases mem_append.mp member with saved | last
    · exact mirrors.named other saved
    · rw [mem_singleton.mp last]
      exact named
  · intro other member
    rcases mem_append.mp member with saved | last
    · exact mirrors.dated other saved
    · rw [mem_singleton.mp last]
      exact dated

theorem distinct_filter (mirrors : Mirrors offset store table) (keep : EvaluationResult → Bool) :
    ((store.filter keep).map (·.evaluationId)).Nodup :=
  mirrors.distinct.sublist (List.filter_sublist.map _)

theorem findByEvaluationId (mirrors : Mirrors offset store table) {evaluationId : String}
    (faithful : (EvaluationCall.findByEvaluationId evaluationId).Faithful store) :
    ∃ found, table.findByEvaluationId evaluationId = .ok found ∧
      Option.Rel Shuffled found (store.findByEvaluationId evaluationId) := by
  have selected : table.rows.filter (·.evaluationId = evaluationId) =
      (store.filter (·.evaluationId = evaluationId)).flatMap toPersistenceRecords := by
    rw [mirrors.rows]
    exact filter_flatMap_rows fun _ _ _ _ => rfl
  have distinct := mirrors.distinct_filter (·.evaluationId = evaluationId)
  unfold EvaluationTable.findByEvaluationId selectByEvaluation EvaluationStore.findByEvaluationId
  rw [selected, ← head?_filter]
  -- At most one result has the identifier.
  cases matching : store.filter (·.evaluationId = evaluationId) with
  | nil => exact ⟨none, rfl, .none⟩
  | cons result rest =>
    have member : result ∈ store.filter (·.evaluationId = evaluationId) := by
      rw [matching]
      exact mem_cons_self
    rw [mem_filter, decide_eq_true_eq] at member
    have single : rest = [] := by
      cases rest with
      | nil => rfl
      | cons second others =>
        have other : second ∈ store.filter (·.evaluationId = evaluationId) := by
          rw [matching]
          exact mem_cons_of_mem _ mem_cons_self
        rw [mem_filter, decide_eq_true_eq] at other
        rw [matching, map_cons, map_cons, nodup_cons, member.2, other.2] at distinct
        exact absurd mem_cons_self distinct.1
    subst single
    have sorted : ascending (·.metricName) ([result].flatMap toPersistenceRecords) =
        ([result].map sortedMetrics).flatMap toPersistenceRecords := by
      rw [flatMap_singleton, map_singleton, flatMap_singleton, toPersistenceRecords_sorted]
      exact (map_ascending fun _ _ => rfl).symm
    have measured : ∀ other ∈ [result], other.metrics ≠ [] := by
      intro other among
      rw [mem_singleton.mp among]
      exact faithful result member.1 member.2
    have alone : ([result].map (·.evaluationId)).Nodup := nodup_singleton _
    rw [sorted, fromPersistenceRecords_sorted alone measured]
    exact ⟨some (sortedMetrics result), rfl, .some (shuffled_sortedMetrics result)⟩

theorem findByExecutionId (mirrors : Mirrors offset store table) {executionId : String}
    (faithful : (EvaluationCall.findByExecutionId executionId).Faithful store) :
    ∃ found, table.findByExecutionId executionId = .ok found ∧
      List.Forall₂ Shuffled found (store.findByExecutionId executionId) := by
  obtain ⟨measured, inOrder⟩ := faithful
  have selected : table.rows.filter (·.executionId = executionId) =
      (store.findByExecutionId executionId).flatMap toPersistenceRecords := by
    rw [mirrors.rows]
    exact filter_flatMap_rows fun _ _ _ _ => rfl
  have distinct : ((store.findByExecutionId executionId).map (·.evaluationId)).Nodup :=
    mirrors.distinct_filter (·.executionId = executionId)
  have among : ∀ result ∈ store.findByExecutionId executionId, result ∈ store ∧ result.executionId = executionId := by
    intro result member
    unfold EvaluationStore.findByExecutionId at member
    rw [mem_filter, decide_eq_true_eq] at member
    exact member
  unfold EvaluationTable.findByExecutionId selectByExecution
  have sorted : ascending (fun row => (toLex (row.evaluationId, row.metricName) : String ×ₗ String))
      ((store.findByExecutionId executionId).flatMap toPersistenceRecords) =
        ((ascending (·.evaluationId) (store.findByExecutionId executionId)).map sortedMetrics).flatMap
          toPersistenceRecords :=
    ascending_rows (fun result member => mirrors.named result (among result member).1) distinct fun _ _ _ => rfl
  rw [selected, sorted, ← eq_ascending (.refl _) inOrder, fromPersistenceRecords_sorted distinct
    fun result member => measured result (among result member).1 (among result member).2]
  exact ⟨_, rfl, shuffled_map⟩

/-! ### Pages -/

section Page

variable {scope : PageScope}

variable (store scope) in
/-- The results whose rows are in a scope. -/
def matching : List EvaluationResult :=
  store.filter fun result =>
    Like.like (scope.executionIdPrefix ++ "%") result.executionId &&
      scope.owns result.organizationId result.projectId && result.metrics ≠ []

variable (offset) in
/-- The key a result is ordered by in the table. -/
def textKey (result : EvaluationResult) : String ×ₗ (String ×ₗ String) :=
  toLex (offset.isoformat result.createdAt, toLex (result.executionId, result.evaluationId))

theorem mem_matching {result : EvaluationResult} (member : result ∈ matching store scope) :
    result ∈ store ∧ result.metrics ≠ [] := by
  obtain ⟨saved, kept⟩ := mem_filter.mp member
  rw [Bool.and_eq_true, decide_eq_true_eq] at kept
  exact ⟨saved, kept.2⟩

theorem rows_matching (mirrors : Mirrors offset store table) :
    table.rows.filter (inScope scope) = (matching store scope).flatMap toPersistenceRecords := by
  rw [mirrors.rows]
  apply filter_flatMap_rows
  intro result _ metric measured
  rw [decide_eq_true (ne_nil_of_mem measured), Bool.and_true]
  rfl

theorem distinct_matching (mirrors : Mirrors offset store table) :
    ((matching store scope).map (·.evaluationId)).Nodup :=
  mirrors.distinct_filter _

variable {results : List EvaluationResult}

theorem distinct_textKey (distinct : (results.map (·.evaluationId)).Nodup) : (results.map (textKey offset)).Nodup := by
  apply List.Nodup.of_map fun key : String ×ₗ (String ×ₗ String) => (ofLex (ofLex key).2).2
  rw [map_map]
  exact distinct

/-- What the rows of results with metrics have in common, told once for each result. -/
theorem dedup_rows {K : Type} [DecidableEq K] {rowKey : EvaluationRow → K} {key : EvaluationResult → K}
    (same : ∀ result metric, rowKey (rowOf result metric) = key result)
    (measured : ∀ result ∈ results, result.metrics ≠ []) (distinct : (results.map key).Nodup) :
    ((results.flatMap toPersistenceRecords).map rowKey).dedup.Perm (results.map key) := by
  rw [perm_ext_iff_of_nodup (nodup_dedup _) distinct]
  intro value
  rw [mem_dedup, mem_map, mem_map]
  constructor
  · rintro ⟨row, member, rfl⟩
    obtain ⟨result, among, inside⟩ := mem_flatMap.mp member
    obtain ⟨metric, -, rfl⟩ := mem_map.mp inside
    exact ⟨result, among, (same result metric).symm⟩
  · rintro ⟨result, among, rfl⟩
    obtain ⟨metric, rest, shape⟩ := exists_cons_of_ne_nil (measured result among)
    refine ⟨rowOf result metric, mem_flatMap.mpr ⟨result, among, ?_⟩, same result metric⟩
    unfold toPersistenceRecords
    rw [shape]
    exact mem_cons_self

/-- The results a page selects. -/
theorem selected_page (mirrors : Mirrors offset store table) (start limit : Int) :
    table.selected scope start limit =
      (Window.limitOffset limit start (ascending (textKey offset) (matching store scope))).map
        (·.evaluationId) := by
  have keys : ((matching store scope).map (textKey offset)).Nodup := distinct_textKey mirrors.distinct_matching
  have grouped : ((table.rows.filter (inScope scope)).map table.groupKey).dedup.Perm
      ((matching store scope).map (textKey offset)) := by
    rw [mirrors.rows_matching]
    apply dedup_rows _ (fun result member => (mem_matching member).2) keys
    intro result metric
    unfold groupKey textKey
    rw [mirrors.written]
    rfl
  have plain : (((table.rows.filter (inScope scope)).map table.groupKey).dedup.map id).Nodup := by
    rw [map_id]
    exact nodup_dedup _
  have ordered : ascending id ((table.rows.filter (inScope scope)).map table.groupKey).dedup =
      (ascending (textKey offset) (matching store scope)).map (textKey offset) := by
    rw [ascending_of_perm plain grouped]
    exact (map_ascending fun _ _ => rfl).symm
  unfold EvaluationTable.selected
  rw [ordered, Window.map_limitOffset, Window.map_limitOffset, map_map]
  rfl

theorem limitOffset_sublist {α : Type} (limit start : Int) (items : List α) :
    (Window.limitOffset limit start items).Sublist items := by
  unfold Window.limitOffset
  split
  · exact drop_sublist _ _
  · exact (take_sublist _ _).trans (drop_sublist _ _)

/-- The rows of a page are those of the results in its window, in their order. -/
theorem selectPage_rows (mirrors : Mirrors offset store table) (start limit : Int) :
    table.selectPage scope start limit =
      ((Window.limitOffset limit start (ascending (textKey offset) (matching store scope))).map
        sortedMetrics).flatMap toPersistenceRecords := by
  obtain ⟨window, shape⟩ : ∃ window, window =
      Window.limitOffset limit start (ascending (textKey offset) (matching store scope)) := ⟨_, rfl⟩
  have inside : window.Sublist (ascending (textKey offset) (matching store scope)) :=
    shape ▸ limitOffset_sublist limit start _
  have saved : ∀ result ∈ window, result ∈ store :=
    fun result member => (mem_matching (mem_ascending.mp (inside.subset member))).1
  have keys : ((matching store scope).map (textKey offset)).Nodup := distinct_textKey mirrors.distinct_matching
  have strict : window.Pairwise fun left right => textKey offset left < textKey offset right :=
    (strict_ascending keys).sublist inside
  have windowKeys : (window.map (textKey offset)).Nodup := by
    rw [List.Nodup, pairwise_map]
    exact strict.imp ne_of_lt
  have selected : table.rows.filter (fun row => row.evaluationId ∈ table.selected scope start limit) =
      (store.filter fun result => result.evaluationId ∈ window.map (·.evaluationId)).flatMap toPersistenceRecords := by
    rw [mirrors.rows, mirrors.selected_page, ← shape]
    exact filter_flatMap_rows fun _ _ _ _ => rfl
  have perm : (store.filter fun result => result.evaluationId ∈ window.map (·.evaluationId)).Perm window := by
    rw [perm_ext_iff_of_nodup (List.Nodup.of_map _ (mirrors.distinct_filter _)) (List.Nodup.of_map _ windowKeys)]
    intro result
    rw [mem_filter, decide_eq_true_eq, mem_map]
    constructor
    · rintro ⟨stored, other, member, same⟩
      rw [← inj_on_of_nodup_map mirrors.distinct (saved other member) stored same]
      exact member
    · exact fun member => ⟨saved result member, result, member, rfl⟩
  have distinct : ((store.filter fun result => result.evaluationId ∈ window.map (·.evaluationId)).map
      (textKey offset)).Nodup := (perm.map _).nodup_iff.mpr windowKeys
  have sorted : ascending (fun row =>
        (toLex (table.groupKey row, row.metricName) : (String ×ₗ (String ×ₗ String)) ×ₗ String))
      ((store.filter fun result => result.evaluationId ∈ window.map (·.evaluationId)).flatMap toPersistenceRecords) =
        ((ascending (textKey offset)
          (store.filter fun result => result.evaluationId ∈ window.map (·.evaluationId))).map sortedMetrics).flatMap
            toPersistenceRecords := by
    apply ascending_rows (fun result member => mirrors.named result (mem_filter.mp member).1) distinct
    intro result _ metric
    unfold groupKey textKey
    rw [mirrors.written]
    rfl
  unfold selectPage
  rw [selected, sorted, ascending_of_perm distinct perm, ← eq_ascending (.refl _) strict, shape]

theorem countByExecutionPrefix (mirrors : Mirrors offset store table) :
    table.countByExecutionPrefix scope = (matching store scope).length := by
  unfold EvaluationTable.countByExecutionPrefix
  rw [mirrors.rows_matching]
  have ids : (((matching store scope).flatMap toPersistenceRecords).map (·.evaluationId)).dedup.Perm
      ((matching store scope).map (·.evaluationId)) :=
    dedup_rows (fun _ _ => rfl) (fun result member => (mem_matching member).2) mirrors.distinct_matching
  rw [ids.length_eq, length_map]

/-- Texts of one offset order results as their instants do. -/
theorem ascending_textKey (distinct : (results.map (·.evaluationId)).Nodup)
    (dated : ∀ result ∈ results, offset.Reads result.createdAt) :
    ascending (textKey offset) results = ascending EvaluationStore.pageKey results := by
  have keys : (results.map EvaluationStore.pageKey).Nodup := by
    apply List.Nodup.of_map fun key : Nat ×ₗ (String ×ₗ String) => (ofLex (ofLex key).2).2
    rw [map_map]
    exact distinct
  rw [ascending_eq_iff (distinct_textKey distinct) keys]
  intro left memberLeft right memberRight
  have text : textKey offset left < textKey offset right ↔ _ := Prod.Lex.toLex_lt_toLex
  have instant : EvaluationStore.pageKey left < EvaluationStore.pageKey right ↔ _ := Prod.Lex.toLex_lt_toLex
  rw [text, instant, Instant.Offset.isoformat_lt_iff (dated left memberLeft) (dated right memberRight),
    Instant.Offset.isoformat_inj (dated left memberLeft) (dated right memberRight), Instant.lt_def]
  have same : left.createdAt = right.createdAt ↔ left.createdAt.micros = right.createdAt.micros := by
    constructor
    · exact congrArg Instant.micros
    · exact fun equal => congrArg Instant.mk equal
  rw [same]

theorem findPage (mirrors : Mirrors offset store table) {start limit : Int}
    (faithful : (EvaluationCall.findPageByExecutionIdPrefix scope start limit).Faithful store) :
    ∃ page, table.findPageByExecutionIdPrefix scope start limit = .ok page ∧
      List.Forall₂ Shuffled page.items (store.findPageByExecutionIdPrefix scope start limit).items ∧
        page.totalCount = (store.findPageByExecutionIdPrefix scope start limit).totalCount := by
  obtain ⟨alike, cut⟩ := faithful
  have same : store.inScope scope = matching store scope := by
    apply filter_congr
    intro result member
    have matched := alike result member
    by_cases owned : scope.owns result.organizationId result.projectId = true
    · rw [owned, Bool.and_true, Bool.and_true, Bool.eq_iff_iff, Bool.and_eq_true, decide_eq_true_eq]
      exact matched owned
    · rw [Bool.not_eq_true] at owned
      rw [owned, Bool.and_false, Bool.and_false, Bool.false_and]
  have distinct : ((matching store scope).map (·.evaluationId)).Nodup := mirrors.distinct_matching
  have ordered : ascending EvaluationStore.pageKey (store.inScope scope) =
      ascending (textKey offset) (matching store scope) := by
    rw [same, ascending_textKey distinct fun result member => mirrors.dated result (mem_matching member).1]
  have length : (store.inScope scope).length = (ascending (textKey offset) (matching store scope)).length := by
    rw [same, perm_ascending.length_eq]
  rw [length] at cut
  have inside := limitOffset_sublist limit start (ascending (textKey offset) (matching store scope))
  have ids : ((Window.limitOffset limit start (ascending (textKey offset) (matching store scope))).map
      (·.evaluationId)).Nodup :=
    ((perm_ascending.map _).nodup_iff.mpr distinct).sublist (inside.map _)
  have measured : ∀ result ∈ Window.limitOffset limit start
      (ascending (textKey offset) (matching store scope)), result.metrics ≠ [] :=
    fun result member => (mem_matching (mem_ascending.mp (inside.subset member))).2
  refine ⟨⟨(Window.limitOffset limit start (ascending (textKey offset) (matching store scope))).map
    sortedMetrics, (matching store scope).length⟩, ?_, ?_, ?_⟩
  · unfold EvaluationTable.findPageByExecutionIdPrefix
    rw [mirrors.selectPage_rows, fromPersistenceRecords_sorted ids measured, mirrors.countByExecutionPrefix]
    rfl
  · unfold EvaluationStore.findPageByExecutionIdPrefix
    dsimp only
    rw [ordered, cut.slice_eq]
    exact shuffled_map
  · unfold EvaluationStore.findPageByExecutionIdPrefix
    dsimp only
    rw [ordered, perm_ascending.length_eq]

end Page

/-- One call is answered alike, and the table still mirrors the results. -/
theorem serve (mirrors : Mirrors offset store table) {call : EvaluationCall}
    (admissible : call.Admissible offset store) (faithful : call.Faithful store) :
    SameAnswer (sqlite.serve call table).1 (inMemory.serve call store).1 ∧
      Mirrors offset (inMemory.serve call store).2 (sqlite.serve call table).2 := by
  cases call with
  | save result => exact ⟨.saved, mirrors.save admissible⟩
  | findByEvaluationId evaluationId =>
    obtain ⟨found, read, same⟩ := mirrors.findByEvaluationId faithful
    refine ⟨?_, mirrors⟩
    change SameAnswer ((table.findByEvaluationId evaluationId).map .result) _
    rw [read]
    exact .result same
  | findByExecutionId executionId =>
    obtain ⟨found, read, same⟩ := mirrors.findByExecutionId faithful
    refine ⟨?_, mirrors⟩
    change SameAnswer ((table.findByExecutionId executionId).map .results) _
    rw [read]
    exact .results same
  | findPageByExecutionIdPrefix scope start limit =>
    obtain ⟨page, read, same, total⟩ := mirrors.findPage faithful
    refine ⟨?_, mirrors⟩
    change SameAnswer ((table.findPageByExecutionIdPrefix scope start limit).map .page) _
    rw [read]
    exact .page same total

end Mirrors

/-- In a run of new evaluations whose lookups are all told the same by rows, the SQLite repository answers every call
as the in-memory one. -/
theorem sqlite_refines_inMemory (offset : Instant.Offset) (calls : List EvaluationCall)
    (admissible : inMemory.Along (EvaluationCall.Admissible offset) calls [])
    (faithful : inMemory.Along EvaluationCall.Faithful calls []) :
    List.Forall₂ SameAnswer (sqlite.answers calls (.empty offset)) (inMemory.answers calls []) := by
  have both := admissible.and faithful
  have flipped : List.Forall₂ (flip SameAnswer) (inMemory.answers calls []) (sqlite.answers calls (.empty offset)) :=
    (both.simulates (fun mirrors call => mirrors.serve call.1 call.2) (Mirrors.empty offset)).1
  exact flipped.flip

/-! ## Two runs -/

theorem shared_nothing : sharedMetadata [] [] = ([], []) := rfl

/-- An evaluation of an execution. -/
private def evaluation (evaluationId : String) (metrics : List EvaluationMetric) : EvaluationResult where
  evaluationId := evaluationId
  executionId := "run-1"
  evaluatorType := "deepeval"
  evaluatorVersion := "1.0"
  metrics := metrics
  metadata := []
  artifacts := []
  providerMetadata := []
  providerDescriptorSnapshot := none
  createdAt := ⟨0⟩
  organizationId := "org"
  projectId := "project"
  shared := shared_nothing

private def measuredCalls : List EvaluationCall :=
  [.save (evaluation "a" [⟨"relevancy", 1, none⟩, ⟨"faithfulness", 0, none⟩]), .save (evaluation "b" [⟨"bias", 1, none⟩]),
    .findByExecutionId "run-1", .findPageByExecutionIdPrefix ⟨"run-", "org", some "project"⟩ 0 1]

/-- Two evaluations of an execution are looked up. -/
theorem sqlite_refines_inMemory_measured :
    List.Forall₂ SameAnswer (sqlite.answers measuredCalls (.empty .utc)) (inMemory.answers measuredCalls []) := by
  have same : Like.like "run-%" "run-1" = true ∧ Text.startsWith "run-" "run-1" = true := by decide +kernel
  apply sqlite_refines_inMemory .utc measuredCalls
  · refine ⟨⟨nofun, by decide, by decide⟩, ⟨by decide, by decide, by decide⟩, trivial, trivial, trivial⟩
  · refine ⟨trivial, trivial, ⟨by decide, by decide +kernel⟩, ⟨?_, Window.agree_of_nonneg (by decide) (by decide) _⟩,
      trivial⟩
    intro result member _
    change result ∈ [_, _] at member
    rw [mem_pair] at member
    rcases member with rfl | rfl
    · exact ⟨fun _ => ⟨same.1, by decide⟩, fun _ => same.2⟩
    · exact ⟨fun _ => ⟨same.1, by decide⟩, fun _ => same.2⟩

private def unmeasuredCalls : List EvaluationCall := [.save (evaluation "a" []), .findByEvaluationId "a"]

/-- An evaluation without metrics is not found again. -/
theorem unmeasured_lost : ¬ (∀ (offset : Instant.Offset) (calls : List EvaluationCall),
    inMemory.Along (EvaluationCall.Admissible offset) calls [] →
      List.Forall₂ SameAnswer (sqlite.answers calls (.empty offset)) (inMemory.answers calls [])) := by
  intro refines
  have lookups := refines .utc unmeasuredCalls ⟨⟨nofun, by decide, by decide⟩, trivial, trivial⟩
  have answers : sqlite.answers unmeasuredCalls (.empty .utc) = [.ok .saved, .ok (.result none)] := rfl
  rw [answers] at lookups
  cases lookups with
  | cons _ later =>
    cases later with
    | cons lookup _ =>
      cases lookup with
      | result same => cases same

end AiGovernance.Evaluations
