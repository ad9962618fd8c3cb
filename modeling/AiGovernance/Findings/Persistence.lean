import AiGovernance.Repositories.SqliteRuntimeFindings

/-!
# The SQLite store against the in-memory one

Saves of one tenant's findings, in any order and number, with reads in between.
The two stores agree as long as a save changes no column the upsert leaves out
and no field joined into the deduplication key has a colon. Resolving a finding
and observing it again change `resolved_at`, which the upsert leaves out.
-/

namespace AiGovernance.Std.Text

open List

theorem splitChars_of_free {separator : Char} {chars : List Char} (free : separator ∉ chars) :
    splitChars separator chars = [chars] := by
  induction chars with
  | nil => rfl
  | cons c rest ih =>
    rw [mem_cons, not_or] at free
    rw [splitChars, if_neg (Ne.symm free.1), ih free.2]

theorem splitChars_append {separator : Char} {chars : List Char} (free : separator ∉ chars) (rest : List Char) :
    splitChars separator (chars ++ separator :: rest) = chars :: splitChars separator rest := by
  induction chars with
  | nil => rw [nil_append, splitChars, if_pos rfl]
  | cons c chars ih =>
    rw [mem_cons, not_or] at free
    rw [cons_append, splitChars, if_neg (Ne.symm free.1), ih free.2]

end AiGovernance.Std.Text

namespace AiGovernance.Findings

open AiGovernance.Std Domain FindingStore List

/-! ## What a faithful save keeps -/

/-- The columns the upsert never updates. -/
structure KeptColumns where
  findingType : String
  subjectType : String
  subjectId : String
  baselineWindow : String
  observationWindow : String
  baselineMetrics : List MetricSnapshot
  evidenceReferences : List EvidenceReference
  relatedExecutionIds : List String
  detectorId : String
  detectorVersion : String
  firstDetectedAt : Option Instant
  resolvedAt : Option Instant
  createdAt : Instant
deriving DecidableEq

/-- What a finding has in the columns the upsert never updates. -/
def RuntimeFinding.keptColumns (finding : RuntimeFinding) : KeptColumns where
  findingType := finding.record.findingType
  subjectType := finding.record.subjectType
  subjectId := finding.record.subjectId
  baselineWindow := finding.record.baselineWindow
  observationWindow := finding.record.observationWindow
  baselineMetrics := finding.record.baselineMetrics
  evidenceReferences := finding.record.evidenceReferences
  relatedExecutionIds := finding.record.relatedExecutionIds
  detectorId := finding.record.detectorId
  detectorVersion := finding.record.detectorVersion
  firstDetectedAt := finding.record.firstDetectedAt
  resolvedAt := finding.record.resolvedAt
  createdAt := finding.record.createdAt

/-- No field joined into the deduplication key has a colon. -/
def RuntimeFinding.keyReadable (finding : RuntimeFinding) : Bool :=
  [finding.record.findingType, finding.record.organizationId, finding.record.projectId.getD "",
    finding.record.subjectType, finding.record.subjectId, finding.record.detectorVersion].all
      fun part => !part.toList.contains ':'

/-- A save the SQLite store does not lose anything of: the project is not empty, the key can be taken
apart, and the columns the upsert leaves out are those of the stored finding. -/
def faithful (store : FindingStore) (finding : RuntimeFinding) : Bool :=
  finding.record.projectId ≠ some "" && finding.keyReadable &&
    (store.byId.get? finding.record.findingId).all fun stored => stored.keptColumns = finding.keptColumns

/-- Every save of a run is faithful where it is made. -/
def runFaithful : List RuntimeFinding → FindingStore → Bool
  | [], _ => true
  | finding :: rest, store => faithful store finding && runFaithful rest (store.save finding)

/-- The in-memory store after a run of saves. -/
def remembered (findings : List RuntimeFinding) (store : FindingStore) : FindingStore :=
  findings.foldl FindingStore.save store

/-- The table after a run of saves. -/
def persisted (findings : List RuntimeFinding) (table : FindingTable) : FindingTable :=
  findings.foldl FindingTable.save table

/-- The finding last saved under an identifier. -/
def lastSaved (findings : List RuntimeFinding) (findingId : String) : Option RuntimeFinding :=
  findings.reverse.find? (·.record.findingId = findingId)

/-! ## The deduplication key -/

theorem split_deduplicationKey {finding : RuntimeFinding} (readable : finding.keyReadable = true) :
    Text.split ':' finding.deduplicationKey = [finding.record.findingType, finding.record.organizationId,
      finding.record.projectId.getD "", finding.record.subjectType, finding.record.subjectId,
      finding.record.detectorVersion] := by
  simp only [RuntimeFinding.keyReadable, all_cons, all_nil, Bool.and_true, Bool.and_eq_true,
    Bool.not_eq_true', contains_eq_mem, decide_eq_false_iff_not] at readable
  obtain ⟨findingType, organizationId, projectId, subjectType, subjectId, detectorVersion⟩ := readable
  have colon : ":".toList = [':'] := by decide
  unfold Text.split RuntimeFinding.deduplicationKey
  simp only [String.toList_append, colon, append_assoc, cons_append, nil_append]
  rw [Text.splitChars_append findingType, Text.splitChars_append organizationId, Text.splitChars_append projectId,
    Text.splitChars_append subjectType, Text.splitChars_append subjectId, Text.splitChars_of_free detectorVersion]
  simp only [map_cons, map_nil, String.ofList_toList]

/-- The key of a finding is made of its tenant and columns that are kept. -/
theorem deduplicationKey_of_keptColumns {left right : RuntimeFinding}
    (organizationId : left.record.organizationId = right.record.organizationId)
    (projectId : left.record.projectId = right.record.projectId) (kept : left.keptColumns = right.keptColumns) :
    left.deduplicationKey = right.deduplicationKey := by
  simp only [RuntimeFinding.keptColumns, KeptColumns.mk.injEq] at kept
  obtain ⟨findingType, subjectType, subjectId, -, -, -, -, -, -, detectorVersion, -⟩ := kept
  simp only [RuntimeFinding.deduplicationKey, organizationId, projectId, findingType, subjectType, subjectId,
    detectorVersion]

/-! ## Rows and findings -/

/-- The upsert over a row that agrees in the other columns is the new row. -/
theorem updateWith_rowOf {old finding : RuntimeFinding} (same : (rowOf old).primaryKey = (rowOf finding).primaryKey)
    (kept : old.keptColumns = finding.keptColumns) : (rowOf old).updateWith (rowOf finding) = rowOf finding := by
  simp only [FindingRow.primaryKey, rowOf, Prod.mk.injEq] at same
  simp only [RuntimeFinding.keptColumns, KeptColumns.mk.injEq] at kept
  simp only [FindingRow.updateWith, rowOf, same, kept]

namespace FindingTable

theorem find?_hasKey (table : FindingTable) (organizationId projectId findingId : String) :
    table.rows.values.find? (FindingRow.hasKey organizationId projectId findingId) =
      table.rows.get? (organizationId, projectId, findingId) := by
  have passes : ∀ row : FindingRow, row.hasKey organizationId projectId findingId = true ↔
      row.primaryKey = (organizationId, projectId, findingId) := by
    intro row
    simp only [FindingRow.hasKey, FindingRow.primaryKey, Bool.and_eq_true, decide_eq_true_eq, Prod.mk.injEq, and_assoc]
  cases found : table.rows.get? (organizationId, projectId, findingId) with
  | none =>
    rw [find?_eq_none]
    intro row member matched
    obtain ⟨key, present⟩ := (Dict.mem_values_iff _ _).mp member
    rw [← table.keyed present, (passes row).mp matched, found] at present
    cases present
  | some row =>
    have member : row ∈ table.rows.values := (Dict.mem_values_iff _ _).mpr ⟨_, found⟩
    obtain ⟨first, first?⟩ := Option.isSome_iff_exists.mp
      (find?_isSome.mpr ⟨row, member, (passes row).mpr (table.keyed found)⟩)
    rw [first?]
    obtain ⟨key, present⟩ := (Dict.mem_values_iff _ _).mp (mem_of_find?_eq_some first?)
    rw [← table.keyed present, (passes first).mp (find?_some first?), found] at present
    exact present.symm

end FindingTable

/-! ## The simulation -/

/-- The table has the rows of the stored findings of one tenant, and no others. -/
structure Mirrors (organizationId : String) (projectId : Option String) (store : FindingStore) (table : FindingTable) :
    Prop where
  tenant : ∀ {findingId finding}, store.byId.get? findingId = some finding →
    finding.record.organizationId = organizationId ∧ finding.record.projectId = projectId
  named : ∀ {findingId finding}, store.byId.get? findingId = some finding → finding.record.projectId ≠ some ""
  rows : ∀ findingId, table.rows.get? (organizationId, projectId.getD "", findingId) =
    (store.byId.get? findingId).map rowOf
  only : ∀ {key row}, table.rows.get? key = some row → ∃ finding : RuntimeFinding,
    store.byId.get? finding.record.findingId = some finding ∧ row = rowOf finding

section Simulation

variable {organizationId : String} {projectId : Option String} {store : FindingStore} {table : FindingTable}
  {finding : RuntimeFinding}

theorem mirrors_empty : Mirrors organizationId projectId .empty .empty where
  tenant := fun stored => by cases stored
  named := fun stored => by cases stored
  rows := fun _ => rfl
  only := fun stored => by cases stored

theorem Mirrors.save (mirrors : Mirrors organizationId projectId store table)
    (tenant : finding.record.organizationId = organizationId ∧ finding.record.projectId = projectId)
    (lossless : faithful store finding = true) :
    Mirrors organizationId projectId (store.save finding) (table.save finding) := by
  simp only [faithful, Bool.and_eq_true, decide_eq_true_eq] at lossless
  have key : (rowOf finding).primaryKey = (organizationId, projectId.getD "", finding.record.findingId) := by
    simp only [FindingRow.primaryKey, rowOf, tenant]
  have written : table.upserted (rowOf finding) = rowOf finding := by
    unfold FindingTable.upserted
    rw [key, mirrors.rows]
    cases stored : store.byId.get? finding.record.findingId with
    | none => rfl
    | some old =>
      have kept := lossless.2
      rw [stored] at kept
      simp only [Option.all_some, decide_eq_true_eq] at kept
      refine updateWith_rowOf ?_ kept
      rw [key]
      simp only [FindingRow.primaryKey, rowOf, mirrors.tenant stored, store.keyed stored]
  have lookup : ∀ other, (table.save finding).rows.get? other =
      if other = (organizationId, projectId.getD "", finding.record.findingId) then some (rowOf finding)
      else table.rows.get? other := by
    intro other
    unfold FindingTable.save
    rw [Dict.get?_set, written, key]
  refine ⟨?_, ?_, fun findingId => ?_, ?_⟩
  · intro findingId other present
    rw [get?_save] at present
    split at present
    · cases present
      exact tenant
    · exact mirrors.tenant present
  · intro findingId other present
    rw [get?_save] at present
    split at present
    · cases present
      exact lossless.1.1
    · exact mirrors.named present
  · rw [lookup, get?_save]
    by_cases same : findingId = finding.record.findingId
    · rw [if_pos (by rw [same]), if_pos same]
      rfl
    · rw [if_neg (by simp [same]), if_neg same, mirrors.rows]
  · intro other row present
    rw [lookup] at present
    split at present
    · cases present
      exact ⟨finding, by rw [get?_save, if_pos rfl], rfl⟩
    · rename_i apart
      obtain ⟨stored, found, rfl⟩ := mirrors.only present
      refine ⟨stored, ?_, rfl⟩
      rw [get?_save, if_neg ?_, found]
      intro same
      apply apart
      rw [← table.keyed present]
      simp only [FindingRow.primaryKey, rowOf, mirrors.tenant found, same]

variable {findings : List RuntimeFinding}

theorem mirrors_run (mirrors : Mirrors organizationId projectId store table)
    (tenant : ∀ finding ∈ findings, finding.record.organizationId = organizationId ∧
      finding.record.projectId = projectId) (lossless : runFaithful findings store = true) :
    Mirrors organizationId projectId (remembered findings store) (persisted findings table) := by
  induction findings generalizing store table with
  | nil => exact mirrors
  | cons finding rest ih =>
    simp only [runFaithful, Bool.and_eq_true] at lossless
    exact ih (mirrors.save (tenant finding (by simp)) lossless.1)
      (fun other member => tenant other (mem_cons_of_mem _ member)) lossless.2

theorem Mirrors.get (mirrors : Mirrors organizationId projectId store table) (findingId : String) :
    table.get findingId organizationId projectId = .ok (store.byId.get? findingId) := by
  unfold FindingTable.get
  rw [FindingTable.find?_hasKey, mirrors.rows]
  cases stored : store.byId.get? findingId with
  | none => rfl
  | some finding =>
    rw [Option.map_some, FindingTable.fetch, findingFromRow_rowOf (mirrors.named stored)]
    rfl

theorem Mirrors.inMemory_get (mirrors : Mirrors organizationId projectId store table) (findingId : String) :
    store.get findingId organizationId projectId = store.byId.get? findingId := by
  cases stored : store.byId.get? findingId with
  | none =>
    cases found : store.get findingId organizationId projectId with
    | none => rfl
    | some finding =>
      rw [get_eq_some found] at stored
      cases stored
  | some finding =>
    have matched : (finding.record.findingId = findingId &&
        inScope organizationId projectId finding) = true := by
      obtain ⟨organization, project⟩ := mirrors.tenant stored
      have scope : inScope organizationId projectId finding = true := by
        cases projectId with
        | none => simp [inScope, organization]
        | some project' => simp [inScope, organization, project]
      simp [store.keyed stored, scope]
    have member : finding ∈ store.byId.values := by
      rw [mem_values, store.keyed stored]
      exact stored
    obtain ⟨first, found⟩ : ∃ first, store.get findingId organizationId projectId = some first :=
      Option.isSome_iff_exists.mp (find?_isSome.mpr ⟨finding, member, matched⟩)
    rw [found, ← stored, get_eq_some found]

/-- The lookup by the key of a stored finding returns a finding with that key. -/
theorem Mirrors.findByDedupKey (mirrors : Mirrors organizationId projectId store table)
    (stored : store.byId.get? finding.record.findingId = some finding) (readable : finding.keyReadable = true) :
    ∃ found, table.findByDedupKey finding.deduplicationKey organizationId projectId = .ok (some found) ∧
      found.deduplicationKey = finding.deduplicationKey := by
  unfold FindingTable.findByDedupKey
  rw [split_deduplicationKey readable]
  dsimp only
  obtain ⟨organization, project⟩ := mirrors.tenant stored
  have present := mirrors.rows finding.record.findingId
  rw [stored] at present
  have member : rowOf finding ∈ table.rows.values := (Dict.mem_values_iff _ _).mpr ⟨_, present⟩
  have satisfied : (rowOf finding).hasCondition organizationId (projectId.getD "") finding.record.findingType
      finding.record.subjectType finding.record.subjectId finding.record.detectorVersion = true := by
    simp [FindingRow.hasCondition, rowOf, organization, project]
  obtain ⟨row, row?⟩ := Option.isSome_iff_exists.mp (find?_isSome.mpr ⟨rowOf finding, member, satisfied⟩)
  rw [row?]
  obtain ⟨key, held⟩ := (Dict.mem_values_iff _ _).mp (mem_of_find?_eq_some row?)
  obtain ⟨found, foundStored, rfl⟩ := mirrors.only held
  have matched := find?_some row?
  simp only [FindingRow.hasCondition, Bool.and_eq_true, decide_eq_true_eq] at matched
  simp only [rowOf] at matched
  refine ⟨found, ?_, ?_⟩
  · rw [FindingTable.fetch, findingFromRow_rowOf (mirrors.named foundStored)]
    rfl
  · obtain ⟨-, foundProject⟩ := mirrors.tenant foundStored
    simp only [RuntimeFinding.deduplicationKey, matched, organization, project, foundProject]

/-- Once saved, a key stays: a later faithful save under the identifier has it too. -/
theorem key_kept (mirrors : Mirrors organizationId projectId store table)
    (tenant : ∀ finding ∈ findings, finding.record.organizationId = organizationId ∧
      finding.record.projectId = projectId) (lossless : runFaithful findings store = true)
    (stored : store.byId.get? finding.record.findingId = some finding) (readable : finding.keyReadable = true) :
    ∃ last, (remembered findings store).byId.get? last.record.findingId = some last ∧ last.keyReadable = true ∧
      last.deduplicationKey = finding.deduplicationKey := by
  induction findings generalizing store table finding with
  | nil => exact ⟨finding, stored, readable, rfl⟩
  | cons saved rest ih =>
    simp only [runFaithful, Bool.and_eq_true] at lossless
    have own := tenant saved (by simp)
    have next := mirrors.save own lossless.1
    have later : ∀ other ∈ rest, other.record.organizationId = organizationId ∧
        other.record.projectId = projectId := fun other member => tenant other (mem_cons_of_mem _ member)
    by_cases same : finding.record.findingId = saved.record.findingId
    · have parts := lossless.1
      simp only [faithful, Bool.and_eq_true, ← same, stored, Option.all_some, decide_eq_true_eq] at parts
      obtain ⟨organization, project⟩ := mirrors.tenant stored
      obtain ⟨last, lastStored, lastReadable, key⟩ := ih next later lossless.2
        (by rw [get?_save, if_pos rfl]) parts.1.2
      refine ⟨last, lastStored, lastReadable, key.trans ?_⟩
      exact (deduplicationKey_of_keptColumns (organization.trans own.1.symm) (project.trans own.2.symm) parts.2).symm
    · exact ih next later lossless.2
        (by rw [get?_save, if_neg same, stored]) readable

theorem key_remembered (mirrors : Mirrors organizationId projectId store table)
    (tenant : ∀ finding ∈ findings, finding.record.organizationId = organizationId ∧
      finding.record.projectId = projectId) (lossless : runFaithful findings store = true)
    (member : finding ∈ findings) :
    ∃ last, (remembered findings store).byId.get? last.record.findingId = some last ∧ last.keyReadable = true ∧
      last.deduplicationKey = finding.deduplicationKey := by
  induction findings generalizing store table with
  | nil => cases member
  | cons saved rest ih =>
    simp only [runFaithful, Bool.and_eq_true] at lossless
    have next := mirrors.save (tenant saved (by simp)) lossless.1
    have later : ∀ other ∈ rest, other.record.organizationId = organizationId ∧
        other.record.projectId = projectId := fun other listed => tenant other (mem_cons_of_mem _ listed)
    rw [mem_cons] at member
    cases member with
    | inl head =>
      subst head
      have readable := lossless.1
      simp only [faithful, Bool.and_eq_true] at readable
      have present : (store.save finding).byId.get? finding.record.findingId = some finding := by
        rw [get?_save, if_pos rfl]
      have kept := key_kept next later lossless.2 present readable.1.2
      exact kept
    | inr tail => exact ih next later lossless.2 tail

end Simulation

/-- The in-memory store has the finding last saved under each identifier. -/
theorem get?_remembered (findings : List RuntimeFinding) (store : FindingStore) (findingId : String) :
    (remembered findings store).byId.get? findingId = (lastSaved findings findingId).or (store.byId.get? findingId) := by
  induction findings generalizing store with
  | nil => rfl
  | cons finding rest ih =>
    have step : remembered (finding :: rest) store = remembered rest (store.save finding) := rfl
    rw [step, ih, get?_save]
    unfold lastSaved
    rw [reverse_cons, find?_append, find?_singleton, Option.or_assoc]
    congr 1
    by_cases same : finding.record.findingId = findingId
    · simp [same]
    · simp [same, Ne.symm same]

/-- For every run of saves of one tenant that are faithful where they are made, both stores return the
finding last saved under an identifier, and both find a finding by every key that was saved. -/
theorem sqlite_findings_refine_inMemory {organizationId : String} {projectId : Option String}
    (findings : List RuntimeFinding)
    (tenant : ∀ finding ∈ findings, finding.record.organizationId = organizationId ∧
      finding.record.projectId = projectId) (lossless : runFaithful findings .empty = true) :
    (∀ findingId, (persisted findings .empty).get findingId organizationId projectId =
        .ok (lastSaved findings findingId) ∧
      (remembered findings .empty).get findingId organizationId projectId = lastSaved findings findingId) ∧
    ∀ finding ∈ findings,
      (∃ found, (persisted findings .empty).findByDedupKey finding.deduplicationKey organizationId projectId =
        .ok (some found) ∧ found.deduplicationKey = finding.deduplicationKey) ∧
      ((remembered findings .empty).findByDedupKey finding.deduplicationKey).isSome = true := by
  have mirrors := mirrors_run mirrors_empty tenant lossless
  have last : ∀ findingId, (remembered findings .empty).byId.get? findingId = lastSaved findings findingId := by
    intro findingId
    rw [get?_remembered]
    exact Option.or_none
  refine ⟨fun findingId => ⟨?_, ?_⟩, fun finding member => ?_⟩
  · rw [mirrors.get, last]
  · rw [mirrors.inMemory_get, last]
  · obtain ⟨stored, present, readable, key⟩ := key_remembered mirrors_empty tenant lossless member
    obtain ⟨found, looked, same⟩ := mirrors.findByDedupKey present readable
    rw [key] at looked same
    refine ⟨⟨found, looked, same⟩, ?_⟩
    exact find?_isSome.mpr ⟨stored, mem_values.mpr present, by simpa using key⟩


/-! ## A finding that is resolved -/

/-- A failing tool, as its detector reports it. -/
def failingTool (subjectId : String) : RuntimeFindingRecord where
  findingId := "finding-1"
  organizationId := "organization"
  findingType := "TOOL_FAILURE_RATE_INCREASE"
  subjectType := "tool"
  subjectId := subjectId
  detectorId := "tool_failure_rate"
  firstDetectedAt := some ⟨63839664000000000⟩
  lastDetectedAt := some ⟨63839664000000000⟩
  createdAt := ⟨63839664000000000⟩
  updatedAt := ⟨63839664000000000⟩

/-- The finding of a tool that is known by a plain name. -/
def searchFails : RuntimeFinding := ⟨failingTool "search", by decide, by decide, by decide⟩

/-- The finding is saved and observed once more. -/
def observedAgain : List RuntimeFinding :=
  match searchFails.updateObservation ⟨63839667600000000⟩ with
  | .ok updated => [searchFails, updated]
  | .error _ => []

theorem sqlite_findings_refine_inMemory_observedAgain :
    runFaithful observedAgain .empty = true ∧ observedAgain.length = 2 ∧
      (persisted observedAgain .empty).get "finding-1" "organization" none =
        .ok (lastSaved observedAgain "finding-1") := by
  have lossless : runFaithful observedAgain .empty = true := by decide +kernel
  have tenant : ∀ finding ∈ observedAgain, finding.record.organizationId = "organization" ∧
      finding.record.projectId = none := by decide +kernel
  exact ⟨lossless, by decide +kernel,
    ((sqlite_findings_refine_inMemory observedAgain tenant lossless).1 "finding-1").1⟩

/-- The finding is saved and resolved. -/
def resolvedOnce : List RuntimeFinding :=
  match searchFails.markResolved ⟨63839667600000000⟩ with
  | .ok resolved => [searchFails, resolved]
  | .error _ => []

/-- The finding of a tool whose name has a colon. -/
def namespacedToolFails : RuntimeFinding := ⟨failingTool "mcp:search", by decide, by decide, by decide⟩

/-- A resolved finding reads back without the time of its resolution, and a finding whose subject has a
colon is not found by its key. -/
theorem sqlite_findings_diverge :
    (persisted resolvedOnce .empty).get "finding-1" "organization" none ≠
        .ok (lastSaved resolvedOnce "finding-1") ∧
      (persisted [namespacedToolFails] .empty).findByDedupKey namespacedToolFails.deduplicationKey "organization"
        none = .ok none ∧
      ((remembered [namespacedToolFails] .empty).findByDedupKey namespacedToolFails.deduplicationKey).isSome =
        true := by
  have stored : ((persisted resolvedOnce .empty).get "finding-1" "organization" none).map
      (·.map (·.record.resolvedAt)) = .ok (some none) := by decide +kernel
  have last : (lastSaved resolvedOnce "finding-1").map (·.record.resolvedAt) =
      some (some ⟨63839667600000000⟩) := by decide +kernel
  refine ⟨fun same => ?_, by decide +kernel, by decide +kernel⟩
  rw [same, Except.map, last] at stored
  cases stored

end AiGovernance.Findings
