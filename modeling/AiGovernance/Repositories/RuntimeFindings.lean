import AiGovernance.Domain.RuntimeFinding
import AiGovernance.Std.Dict
import Mathlib.Data.Prod.Lex
import Mathlib.Data.String.Basic
import Mathlib.Data.Finset.Card

/-!
# The in-memory store of findings

`InMemoryRuntimeFindingRepository`: findings by identifier, in the order their
identifiers were first written. The lookup by deduplication key returns the first
match, whatever its status.
-/

namespace AiGovernance.Findings

open AiGovernance.Std Domain

/-- `InMemoryRuntimeFindingRepository`. -/
structure FindingStore where
  byId : Dict String RuntimeFinding
  keyed : ∀ {findingId finding}, byId.get? findingId = some finding → finding.record.findingId = findingId

/-- Stable cursor for bounded scans of a finding lifecycle state. -/
structure RuntimeFindingCursor where
  createdAt : Instant
  findingId : String
deriving DecidableEq

namespace FindingStore

/-- The empty store. -/
def empty : FindingStore := ⟨.empty, by simp⟩

/-- `save`. -/
def save (store : FindingStore) (finding : RuntimeFinding) : FindingStore where
  byId := store.byId.set finding.record.findingId finding
  keyed := store.byId.keyed_set store.keyed rfl

/-- A finding belongs to a tenant; no project stands for all of them. -/
def inScope (organizationId : String) (projectId : Option String) (finding : RuntimeFinding) : Bool :=
  finding.record.organizationId = organizationId && projectId.all fun project => finding.record.projectId = some project

/-- `get`. -/
def get (store : FindingStore) (findingId organizationId : String) (projectId : Option String) :
    Option RuntimeFinding :=
  store.byId.values.find? fun finding =>
    finding.record.findingId = findingId && inScope organizationId projectId finding

/-- `find_by_dedup_key`. -/
def findByDedupKey (store : FindingStore) (dedupKey : String) : Option RuntimeFinding :=
  store.byId.values.find? (·.deduplicationKey = dedupKey)

/-- The key pages are ordered by. -/
def pageKey (finding : RuntimeFinding) : RuntimeFindingCursor :=
  ⟨finding.record.createdAt, finding.record.findingId⟩

end FindingStore

/-- The order of `(created_at, finding_id)`. -/
def RuntimeFindingCursor.precedes (left right : RuntimeFindingCursor) : Bool :=
  left.createdAt < right.createdAt || (left.createdAt = right.createdAt && left.findingId < right.findingId)

namespace RuntimeFindingCursor

/-- The pair a cursor is compared by. -/
def rank (cursor : RuntimeFindingCursor) : Nat ×ₗ String := toLex (cursor.createdAt.micros, cursor.findingId)

theorem precedes_iff {left right : RuntimeFindingCursor} : left.precedes right = true ↔ left.rank < right.rank := by
  have same : left.createdAt = right.createdAt ↔ left.createdAt.micros = right.createdAt.micros := by
    rw [Instant.mk.injEq]
  unfold precedes rank
  rw [Prod.Lex.toLex_lt_toLex]
  simp only [Bool.or_eq_true, Bool.and_eq_true, decide_eq_true_eq, same, Instant.lt_def]

theorem not_precedes_iff {left right : RuntimeFindingCursor} :
    left.precedes right = false ↔ right.rank ≤ left.rank := by
  rw [← Bool.not_eq_true, precedes_iff, not_lt]

end RuntimeFindingCursor

namespace FindingStore

/-- What comes after a cursor in descending order. -/
def beyond (cursor : Option RuntimeFindingCursor) (key : RuntimeFindingCursor) : Bool :=
  cursor.all fun reached => key.precedes reached

/-- The matches of a page, latest first. -/
def pageMatches (store : FindingStore) (status : FindingStatus) (organizationId : String) (projectId : Option String)
    (cursor : Option RuntimeFindingCursor) : List RuntimeFinding :=
  (store.byId.values.filter fun finding =>
    inScope organizationId projectId finding && finding.record.status = status &&
      beyond cursor (pageKey finding)).insertionSort fun left right => (pageKey left).precedes (pageKey right) = false

/-- `page_by_status`. -/
def pageByStatus (store : FindingStore) (status : FindingStatus) (organizationId : String)
    (projectId : Option String) (cursor : Option RuntimeFindingCursor) (limit : Nat) :
    List RuntimeFinding × Option RuntimeFindingCursor :=
  let results := store.pageMatches status organizationId projectId cursor
  let items := results.take limit
  (items, if limit < results.length then items.getLast?.map pageKey else none)

/-! ## Lookups -/

theorem get?_save (store : FindingStore) (finding : RuntimeFinding) (findingId : String) :
    (store.save finding).byId.get? findingId =
      if findingId = finding.record.findingId then some finding else store.byId.get? findingId :=
  Dict.get?_set ..

variable {store : FindingStore} {finding : RuntimeFinding}

theorem mem_values : finding ∈ store.byId.values ↔ store.byId.get? finding.record.findingId = some finding := by
  rw [Dict.mem_values_iff]
  constructor
  · rintro ⟨findingId, found⟩
    rw [store.keyed found]
    exact found
  · exact fun found => ⟨_, found⟩

variable {projectId : Option String} {organizationId : String}

theorem get_eq_some {findingId : String} (found : store.get findingId organizationId projectId = some finding) :
    store.byId.get? findingId = some finding := by
  unfold get at found
  have member := List.mem_of_find?_eq_some found
  have passes := List.find?_some found
  simp only [Bool.and_eq_true, decide_eq_true_eq] at passes
  rw [← passes.1]
  exact mem_values.mp member

variable {limit : Nat} {status : FindingStatus} {cursor : Option RuntimeFindingCursor}

theorem mem_pageByStatus (member : finding ∈ (store.pageByStatus status organizationId projectId cursor limit).1) :
    store.byId.get? finding.record.findingId = some finding ∧ inScope organizationId projectId finding = true ∧
      finding.record.status = status ∧ beyond cursor (pageKey finding) = true := by
  have found := List.mem_of_mem_take member
  unfold pageMatches at found
  rw [List.mem_insertionSort, List.mem_filter] at found
  simp only [Bool.and_eq_true, decide_eq_true_eq] at found
  exact ⟨mem_values.mp found.1, found.2.1.1, found.2.1.2, found.2.2⟩

theorem nodup_pageByStatus : (store.pageByStatus status organizationId projectId cursor limit).1.Nodup := by
  have distinct : store.byId.values.Nodup := Dict.nodup_values_of_keyed (·.record.findingId) store.keyed
  unfold pageByStatus pageMatches
  refine List.Nodup.sublist (List.take_sublist _ _) ?_
  exact (List.perm_insertionSort _ _).nodup_iff.mpr (distinct.filter _)

theorem beyond_trans {reached key : RuntimeFindingCursor} (first : beyond cursor reached = true)
    (second : beyond (some reached) key = true) : beyond cursor key = true := by
  cases cursor with
  | none => rfl
  | some cursor =>
    exact RuntimeFindingCursor.precedes_iff.mpr
      ((RuntimeFindingCursor.precedes_iff.mp second).trans (RuntimeFindingCursor.precedes_iff.mp first))

theorem not_beyond_self (key : RuntimeFindingCursor) : beyond (some key) key = false :=
  RuntimeFindingCursor.not_precedes_iff.mpr le_rfl

/-- A page ends at its cursor: the cursor is the key of an item, and no item lies beyond it. -/
theorem pageByStatus_cursor {next : RuntimeFindingCursor}
    (ended : (store.pageByStatus status organizationId projectId cursor limit).2 = some next) :
    (∃ item ∈ (store.pageByStatus status organizationId projectId cursor limit).1, pageKey item = next) ∧
      ∀ item ∈ (store.pageByStatus status organizationId projectId cursor limit).1,
        beyond (some next) (pageKey item) = false := by
  have sorted : (store.pageByStatus status organizationId projectId cursor limit).1.Pairwise
      fun left right => (pageKey left).precedes (pageKey right) = false := by
    unfold pageByStatus pageMatches
    refine List.Pairwise.sublist (List.take_sublist _ _) ?_
    have total : Std.Total fun left right : RuntimeFinding => (pageKey left).precedes (pageKey right) = false :=
      ⟨fun left right => by
        simp only [RuntimeFindingCursor.not_precedes_iff]
        exact le_total _ _⟩
    have trans : IsTrans RuntimeFinding fun left right => (pageKey left).precedes (pageKey right) = false :=
      ⟨fun left middle right first second => by
        rw [RuntimeFindingCursor.not_precedes_iff] at first second ⊢
        exact second.trans first⟩
    exact List.pairwise_insertionSort _ _
  generalize page : (store.pageByStatus status organizationId projectId cursor limit).1 = items at sorted ⊢
  have last : items.getLast?.map pageKey = some next := by
    rw [← page]
    unfold pageByStatus at ended ⊢
    dsimp only at ended ⊢
    split at ended
    · exact ended
    · cases ended
  rw [Option.map_eq_some_iff] at last
  obtain ⟨final, final?, rfl⟩ := last
  obtain ⟨before, rfl⟩ := List.getLast?_eq_some_iff.mp final?
  refine ⟨⟨final, by simp, rfl⟩, fun item member => ?_⟩
  rw [List.mem_append, List.mem_singleton] at member
  cases member with
  | inl earlier => exact (List.pairwise_append.mp sorted).2.2 item earlier final (by simp)
  | inr same =>
    subst same
    exact not_beyond_self _

/-- The keys of the stored findings. -/
def pageKeys (store : FindingStore) : List RuntimeFindingCursor := store.byId.values.map pageKey

/-- A finding saved over one with its key keeps the keys. -/
theorem pageKeys_save {old : RuntimeFinding} (present : store.byId.get? finding.record.findingId = some old)
    (same : pageKey finding = pageKey old) : (store.save finding).pageKeys = store.pageKeys := by
  obtain ⟨before, after, shape, written⟩ := Dict.values_set_of_present present
  unfold pageKeys save
  simp only [written, shape, List.map_append, List.map_cons, same]

/-- How many stored findings lie beyond a cursor. -/
def remaining (store : FindingStore) (cursor : Option RuntimeFindingCursor) : Nat :=
  (store.pageKeys.toFinset.filter fun key => beyond cursor key = true).card

theorem remaining_lt {next : FindingStore} {reached : RuntimeFindingCursor} (keys : next.pageKeys = store.pageKeys)
    (stored : reached ∈ store.pageKeys) (further : beyond cursor reached = true) :
    next.remaining (some reached) < store.remaining cursor := by
  unfold remaining
  rw [keys]
  refine Finset.card_lt_card (Finset.ssubset_iff_subset_ne.mpr ⟨fun key member => ?_, fun same => ?_⟩)
  · rw [Finset.mem_filter] at member ⊢
    exact ⟨member.1, beyond_trans further member.2⟩
  · have member : reached ∈ store.pageKeys.toFinset.filter fun key => beyond cursor key = true := by
      rw [Finset.mem_filter, List.mem_toFinset]
      exact ⟨stored, further⟩
    rw [← same, Finset.mem_filter, not_beyond_self] at member
    exact absurd member.2 (by decide)

end FindingStore

end AiGovernance.Findings
