import AiGovernance.Jobs.Moves
import AiGovernance.Repositories.SqliteJobs
import AiGovernance.Std.Ordered
import Mathlib.Data.List.Perm.Basic

/-!
# Which queued job a claim takes

`acquire_next_queued_job` of both stores against one rule: the first queued job
by creation time and identifier that passes the filters. The in-memory store
filters a page of a hundred; the SQL text treats a type without operations and
an operation that is not text differently. `claim_selection_iff` says for which
contents and filters both keep the rule.
-/

namespace AiGovernance.Jobs

open AiGovernance.Std Domain Repositories JobStore JobTable List
open Semantics JobPersistenceMapper Ordered

/-! ## The two orders -/

instance : Std.Total JobStore.listedBefore := ⟨by
  intro left right
  simp only [JobStore.listedBefore, Instant.lt_def]
  rcases Nat.lt_trichotomy left.record.createdAt.micros right.record.createdAt.micros with
    less | same | greater
  · exact Or.inl (Or.inl less)
  · have equal : left.record.createdAt = right.record.createdAt := by
      cases first : left.record.createdAt
      cases second : right.record.createdAt
      rw [first, second] at same
      exact congrArg Instant.mk same
    rcases le_total left.record.jobId right.record.jobId with before | after
    · exact Or.inl (Or.inr ⟨equal, before⟩)
    · exact Or.inr (Or.inr ⟨equal.symm, after⟩)
  · exact Or.inr (Or.inl greater)⟩

instance : IsTrans Job JobStore.listedBefore := ⟨by
  intro first second third left right
  simp only [JobStore.listedBefore, Instant.lt_def] at *
  rcases left with less | ⟨same, before⟩ <;> rcases right with later | ⟨equal, after⟩
  · exact Or.inl (Nat.lt_trans less later)
  · exact Or.inl (by rw [← equal]; exact less)
  · exact Or.inl (by rw [same]; exact later)
  · exact Or.inr ⟨same.trans equal, le_trans before after⟩⟩

variable {right left : Job} {workerId : String} {leaseSeconds : Int} {now : Instant}

theorem listedBefore_antisymm (before : listedBefore left right) (after : listedBefore right left) :
    left.record.jobId = right.record.jobId := by
  simp only [listedBefore, Instant.lt_def] at before after
  rcases before with less | ⟨same, le⟩ <;> rcases after with later | ⟨equal, ge⟩
  · omega
  · rw [equal] at less
    exact absurd less (Nat.lt_irrefl _)
  · rw [same] at later
    exact absurd later (Nat.lt_irrefl _)
  · exact le_antisymm le ge

instance (offset : Instant.Offset) : Std.Total (JobTable.rowBefore offset) := ⟨by
  intro left right
  rcases lt_trichotomy (offset.isoformat left.createdAt) (offset.isoformat right.createdAt) with
    less | same | greater
  · exact Or.inl (Or.inl less)
  · rcases le_total left.jobId right.jobId with before | after
    · exact Or.inl (Or.inr ⟨same, before⟩)
    · exact Or.inr (Or.inr ⟨same.symm, after⟩)
  · exact Or.inr (Or.inl greater)⟩

instance (offset : Instant.Offset) : IsTrans JobRecord (JobTable.rowBefore offset) := ⟨by
  intro first second third left right
  rcases left with less | ⟨same, before⟩ <;> rcases right with later | ⟨equal, after⟩
  · exact Or.inl (lt_trans less later)
  · exact Or.inl (by rw [← equal]; exact less)
  · exact Or.inl (by rw [same]; exact later)
  · exact Or.inr ⟨same.trans equal, le_trans before after⟩⟩

theorem rowBefore_antisymm {offset : Instant.Offset} {left right : JobRecord}
    (before : rowBefore offset left right) (after : rowBefore offset right left) :
    left.jobId = right.jobId := by
  rcases before with less | ⟨same, le⟩ <;> rcases after with later | ⟨equal, ge⟩
  · exact absurd less (lt_asymm later)
  · rw [equal] at less
    exact absurd less (lt_irrefl _)
  · rw [same] at later
    exact absurd later (lt_irrefl _)
  · exact le_antisymm le ge

/-- At one offset the text order of the rows is the order of the jobs. -/
theorem rowBefore_iff {offset : Instant.Offset} (leftReads : offset.Reads left.record.createdAt)
    (rightReads : offset.Reads right.record.createdAt) :
    rowBefore offset (toPersistenceRecord left) (toPersistenceRecord right) ↔
      listedBefore left right := by
  simp only [rowBefore, listedBefore, toPersistenceRecord]
  rw [Instant.Offset.isoformat_lt_iff leftReads rightReads,
    Instant.Offset.isoformat_inj leftReads rightReads]

/-! ## The rule -/

section Rule

variable (primitives : Primitives) (compact : Json → String) (filter : ClaimFilter)

/-- A queued job that passes both filters. -/
def Matches (job : Job) : Bool :=
  job.record.status = .queued && JobStore.passesTypes filter job &&
    JobStore.passesOperations primitives filter job

/-- The job with the least `(created_at, job_id)` among those that match. -/
def IsNext (store : JobStore) (job : Job) : Prop :=
  Leads JobStore.listedBefore (store.byId.values.filter (Matches primitives filter)) job

/-- Saving a stored job again is not refused: its idempotency key leads back to it. -/
def Filed (store : JobStore) : Prop :=
  ∀ job ∈ store.byId.values, store.findByIdempotencyKey job.record.jobType job.record.idempotencyKey
    (job.record.executionContext.map (·.organizationId))
    (job.record.executionContext.map (·.projectId)) = some job

/-- The filter as the SQL text applies it. -/
def sqlMatches (row : JobRecord) : Bool :=
  row.status = .queued && (filter.jobTypes.getD [] = [] || row.jobType ∈ filter.jobTypes.getD []) &&
    match filter.jobOperations with
    | none => true
    | some jobOperations =>
      jobOperations.entries = [] ||
        match jobOperations.get? row.jobType with
        | none => filter.jobTypes.getD [] ≠ []
        | some allowed => (JobTable.extractedText compact row).any (· ∈ allowed)

/-- The SQL text has an operation clause whenever operations are given: an unrestricted
type or a type with operations. -/
def Written : Prop :=
  ∀ jobOperations, filter.jobOperations = some jobOperations → jobOperations.entries ≠ [] →
    (∃ jobType ∈ filter.jobTypes.getD [], jobOperations.get? jobType = none) ∨
      ∃ entry ∈ jobOperations.entries, entry.2 ≠ []

/-- The SQL filter treats a job of a wanted type as the in-memory filter does: a type
without operations is among the types given, and the operation read as SQL text is
allowed exactly when the operation printed as text is. -/
def FiltersAgree (job : Job) : Prop :=
  JobStore.passesTypes filter job = true →
    ∀ jobOperations, filter.jobOperations = some jobOperations → jobOperations.entries ≠ [] →
      match jobOperations.get? job.record.jobType with
      | none => filter.jobTypes.getD [] ≠ []
      | some allowed =>
        (JobTable.extractedText compact (toPersistenceRecord job)).any (· ∈ allowed) =
          decide (JobStore.operationText primitives job ∈ allowed)

end Rule

/-! ## The SQL filter -/

theorem passesTypes_eq (filter : ClaimFilter) (job : Job) :
    passesTypes filter job =
      (filter.jobTypes.getD [] = [] || job.record.jobType ∈ filter.jobTypes.getD [] : Bool) := by
  unfold passesTypes
  split <;> simp_all

/-- A row satisfies some operation clause exactly when its type is unrestricted and
listed, or its operation is among those of its type. -/
theorem any_operationClauses (compact : Json → String) (jobTypes : List JobType)
    (jobOperations : Dict JobType (List String)) (row : JobRecord) :
    ((operationClauses compact jobTypes jobOperations).any (· row) = true) ↔
      match jobOperations.get? row.jobType with
      | none => row.jobType ∈ jobTypes
      | some allowed => (extractedText compact row).any (· ∈ allowed) = true := by
  have unrestricted : ((if (jobTypes.filter fun jobType => (jobOperations.get? jobType).isNone) = []
        then [] else [fun row : JobRecord => decide (row.jobType ∈ jobTypes.filter fun jobType =>
          (jobOperations.get? jobType).isNone)]).any (· row) = true) ↔
      row.jobType ∈ jobTypes ∧ jobOperations.get? row.jobType = none := by
    split
    · rename_i none
      simp only [any_nil, Bool.false_eq_true, false_iff]
      rintro ⟨member, absent⟩
      have listed : row.jobType ∈ jobTypes.filter fun jobType => (jobOperations.get? jobType).isNone :=
        mem_filter.mpr ⟨member, by simp [absent]⟩
      rw [none] at listed
      cases listed
    · simp [mem_filter]
  have restricted : ((jobOperations.entries.filterMap fun entry =>
        if entry.2 = [] then none
        else some fun row : JobRecord =>
          row.jobType = entry.1 && (extractedText compact row).any (· ∈ entry.2)).any
            (· row) = true) ↔
      ∃ allowed, jobOperations.get? row.jobType = some allowed ∧
        (extractedText compact row).any (· ∈ allowed) = true := by
    rw [any_eq_true]
    constructor
    · rintro ⟨clause, member, holds⟩
      obtain ⟨entry, inside, shape⟩ := mem_filterMap.mp member
      split at shape
      · cases shape
      · obtain rfl := Option.some.inj shape
        simp only [Bool.and_eq_true, decide_eq_true_eq] at holds
        refine ⟨entry.2, ?_, holds.2⟩
        rw [holds.1]
        exact Dict.get?_of_mem inside
    · rintro ⟨allowed, found, holds⟩
      have nonempty : allowed ≠ [] := by
        rintro rfl
        simp at holds
      refine ⟨_, mem_filterMap.mpr ⟨_, Dict.mem_of_get? found, if_neg nonempty⟩, ?_⟩
      simp only [decide_true, Bool.true_and]
      exact holds
  simp only [operationClauses, any_append, Bool.or_eq_true]
  rw [unrestricted, restricted]
  cases jobOperations.get? row.jobType with
  | none => simp
  | some allowed => simp

/-- Without an operation clause the statement has empty parentheses. -/
theorem operationClauses_eq_nil_iff (compact : Json → String) (jobTypes : List JobType)
    (jobOperations : Dict JobType (List String)) :
    operationClauses compact jobTypes jobOperations = [] ↔
      ¬ ((∃ jobType ∈ jobTypes, jobOperations.get? jobType = none) ∨
        ∃ entry ∈ jobOperations.entries, entry.2 ≠ []) := by
  simp only [operationClauses, append_eq_nil_iff, filterMap_eq_nil_iff,
    filter_eq_nil_iff, ite_eq_left_iff]
  simp

theorem claimClause_of_written (compact : Json → String) {filter : ClaimFilter}
    (written : Written filter) :
    ∃ clause, claimClause compact filter = .ok clause ∧
      ∀ row, clause row = sqlMatches compact filter row := by
  unfold claimClause sqlMatches
  cases given : filter.jobOperations with
  | none => exact ⟨_, rfl, fun row => by simp⟩
  | some jobOperations =>
    simp only
    by_cases empty : jobOperations.entries = []
    · rw [if_pos empty]
      exact ⟨_, rfl, fun row => by simp [empty]⟩
    · rw [if_neg empty]
      split
      · rename_i none
        exact absurd (written jobOperations given empty)
          ((operationClauses_eq_nil_iff compact _ jobOperations).mp none)
      · refine ⟨_, rfl, fun row => ?_⟩
        have any := any_operationClauses compact (filter.jobTypes.getD []) jobOperations row
        rw [Bool.eq_iff_iff]
        simp only [Bool.and_eq_true, empty, decide_false, Bool.false_or]
        refine and_congr_right fun typed => any.trans ?_
        cases jobOperations.get? row.jobType with
        | none =>
          simp only [Bool.or_eq_true, decide_eq_true_eq] at typed
          simp only [decide_eq_true_eq]
          constructor
          · exact fun member => ne_nil_of_mem member
          · exact fun nonempty => typed.2.resolve_left nonempty
        | some allowed => rfl

theorem claimClause_of_not_written (compact : Json → String) {filter : ClaimFilter}
    (broken : ¬ Written filter) :
    claimClause compact filter = .error emptyParentheses := by
  unfold Written at broken
  push Not at broken
  obtain ⟨jobOperations, given, nonempty, noType, noEntry⟩ := broken
  have empty : operationClauses compact (filter.jobTypes.getD []) jobOperations = [] := by
    rw [operationClauses_eq_nil_iff]
    rintro (⟨jobType, member, absent⟩ | ⟨entry, member, some⟩)
    · exact noType jobType member absent
    · exact some (noEntry entry member)
  unfold claimClause
  simp only [given, if_neg nonempty, empty]

/-! ## The in-memory claim -/

/-- A claim raises the attempts of a job and touches no other checked field. -/
theorem acquired_valid {record : JobRecord} (valid : record.violation = none) (workerId : String)
    (leaseSeconds : Int) (now : Instant) :
    (acquired workerId leaseSeconds now record).violation = none := by
  simp only [JobRecord.violation, firstViolation_eq_none, mem_cons, not_mem_nil,
    or_false, forall_eq_or_imp, forall_eq, rejectIf_eq_none, decide_eq_false_iff_not,
    acquired] at valid ⊢
  obtain ⟨jobId, inputHash, idempotencyKey, submittedBy, attempts, maxAttempts⟩ := valid
  refine ⟨jobId, inputHash, idempotencyKey, submittedBy, ?_, ?_⟩
  · exact decide_eq_false (by omega)
  · exact decide_eq_false maxAttempts

theorem values_nodup (store : JobStore) : store.byId.values.Nodup :=
  Dict.nodup_values_of_keyed (·.record.jobId) store.keyed

theorem sameId_eq {store : JobStore} (inLeft : left ∈ store.byId.values) (inRight : right ∈ store.byId.values)
    (same : left.record.jobId = right.record.jobId) : left = right := by
  obtain ⟨leftId, foundLeft⟩ := (Dict.mem_values_iff _ _).mp inLeft
  obtain ⟨rightId, foundRight⟩ := (Dict.mem_values_iff _ _).mp inRight
  rw [← store.keyed foundLeft] at foundLeft
  rw [← store.keyed foundRight, ← same, foundLeft] at foundRight
  exact Option.some.inj foundRight

/-- A stored job with changed progress fields is saved. -/
theorem Filed.save {store : JobStore} (filed : Filed store) {job claimed : Job}
    (stored : job ∈ store.byId.values) (same : SameIdentity job.record claimed.record) :
    store.save claimed = (.ok (), store.put claimed) := by
  have found := filed job stored
  unfold JobStore.save
  rw [same.jobType, same.idempotencyKey, same.executionContext, found]
  simp [same.jobId, same.inputHash]

section InMemory

variable {primitives : Primitives} {filter : ClaimFilter} {store : JobStore}

/-- The queued jobs in the order of their listing. -/
private def backlog (store : JobStore) : List Job :=
  (store.byId.values.insertionSort JobStore.listedBefore).filter (·.record.status = .queued)

theorem backlog_perm : (backlog store).Perm (store.byId.values.filter (·.record.status = .queued)) :=
  (perm_insertionSort _ _).filter _

variable {job : Job}

theorem mem_backlog (member : job ∈ backlog store) : job ∈ store.byId.values :=
  mem_of_mem_filter ((backlog_perm).mem_iff.mp member)

theorem backlog_matches :
    ((backlog store).filter fun job =>
      passesTypes filter job && passesOperations primitives filter job).Perm
        (store.byId.values.filter (Matches primitives filter)) := by
  refine ((backlog_perm).filter _).trans ?_
  rw [filter_filter]
  refine List.Perm.of_eq (filter_congr fun job _ => ?_)
  simp only [Matches]
  rw [Bool.and_comm, Bool.and_assoc]

theorem nextQueued_eq :
    nextQueued primitives store filter =
      (((backlog store).take 100).filter fun job =>
        passesTypes filter job && passesOperations primitives filter job).head? := by
  unfold nextQueued listByStatus listJobs backlog
  simp [listedIn]

/-- The page holds the next job exactly when fewer than a hundred queued jobs precede it. -/
theorem nextQueued_of_isNext (next : IsNext primitives filter store job) :
    nextQueued primitives store filter =
      if (store.byId.values.filter fun other =>
        other.record.status = .queued ∧ ¬ listedBefore job other).length < 100
      then some job else none := by
  have antisymm : ∀ a ∈ backlog store, ∀ b ∈ backlog store, listedBefore a b →
      listedBefore b a → a = b := fun a inA b inB before after =>
    sameId_eq (mem_backlog inA) (mem_backlog inB) (listedBefore_antisymm before after)
  have nodup : (backlog store).Nodup :=
    (backlog_perm).nodup_iff.mpr ((values_nodup store).filter _)
  have sorted : (backlog store).Pairwise listedBefore :=
    (pairwise_insertionSort _ _).filter _
  rw [nextQueued_eq, head?_filter_take 100 sorted (fun a => (Std.Total.total a a).elim id id) antisymm
    nodup (next.of_perm (backlog_matches).symm)]
  have length : ((backlog store).filter fun other => ¬ listedBefore job other).length =
      (store.byId.values.filter fun other =>
        other.record.status = .queued ∧ ¬ listedBefore job other).length := by
    rw [((backlog_perm).filter _).length_eq, filter_filter]
    congr 2
    funext other
    rw [Bool.eq_iff_iff]
    simp [and_comm]
  rw [length]

theorem nextQueued_matches (found : nextQueued primitives store filter = some job) :
    job ∈ store.byId.values ∧ Matches primitives filter job = true := by
  rw [nextQueued_eq] at found
  have member := mem_filter.mp (mem_of_mem_head? found)
  have listed : job ∈ (backlog store).filter fun job =>
      passesTypes filter job && passesOperations primitives filter job :=
    mem_filter.mpr ⟨mem_of_mem_take member.1, member.2⟩
  exact mem_filter.mp ((backlog_matches).mem_iff.mp listed)

theorem exists_isNext (stored : job ∈ store.byId.values) (matching : Matches primitives filter job = true) :
    ∃ next, IsNext primitives filter store next := by
  cases head : ((store.byId.values.filter (Matches primitives filter)).insertionSort
      listedBefore).head? with
  | none =>
    have member := mem_filter.mpr ⟨stored, matching⟩
    rw [head?_insertionSort_none head] at member
    cases member
  | some next => exact ⟨next, head?_insertionSort_leads head⟩

theorem acquire_some (filed : Filed store) (workerId : String) (leaseSeconds : Int) (now : Instant)
    (found : nextQueued primitives store filter = some job) :
    ∃ claimed, (store.acquireNextQueuedJob primitives workerId leaseSeconds filter now).1 =
        .ok (some claimed) ∧
      claimed.record = acquired workerId leaseSeconds now job.record := by
  have valid := acquired_valid job.valid workerId leaseSeconds now
  have saved : store.save ⟨_, valid⟩ = (.ok (), store.put ⟨_, valid⟩) :=
    filed.save (nextQueued_matches found).1 ⟨rfl, rfl, rfl, rfl, rfl, rfl, rfl⟩
  refine ⟨⟨_, valid⟩, ?_, rfl⟩
  simp only [acquireNextQueuedJob, found, Job.replace, Checked.create_of_valid valid, saved]

end InMemory

/-! ## The SQL claim -/

section Sqlite

variable {compact : Json → String} {filter : ClaimFilter} {table : JobTable} {store : JobStore}

/-- The claim of a selected row: its update counts one row, which is read back. -/
theorem sqlite_acquire_some {row : JobRecord} (valid : row.violation = none) (member : row ∈ table.rows)
    (queued : row.status = .queued) (selected : selectNextQueued compact table filter = .ok (some row)) :
    ∃ claimed, ((SqliteJobRepository.acquireNextQueuedJob workerId leaseSeconds filter now).run
        (execute compact) table).1 = .ok (some claimed) ∧
      claimed.record = acquired workerId leaseSeconds now row := by
  have claimedValid := acquired_valid valid workerId leaseSeconds now
  let change := JobTable.claimed (row.attemptCount + 1) workerId (shifted now leaseSeconds) now
  let taken := table.update (fun other => other.jobId = row.jobId && other.status = .queued) change
  have count : taken.1 = 1 := count_update change member (by simpa using queued)
  have updated : taken.2.find? row.jobId = some (acquired workerId leaseSeconds now row) := by
    rw [find?_update, find?_eq_some_iff.mpr ⟨member, rfl⟩]
    simp only [Option.map_some, decide_true, queued, Bool.and_self, if_true]
    rfl
  have selects : execute compact (.selectNextQueued filter) table = (.ok (some row), table) := by
    rw [← selected]
    rfl
  have updates : execute compact (.updateClaim row.jobId (row.attemptCount + 1) workerId
      (shifted now leaseSeconds) now) table = (.ok 1, taken.2) := by
    rw [← count]
    rfl
  have reads : execute compact (.selectById row.jobId) taken.2 =
      (.ok (some (acquired workerId leaseSeconds now row)), taken.2) := by
    rw [← updated]
    rfl
  refine ⟨⟨_, claimedValid⟩, ?_, rfl⟩
  refine (?_ : Program.Ensures (execute compact) _ table fun result _ => result = _)
  unfold SqliteJobRepository.acquireNextQueuedJob
  refine Program.ensures_read_bind selects (Program.ensures_ofExcept_bind ?_ ?_)
  · intro job loaded
    obtain rfl := Checked.create_eq_ok_iff.mp loaded
    refine Program.ensures_read_bind updates (Program.ensures_read_bind reads ?_)
    simp only [SqliteJobRepository.loaded, fromPersistenceRecord, Checked.create_of_valid claimedValid]
    rfl
  · intro raised broken
    rw [fromPersistenceRecord, Checked.create_of_valid valid] at broken
    cases broken

/-- The job whose row the SQL query finds first. -/
private def SqlNext (compact : Json → String) (filter : ClaimFilter) (store : JobStore) (job : Job) : Prop :=
  Leads JobStore.listedBefore
    (store.byId.values.filter fun job => sqlMatches compact filter (toPersistenceRecord job)) job

/-- The rows of the table are the persisted jobs of the store, with `created_at` at one offset. -/
structure SameContents (store : JobStore) (table : JobTable) : Prop where
  rows : table.rows.Perm (store.byId.values.map toPersistenceRecord)
  dated : ∀ job ∈ store.byId.values, table.offset.Reads job.record.createdAt

variable {job : Job}

theorem selectNextQueued_of_sqlNext (same : SameContents store table) (written : Written filter)
    (next : SqlNext compact filter store job) :
    selectNextQueued compact table filter = .ok (some (toPersistenceRecord job)) := by
  obtain ⟨clause, claims, meaning⟩ := claimClause_of_written compact written
  have member := mem_filter.mp next.1
  unfold selectNextQueued
  rw [claims]
  refine congrArg Except.ok (head?_insertionSort_of_leads ⟨?_, ?_⟩ ?_)
  · rw [mem_filter, meaning]
    exact ⟨same.rows.mem_iff.mpr (mem_map_of_mem member.1), member.2⟩
  · intro row found
    obtain ⟨inside, holds⟩ := mem_filter.mp found
    obtain ⟨other, stored, rfl⟩ := mem_map.mp (same.rows.mem_iff.mp inside)
    rw [meaning] at holds
    exact (rowBefore_iff (same.dated job member.1) (same.dated other stored)).mpr
      (next.2 other (mem_filter.mpr ⟨stored, holds⟩))
  · intro left inLeft right inRight before after
    have leftRow := find?_eq_some_iff.mpr ⟨(mem_filter.mp inLeft).1, rfl⟩
    have rightRow := find?_eq_some_iff.mpr ⟨(mem_filter.mp inRight).1, rfl⟩
    rw [rowBefore_antisymm before after, rightRow] at leftRow
    exact (Option.some.inj leftRow).symm

theorem selectNextQueued_none (same : SameContents store table) (written : Written filter)
    (nothing : ∀ job ∈ store.byId.values, sqlMatches compact filter (toPersistenceRecord job) = false) :
    selectNextQueued compact table filter = .ok none := by
  obtain ⟨clause, claims, meaning⟩ := claimClause_of_written compact written
  have empty : table.rows.filter clause = [] := by
    refine filter_eq_nil_iff.mpr fun row inside => ?_
    obtain ⟨job, stored, rfl⟩ := mem_map.mp (same.rows.mem_iff.mp inside)
    rw [meaning, nothing job stored]
    exact Bool.false_ne_true
  unfold selectNextQueued
  rw [claims]
  simp [Except.map, empty]

/-- The claim of the SQL store on a filter, run on its own. -/
def sqliteClaim (compact : Json → String) (table : JobTable) (workerId : String) (leaseSeconds : Int)
    (filter : ClaimFilter) (now : Instant) : Except Raised (Option Job) :=
  ((SqliteJobRepository.acquireNextQueuedJob workerId leaseSeconds filter now).run
    (JobTable.execute compact) table).1

theorem sqliteClaim_of_sqlNext (same : SameContents store table) (written : Written filter) (workerId : String)
    (leaseSeconds : Int) (now : Instant) (next : SqlNext compact filter store job) :
    ∃ claimed, sqliteClaim compact table workerId leaseSeconds filter now = .ok (some claimed) ∧
      claimed.record = acquired workerId leaseSeconds now (toPersistenceRecord job) := by
  obtain ⟨stored, matching⟩ := mem_filter.mp next.1
  have queued : job.record.status = .queued := by
    simp only [sqlMatches, Bool.and_eq_true, decide_eq_true_eq] at matching
    exact matching.1.1
  exact sqlite_acquire_some job.valid
    (same.rows.mem_iff.mpr (mem_map_of_mem stored)) queued
    (selectNextQueued_of_sqlNext same written next)

theorem sqliteClaim_of_select (workerId : String) (leaseSeconds : Int) (now : Instant)
    {outcome : Except Raised (Option JobRecord)}
    (selected : selectNextQueued compact table filter = outcome) :
    (outcome = .ok none → sqliteClaim compact table workerId leaseSeconds filter now = .ok none) ∧
      ∀ raised, outcome = .error raised →
        sqliteClaim compact table workerId leaseSeconds filter now = .error raised := by
  have selects : execute compact (.selectNextQueued filter) table = (outcome, table) := by
    rw [← selected]
    rfl
  constructor
  · rintro rfl
    refine (?_ : Program.Ensures (execute compact) _ table fun result _ => result = _)
    exact Program.ensures_read_bind selects rfl
  · rintro raised rfl
    refine (?_ : Program.Ensures (execute compact) _ table fun result _ => result = _)
    refine Program.ensures_call_bind ?_ ?_
    · intro answer after answered
      rw [selects] at answered
      cases answered
    · intro exception after answered
      rw [selects] at answered
      cases answered
      rfl

theorem exists_sqlNext (stored : job ∈ store.byId.values)
    (matching : sqlMatches compact filter (toPersistenceRecord job) = true) :
    ∃ next, SqlNext compact filter store next := by
  cases head : ((store.byId.values.filter fun job =>
      sqlMatches compact filter (toPersistenceRecord job)).insertionSort listedBefore).head? with
  | none =>
    have member : job ∈ store.byId.values.filter fun job =>
        sqlMatches compact filter (toPersistenceRecord job) := mem_filter.mpr ⟨stored, matching⟩
    rw [head?_insertionSort_none head] at member
    cases member
  | some next => exact ⟨next, head?_insertionSort_leads head⟩

end Sqlite

/-! ## Where both stores keep the rule -/

section Agreement

variable (primitives : Primitives) (compact : Json → String) (store : JobStore) (table : JobTable)
  (filter : ClaimFilter)

/-- Both stores claim the next job, and report none exactly when nothing matches. -/
structure SelectsNext (workerId : String) (leaseSeconds : Int) (now : Instant) : Prop where
  inMemory : ∀ job, IsNext primitives filter store job →
    ∃ claimed, (store.acquireNextQueuedJob primitives workerId leaseSeconds filter now).1 =
        .ok (some claimed) ∧
      claimed.record = JobStore.acquired workerId leaseSeconds now job.record
  inMemoryNone : (store.acquireNextQueuedJob primitives workerId leaseSeconds filter now).1 = .ok none →
    ∀ job ∈ store.byId.values, Matches primitives filter job = false
  sqlite : ∀ job, IsNext primitives filter store job →
    ∃ claimed, sqliteClaim compact table workerId leaseSeconds filter now = .ok (some claimed) ∧
      claimed.record = JobStore.acquired workerId leaseSeconds now (toPersistenceRecord job)
  sqliteNone : (∀ job ∈ store.byId.values, Matches primitives filter job = false) →
    sqliteClaim compact table workerId leaseSeconds filter now = .ok none

/-- The SQL text is well formed, fewer than a hundred queued jobs precede the next job,
and the filters agree on every queued job up to it. -/
structure SelectionHolds : Prop where
  written : Written filter
  page : ∀ job, IsNext primitives filter store job →
    (store.byId.values.filter fun other =>
      other.record.status = .queued ∧ ¬ JobStore.listedBefore job other).length < 100
  filters : ∀ job ∈ store.byId.values, job.record.status = .queued →
    (∀ next, IsNext primitives filter store next → JobStore.listedBefore job next) →
      FiltersAgree primitives compact filter job

end Agreement

section Agreement

variable {primitives : Primitives} {compact : Json → String} {store : JobStore} {table : JobTable}
  {filter : ClaimFilter}

variable {job : Job}

/-- On a queued job the filters agree exactly when it matches in both stores or in neither. -/
theorem filtersAgree_iff (queued : job.record.status = .queued) :
    FiltersAgree primitives compact filter job ↔
      Matches primitives filter job = sqlMatches compact filter (toPersistenceRecord job) := by
  have status : (toPersistenceRecord job).status = .queued := queued
  have jobType : (toPersistenceRecord job).jobType = job.record.jobType := rfl
  simp only [Matches, sqlMatches, FiltersAgree, queued, status, jobType, ← passesTypes_eq]
  by_cases wanted : passesTypes filter job = true
  · simp only [wanted, decide_true, Bool.true_and, true_implies, passesOperations]
    cases given : filter.jobOperations with
    | none => simp
    | some jobOperations =>
      simp only [Option.some.injEq, forall_eq']
      by_cases empty : jobOperations.entries = []
      · have absent : jobOperations.get? job.record.jobType = none := by
          simp only [Dict.get?, empty, Dict.lookup]
        simp [empty, absent]
      · cases jobOperations.get? job.record.jobType with
        | none => simp [empty]
        | some allowed => simp [empty, eq_comm]
  · simp [wanted]

theorem IsNext.matches (next : IsNext primitives filter store job) :
    job ∈ store.byId.values ∧ Matches primitives filter job = true :=
  mem_filter.mp next.1

theorem Matches.queued (matching : Matches primitives filter job = true) : job.record.status = .queued := by
  simp only [Matches, Bool.and_eq_true, decide_eq_true_eq] at matching
  exact matching.1.1

theorem sqlMatches_queued {row : JobRecord} (matching : sqlMatches compact filter row = true) :
    row.status = .queued := by
  simp only [sqlMatches, Bool.and_eq_true, decide_eq_true_eq] at matching
  exact matching.1.1

theorem IsNext.eq {other : Job} (next : IsNext primitives filter store job)
    (otherNext : IsNext primitives filter store other) : job = other :=
  next.unique otherNext fun _ inA _ inB before after =>
    sameId_eq (mem_of_mem_filter inA) (mem_of_mem_filter inB)
      (listedBefore_antisymm before after)

/-- Where the filters agree up to the next job, the SQL query finds it too. -/
theorem sqlNext_of_isNext (holds : SelectionHolds primitives compact store filter)
    (next : IsNext primitives filter store job) : SqlNext compact filter store job := by
  obtain ⟨stored, matching⟩ := next.matches
  have agree : ∀ other ∈ store.byId.values, other.record.status = .queued →
      listedBefore other job →
      Matches primitives filter other = sqlMatches compact filter (toPersistenceRecord other) := by
    intro other inside queued before
    refine (filtersAgree_iff queued).mp (holds.filters other inside queued fun found foundNext => ?_)
    rw [foundNext.eq next]
    exact before
  refine ⟨mem_filter.mpr ⟨stored, ?_⟩, fun other found => ?_⟩
  · rw [← agree job stored (Matches.queued matching) (next.2 job next.1)]
    exact matching
  · obtain ⟨inside, selected⟩ := mem_filter.mp found
    have queued : (toPersistenceRecord other).status = .queued := sqlMatches_queued selected
    rcases Std.Total.total (r := listedBefore) job other with before | after
    · exact before
    · refine next.2 other (mem_filter.mpr ⟨inside, ?_⟩)
      rw [agree other inside queued after]
      exact selected

/-- A claimed row names the job the query found. -/
theorem sqlNext_of_claim (same : SameContents store table) (written : Written filter) {workerId : String}
    {leaseSeconds : Int} {now : Instant} {claimed : Job} (stored : job ∈ store.byId.values)
    (claims : sqliteClaim compact table workerId leaseSeconds filter now = .ok (some claimed))
    (record : claimed.record = acquired workerId leaseSeconds now (toPersistenceRecord job)) :
    SqlNext compact filter store job := by
  by_cases some : ∃ other ∈ store.byId.values, sqlMatches compact filter (toPersistenceRecord other) = true
  · obtain ⟨other, inside, matching⟩ := some
    obtain ⟨next, isNext⟩ := exists_sqlNext inside matching
    obtain ⟨found, foundClaims, foundRecord⟩ :=
      sqliteClaim_of_sqlNext same written workerId leaseSeconds now isNext
    rw [claims] at foundClaims
    cases foundClaims
    have sameId : job.record.jobId = next.record.jobId := by
      have ids := congrArg JobRecord.jobId (record.symm.trans foundRecord)
      exact ids
    rw [sameId_eq stored (mem_of_mem_filter isNext.1) sameId]
    exact isNext
  · have nothing : ∀ other ∈ store.byId.values,
        sqlMatches compact filter (toPersistenceRecord other) = false := by
      intro other inside
      exact Bool.eq_false_iff.mpr fun matching => some ⟨other, inside, matching⟩
    have none := (sqliteClaim_of_select workerId leaseSeconds now
      (selectNextQueued_none same written nothing)).1 rfl
    rw [claims] at none
    cases none

section Necessary

private theorem SelectsNext.written
    (selects : SelectsNext primitives compact store table filter workerId leaseSeconds now) :
    Written filter := by
  by_contra broken
  have failed : sqliteClaim compact table workerId leaseSeconds filter now =
      .error emptyParentheses := by
    refine (sqliteClaim_of_select workerId leaseSeconds now rfl).2 _ ?_
    unfold selectNextQueued
    rw [claimClause_of_not_written compact broken]
    rfl
  by_cases some : ∃ job ∈ store.byId.values, Matches primitives filter job = true
  · obtain ⟨job, stored, matching⟩ := some
    obtain ⟨next, isNext⟩ := exists_isNext stored matching
    obtain ⟨claimed, claims, -⟩ := selects.sqlite next isNext
    rw [failed] at claims
    cases claims
  · have none := selects.sqliteNone fun job stored =>
      Bool.eq_false_iff.mpr fun matching => some ⟨job, stored, matching⟩
    rw [failed] at none
    cases none

variable {job : Job}

private theorem SelectsNext.page (selects : SelectsNext primitives compact store table filter workerId leaseSeconds now)
    (next : IsNext primitives filter store job) :
    (store.byId.values.filter fun other =>
      other.record.status = .queued ∧ ¬ listedBefore job other).length < 100 := by
  by_contra far
  obtain ⟨claimed, claims, -⟩ := selects.inMemory job next
  simp [acquireNextQueuedJob, (nextQueued_of_isNext next).trans (if_neg far)] at claims

/-- A filter that rejects what precedes the next job and accepts the next job itself. -/
theorem filter_up_to {next : Job} {matching : Bool} (stored : job ∈ store.byId.values)
    (nextStored : next ∈ store.byId.values) (earlier : listedBefore job next)
    (later : matching = true → listedBefore next job) (own : job = next → matching = true) :
    matching = decide (job = next) := by
  by_cases equal : job = next
  · simp [equal, own equal]
  · refine (Bool.eq_false_iff.mpr fun holds => equal ?_).trans (decide_eq_false equal).symm
    exact sameId_eq stored nextStored (listedBefore_antisymm earlier (later holds))

private theorem SelectsNext.filters (same : SameContents store table)
    (selects : SelectsNext primitives compact store table filter workerId leaseSeconds now)
    (stored : job ∈ store.byId.values)
    (before : ∀ next, IsNext primitives filter store next → listedBefore job next) :
    Matches primitives filter job = sqlMatches compact filter (toPersistenceRecord job) := by
  have written := selects.written
  by_cases some : ∃ job ∈ store.byId.values, Matches primitives filter job = true
  · obtain ⟨witness, inside, matching⟩ := some
    obtain ⟨next, isNext⟩ := exists_isNext inside matching
    obtain ⟨claimed, claims, record⟩ := selects.sqlite next isNext
    have sqlNext := sqlNext_of_claim same written isNext.matches.1 claims record
    have earlier := before next isNext
    have nextStored := isNext.matches.1
    rw [filter_up_to stored nextStored earlier
        (fun holds => isNext.2 job (mem_filter.mpr ⟨stored, holds⟩))
        (fun equal => by rw [equal]; exact isNext.matches.2),
      filter_up_to stored nextStored earlier
        (fun holds => sqlNext.2 job (mem_filter.mpr ⟨stored, holds⟩))
        (fun equal => by rw [equal]; exact (mem_filter.mp sqlNext.1).2)]
  · have nothing : ∀ job ∈ store.byId.values, Matches primitives filter job = false :=
      fun job stored => Bool.eq_false_iff.mpr fun matching => some ⟨job, stored, matching⟩
    rw [nothing job stored]
    refine (Bool.eq_false_iff.mpr fun matching => ?_).symm
    obtain ⟨next, isNext⟩ := exists_sqlNext stored matching
    obtain ⟨claimed, claims, -⟩ :=
      sqliteClaim_of_sqlNext same written workerId leaseSeconds now isNext
    rw [selects.sqliteNone nothing] at claims
    cases claims

end Necessary

theorem SelectionHolds.nothing (holds : SelectionHolds primitives compact store filter)
    (nothing : ∀ job ∈ store.byId.values, Matches primitives filter job = false) (stored : job ∈ store.byId.values) :
    sqlMatches compact filter (toPersistenceRecord job) = false := by
  refine Bool.eq_false_iff.mpr fun matching => ?_
  have queued : (toPersistenceRecord job).status = .queued := sqlMatches_queued matching
  have agree := (filtersAgree_iff queued).mp (holds.filters job stored queued fun next isNext => by
    have wrong := isNext.matches
    rw [nothing next wrong.1] at wrong
    cases wrong.2)
  rw [nothing job stored, matching] at agree
  cases agree

/-- Both stores keep the rule on exactly the contents and filters of `SelectionHolds`. -/
theorem claim_selection_iff (filed : Filed store) (same : SameContents store table)
    (workerId : String) (leaseSeconds : Int) (now : Instant) :
    SelectsNext primitives compact store table filter workerId leaseSeconds now ↔
      SelectionHolds primitives compact store filter := by
  constructor
  · intro selects
    refine ⟨selects.written, fun job next => selects.page next, ?_⟩
    exact fun job stored queued before =>
      (filtersAgree_iff queued).mpr (selects.filters same stored before)
  · intro holds
    have inMemory : ∀ job, IsNext primitives filter store job →
        ∃ claimed, (store.acquireNextQueuedJob primitives workerId leaseSeconds filter now).1 =
            .ok (some claimed) ∧
          claimed.record = acquired workerId leaseSeconds now job.record := fun job next =>
      acquire_some filed workerId leaseSeconds now
        ((nextQueued_of_isNext next).trans (if_pos (holds.page job next)))
    refine ⟨inMemory, fun none job stored => ?_, fun job next => ?_, fun nothing => ?_⟩
    · refine Bool.eq_false_iff.mpr fun matching => ?_
      obtain ⟨next, isNext⟩ := exists_isNext stored matching
      obtain ⟨claimed, claims, -⟩ := inMemory next isNext
      rw [none] at claims
      cases claims
    · exact sqliteClaim_of_sqlNext same holds.written workerId leaseSeconds now
        (sqlNext_of_isNext holds next)
    · exact (sqliteClaim_of_select workerId leaseSeconds now
        (selectNextQueued_none same holds.written fun job stored => holds.nothing nothing stored)).1 rfl

end Agreement

/-! ## Two backlogs -/

/-- A queued job of a type, with its operation. -/
def queuedSample (jobId : String) (jobType : JobType) (operation : String) (createdAt : Instant)
    (named : Text.isBlank jobId = false) : Job where
  record :=
    { jobId := jobId, jobType := jobType, status := .queued
      inputRefs := [("operation", .str operation)], inputHash := "hash-1", idempotencyKey := jobId
      submittedBy := "analyst-1", attemptCount := 0, maxAttempts := 3, resultRef := none
      failureReason := none, leasedBy := none, leaseExpiresAt := none, heartbeatAt := none
      createdAt := createdAt, updatedAt := createdAt, startedAt := none, completedAt := none
      executionContext := none }
  valid := by
    have filled : Text.isBlank "hash-1" = false ∧ Text.isBlank "analyst-1" = false := by decide
    simp [JobRecord.violation, requireJobText, named, filled]

/-- Jobs filed in the order they are given. -/
def filedStore (jobs : List Job) : JobStore := jobs.foldl JobStore.put .empty

/-- Their rows, written in UTC. -/
def utcTable (jobs : List Job)
    (distinct : (jobs.map toPersistenceRecord).Pairwise fun left right => ¬ Clashes left right) : JobTable :=
  ⟨jobs.map toPersistenceRecord, .utc, distinct⟩

/-- The minified JSON of the samples; none of their operations is an array or object. -/
def compactSample : Json → String := fun _ => ""

/-- The samples compute no digest. -/
def plainPrimitives : Primitives := .tabulated [] [] Primitives.noTexts Primitives.noValues

/-- An extension job and an older evaluation job. -/
def mixedJobs : List Job :=
  [queuedSample "job-2" .extension "drift.scan" ⟨2000000⟩ (by decide),
    queuedSample "job-1" .evaluation "evaluate" ⟨1000000⟩ (by decide)]

/-- The rows of the two jobs. -/
def mixedTable : JobTable := utcTable mixedJobs (by decide +kernel)

theorem mixed_filed : Filed (filedStore mixedJobs) := by
  unfold Filed
  decide +kernel

theorem mixed_same : SameContents (filedStore mixedJobs) mixedTable :=
  ⟨List.Perm.refl _, by decide +kernel⟩

/-- Claim only `drift.scan` of the extension type. -/
def scanOnly (jobTypes : Option (List JobType)) : ClaimFilter :=
  ⟨jobTypes, some (Dict.empty.set .extension ["drift.scan"])⟩

/-- With the type listed, both stores claim the extension job. -/
theorem claim_selection_listed :
    Filed (filedStore mixedJobs) ∧ SameContents (filedStore mixedJobs) mixedTable ∧
      SelectsNext plainPrimitives compactSample (filedStore mixedJobs) mixedTable
        (scanOnly (some [.extension])) "worker-1" 300 ⟨3000000⟩ := by
  refine ⟨mixed_filed, mixed_same, (claim_selection_iff mixed_filed mixed_same _ _ _).mpr ⟨?_, ?_, ?_⟩⟩
  · rintro jobOperations given -
    obtain rfl := Option.some.inj given
    exact Or.inr ⟨(.extension, ["drift.scan"]), by decide, by decide⟩
  · exact fun job _ => Nat.lt_of_le_of_lt (length_filter_le _ _) (by decide)
  · have agree : ∀ job ∈ (filedStore mixedJobs).byId.values,
        Matches plainPrimitives (scanOnly (some [.extension])) job =
          sqlMatches compactSample (scanOnly (some [.extension])) (toPersistenceRecord job) := by
      decide +kernel
    exact fun job stored queued _ => (filtersAgree_iff queued).mpr (agree job stored)

/-- Without a type listed, the in-memory store claims the older evaluation job, which has
no operations to satisfy, and the SQL store the extension job. -/
theorem claim_selection_unlisted :
    Filed (filedStore mixedJobs) ∧ SameContents (filedStore mixedJobs) mixedTable ∧
      ¬ SelectsNext plainPrimitives compactSample (filedStore mixedJobs) mixedTable
        (scanOnly none) "worker-1" 300 ⟨3000000⟩ := by
  refine ⟨mixed_filed, mixed_same, fun selects => ?_⟩
  have next : IsNext plainPrimitives (scanOnly none) (filedStore mixedJobs) mixedJobs[1] := by
    unfold IsNext Leads
    decide +kernel
  obtain ⟨claimed, claims, record⟩ := selects.sqlite _ next
  have other : (sqliteClaim compactSample mixedTable "worker-1" 300 (scanOnly none) ⟨3000000⟩).toOption.bind
      (·.map (·.record.jobId)) = some "job-2" := by
    decide +kernel
  rw [claims] at other
  have ids : claimed.record.jobId = "job-1" := by
    rw [record]
    rfl
  simp [Except.toOption, ids] at other

end AiGovernance.Jobs
