import AiGovernance.Repositories.Jobs
import AiGovernance.Semantics.Program
import AiGovernance.Std.Offset
import Mathlib.Data.List.Pairwise

/-!
# The SQLite job store

`SQLiteJobRepository` as programs over single SQL statements on the
`job_execution` table. A row is the record the mapper writes and reads back:
`input_refs_json` has its keys sorted, and reading checks the job again.
`created_at` is ordered as text, written at the offset of the table. Each
statement takes effect as a whole; the engine's own limits on the size of a
statement are not modelled.
-/

namespace AiGovernance.Repositories

open AiGovernance.Std Domain Semantics

namespace JobPersistenceMapper

/-- `to_persistence_record`. -/
def toPersistenceRecord (job : Job) : JobRecord :=
  { job.record with inputRefs := Json.sortFields job.record.inputRefs }

/-- `from_persistence_record`. -/
def fromPersistenceRecord (row : JobRecord) : Except Raised Job := Checked.create row

end JobPersistenceMapper

/-- `UNIQUE (organization_id, project_id, job_type, idempotency_key)`; a row without
context has the default tenant. -/
def uniqueKey (row : JobRecord) : String × String × JobType × String :=
  ((row.executionContext.map (·.organizationId)).getD "org_default",
    (row.executionContext.map (·.projectId)).getD "project_default", row.jobType, row.idempotencyKey)

/-- Two rows that a primary key or the unique constraint keeps apart. -/
def Clashes (left right : JobRecord) : Prop :=
  left.jobId = right.jobId ∨ uniqueKey left = uniqueKey right

instance (left right : JobRecord) : Decidable (Clashes left right) := inferInstanceAs (Decidable (_ ∨ _))

/-- The rows of `job_execution` and the offset its `created_at` texts are written at. -/
structure JobTable where
  rows : List JobRecord
  offset : Instant.Offset
  distinct : rows.Pairwise fun left right => ¬ Clashes left right

namespace JobTable

/-- `WHERE job_id = ?`. -/
def find? (table : JobTable) (jobId : String) : Option JobRecord :=
  table.rows.find? (·.jobId = jobId)

/-- `INSERT OR REPLACE`: the rows the new one clashes with are deleted first. -/
def insertOrReplace (table : JobTable) (row : JobRecord) : JobTable where
  rows := table.rows.filter (fun other => ¬ Clashes other row) ++ [row]
  offset := table.offset
  distinct := by
    refine List.pairwise_append.mpr ⟨table.distinct.filter _, List.pairwise_singleton _ _, ?_⟩
    intro other member same isRow
    rw [List.mem_singleton.mp isRow]
    simpa using (List.mem_filter.mp member).2

/-- An assignment list that changes neither key. -/
structure Assignment where
  assign : JobRecord → JobRecord
  keepsId : ∀ row, (assign row).jobId = row.jobId
  keepsKey : ∀ row, uniqueKey (assign row) = uniqueKey row

/-- `UPDATE … SET … WHERE …`, with the number of rows changed. -/
def update (table : JobTable) (condition : JobRecord → Bool) (change : Assignment) : Nat × JobTable :=
  ((table.rows.filter condition).length,
    { rows := table.rows.map fun row => if condition row then change.assign row else row
      offset := table.offset
      distinct := by
        refine List.pairwise_map.mpr (table.distinct.imp fun {left right} apart => ?_)
        have keeps : ∀ row, (if condition row then change.assign row else row).jobId = row.jobId ∧
            uniqueKey (if condition row then change.assign row else row) = uniqueKey row := by
          intro row
          split
          · exact ⟨change.keepsId row, change.keepsKey row⟩
          · exact ⟨rfl, rfl⟩
        simp only [Clashes, (keeps left).1, (keeps left).2, (keeps right).1, (keeps right).2]
        exact apart })

variable {row : JobRecord}

theorem filter_jobId {rows : List JobRecord} (distinct : rows.Pairwise fun left right => ¬ Clashes left right)
    (member : row ∈ rows) : (rows.filter fun other => other.jobId = row.jobId) = [row] := by
  induction rows with
  | nil => cases member
  | cons first rest ih =>
    rw [List.pairwise_cons] at distinct
    rcases List.mem_cons.mp member with rfl | later
    · have others : (rest.filter fun other => other.jobId = row.jobId) = [] := by
        refine List.filter_eq_nil_iff.mpr fun other inside => ?_
        have apart := distinct.1 other inside
        simp only [Clashes, not_or] at apart
        simpa using Ne.symm apart.1
      rw [List.filter_cons_of_pos (by simp), others]
    · have apart := distinct.1 row later
      simp only [Clashes, not_or] at apart
      rw [List.filter_cons_of_neg (by simpa using apart.1)]
      exact ih distinct.2 later

variable {table : JobTable}

theorem find?_eq_some_iff {jobId : String} : table.find? jobId = some row ↔ row ∈ table.rows ∧ row.jobId = jobId := by
  constructor
  · intro found
    exact ⟨List.mem_of_find?_eq_some found, by simpa using List.find?_some found⟩
  · rintro ⟨member, rfl⟩
    rw [find?, ← List.head?_filter, filter_jobId table.distinct member]
    rfl

/-- Different rows share neither key. -/
theorem not_clashes {left right : JobRecord} (inLeft : left ∈ table.rows) (inRight : right ∈ table.rows)
    (different : left ≠ right) : ¬ Clashes left right := by
  have symmetric : Std.Symm fun left right => ¬ Clashes left right :=
    ⟨fun _ _ apart clash => apart (clash.imp Eq.symm Eq.symm)⟩
  exact table.distinct.forall inLeft inRight different

theorem count_update {condition : JobRecord → Bool} (change : Assignment) (member : row ∈ table.rows)
    (holds : condition row = true) :
    (table.update (fun other => other.jobId = row.jobId && condition other) change).1 = 1 := by
  have both : (table.rows.filter fun other => other.jobId = row.jobId && condition other) = [row] := by
    calc
      _ = (table.rows.filter fun other => other.jobId = row.jobId).filter condition := by
        rw [List.filter_filter]
        exact List.filter_congr fun other _ => Bool.and_comm _ _
      _ = [row] := by
        rw [filter_jobId table.distinct member]
        simp [holds]
  simp only [update, both, List.length_singleton]

theorem find?_update (condition : JobRecord → Bool) (change : Assignment) (jobId : String) :
    (table.update condition change).2.find? jobId =
      (table.find? jobId).map fun row => if condition row then change.assign row else row := by
  simp only [update, find?, List.find?_map]
  congr 2
  funext row
  simp only [Function.comp]
  split
  · rw [change.keepsId]
  · rfl

/-- `ORDER BY created_at, job_id`: both compared as text. -/
def rowBefore (offset : Instant.Offset) (left right : JobRecord) : Prop :=
  offset.isoformat left.createdAt < offset.isoformat right.createdAt ∨
    (offset.isoformat left.createdAt = offset.isoformat right.createdAt ∧ left.jobId ≤ right.jobId)

instance (offset : Instant.Offset) : DecidableRel (rowBefore offset) :=
  fun _ _ => inferInstanceAs (Decidable (_ ∨ _))

/-- `WHERE status = ? ORDER BY created_at, job_id LIMIT ?`. -/
def selectByStatus (table : JobTable) (status : JobStatus) (limit : Nat) : List JobRecord :=
  ((table.rows.filter (·.status = status)).insertionSort (rowBefore table.offset)).take limit

/-- `WHERE job_type = ? AND idempotency_key = ?` and the tenant conditions that are given. -/
def selectByKey (table : JobTable) (jobType : JobType) (idempotencyKey : String)
    (organizationId projectId : Option String) : Option JobRecord :=
  table.rows.find? fun row =>
    row.jobType = jobType && row.idempotencyKey = idempotencyKey &&
      organizationId.all ((uniqueKey row).1 = ·) && projectId.all ((uniqueKey row).2.1 = ·)

/-! ## The claim query -/

section Query

variable (compact : Json → String)

/-- The text of `json_extract(input_refs_json, '$.operation')`. A missing value, `null`, a
number or a boolean is not text; an array or object is its minified JSON. -/
def extractedText (row : JobRecord) : Option String :=
  match Json.field row.inputRefs "operation" with
  | some (.str text) => some text
  | some (.arr items) => some (compact (.arr items))
  | some (.obj fields) => some (compact (.obj fields))
  | _ => none

/-- The `OR`-ed operation clauses: the unrestricted types, then each type with operations. -/
def operationClauses (jobTypes : List JobType) (jobOperations : Dict JobType (List String)) :
    List (JobRecord → Bool) :=
  let unrestrictedTypes := jobTypes.filter fun jobType => (jobOperations.get? jobType).isNone
  (if unrestrictedTypes = [] then [] else [fun row => decide (row.jobType ∈ unrestrictedTypes)]) ++
    jobOperations.entries.filterMap fun entry =>
      if entry.2 = [] then none
      else some fun row => row.jobType = entry.1 && (extractedText compact row).any (· ∈ entry.2)

/-- The exception of `AND ()`: no operation clause was written. -/
def emptyParentheses : Raised := ⟨.operationalError, "near \")\": syntax error"⟩

/-- The `WHERE` clause of a claim. -/
def claimClause (filter : ClaimFilter) : Except Raised (JobRecord → Bool) :=
  let jobTypes := filter.jobTypes.getD []
  let typed : JobRecord → Bool := fun row =>
    row.status = .queued && (jobTypes = [] || row.jobType ∈ jobTypes)
  match filter.jobOperations with
  | none => .ok typed
  | some jobOperations =>
    if jobOperations.entries = [] then .ok typed
    else
      match operationClauses compact jobTypes jobOperations with
      | [] => .error emptyParentheses
      | clauses => .ok fun row => typed row && clauses.any (· row)

/-- `SELECT … ORDER BY created_at, job_id LIMIT 1`. -/
def selectNextQueued (table : JobTable) (filter : ClaimFilter) : Except Raised (Option JobRecord) :=
  (claimClause compact filter).map fun clause =>
    ((table.rows.filter clause).insertionSort (rowBefore table.offset)).head?

end Query

end JobTable

/-! ## Statements -/

/-- One SQL statement of the repository. -/
inductive JobStatement where
  | selectById (jobId : String)
  | selectByKey (jobType : JobType) (idempotencyKey : String) (organizationId projectId : Option String)
  | selectByStatus (status : JobStatus) (limit : Nat)
  | selectNextQueued (filter : ClaimFilter)
  | insertOrReplace (row : JobRecord)
  | updateClaim (jobId : String) (attemptCount : Int) (workerId : String) (leaseExpiresAt now : Instant)
  | updateSucceeded (jobId resultRef : String) (now : Instant)
  | updateFailed (jobId failureReason : String) (now : Instant)

/-- What a statement answers; an `UPDATE` answers its row count. -/
abbrev JobStatement.Answer : JobStatement → Type
  | selectById _ => Option JobRecord
  | selectByKey _ _ _ _ => Option JobRecord
  | selectByStatus _ _ => List JobRecord
  | selectNextQueued _ => Option JobRecord
  | insertOrReplace _ => Unit
  | updateClaim _ _ _ _ _ => Nat
  | updateSucceeded _ _ _ => Nat
  | updateFailed _ _ _ => Nat

/-- The statements as an interface. -/
abbrev sqlJobs : Interface where
  Command := JobStatement
  Answer := JobStatement.Answer
  Exception := Raised

namespace JobTable

/-- The assignments of a claim. -/
def claimed (attemptCount : Int) (workerId : String) (leaseExpiresAt now : Instant) : Assignment where
  assign row :=
    { row with
      status := .running
      attemptCount := attemptCount
      leasedBy := some workerId
      leaseExpiresAt := some leaseExpiresAt
      heartbeatAt := some now
      startedAt := some (row.startedAt.getD now)
      updatedAt := now }
  keepsId _ := rfl
  keepsKey _ := rfl

/-- The assignments of `mark_succeeded`. -/
def succeeded (resultRef : String) (now : Instant) : Assignment :=
  ⟨JobStore.succeeded resultRef now, fun _ => rfl, fun _ => rfl⟩

/-- The assignments of `mark_failed`. -/
def failed (failureReason : String) (now : Instant) : Assignment :=
  ⟨JobStore.failed failureReason now, fun _ => rfl, fun _ => rfl⟩

/-- Execute one statement. -/
def execute (compact : Json → String) : Handler sqlJobs JobTable
  | .selectById jobId, table => (.ok (table.find? jobId), table)
  | .selectByKey jobType idempotencyKey organizationId projectId, table =>
    (.ok (table.selectByKey jobType idempotencyKey organizationId projectId), table)
  | .selectByStatus status limit, table => (.ok (table.selectByStatus status limit), table)
  | .selectNextQueued filter, table => (selectNextQueued compact table filter, table)
  | .insertOrReplace row, table => (.ok (), table.insertOrReplace row)
  | .updateClaim jobId attemptCount workerId leaseExpiresAt now, table =>
    let (count, next) := table.update (fun row => row.jobId = jobId && row.status = .queued)
      (claimed attemptCount workerId leaseExpiresAt now)
    (.ok count, next)
  | .updateSucceeded jobId resultRef now, table =>
    let (count, next) := table.update (fun row => row.jobId = jobId && row.status ≠ .cancelled)
      (succeeded resultRef now)
    (.ok count, next)
  | .updateFailed jobId failureReason now, table =>
    let (count, next) := table.update (fun row => row.jobId = jobId && row.status ≠ .cancelled)
      (failed failureReason now)
    (.ok count, next)

end JobTable

/-! ## The repository methods -/

namespace SqliteJobRepository

open JobPersistenceMapper

/-- A method of the repository. -/
abbrev Method (α : Type) := Program sqlJobs α

/-- Execute a statement. -/
def sql (statement : JobStatement) : Method statement.Answer :=
  Program.call (I := sqlJobs) statement

/-- Read an optional row back as a job. -/
def loaded : Option JobRecord → Method (Option Job)
  | none => pure none
  | some row => do
      let job ← Program.ofExcept (fromPersistenceRecord row)
      pure (some job)

/-- `find_by_id`. -/
def findById (jobId : String) : Method (Option Job) := do
  let row ← sql (.selectById jobId)
  loaded row

/-- `save`. -/
def save (job : Job) : Method Unit := do
  let row ← sql (.selectByKey job.record.jobType job.record.idempotencyKey
    (job.record.executionContext.map (·.organizationId))
    (job.record.executionContext.map (·.projectId)))
  let existing ← loaded row
  if existing.any (fun found =>
      found.record.jobId ≠ job.record.jobId || found.record.inputHash ≠ job.record.inputHash) then
    Program.raise JobStore.reusedKey
  else sql (.insertOrReplace (toPersistenceRecord job))

/-- `self.save(replace(job, …))`. -/
def saveReplaced (job : Job) (change : JobRecord → JobRecord) : Method Unit := do
  let next ← Program.ofExcept (job.replace change)
  save next

/-- `acquire_next_queued_job`. -/
def acquireNextQueuedJob (workerId : String) (leaseSeconds : Int) (filter : ClaimFilter) (now : Instant) :
    Method (Option Job) := do
  match ← sql (.selectNextQueued filter) with
  | none => pure none
  | some row =>
    let job ← Program.ofExcept (fromPersistenceRecord row)
    let updated ← sql (.updateClaim job.record.jobId (job.record.attemptCount + 1) workerId
      (shifted now leaseSeconds) now)
    if updated ≠ 1 then pure none else findById job.record.jobId

/-- `heartbeat`. -/
def heartbeat (jobId workerId : String) (leaseSeconds : Int) (now : Instant) : Method Unit := do
  match ← findById jobId with
  | none => pure ()
  | some job =>
    if job.record.status ≠ .running ∨ job.record.leasedBy ≠ some workerId then pure ()
    else saveReplaced job (JobStore.extended leaseSeconds now)

/-- `mark_succeeded`. -/
def markSucceeded (jobId resultRef : String) (now : Instant) : Method Unit := do
  let _ ← sql (.updateSucceeded jobId resultRef now)
  pure ()

/-- `mark_failed`. -/
def markFailed (jobId failureReason : String) (now : Instant) : Method Unit := do
  let _ ← sql (.updateFailed jobId failureReason now)
  pure ()

/-- `cancel`. -/
def cancel (jobId : String) (now : Instant) : Method Unit := do
  match ← findById jobId with
  | none => pure ()
  | some job => saveReplaced job (JobStore.cancelled now)

/-- The loop of `release_expired_leases` over the listed jobs. -/
def releaseEach (now : Instant) : List Job → Method Nat
  | [] => pure 0
  | job :: rest =>
    if job.record.leaseExpiresAt.any (· ≤ now) then do
      saveReplaced job (JobStore.released now)
      let released ← releaseEach now rest
      pure (released + 1)
    else releaseEach now rest

/-- `release_expired_leases`. -/
def releaseExpiredLeases (now : Instant) : Method Nat := do
  let rows ← sql (.selectByStatus .running 1000)
  let runningJobs ← Program.ofExcept (rows.mapM fromPersistenceRecord)
  releaseEach now runningJobs

end SqliteJobRepository

end AiGovernance.Repositories
