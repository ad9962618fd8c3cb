import AiGovernance.Domain.Job
import AiGovernance.Domain.RuntimeAuthorization
import AiGovernance.Std.Dict

/-!
# The in-memory job store

`InMemoryJobRepository`: jobs by identifier, written whole. Every change goes
through `save`, which refuses a job whose idempotency key another job of its
tenant has. The registry of worker heartbeats is read by no modelled function
and left out; the clock reading of a method is an argument.
-/

namespace AiGovernance.Repositories

open AiGovernance.Std Domain

/-- Shift an instant by a number of seconds. -/
def shifted (instant : Instant) (seconds : Int) : Instant :=
  ⟨((instant.micros : Int) + seconds * Instant.second).toNat⟩

/-- The optional job types and operations a claim is restricted to. -/
structure ClaimFilter where
  jobTypes : Option (List JobType) := none
  jobOperations : Option (Dict JobType (List String)) := none

/-- `_jobs_by_id`; each job is filed under its own identifier. -/
structure JobStore where
  byId : Dict String Job
  keyed : ∀ {jobId job}, byId.get? jobId = some job → job.record.jobId = jobId

namespace JobStore

/-- A new store. -/
def empty : JobStore where
  byId := Dict.empty
  keyed := by intro jobId job found; cases found

/-- Write a job under its identifier. -/
def put (store : JobStore) (job : Job) : JobStore where
  byId := store.byId.set job.record.jobId job
  keyed := store.byId.keyed_set store.keyed rfl

theorem get?_put (store : JobStore) (job : Job) (jobId : String) :
    (store.put job).byId.get? jobId =
      if jobId = job.record.jobId then some job else store.byId.get? jobId :=
  Dict.get?_set store.byId

/-- The tenant conditions of a lookup: an absent one always holds. -/
def inTenant (organizationId projectId : Option String) (job : Job) : Bool :=
  organizationId.all (fun organization =>
      job.record.executionContext.any (·.organizationId = organization)) &&
    projectId.all (fun project => job.record.executionContext.any (·.projectId = project))

/-- `find_by_id`. -/
def findById (store : JobStore) (jobId : String) (organizationId projectId : Option String) :
    Option Job :=
  (store.byId.get? jobId).filter (inTenant organizationId projectId)

/-- `find_by_idempotency_key`. -/
def findByIdempotencyKey (store : JobStore) (jobType : JobType) (idempotencyKey : String)
    (organizationId projectId : Option String) : Option Job :=
  store.byId.values.find? fun job =>
    job.record.jobType = jobType && job.record.idempotencyKey = idempotencyKey &&
      inTenant organizationId projectId job

/-- The exception of a reused key. -/
def reusedKey : Raised :=
  ⟨.idempotencyConflictError, "Idempotency key was reused with different input."⟩

/-- `save`. -/
def save (store : JobStore) (job : Job) : Except Raised Unit × JobStore :=
  match store.findByIdempotencyKey job.record.jobType job.record.idempotencyKey
      (job.record.executionContext.map (·.organizationId))
      (job.record.executionContext.map (·.projectId)) with
  | some existing =>
    if existing.record.jobId ≠ job.record.jobId ∨ existing.record.inputHash ≠ job.record.inputHash then
      (.error reusedKey, store)
    else (.ok (), store.put job)
  | none => (.ok (), store.put job)

/-- `self.save(replace(job, …))`. -/
def saveReplaced (store : JobStore) (job : Job) (change : JobRecord → JobRecord) :
    Except Raised Unit × JobStore :=
  match job.replace change with
  | .error raised => (.error raised, store)
  | .ok next => store.save next

/-- The order of `sorted(jobs, key=lambda item: (item.created_at, item.job_id))`. -/
def listedBefore (left right : Job) : Prop :=
  left.record.createdAt < right.record.createdAt ∨
    (left.record.createdAt = right.record.createdAt ∧ left.record.jobId ≤ right.record.jobId)

instance (left right : Job) : Decidable (listedBefore left right) := inferInstanceAs (Decidable (_ ∨ _))

/-- A tenant condition of `list_jobs`: a job without context counts as the default tenant. -/
def listedIn (wanted : Option String) (default : String) (part : JobExecutionContext → String)
    (job : Job) : Bool :=
  wanted.all fun value =>
    match job.record.executionContext with
    | some context => part context = value
    | none => value = default

/-- `list_jobs`. -/
def listJobs (store : JobStore) (status : Option JobStatus) (jobType : Option JobType) (limit : Nat)
    (organizationId projectId : Option String) : List Job :=
  ((store.byId.values.insertionSort listedBefore).filter fun job =>
    status.all (job.record.status = ·) && jobType.all (job.record.jobType = ·) &&
      listedIn organizationId "org_default" (·.organizationId) job &&
      listedIn projectId "project_default" (·.projectId) job).take limit

/-- `list_by_status` with its default limit. -/
def listByStatus (store : JobStore) (status : JobStatus) : List Job :=
  store.listJobs (some status) none 100 none none

/-- The type filter of a claim; an empty tuple filters nothing. -/
def passesTypes (filter : ClaimFilter) (job : Job) : Bool :=
  match filter.jobTypes with
  | none | some [] => true
  | some jobTypes => job.record.jobType ∈ jobTypes

/-- `str(job.input_refs.get("operation", ""))`. -/
def operationText (primitives : Primitives) (job : Job) : String :=
  ((Json.field job.record.inputRefs "operation").map primitives.str).getD ""

/-- The operation filter of a claim; types without an entry are not restricted. -/
def passesOperations (primitives : Primitives) (filter : ClaimFilter) (job : Job) : Bool :=
  match filter.jobOperations with
  | none => true
  | some operations =>
    match operations.get? job.record.jobType with
    | none => true
    | some allowed => operationText primitives job ∈ allowed

/-- The job a claim takes: the first of the listed page that passes the filters. -/
def nextQueued (primitives : Primitives) (store : JobStore) (filter : ClaimFilter) : Option Job :=
  ((store.listByStatus .queued).filter fun job =>
    passesTypes filter job && passesOperations primitives filter job).head?

/-- The fields a claim replaces. -/
def acquired (workerId : String) (leaseSeconds : Int) (now : Instant) (record : JobRecord) : JobRecord :=
  { record with
    status := .running
    attemptCount := record.attemptCount + 1
    leasedBy := some workerId
    leaseExpiresAt := some (shifted now leaseSeconds)
    heartbeatAt := some now
    startedAt := some (record.startedAt.getD now)
    updatedAt := now }

/-- `acquire_next_queued_job`. -/
def acquireNextQueuedJob (primitives : Primitives) (store : JobStore) (workerId : String)
    (leaseSeconds : Int) (filter : ClaimFilter) (now : Instant) : Except Raised (Option Job) × JobStore :=
  match nextQueued primitives store filter with
  | none => (.ok none, store)
  | some job =>
    match job.replace (acquired workerId leaseSeconds now) with
    | .error raised => (.error raised, store)
    | .ok claimed =>
      match store.save claimed with
      | (.ok (), next) => (.ok (some claimed), next)
      | (.error raised, next) => (.error raised, next)

/-- The fields a heartbeat replaces. -/
def extended (leaseSeconds : Int) (now : Instant) (record : JobRecord) : JobRecord :=
  { record with
    heartbeatAt := some now, leaseExpiresAt := some (shifted now leaseSeconds), updatedAt := now }

/-- `heartbeat`. -/
def heartbeat (store : JobStore) (jobId workerId : String) (leaseSeconds : Int) (now : Instant) :
    Except Raised Unit × JobStore :=
  match store.findById jobId none none with
  | none => (.ok (), store)
  | some job =>
    if job.record.status ≠ .running ∨ job.record.leasedBy ≠ some workerId then (.ok (), store)
    else store.saveReplaced job (extended leaseSeconds now)

/-- The fields that end a lease. -/
def unleased (now : Instant) (record : JobRecord) : JobRecord :=
  { record with leasedBy := none, leaseExpiresAt := none, heartbeatAt := none, updatedAt := now }

/-- The fields `mark_succeeded` replaces. -/
def succeeded (resultRef : String) (now : Instant) (record : JobRecord) : JobRecord :=
  { unleased now record with
    status := .succeeded, resultRef := some resultRef, failureReason := none, completedAt := some now }

/-- The fields `mark_failed` replaces. -/
def failed (failureReason : String) (now : Instant) (record : JobRecord) : JobRecord :=
  { unleased now record with
    status := .failed, resultRef := none, failureReason := some failureReason, completedAt := some now }

/-- The fields `cancel` replaces. -/
def cancelled (now : Instant) (record : JobRecord) : JobRecord :=
  { unleased now record with status := .cancelled, completedAt := some now }

/-- A completion, skipped for a missing or cancelled job. -/
def finish (store : JobStore) (jobId : String) (change : JobRecord → JobRecord) :
    Except Raised Unit × JobStore :=
  match store.findById jobId none none with
  | none => (.ok (), store)
  | some job =>
    if job.record.status = .cancelled then (.ok (), store) else store.saveReplaced job change

/-- `mark_succeeded`. -/
def markSucceeded (store : JobStore) (jobId resultRef : String) (now : Instant) :
    Except Raised Unit × JobStore :=
  store.finish jobId (succeeded resultRef now)

/-- `mark_failed`. -/
def markFailed (store : JobStore) (jobId failureReason : String) (now : Instant) :
    Except Raised Unit × JobStore :=
  store.finish jobId (failed failureReason now)

/-- `cancel`: whatever the status of the job. -/
def cancel (store : JobStore) (jobId : String) (now : Instant) : Except Raised Unit × JobStore :=
  match store.findById jobId none none with
  | none => (.ok (), store)
  | some job => store.saveReplaced job (cancelled now)

/-- A running job whose lease has run out. -/
def isExpired (now : Instant) (record : JobRecord) : Bool :=
  record.status = .running && record.leaseExpiresAt.any (· ≤ now)

/-- The fields `release_expired_leases` replaces: back to the queue while attempts are left. -/
def released (now : Instant) (record : JobRecord) : JobRecord :=
  if record.attemptCount < record.maxAttempts then { unleased now record with status := .queued }
  else
    { unleased now record with
      status := .failed
      failureReason := some "Job lease expired after max attempts."
      completedAt := some now }

/-- The loop of `release_expired_leases` over a snapshot of the jobs. -/
def releaseEach (now : Instant) : List Job → JobStore → Except Raised Nat × JobStore
  | [], store => (.ok 0, store)
  | job :: rest, store =>
    if isExpired now job.record then
      match store.saveReplaced job (released now) with
      | (.error raised, next) => (.error raised, next)
      | (.ok (), next) =>
        let outcome := releaseEach now rest next
        (outcome.1.map (· + 1), outcome.2)
    else releaseEach now rest store

/-- `release_expired_leases`. -/
def releaseExpiredLeases (store : JobStore) (now : Instant) : Except Raised Nat × JobStore :=
  releaseEach now store.byId.values store

end JobStore

end AiGovernance.Repositories
