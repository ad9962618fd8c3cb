import AiGovernance.Repositories.Plane

/-!
# Job services

Submission with stable idempotency semantics (`services/job_submission_service.py`),
the public operations on a job (`services/job_api_service.py`) and one turn of a
worker (`workers/job_worker.py`), as programs over the control plane. Lifecycle
events are published after the repository calls and read nothing back; they are
left out.
-/

namespace AiGovernance.Services

open AiGovernance.Std Domain Repositories Semantics

/-! ## Submission -/

/-- What a submission reads from outside the repositories: the generated identifier, the
clock and the configured capacity of the queue. -/
structure SubmitAmbient where
  jobId : String
  now : Instant
  queueSize : Option Nat := none
deriving DecidableEq

/-- One test of a submission. -/
def rejectSubmission (fails : Bool) (message : String) : Option Raised :=
  rejectIf fails .jobSubmissionValidationError message

/-- `_validate`. -/
def submissionViolation (submission : JobSubmission) : Option Raised :=
  firstViolation [
    rejectSubmission (Text.isBlank submission.idempotencyKey) "idempotency_key is required.",
    rejectSubmission (Text.isBlank submission.submittedBy) "submitted_by is required.",
    rejectSubmission submission.inputRefs.isEmpty "input_refs must not be empty.",
    rejectSubmission (¬ (1 ≤ submission.maxAttempts ∧ submission.maxAttempts ≤ 10))
      "max_attempts must be between 1 and 10."]

/-- `stable_input_hash`. -/
def stableInputHash (primitives : Primitives) (inputRefs : List (String × Json))
    (context : Option JobExecutionContext) : String :=
  match context with
  | none => primitives.stableDigest inputRefs
  | some context => primitives.stableDigest [
      ("organization_id", .str context.organizationId), ("project_id", .str context.projectId),
      ("input_refs", .obj inputRefs)]

/-- The job a submission creates. -/
def queuedJob (submission : JobSubmission) (inputHash : String) (ambient : SubmitAmbient) : JobRecord :=
  { jobId := ambient.jobId
    jobType := submission.jobType
    status := .queued
    inputRefs := submission.inputRefs
    inputHash
    idempotencyKey := submission.idempotencyKey
    submittedBy := submission.submittedBy
    attemptCount := 0
    maxAttempts := submission.maxAttempts
    resultRef := none
    failureReason := none
    leasedBy := none
    leaseExpiresAt := none
    heartbeatAt := none
    createdAt := ambient.now
    updatedAt := ambient.now
    startedAt := none
    completedAt := none
    executionContext := submission.executionContext }

/-- The capacity check of a submission. -/
def checkCapacity (submission : JobSubmission) (queueSize : Option Nat) : PlaneOperation Unit :=
  match queueSize with
  | none => .done ()
  | some size => do
      let queued ← ask (.listJobs (some .queued) size
        (submission.executionContext.map (·.organizationId))
        (submission.executionContext.map (·.projectId)))
      if size ≤ queued.length then
        .raise ⟨.jobSubmissionValidationError,
          "Job queue capacity of " ++ toString size ++ " has been reached."⟩
      else .done ()

/-- The part of `submit` that stores a new job. -/
def enqueue (submission : JobSubmission) (inputHash : String) (ambient : SubmitAmbient) :
    PlaneOperation Job := do
  checkCapacity submission ambient.queueSize
  let job : Job ← Program.ofExcept (Checked.create (queuedJob submission inputHash ambient))
  let _ ← ask (.saveJob job)
  return job

/-- `JobSubmissionService.submit`. -/
def submitJob (primitives : Primitives) (submission : JobSubmission) (ambient : SubmitAmbient) :
    PlaneOperation Job :=
  match submissionViolation submission with
  | some raised => .raise raised
  | none => do
      let inputHash := stableInputHash primitives submission.inputRefs submission.executionContext
      let existing ← ask (.findJobByIdempotencyKey submission.jobType submission.idempotencyKey
        (submission.executionContext.map (·.organizationId))
        (submission.executionContext.map (·.projectId)))
      match existing with
      | some existing =>
        if existing.record.inputHash ≠ inputHash then .raise JobStore.reusedKey
        else .done existing
      | none => enqueue submission inputHash ambient

/-! ## Public operations -/

/-- `JobApiService.get`; without a tenant every job is visible. -/
def getJob (jobId : String) (scope : Option Scope) : PlaneOperation Job := do
  let job ← ask (.findJobById jobId (scope.map (·.organizationId)) (scope.bind (·.projectId)))
  match job with
  | none => .raise ⟨.jobNotFoundError, "Job '" ++ jobId ++ "' was not found."⟩
  | some job => .done job

/-- An exception of `JobApiService` for a wrong state. -/
def invalidJobRequest (message : String) : Raised := ⟨.invalidJobRequestError, message⟩

/-- `JobApiService.cancel`. -/
def cancelJobRequest (jobId : String) (scope : Option Scope) (now : Instant) : PlaneOperation Job := do
  let job ← getJob jobId scope
  if job.record.status = .queued ∨ job.record.status = .running then do
    let _ ← ask (.findJobById jobId none none)
    let _ ← ask (.cancelJob jobId now)
    getJob jobId scope
  else
    .raise (invalidJobRequest
      ("Job '" ++ jobId ++ "' cannot be cancelled from " ++ job.record.status.value ++ " status."))

/-- What a retry reads from outside the repositories. -/
structure RetryAmbient where
  now : Instant
  retryDelay : Option Nat := none
  retryId : String
  submit : SubmitAmbient
deriving DecidableEq

/-- The fields `retry` replaces. -/
def retried (now : Instant) (record : JobRecord) : JobRecord :=
  { record with
    status := .queued
    resultRef := none
    failureReason := none
    leasedBy := none
    leaseExpiresAt := none
    heartbeatAt := none
    updatedAt := now
    completedAt := none }

/-- The configured delay, in microseconds, has not elapsed since the job ended. -/
def retryTooEarly (job : Job) (ambient : RetryAmbient) : Bool :=
  ambient.retryDelay.any fun delay =>
    ambient.now < (job.record.completedAt.getD job.record.updatedAt).add delay

/-- The submission of a retry when no attempts are left. -/
def retrySubmission (job : Job) (retryId : String) : JobSubmission :=
  { jobType := job.record.jobType
    inputRefs := job.record.inputRefs
    idempotencyKey := job.record.idempotencyKey ++ ":retry:" ++ retryId
    submittedBy := job.record.submittedBy
    maxAttempts := job.record.maxAttempts
    executionContext := job.record.executionContext }

/-- `JobApiService.retry`. -/
def retryJob (primitives : Primitives) (jobId : String) (scope : Option Scope) (ambient : RetryAmbient) :
    PlaneOperation Job := do
  let job ← getJob jobId scope
  if job.record.status ≠ .failed then
    .raise (invalidJobRequest ("Job '" ++ jobId ++ "' can only be retried from FAILED status."))
  else if retryTooEarly job ambient then
    .raise (invalidJobRequest ("Job '" ++ jobId ++
      "' cannot be retried until its configured retry delay has elapsed."))
  else if job.record.attemptCount < job.record.maxAttempts then do
    let requeued ← Program.ofExcept (job.replace (retried ambient.now))
    let _ ← ask (.saveJob requeued)
    return requeued
  else submitJob primitives (retrySubmission job ambient.retryId) ambient.submit

/-! ## Workers -/

/-- How a worker is set up. -/
structure WorkerConfig where
  workerId : String
  leaseSeconds : Int := 300
  filter : ClaimFilter := {}
  concurrency : Option Nat := none

/-- The clock readings of one turn. -/
structure WorkerClock where
  releasedAt : Instant
  acquiredAt : Instant
  finishedAt : Instant
  failedAt : Instant

/-- Whether the configured number of running jobs is reached. -/
def atCapacity (concurrency : Option Nat) : PlaneOperation Bool :=
  match concurrency with
  | none => .done false
  | some limit => do
      let running ← ask (.listJobs (some .running) limit none none)
      return decide (limit ≤ running.length)

/-- What a worker reports for the result of a handler. -/
def report (jobId : String) (result : JobResult) (now : Instant) : PlaneOperation Unit :=
  match result.status, result.resultRef with
  | .succeeded, some resultRef =>
    if resultRef = "" then
      ask (.markFailed jobId ((Text.orElse result.failureReason none).getD "Job execution failed.") now)
    else ask (.markSucceeded jobId resultRef now)
  | .cancelled, _ => ask (.cancelJob jobId now)
  | _, _ =>
    ask (.markFailed jobId ((Text.orElse result.failureReason none).getD "Job execution failed.") now)

/-- The part of `run_once` after a job was claimed: an exception of the handler or of the
report marks the job failed and is raised again. -/
def executeClaimed (executor : Job → PlaneOperation JobResult) (clock : WorkerClock) (job : Job) :
    PlaneOperation (Option Job) := do
  let outcome ← (executor job >>= fun result => report job.record.jobId result clock.finishedAt).caught
  match outcome with
  | .ok () => ask (.findJobById job.record.jobId none none)
  | .error raised => do
      let _ ← ask (.markFailed job.record.jobId raised.message clock.failedAt)
      .raise raised

/-- `JobExecutor.execute` with the handler registered for the job. -/
def execute (registered : Job → Option (Job → PlaneOperation JobResult)) (job : Job) :
    PlaneOperation JobResult :=
  match registered job with
  | none =>
    .done ⟨.failed, none, some ("No job handler registered for '" ++ job.record.jobType.value ++ "'.")⟩
  | some handler => handler job

/-- `JobWorker.run_once`. -/
def runOnce (config : WorkerConfig) (executor : Job → PlaneOperation JobResult) (clock : WorkerClock) :
    PlaneOperation (Option Job) := do
  let _ ← ask (.releaseExpiredLeases clock.releasedAt)
  let full ← atCapacity config.concurrency
  if full then .done none
  else do
    let claimed ← ask (.acquireNextQueuedJob config.workerId config.leaseSeconds config.filter
      clock.acquiredAt)
    match claimed with
    | none => .done none
    | some job => executeClaimed executor clock job

end AiGovernance.Services
