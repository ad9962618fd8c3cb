import AiGovernance.Domain.AgentExecution

/-!
# Governance jobs

The persisted job with its lease and retry metadata, the request to submit one,
and the result of a handler (`domain/jobs/job.py`).
-/

namespace AiGovernance.Domain

open AiGovernance.Std

/-- `JobType`. -/
inductive JobType where
  | evaluation
  | experiment
  | replay
  | replayExecution
  | replayEvaluation
  | causalAudit
  | driftAnalysis
  | extension
deriving DecidableEq

/-- The stored text of a job type. -/
def JobType.value : JobType → String
  | evaluation => "EVALUATION"
  | experiment => "EXPERIMENT"
  | replay => "REPLAY"
  | replayExecution => "REPLAY_EXECUTION"
  | replayEvaluation => "REPLAY_EVALUATION"
  | causalAudit => "CAUSAL_AUDIT"
  | driftAnalysis => "DRIFT_ANALYSIS"
  | extension => "EXTENSION"

/-- `JobStatus`. -/
inductive JobStatus where
  | queued
  | running
  | succeeded
  | failed
  | cancelled
deriving DecidableEq

namespace JobStatus

/-- The stored text of a status. -/
def value : JobStatus → String
  | queued => "QUEUED"
  | running => "RUNNING"
  | succeeded => "SUCCEEDED"
  | failed => "FAILED"
  | cancelled => "CANCELLED"

/-- A status in which a job is finished. -/
def isFinished : JobStatus → Bool
  | succeeded | failed | cancelled => true
  | queued | running => false

end JobStatus

/-- `JobExecutionContext`. -/
structure JobExecutionContext where
  organizationId : String
  projectId : String
  actorId : String
  submittedRequestId : String
  correlationId : Option String := none
deriving DecidableEq

/-- The fields of `Job`. -/
structure JobRecord where
  jobId : String
  jobType : JobType
  status : JobStatus
  inputRefs : List (String × Json)
  inputHash : String
  idempotencyKey : String
  submittedBy : String
  attemptCount : Int
  maxAttempts : Int
  resultRef : Option String
  failureReason : Option String
  leasedBy : Option String
  leaseExpiresAt : Option Instant
  heartbeatAt : Option Instant
  createdAt : Instant
  updatedAt : Instant
  startedAt : Option Instant
  completedAt : Option Instant
  executionContext : Option JobExecutionContext
deriving DecidableEq

/-- `_require_non_empty`. -/
def requireJobText (fieldName value : String) : Option Raised :=
  rejectIf (Text.isBlank value) .valueError ("Job " ++ fieldName ++ " must not be empty.")

/-- `Job.__post_init__`. -/
def JobRecord.violation (record : JobRecord) : Option Raised :=
  firstViolation [
    requireJobText "job_id" record.jobId,
    requireJobText "input_hash" record.inputHash,
    requireJobText "idempotency_key" record.idempotencyKey,
    requireJobText "submitted_by" record.submittedBy,
    rejectIf (record.attemptCount < 0) .valueError "Job attempt_count must not be negative.",
    rejectIf (record.maxAttempts ≤ 0) .valueError "Job max_attempts must be greater than zero."]

/-- A persisted governance job. -/
abbrev Job := Checked JobRecord.violation

/-- `dataclasses.replace`: a changed copy, checked again. -/
def Job.replace (job : Job) (change : JobRecord → JobRecord) : Except Raised Job :=
  Checked.create (change job.record)

/-- `JobSubmission`. -/
structure JobSubmission where
  jobType : JobType
  inputRefs : List (String × Json)
  idempotencyKey : String
  submittedBy : String
  maxAttempts : Int := 3
  executionContext : Option JobExecutionContext := none
deriving DecidableEq

/-- `JobResult`, without the job it is about. -/
structure JobResult where
  status : JobStatus
  resultRef : Option String
  failureReason : Option String
deriving DecidableEq

end AiGovernance.Domain
