import AiGovernance.Domain.Replay
import AiGovernance.Repositories.Jobs
import AiGovernance.Semantics.Program

/-!
# The control plane

The repositories that jobs and replays are kept in, as one command interface:
the job store, the replay store with its version check
(`in_memory_replay_repository.py`), and the tenant-scoped store of source and
produced workflow executions. The call of an execution adapter is a command as
well: it changes nothing here, and its place among the other calls is what the
properties of a run speak about.
-/

namespace AiGovernance.Repositories

open AiGovernance.Std Domain Semantics

/-! ## Replays -/

/-- `_replays`; each replay is filed under its own identifier. -/
structure ReplayStore where
  byId : Dict String Replay
  keyed : ∀ {replayId replay}, byId.get? replayId = some replay → replay.replayId = replayId

namespace ReplayStore

/-- A new store. -/
def empty : ReplayStore where
  byId := Dict.empty
  keyed := by intro replayId replay found; cases found

/-- Write a replay under its identifier. -/
def put (store : ReplayStore) (replay : Replay) : ReplayStore where
  byId := store.byId.set replay.replayId replay
  keyed := store.byId.keyed_set store.keyed rfl

theorem get?_put (store : ReplayStore) (replay : Replay) (replayId : String) :
    (store.put replay).byId.get? replayId =
      if replayId = replay.replayId then some replay else store.byId.get? replayId :=
  Dict.get?_set store.byId

/-- `get`. -/
def get (store : ReplayStore) (replayId organizationId projectId : String) : Option Replay :=
  (store.byId.get? replayId).filter fun replay =>
    replay.organizationId = organizationId && replay.projectId = projectId

theorem stored_of_get {store : ReplayStore} {replayId organizationId projectId : String} {replay : Replay}
    (found : store.get replayId organizationId projectId = some replay) :
    store.byId.get? replayId = some replay := by
  unfold get at found
  exact (Option.filter_eq_some_iff.mp found).1

theorem tenant_of_get {store : ReplayStore} {replayId organizationId projectId : String} {replay : Replay}
    (found : store.get replayId organizationId projectId = some replay) :
    replay.organizationId = organizationId ∧ replay.projectId = projectId := by
  unfold get at found
  simpa using (Option.filter_eq_some_iff.mp found).2

/-- The exception of a lost update. -/
def conflict (message : String) : Raised := ⟨.replayConflict, message⟩

/-- `update`, and `archive`: `save` with the version the caller expects. -/
def update (store : ReplayStore) (replay : Replay) (expectedVersion : Int) :
    Except Raised Replay × ReplayStore :=
  match store.byId.get? replay.replayId with
  | none => (.error (conflict "Replay does not exist for the requested update."), store)
  | some current =>
    if current.version ≠ expectedVersion then
      (.error (conflict "Replay was modified by another request."), store)
    else if current.organizationId ≠ replay.organizationId ∨ current.projectId ≠ replay.projectId ∨
        current.idempotencyKey ≠ replay.idempotencyKey ∨ current.inputHash ≠ replay.inputHash then
      (.error (conflict "Immutable replay identity fields cannot change."), store)
    else
      let stored := { replay with version := current.version + 1 }
      (.ok stored, store.put stored)

end ReplayStore

/-! ## The command interface -/

/-- What an execution adapter is called with. -/
structure AdapterRequest where
  source : WorkflowExecution
  configuration : ReplayConfiguration
  replayId : String
  sourceExecutionId : String
  newExecutionId : Option String
  organizationId : String
  projectId : String
  actorId : String
  requestId : String
  correlationId : Option String
  attempt : Int
  controlledEvidenceIntervention : Option ControlledEvidenceIntervention

/-- One call of a repository method, or of an adapter. -/
inductive PlaneCommand where
  | saveJob (job : Job)
  | findJobById (jobId : String) (organizationId projectId : Option String)
  | findJobByIdempotencyKey (jobType : JobType) (idempotencyKey : String)
      (organizationId projectId : Option String)
  | listJobs (status : Option JobStatus) (limit : Nat) (organizationId projectId : Option String)
  | acquireNextQueuedJob (workerId : String) (leaseSeconds : Int) (filter : ClaimFilter) (now : Instant)
  | heartbeat (jobId workerId : String) (leaseSeconds : Int) (now : Instant)
  | markSucceeded (jobId resultRef : String) (now : Instant)
  | markFailed (jobId failureReason : String) (now : Instant)
  | cancelJob (jobId : String) (now : Instant)
  | releaseExpiredLeases (now : Instant)
  | getReplay (replayId organizationId projectId : String)
  | updateReplay (replay : Replay) (expectedVersion : Int)
  | getWorkflowExecution (executionId organizationId projectId : String)
  | saveWorkflowExecution (execution : WorkflowExecution)
  | invokeAdapter (request : AdapterRequest)

namespace PlaneCommand

/-- What a call returns. -/
abbrev Answer : PlaneCommand → Type
  | saveJob _ => Unit
  | findJobById _ _ _ => Option Job
  | findJobByIdempotencyKey _ _ _ _ => Option Job
  | listJobs _ _ _ _ => List Job
  | acquireNextQueuedJob _ _ _ _ => Option Job
  | heartbeat _ _ _ _ => Unit
  | markSucceeded _ _ _ => Unit
  | markFailed _ _ _ => Unit
  | cancelJob _ _ => Unit
  | releaseExpiredLeases _ => Nat
  | getReplay _ _ _ => Option Replay
  | updateReplay _ _ => Replay
  | getWorkflowExecution _ _ _ => Option WorkflowExecution
  | saveWorkflowExecution _ => Unit
  | invokeAdapter _ => Unit

end PlaneCommand

/-- The control plane as a command interface. -/
abbrev controlPlane : Interface where
  Command := PlaneCommand
  Answer := PlaneCommand.Answer
  Exception := Raised

/-- A program over the control plane. -/
abbrev PlaneOperation := Program controlPlane

/-- Call a repository method and propagate what it raises. -/
abbrev ask (command : PlaneCommand) : PlaneOperation command.Answer :=
  Program.call (I := controlPlane) command

/-- Everything the workers and the application services share. -/
structure Plane where
  jobs : JobStore
  replays : ReplayStore
  executions : Dict (String × String × String) WorkflowExecution

/-- How the repositories answer. -/
def planeStores (primitives : Primitives) : Handler controlPlane Plane
  | .saveJob job, plane =>
    let outcome := plane.jobs.save job
    (outcome.1, { plane with jobs := outcome.2 })
  | .findJobById jobId organizationId projectId, plane =>
    (.ok (plane.jobs.findById jobId organizationId projectId), plane)
  | .findJobByIdempotencyKey jobType idempotencyKey organizationId projectId, plane =>
    (.ok (plane.jobs.findByIdempotencyKey jobType idempotencyKey organizationId projectId), plane)
  | .listJobs status limit organizationId projectId, plane =>
    (.ok (plane.jobs.listJobs status none limit organizationId projectId), plane)
  | .acquireNextQueuedJob workerId leaseSeconds filter now, plane =>
    let outcome := plane.jobs.acquireNextQueuedJob primitives workerId leaseSeconds filter now
    (outcome.1, { plane with jobs := outcome.2 })
  | .heartbeat jobId workerId leaseSeconds now, plane =>
    let outcome := plane.jobs.heartbeat jobId workerId leaseSeconds now
    (outcome.1, { plane with jobs := outcome.2 })
  | .markSucceeded jobId resultRef now, plane =>
    let outcome := plane.jobs.markSucceeded jobId resultRef now
    (outcome.1, { plane with jobs := outcome.2 })
  | .markFailed jobId failureReason now, plane =>
    let outcome := plane.jobs.markFailed jobId failureReason now
    (outcome.1, { plane with jobs := outcome.2 })
  | .cancelJob jobId now, plane =>
    let outcome := plane.jobs.cancel jobId now
    (outcome.1, { plane with jobs := outcome.2 })
  | .releaseExpiredLeases now, plane =>
    let outcome := plane.jobs.releaseExpiredLeases now
    (outcome.1, { plane with jobs := outcome.2 })
  | .getReplay replayId organizationId projectId, plane =>
    (.ok (plane.replays.get replayId organizationId projectId), plane)
  | .updateReplay replay expectedVersion, plane =>
    let outcome := plane.replays.update replay expectedVersion
    (outcome.1, { plane with replays := outcome.2 })
  | .getWorkflowExecution executionId organizationId projectId, plane =>
    (.ok (plane.executions.get? (organizationId, projectId, executionId)), plane)
  | .saveWorkflowExecution execution, plane =>
    let key := (execution.organizationId, execution.projectId, execution.executionId)
    (.ok (), { plane with executions := plane.executions.set key execution })
  | .invokeAdapter _, plane => (.ok (), plane)

end AiGovernance.Repositories
