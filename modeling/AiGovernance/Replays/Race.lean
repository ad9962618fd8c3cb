import AiGovernance.Jobs.Commands
import AiGovernance.Replays.Parties

/-!
# A worker against a cancellation

One `cancel` request and one turn of a worker act on a replay and its job
(`Pairing`). This module says what each may do to the two, and walks through the
turn of the worker: it never cancels the job unless the replay was asked to stop.
-/

namespace AiGovernance.Replays

open AiGovernance.Std Domain Repositories
open Semantics Services

/-! ## The transitions of the two -/

/-- The transitions of a cancellation of work in progress. -/
def serviceCalls (copy : Replay) : Transition → Prop
  | .requestCancellation _ => True
  | .markCancelled _ => copy.status ≠ .ready
  | _ => False

/-- The transitions of either. -/
def raceCalls (copy : Replay) (call : Transition) : Prop := handlerCalls copy call ∨ serviceCalls copy call

/-- What either does to a replay: it touches only an active one, and a cancelled one was asked for. -/
structure Raced (old next : Replay) : Prop where
  jobId : next.jobId = old.jobId
  active : Replay.active old.status = true
  status : next.status = old.status ∨ next.status = .running ∨ next.status = .executionCompleted ∨
    next.status = .failed ∨ next.status = .cancelled
  asked : old.cancelRequestedAt.isSome = true → next.cancelRequestedAt.isSome = true
  cancelled : next.status = .cancelled → next.cancelRequestedAt.isSome = true

variable {old : Replay}

theorem raced_of_transition {next : Replay} {call : Transition} (calls : raceCalls old call)
    (moved : transition old call = .ok next) : Raced old next := by
  cases call with
  | markRunning attemptCount now =>
    simp only [transition, Replay.markRunning, requireStatus_bind_eq_ok, require_bind_eq_ok,
      pure_eq_ok] at moved
    obtain ⟨queued, -, rfl⟩ := moved
    exact ⟨rfl, by rw [queued]; rfl, by simp, id, fun isOver => by cases isOver⟩
  | reserveReplayExecutionId replayExecutionId now =>
    simp only [transition, Replay.reserveReplayExecutionId, require_bind_eq_ok, pure_eq_ok] at moved
    obtain ⟨active, -, -, rfl⟩ := moved
    have working : Replay.active old.status = true := by
      rcases active with queued | running
      · rw [queued]
        rfl
      · rw [running]
        rfl
    refine ⟨rfl, working, Or.inl rfl, id, fun isOver => ?_⟩
    change old.status = .cancelled at isOver
    rw [isOver] at working
    cases working
  | markExecutionCompleted now =>
    simp only [transition, Replay.markExecutionCompleted, requireStatus_bind_eq_ok,
      require_bind_eq_ok, pure_eq_ok] at moved
    obtain ⟨running, -, rfl⟩ := moved
    exact ⟨rfl, by rw [running]; rfl, by simp, id, fun isOver => by cases isOver⟩
  | markExecutionFailed failure now =>
    simp only [transition, Replay.markExecutionFailed, require_bind_eq_ok, pure_eq_ok] at moved
    obtain ⟨active, rfl⟩ := moved
    exact ⟨rfl, active, by simp, id, fun isOver => by cases isOver⟩
  | requestCancellation now =>
    simp only [transition, Replay.requestCancellation, require_bind_eq_ok, pure_eq_ok] at moved
    obtain ⟨active, rfl⟩ := moved
    exact ⟨rfl, active, Or.inl rfl, fun _ => rfl, fun _ => rfl⟩
  | markCancelled now =>
    have past : old.status ≠ .ready := by
      rcases calls with ⟨running, -⟩ | past
      · rw [running]
        decide
      · exact past
    simp only [transition, Replay.markCancelled, if_neg past, require_bind_eq_ok, pure_eq_ok] at moved
    obtain ⟨⟨active, asked⟩, rfl⟩ := moved
    exact ⟨rfl, active, by simp, id, fun _ => Option.isSome_iff_ne_none.mpr asked⟩
  | _ => exact (calls.elim id id).elim

/-- The handler does not touch the request. -/
theorem request_kept {next : Replay} {call : Transition} (calls : handlerCalls old call)
    (moved : transition old call = .ok next) : next.cancelRequestedAt = old.cancelRequestedAt := by
  cases call with
  | markRunning attemptCount now =>
    simp only [transition, Replay.markRunning, requireStatus_bind_eq_ok, require_bind_eq_ok,
      pure_eq_ok] at moved
    obtain ⟨-, -, rfl⟩ := moved
    rfl
  | reserveReplayExecutionId replayExecutionId now =>
    simp only [transition, Replay.reserveReplayExecutionId, require_bind_eq_ok, pure_eq_ok] at moved
    obtain ⟨-, -, -, rfl⟩ := moved
    rfl
  | markExecutionCompleted now =>
    simp only [transition, Replay.markExecutionCompleted, requireStatus_bind_eq_ok,
      require_bind_eq_ok, pure_eq_ok] at moved
    obtain ⟨-, -, rfl⟩ := moved
    rfl
  | markExecutionFailed failure now =>
    simp only [transition, Replay.markExecutionFailed, require_bind_eq_ok, pure_eq_ok] at moved
    obtain ⟨-, rfl⟩ := moved
    rfl
  | markCancelled now =>
    simp only [transition, Replay.markCancelled, calls.1, reduceCtorEq, if_false, require_bind_eq_ok,
      pure_eq_ok] at moved
    obtain ⟨-, rfl⟩ := moved
    rfl
  | _ => exact calls.elim

/-- A replay that is no longer active keeps its status. -/
theorem Follows.settled {new : Replay} (follows : Follows raceCalls old new)
    (isOver : Replay.active old.status = false) : new.status = old.status := by
  refine follows.keeps (·.status = old.status) ?_ (fun _ _ before => before) rfl
  intro replay next call calls moved before
  have active := (raced_of_transition calls moved).active
  rw [before, isOver] at active
  cases active

/-- A request stays recorded. -/
theorem Follows.asked {new : Replay} (follows : Follows raceCalls old new)
    (requested : old.cancelRequestedAt.isSome = true) : new.cancelRequestedAt.isSome = true := by
  refine follows.keeps (·.cancelRequestedAt.isSome = true) ?_ (fun _ _ before => before) requested
  intro old next call calls moved before
  exact (raced_of_transition calls moved).asked before

/-! ## The replay and its job -/

section Race

variable (primitives : Primitives) (replayId jobId : String)

/-- The stored replay and its job belong together, and neither is cancelled unasked. -/
structure Pairing (plane : Plane) (replay : Replay) (job : Job) : Prop where
  replayStored : plane.replays.byId.get? replayId = some replay
  jobStored : plane.jobs.byId.get? jobId = some job
  link : replay.jobId = some jobId
  kind : job.record.jobType = .replayExecution
  named : jobReplayId primitives job = .ok replayId
  tenant : ∃ context, job.record.executionContext = some context ∧
    context.organizationId = replay.organizationId ∧ context.projectId = replay.projectId
  status : replay.status ∈ [.queued, .running, .executionCompleted, .completed, .failed, .cancelled]
  asked : replay.status = .cancelled ∨ job.record.status = .cancelled →
    replay.cancelRequestedAt.isSome = true
  jobs : Jobs.StoreSound plane.jobs

/-- The replay and its job are stored and belong together. -/
def Paired (plane : Plane) : Prop := ∃ replay job, Pairing primitives replayId jobId plane replay job

/-- Cancellation has been asked for. -/
def Asked (plane : Plane) : Prop :=
  ∃ replay, plane.replays.byId.get? replayId = some replay ∧ replay.cancelRequestedAt.isSome = true

/-- What the worker does to the replay and its job: a finished job keeps its status. -/
structure WorkerStep (plane next : Plane) : Prop where
  advances : Advances handlerCalls plane next
  job : ∀ old, plane.jobs.byId.get? jobId = some old → ∃ new, next.jobs.byId.get? jobId = some new ∧
    (old.record.status.isFinished = true → new.record.status = old.record.status)

/-- What the request does to the replay and its job: the job keeps its status or is cancelled. -/
structure ServiceStep (plane next : Plane) : Prop where
  advances : Advances serviceCalls plane next
  job : ∀ old, plane.jobs.byId.get? jobId = some old → ∃ new, next.jobs.byId.get? jobId = some new ∧
    (new.record.status = old.record.status ∨ new.record.status = .cancelled)

variable {primitives replayId jobId}

theorem WorkerStep.refl (plane : Plane) : WorkerStep jobId plane plane :=
  ⟨.refl plane, fun old stored => ⟨old, stored, fun _ => rfl⟩⟩

theorem WorkerStep.trans {first second third : Plane} (left : WorkerStep jobId first second)
    (right : WorkerStep jobId second third) : WorkerStep jobId first third := by
  refine ⟨left.advances.trans right.advances, fun old stored => ?_⟩
  obtain ⟨middle, middleStored, kept⟩ := left.job old stored
  obtain ⟨new, newStored, keptAgain⟩ := right.job middle middleStored
  refine ⟨new, newStored, fun isOver => ?_⟩
  have same := kept isOver
  exact (keptAgain (by rw [same]; exact isOver)).trans same

theorem ServiceStep.refl (plane : Plane) : ServiceStep jobId plane plane :=
  ⟨.refl plane, fun old stored => ⟨old, stored, Or.inl rfl⟩⟩

theorem ServiceStep.trans {first second third : Plane} (left : ServiceStep jobId first second)
    (right : ServiceStep jobId second third) : ServiceStep jobId first third := by
  refine ⟨left.advances.trans right.advances, fun old stored => ?_⟩
  obtain ⟨middle, middleStored, kept⟩ := left.job old stored
  obtain ⟨new, newStored, keptAgain⟩ := right.job middle middleStored
  refine ⟨new, newStored, ?_⟩
  rcases keptAgain with same | cancelled
  · rw [same]
    exact kept
  · exact Or.inr cancelled

variable {next plane : Plane}

theorem WorkerStep.raced (step : WorkerStep jobId plane next) : Advances raceCalls plane next :=
  step.advances.mono fun _ _ => Or.inl

theorem ServiceStep.raced (step : ServiceStep jobId plane next) : Advances raceCalls plane next :=
  step.advances.mono fun _ _ => Or.inr

theorem Asked.advance (asked : Asked replayId plane) (advances : Advances raceCalls plane next) :
    Asked replayId next := by
  obtain ⟨replay, stored, requested⟩ := asked
  obtain ⟨new, newStored, follows⟩ := advances replayId replay stored
  exact ⟨new, newStored, follows.asked requested⟩

/-! ## Steps that keep the pairing -/

variable {job : Job} {replay : Replay} {command : PlaneCommand}

/-- A call that leaves the replays alone keeps the pairing if it cancels the job only when asked. -/
theorem Pairing.jobs_changed (pairing : Pairing primitives replayId jobId plane replay job)
    (leaves : LeavesReplays command) (unsaving : Jobs.Unsaving command) (kept : JobRecord → Prop)
    (holds : kept job.record)
    (step : ∀ old new, Jobs.CommandMove command old new → old.jobId = jobId → kept old → kept new)
    (cancels : ∀ record, kept record → record.status = .cancelled → replay.cancelRequestedAt.isSome = true) :
    ∃ new, Pairing primitives replayId jobId (planeStores primitives command plane).2 replay new ∧
      kept new.record := by
  have same := replays_of_leavesReplays primitives leaves plane
  -- The identity of the job is carried along with what the call keeps of it.
  have rewritten := Jobs.keeps_of_rewritten (Jobs.jobs_rewritten primitives unsaving plane)
    (fun record => Jobs.SameIdentity job.record record ∧ kept record)
    (fun old new move before => ⟨before.1.trans move.jobMove.sameIdentity,
      step old new move (before.1.jobId.trans (plane.jobs.keyed pairing.jobStored)) before.2⟩)
    pairing.jobStored ⟨.refl _, holds⟩
  obtain ⟨new, newStored, identity, newKept⟩ := rewritten
  refine ⟨new, ⟨?_, newStored, pairing.link, identity.jobType.trans pairing.kind, ?_, ?_, pairing.status, ?_,
    ?_⟩, newKept⟩
  · rw [same]
    exact pairing.replayStored
  · have named := pairing.named
    unfold jobReplayId at named ⊢
    rw [identity.inputRefs]
    exact named
  · obtain ⟨context, held, organization, project⟩ := pairing.tenant
    exact ⟨context, identity.executionContext.trans held, organization, project⟩
  · rintro (isOver | isOver)
    · exact pairing.asked (Or.inl isOver)
    · exact cancels new.record newKept isOver
  · exact Jobs.sound_of_command primitives unsaving pairing.jobs

/-- An accepted write keeps the pairing. -/
theorem Pairing.replay_changed {copy next : Replay} {call : Transition}
    (pairing : Pairing primitives replayId jobId plane replay job)
    (stored : plane.replays.byId.get? copy.replayId = some copy) (calls : raceCalls copy call)
    (moved : transition copy call = .ok next) :
    Paired primitives replayId jobId { plane with replays := plane.replays.put (advanced copy next) } := by
  have moves := moves_of_transition call calls moved
  have sameId : (advanced copy next).replayId = copy.replayId := (advanced_same moves.same).replayId
  by_cases here : copy.replayId = replayId
  · subst here
    have current := pairing.replayStored
    rw [stored] at current
    cases current
    have raced := raced_of_transition calls moved
    have same := advanced_same moves.same
    obtain ⟨context, held, organization, project⟩ := pairing.tenant
    refine ⟨advanced replay next, job, ?_, pairing.jobStored, raced.jobId.trans pairing.link, pairing.kind,
      pairing.named, ⟨context, held, organization.trans same.organizationId.symm, project.trans same.projectId.symm⟩,
      ?_, ?_, pairing.jobs⟩
    · rw [ReplayStore.get?_put, if_pos sameId.symm]
    · change next.status ∈ _
      rcases raced.status with kept | now | now | now | now
      · rw [kept]
        exact pairing.status
      all_goals simp [now]
    · rintro (isOver | isOver)
      · exact raced.cancelled isOver
      · exact raced.asked (pairing.asked (Or.inr isOver))
  · refine ⟨replay, job, ?_, pairing.jobStored, pairing.link, pairing.kind, pairing.named, pairing.tenant,
      pairing.status, pairing.asked, pairing.jobs⟩
    rw [ReplayStore.get?_put, if_neg (by rw [sameId]; exact fun same => here same.symm)]
    exact pairing.replayStored

variable (primitives replayId jobId)

/-- The schedules in which the request is not overtaken: when it looks at the job it has not been
cancelled unless the replay is, and when it marks the replay nothing has come between. -/
def unraced (plane : Plane) (log : CommandLog controlPlane Plane) (command : PlaneCommand) : Prop :=
  match log.getLast?, command with
  | some (_, .updateReplay requested _), .findJobById jobId _ _ =>
    ∀ replay job, plane.replays.byId.get? requested.replayId = some replay →
      plane.jobs.byId.get? jobId = some job → job.record.status = .cancelled → replay.status = .cancelled
  | some (_, .findJobById _ _ _), .updateReplay cancelled version =>
    ∀ replay, plane.replays.byId.get? cancelled.replayId = some replay →
      replay.version = version ∨ replay.status = .cancelled
  | _, _ => True

/-- The worker relies on what the request does, and takes its steps on the paired records. -/
def workerContract : Contract controlPlane Plane where
  handler := planeStores primitives
  admits := unraced
  sound := Paired primitives replayId jobId
  rely := ServiceStep jobId
  refl := ServiceStep.refl
  trans := ServiceStep.trans
  promise plane _ _ next := WorkerStep jobId plane next ∧ Paired primitives replayId jobId next

/-- The request relies on what the worker does, and takes its steps on the paired records. -/
def serviceContract : Contract controlPlane Plane where
  handler := planeStores primitives
  admits := unraced
  sound := Paired primitives replayId jobId
  rely := WorkerStep jobId
  refl := WorkerStep.refl
  trans := WorkerStep.trans
  promise plane _ _ next := ServiceStep jobId plane next ∧ Paired primitives replayId jobId next

variable {primitives replayId jobId}

/-! ## The worker -/

/-- The worker holds the job: nobody but the request finishes it. -/
def Holding (jobId : String) (plane : Plane) : Prop :=
  ∃ job, plane.jobs.byId.get? jobId = some job ∧
    (job.record.status = .running ∨ job.record.status = .cancelled)

theorem Holding.advance (holding : Holding jobId plane) (step : ServiceStep jobId plane next) : Holding jobId next := by
  obtain ⟨job, stored, status⟩ := holding
  obtain ⟨new, newStored, kept⟩ := step.job job stored
  refine ⟨new, newStored, ?_⟩
  rcases kept with same | cancelled
  · rw [same]
    exact status
  · exact Or.inr cancelled

variable {log : CommandLog controlPlane Plane}

/-- A call of the worker that leaves the replays alone, with what it keeps of the job. -/
theorem worker_promises (pairing : Pairing primitives replayId jobId plane replay job) (leaves : LeavesReplays command)
    (unsaving : Jobs.Unsaving command) (kept : JobRecord → Prop) (holds : kept job.record)
    (step : ∀ old new, Jobs.CommandMove command old new → old.jobId = jobId → kept old → kept new)
    (finished : ∀ record, kept record → job.record.status.isFinished = true → record.status = job.record.status)
    (cancels : ∀ record, kept record → record.status = .cancelled → replay.cancelRequestedAt.isSome = true) :
    (workerContract primitives replayId jobId).promise plane log command
      (planeStores primitives command plane).2 := by
  obtain ⟨new, paired, newKept⟩ := pairing.jobs_changed leaves unsaving kept holds step cancels
  refine ⟨⟨advances_of_same (replays_of_leavesReplays primitives leaves plane), fun old stored => ?_⟩,
    replay, new, paired⟩
  rw [pairing.jobStored] at stored
  cases stored
  exact ⟨new, paired.jobStored, finished new.record newKept⟩

/-- A call that changes no job. -/
def LeavesAll (command : PlaneCommand) : Prop := Jobs.LeavesJobs command ∧ LeavesReplays command

theorem LeavesAll.unsaving (leaves : LeavesAll command) : Jobs.Unsaving command := by
  cases command <;> first | trivial | exact leaves.1

theorem LeavesAll.still (leaves : LeavesAll command) {old new : JobRecord} (move : Jobs.CommandMove command old new) :
    False := by
  cases command <;> first | exact leaves.1 | exact move

theorem worker_leaves (paired : Paired primitives replayId jobId plane) (leaves : LeavesAll command) :
    (workerContract primitives replayId jobId).promise plane log command
      (planeStores primitives command plane).2 := by
  obtain ⟨replay, job, pairing⟩ := paired
  refine worker_promises pairing leaves.2 leaves.unsaving (· = job.record) rfl
    (fun old new move _ _ => (leaves.still move).elim) (fun record same _ => by rw [same]) ?_
  rintro _ rfl isOver
  exact pairing.asked (Or.inr isOver)

/-- A claim and a sweep touch unfinished jobs only. -/
theorem worker_queues (paired : Paired primitives replayId jobId plane) (leaves : LeavesReplays command)
    (unsaving : Jobs.Unsaving command) (unfinished : ∀ old new, Jobs.CommandMove command old new →
      old.status.isFinished = false ∧ new.status ≠ .cancelled) :
    (workerContract primitives replayId jobId).promise plane log command
      (planeStores primitives command plane).2 := by
  obtain ⟨replay, job, pairing⟩ := paired
  refine worker_promises pairing leaves unsaving (fun record =>
    (job.record.status.isFinished = true → record.status = job.record.status) ∧
      (record.status = .cancelled → job.record.status = .cancelled)) ⟨fun _ => rfl, id⟩ ?_
    (fun _ kept => kept.1) fun _ kept isOver => pairing.asked (Or.inr (kept.2 isOver))
  intro old new move _ before
  obtain ⟨pending, alive⟩ := unfinished old new move
  refine ⟨fun isOver => ?_, fun isOver => absurd isOver alive⟩
  rw [before.1 isOver, isOver] at pending
  cases pending

theorem worker_releases (now : Instant) (paired : Paired primitives replayId jobId plane) :
    (workerContract primitives replayId jobId).promise plane log (.releaseExpiredLeases now)
      (planeStores primitives (.releaseExpiredLeases now) plane).2 := by
  refine worker_queues paired trivial trivial ?_
  rintro old _ ⟨expired, rfl⟩
  simp only [JobStore.isExpired, Bool.and_eq_true, decide_eq_true_eq] at expired
  refine ⟨by rw [expired.1]; rfl, ?_⟩
  unfold JobStore.released
  split <;> simp

theorem worker_claims (workerId : String) (leaseSeconds : Int) (filter : ClaimFilter) (now : Instant)
    (paired : Paired primitives replayId jobId plane) :
    (workerContract primitives replayId jobId).promise plane log
      (.acquireNextQueuedJob workerId leaseSeconds filter now)
      (planeStores primitives (.acquireNextQueuedJob workerId leaseSeconds filter now) plane).2 := by
  refine worker_queues paired trivial trivial ?_
  rintro old _ ⟨queued, rfl⟩
  refine ⟨by rw [queued]; rfl, ?_⟩
  simp [JobStore.acquired]

theorem reports_leaves {target : String} (reports : Jobs.Reports target command) :
    LeavesReplays command ∧ Jobs.Unsaving command := by
  cases command <;> first | exact ⟨trivial, trivial⟩ | exact reports.elim

/-- Whether a report cancels the job. -/
def cancelsJob : PlaneCommand → Bool
  | .cancelJob _ _ => true
  | _ => false

/-- A report on the job the worker holds, or on another. -/
theorem worker_reports {target : String} (paired : Paired primitives replayId jobId plane)
    (reports : Jobs.Reports target command) (holding : target = jobId → Holding jobId plane)
    (asked : cancelsJob command = true → target = jobId → Asked replayId plane) :
    (workerContract primitives replayId jobId).promise plane log command
      (planeStores primitives command plane).2 := by
  obtain ⟨replay, job, pairing⟩ := paired
  obtain ⟨leaves, unsaving⟩ := reports_leaves reports
  have named : ∀ old new, Jobs.CommandMove command old new → old.jobId = target := by
    intro old new move
    cases command with
    | markSucceeded reported resultRef now => exact move.1.trans reports
    | markFailed reported failureReason now => exact move.1.trans reports
    | cancelJob reported now => exact move.1.trans reports
    | _ => exact reports.elim
  by_cases own : target = jobId
  · obtain ⟨held, stored, status⟩ := holding own
    rw [pairing.jobStored] at stored
    cases stored
    rcases status with running | isOver
    · -- The job is running, so only a cancellation has to be justified.
      refine worker_promises pairing leaves unsaving
        (fun record => record.status = .cancelled → replay.cancelRequestedAt.isSome = true)
        (fun isOver => pairing.asked (Or.inr isOver)) ?_ (fun _ _ isOver => ?_) fun _ kept => kept
      · intro old new move _ _ isOver
        cases command with
        | markSucceeded reported resultRef now =>
          obtain ⟨-, -, rfl⟩ := move
          cases isOver
        | markFailed reported failureReason now =>
          obtain ⟨-, -, rfl⟩ := move
          cases isOver
        | cancelJob reported now =>
          obtain ⟨current, currentStored, requested⟩ := asked rfl own
          rw [pairing.replayStored] at currentStored
          cases currentStored
          exact requested
        | _ => exact reports.elim
      · rw [running] at isOver
        cases isOver
    · refine worker_promises pairing leaves unsaving (·.status = .cancelled) isOver ?_
        (fun _ kept _ => kept.trans isOver.symm) fun _ _ _ => pairing.asked (Or.inr isOver)
      intro old new move _ before
      cases command with
      | markSucceeded reported resultRef now => exact absurd before move.2.1
      | markFailed reported failureReason now => exact absurd before move.2.1
      | cancelJob reported now =>
        obtain ⟨-, rfl⟩ := move
        rfl
      | _ => exact reports.elim
  · refine worker_promises pairing leaves unsaving (·.status = job.record.status) rfl ?_
      (fun _ kept _ => kept) fun _ kept isOver => pairing.asked (Or.inr (kept.symm.trans isOver))
    intro old new move mine _
    exact absurd ((named old new move).symm.trans mine) own

/-- The report of a result; where it raises, the job is as it was. -/
theorem report_meets {result : JobResult} {now : Instant} (holding : job.record.jobId = jobId → Holding jobId plane)
    (asked : result.status = .cancelled → job.record.jobId = jobId → Asked replayId plane) :
    (workerContract primitives replayId jobId).Meets (fun _ outcome plane =>
        ∀ raised, outcome = .error raised → job.record.jobId = jobId → Holding jobId plane)
      (report job.record.jobId result now) log plane := by
  have reporting : ∀ command : PlaneCommand, Jobs.Reports job.record.jobId command →
      (cancelsJob command = true → result.status = .cancelled) →
      (workerContract primitives replayId jobId).Meets (fun _ outcome plane =>
        ∀ raised, outcome = .error raised → job.record.jobId = jobId → Holding jobId plane)
        (ask command) log plane := by
    intro command reports cancels
    refine Contract.meets_call ?_ ?_
    · intro later related paired _
      exact worker_reports paired reports (fun own => (holding own).advance related)
        fun cancelling own => (asked (cancels cancelling) own).advance related.raced
    · intro later outcome after related _ _ answered final beyond _ raised failed own
      subst failed
      obtain ⟨held, stored, status⟩ := (holding own).advance related
      refine Holding.advance ⟨held, ?_, status⟩ beyond
      rw [Jobs.report_raised primitives reports answered]
      exact stored
  unfold report
  split
  · split
    · exact reporting _ rfl (by simp [cancelsJob])
    · exact reporting _ rfl (by simp [cancelsJob])
  · exact reporting _ rfl fun _ => by assumption
  · exact reporting _ rfl (by simp [cancelsJob])

/-- What a run knows of its copy; for the paired job, that it is a copy of the paired replay, that
the worker holds the job, and that a set token means a request. -/
def WorkerNoted (replayId jobId : String) (job : Job) (notice : Notice) (copy : Replay)
    (_ : CommandLog controlPlane Plane) (plane : Plane) : Prop :=
  Knows raceCalls copy plane ∧
    (job.record.jobId = jobId → copy.replayId = replayId ∧ Holding jobId plane ∧
      (notice = .stopped → Asked replayId plane))

/-- A lookup, an adapter call or a stored execution changes neither replay nor job. -/
theorem worker_idle (paired : Paired primitives replayId jobId plane) (sameReplays : next.replays = plane.replays)
    (sameJobs : next.jobs = plane.jobs) :
    (workerContract primitives replayId jobId).promise plane log command next := by
  obtain ⟨replay, job, pairing⟩ := paired
  refine ⟨⟨advances_of_same sameReplays, fun old stored => ⟨old, sameJobs ▸ stored, fun _ => rfl⟩⟩, replay, job, ?_⟩
  exact ⟨sameReplays ▸ pairing.replayStored, sameJobs ▸ pairing.jobStored, pairing.link, pairing.kind,
    pairing.named, pairing.tenant, pairing.status, pairing.asked, sameJobs ▸ pairing.jobs⟩

theorem workerContract_outline (job : Job) :
    Outline primitives (workerContract primitives replayId jobId) (WorkerNoted replayId jobId job) where
  handler := rfl
  stable := by
    intro notice copy log plane later noted related
    refine ⟨noted.1.advance related.raced, fun own => ?_⟩
    obtain ⟨same, holding, stopped⟩ := noted.2 own
    exact ⟨same, holding.advance related, fun set => (stopped set).advance related.raced⟩
  held := by
    intro notice copy log plane noted _
    refine ⟨noted.1, fun own => ?_⟩
    obtain ⟨same, holding, -⟩ := noted.2 own
    exact ⟨same, holding, nofun⟩
  looking := by
    intro plane log command looksUp paired
    exact worker_idle paired rfl rfl
  looked _ noted := noted
  stopping := by
    intro copy log plane paired noted token
    refine ⟨noted.1, fun own => ?_⟩
    obtain ⟨same, holding, -⟩ := noted.2 own
    refine ⟨same, holding, fun _ => ?_⟩
    -- The token has looked at the stored replay, which is of the tenant of the copy.
    obtain ⟨stored, found, follows⟩ := noted.1
    have visible : plane.replays.get copy.replayId copy.organizationId copy.projectId = some stored := by
      simp [ReplayStore.get, found, follows.same.organizationId, follows.same.projectId]
    unfold TokenSet at token
    rw [visible, Option.all_some, Bool.or_eq_true, decide_eq_true_eq] at token
    rw [same] at found
    refine ⟨stored, found, ?_⟩
    rcases token with isOver | requested
    · obtain ⟨replay, paired, pairing⟩ := paired
      have current := pairing.replayStored
      rw [found] at current
      cases current
      exact pairing.asked (Or.inl isOver)
    · exact requested
  writing := by
    intro copy next log plane call paired noted calls moved _
    have advances : Advances handlerCalls plane
        (planeStores primitives (.updateReplay next copy.version) plane).2 :=
      update_advances noted.1 (moves_of_transition call calls moved)
    refine ⟨⟨advances, fun old stored => ⟨old, stored, fun _ => rfl⟩⟩, ?_⟩
    have raced : raceCalls copy call := Or.inl calls
    rcases update_known primitives noted.1 (moves_of_transition call raced moved).same with
      ⟨raised, stored, -, -, -, outcome⟩ | ⟨stored, outcome⟩
    · rw [outcome]
      exact paired
    · rw [outcome]
      obtain ⟨replay, job, pairing⟩ := paired
      exact pairing.replay_changed stored raced moved
  written := by
    intro copy next new log plane after call _ noted calls moved _ outcome
    have raced : raceCalls copy call := Or.inl calls
    have moves := moves_of_transition call raced moved
    obtain ⟨rfl, -, rfl, known⟩ := update_accepted noted.1 moves outcome
    refine ⟨rfl, known, fun own => ?_⟩
    obtain ⟨same, holding, -⟩ := noted.2 own
    refine ⟨(advanced_same moves.same).replayId.trans same, holding, fun set => ?_⟩
    cases call <;> cases set
  refused := by
    intro copy next raised log plane after call _ noted calls moved _ outcome
    have raced : raceCalls copy call := Or.inl calls
    obtain ⟨rfl, -⟩ := update_refused noted.1 (moves_of_transition call raced moved) outcome
    refine ⟨noted.1, fun own => ?_⟩
    obtain ⟨same, holding, -⟩ := noted.2 own
    exact ⟨same, holding, nofun⟩
  invoking paired noted _ _ _ := ⟨worker_idle paired rfl rfl, noted⟩
  saving paired noted _ _ _ _ _ _ := ⟨worker_idle paired rfl rfl, noted⟩

/-- The handlers of a worker: executions of replays, and those of the other kinds of jobs. -/
def replayRegistry (primitives : Primitives) (ambient : HandlerAmbient)
    (others : Job → Option (Job → PlaneOperation JobResult)) (job : Job) :
    Option (Job → PlaneOperation JobResult) :=
  if job.record.jobType = .replayExecution then some (ReplayJobHandler.handle primitives ambient)
  else others job

/-- The handlers of the other kinds of jobs work on other records. -/
def WorksElsewhere (others : Job → Option (Job → PlaneOperation JobResult)) : Prop :=
  ∀ job handler, others job = some handler → (handler job).Within LeavesAll fun _ => True

theorem worker_elsewhere {β : Type} {program : PlaneOperation β} {returns : β → Prop}
    (within : program.Within LeavesAll returns) :
    (workerContract primitives replayId jobId).Meets anyOutcome program log plane := by
  induction program generalizing log plane with
  | done value => exact fun _ _ _ => trivial
  | raise exception => exact fun _ _ _ => trivial
  | perform command next ih =>
    intro later _ paired _
    exact ⟨worker_leaves paired within.1, ih _ (within.2 _)⟩

/-- What the worker knows of a job it has claimed: the paired one names the paired replay. -/
def Claimed (primitives : Primitives) (replayId jobId : String) (job : Job) (plane : Plane) : Prop :=
  job.record.jobId = jobId → Holding jobId plane ∧ job.record.jobType = .replayExecution ∧
    jobReplayId primitives job = .ok replayId

/-- What is known where the handler of a claimed job ends. -/
def Ran (replayId jobId : String) (job : Job) (_ : CommandLog controlPlane Plane)
    (result : Except Raised JobResult) (plane : Plane) : Prop :=
  job.record.jobId = jobId → Holding jobId plane ∧
    ∀ answer, result = .ok answer → answer.status = .cancelled → Asked replayId plane

/-- The handler reports a cancellation only of a replay that was asked to stop. -/
theorem ran_of_exits {result : Except Raised JobResult} (paired : Paired primitives replayId jobId plane)
    (exits : Exits (WorkerNoted replayId jobId job) log result plane) : Ran replayId jobId job log result plane := by
  intro own
  obtain ⟨notice, copy, noted, -, reported⟩ := exits
  obtain ⟨same, holding, -⟩ := noted.2 own
  refine ⟨holding, fun answer returned cancelled => ?_⟩
  obtain ⟨replay, held, pairing⟩ := paired
  obtain ⟨stored, found, follows⟩ := noted.1
  rw [same, pairing.replayStored] at found
  cases found
  rcases reported answer returned cancelled with isOver | archived | stopped
  · have status := follows.settled (by rw [isOver]; rfl)
    exact ⟨replay, pairing.replayStored, pairing.asked (Or.inl (status.trans isOver))⟩
  · have status := follows.settled (by rw [archived]; rfl)
    have listed := pairing.status
    rw [status, archived] at listed
    simp at listed
  · exact (stopped.2 own).2.2 rfl

theorem worker_handles (ambient : HandlerAmbient) (claimed : Claimed primitives replayId jobId job plane) :
    (workerContract primitives replayId jobId).Meets (Ran replayId jobId job)
      (ReplayJobHandler.handle primitives ambient job) log plane := by
  have handled : (workerContract primitives replayId jobId).Meets (fun log result plane =>
      Exits (WorkerNoted replayId jobId job) log result plane ∨ Ran replayId jobId job log result plane)
      (ReplayJobHandler.handle primitives ambient job) log plane := by
    refine handle_meets (workerContract_outline job) ambient job ?_ (fun _ _ _ => Or.inl) ?_ ?_
    · intro later named context replay related _ _ names found _
      have stored := ReplayStore.stored_of_get found
      refine ⟨knows_of_stored stored, fun own => ?_⟩
      obtain ⟨holding, -, ours⟩ := claimed own
      rw [ours] at names
      cases names
      exact ⟨later.replays.keyed stored, holding.advance related, nofun⟩
    · intro raised later _ related _
      exact Or.inr fun own => ⟨(claimed own).1.advance related, nofun⟩
    · intro later final _ _ related _ _ _ _ beyond _
      refine Or.inr fun own => ⟨((claimed own).1.advance related).advance beyond, ?_⟩
      rintro _ ⟨⟩ ⟨⟩
  refine handled.while_sound.mono fun log result plane outcome => ?_
  obtain ⟨paired, exits | ran⟩ := outcome
  · exact ran_of_exits paired exits
  · exact ran

variable {others : Job → Option (Job → PlaneOperation JobResult)}

theorem worker_executes (ambient : HandlerAmbient) (elsewhere : WorksElsewhere others)
    (claimed : Claimed primitives replayId jobId job plane) :
    (workerContract primitives replayId jobId).Meets (Ran replayId jobId job)
      (execute (replayRegistry primitives ambient others) job) log plane := by
  unfold execute replayRegistry
  by_cases kind : job.record.jobType = .replayExecution
  · simp only [if_pos kind]
    exact worker_handles ambient claimed
  · have other : ∀ result plane log, Ran replayId jobId job log result plane :=
      fun _ _ _ own => absurd (claimed own).2.1 kind
    simp only [if_neg kind]
    split
    · exact Contract.meets_pure fun _ _ _ => other _ _ _
    · rename_i handler registered
      exact (worker_elsewhere (elsewhere job handler registered)).mono fun _ _ _ _ => other _ _ _

/-- A claimed job is stored as it was handed out. -/
theorem claimed_of_acquired {workerId : String} {leaseSeconds : Int} {filter : ClaimFilter} {now : Instant}
    {after : Plane} (outcome : planeStores primitives (.acquireNextQueuedJob workerId leaseSeconds filter now) plane =
      (.ok (some job), after)) (paired : Paired primitives replayId jobId after) :
    Claimed primitives replayId jobId job after := by
  rintro rfl
  have answered : (plane.jobs.acquireNextQueuedJob primitives workerId leaseSeconds filter now).1 =
      .ok (some job) := congrArg (fun pair => pair.1) outcome
  rcases Jobs.acquire_cases primitives plane.jobs workerId leaseSeconds filter now with
    ⟨refused, -⟩ | ⟨old, new, -, record, acquired⟩
  · exact absurd answered (refused job)
  · rw [acquired] at answered
    cases answered
    have written : after.jobs = plane.jobs.put job := by
      have changed := congrArg (fun pair => pair.2.jobs) outcome
      change (plane.jobs.acquireNextQueuedJob primitives workerId leaseSeconds filter now).2 = _ at changed
      rw [← changed, acquired]
    have stored : after.jobs.byId.get? job.record.jobId = some job := by
      rw [written, JobStore.get?_put, if_pos rfl]
    obtain ⟨replay, held, pairing⟩ := paired
    have current := pairing.jobStored
    rw [stored] at current
    cases current
    exact ⟨⟨job, stored, Or.inl (by rw [record]; rfl)⟩, pairing.kind, pairing.named⟩

theorem worker_runsClaimed (ambient : HandlerAmbient) (elsewhere : WorksElsewhere others) (clock : WorkerClock)
    (claimed : Claimed primitives replayId jobId job plane) :
    (workerContract primitives replayId jobId).Meets anyOutcome
      (executeClaimed (execute (replayRegistry primitives ambient others)) clock job) log plane := by
  have reported : (workerContract primitives replayId jobId).Meets (fun _ outcome plane =>
      ∀ raised, outcome = .error raised → job.record.jobId = jobId → Holding jobId plane)
      (execute (replayRegistry primitives ambient others) job >>= fun result =>
        report job.record.jobId result clock.finishedAt) log plane := by
    refine Contract.meets_bind ((worker_executes ambient elsewhere claimed).mono fun log result plane ran => ?_)
    cases result with
    | error raised => exact fun _ _ own => (ran own).1
    | ok result =>
      exact report_meets (fun own => (ran own).1) fun cancelled own => (ran own).2 result rfl cancelled
  refine Contract.meets_bind (Contract.meets_caught (reported.mono fun log outcome plane holding => ?_))
  cases outcome with
  | ok done =>
    refine Contract.meets_call ?_ fun _ _ _ _ _ _ _ _ _ _ => trivial
    intro later _ paired _
    exact worker_leaves paired ⟨trivial, trivial⟩
  | error raised =>
    have failing : Jobs.Reports job.record.jobId
        (.markFailed job.record.jobId raised.message clock.failedAt) := rfl
    refine Contract.meets_call_bind ?_ (fun _ _ _ _ _ _ _ _ _ _ => trivial)
      fun _ _ _ _ _ _ _ _ _ _ => trivial
    intro later related paired _
    exact worker_reports paired failing (fun own => (holding raised rfl own).advance related) nofun

/-- A whole turn of the worker. -/
theorem worker_runs (config : WorkerConfig) (ambient : HandlerAmbient) (elsewhere : WorksElsewhere others)
    (clock : WorkerClock) (log : CommandLog controlPlane Plane) (plane : Plane) :
    (workerContract primitives replayId jobId).Meets anyOutcome
      (runOnce config (execute (replayRegistry primitives ambient others)) clock) log plane := by
  unfold runOnce
  refine Contract.meets_call_bind (fun later _ paired _ => worker_releases clock.releasedAt paired) ?_
    fun _ _ _ _ _ _ _ _ _ _ => trivial
  intro _ _ after _ _ _ _
  have reads : (atCapacity config.concurrency).Within LeavesAll fun _ => True := by
    unfold atCapacity
    split
    · trivial
    · exact Program.within_call_bind ⟨trivial, trivial⟩ fun _ => trivial
  refine Contract.meets_bind ((worker_elsewhere reads).mono fun log result plane _ => ?_)
  cases result with
  | error raised => trivial
  | ok full =>
    dsimp only
    split
    · exact Contract.meets_pure fun _ _ _ => trivial
    · have claiming : ∀ {later log}, Paired primitives replayId jobId later →
          (workerContract primitives replayId jobId).promise later log
            (.acquireNextQueuedJob config.workerId config.leaseSeconds config.filter clock.acquiredAt)
            (planeStores primitives (.acquireNextQueuedJob config.workerId config.leaseSeconds config.filter
              clock.acquiredAt) later).2 :=
        fun paired => worker_claims _ _ _ _ paired
      refine Contract.meets_call_bind (fun later _ paired _ => claiming paired) ?_
        fun _ _ _ _ _ _ _ _ _ _ => trivial
      intro later answer after _ paired _ outcome
      cases answer with
      | none => exact Contract.meets_pure fun _ _ _ => trivial
      | some job =>
        have kept : Paired primitives replayId jobId after := by
          have promised := (@claiming later log paired).2
          have answered : planeStores primitives (.acquireNextQueuedJob config.workerId config.leaseSeconds
              config.filter clock.acquiredAt) later = (.ok (some job), after) := outcome
          rwa [answered] at promised
        exact worker_runsClaimed ambient elsewhere clock (claimed_of_acquired outcome kept)

end Race

end AiGovernance.Replays
