import AiGovernance.Replays.Aggregate
import AiGovernance.Semantics.Script
import AiGovernance.Services.ReplayApplication

/-!
# A cancellation that raises

`ReplayApplicationService.cancel` stores the request on the replay and asks the
job service after that. Where the job service refuses, or fails, the exception
leaves the request behind.
-/

namespace AiGovernance.Replays

open AiGovernance.Std Domain Repositories
open Semantics Services ReplayApplicationService Program

/-- The repository calls the job service makes. -/
def isJobCall : PlaneCommand → Bool
  | .saveJob _ | .findJobById _ _ _ | .findJobByIdempotencyKey _ _ _ _ | .listJobs _ _ _ _
  | .acquireNextQueuedJob _ _ _ _ | .heartbeat _ _ _ _ | .markSucceeded _ _ _ | .markFailed _ _ _
  | .cancelJob _ _ | .releaseExpiredLeases _ => true
  | .getReplay _ _ _ | .updateReplay _ _ | .getWorkflowExecution _ _ _ | .saveWorkflowExecution _
  | .invokeAdapter _ => false

/-- The repositories with a job service that fails as a script says. -/
def servicePlane (primitives : Primitives) (script : FaultScript controlPlane) : Handler controlPlane (Plane × Nat) :=
  scripted (planeStores primitives) isJobCall script

section Jobs

variable {primitives : Primitives} {script : FaultScript controlPlane} {scope : Scope} {jobId : String}

/-- No other job of the tenant has the key of the job. -/
def OwnsKey (jobs : JobStore) (job : Job) : Prop :=
  ∀ existing, jobs.findByIdempotencyKey job.record.jobType job.record.idempotencyKey
    (job.record.executionContext.map (·.organizationId)) (job.record.executionContext.map (·.projectId)) =
      some existing → existing.record.jobId = job.record.jobId ∧ existing.record.inputHash = job.record.inputHash

/-- A job `JobApiService.cancel` cancels. -/
structure Stoppable (jobs : JobStore) (script : FaultScript controlPlane) (scope : Scope) (jobId : String)
    (job : Job) : Prop where
  found : jobs.findById jobId (some scope.organizationId) scope.projectId = some job
  working : job.record.status = .queued ∨ job.record.status = .running
  owned : OwnsKey jobs job
  answered : ∀ call < 4, script call = none

variable {calls : Nat} {plane : Plane} {now : Instant}

theorem getJob_run_acts (acts : script calls = none) :
    (getJob jobId (some scope)).run (servicePlane primitives script) (plane, calls) =
      (match plane.jobs.findById jobId (some scope.organizationId) scope.projectId with
        | none => .error ⟨.jobNotFoundError, "Job '" ++ jobId ++ "' was not found."⟩
        | some job => .ok job, plane, calls + 1) := by
  unfold getJob
  rw [run_bind, run_call]
  unfold servicePlane
  rw [scripted_acts rfl acts]
  have looked : planeStores primitives (.findJobById jobId (some scope.organizationId) scope.projectId) plane =
    (.ok (plane.jobs.findById jobId (some scope.organizationId) scope.projectId), plane) := rfl
  rw [Option.map_some, Option.bind_some, looked]
  cases plane.jobs.findById jobId (some scope.organizationId) scope.projectId with
  | none => rfl
  | some job => rfl

theorem getJob_run_fails {raised : Raised} (fails : script calls = some raised) :
    (getJob jobId (some scope)).run (servicePlane primitives script) (plane, calls) =
      (.error raised, plane, calls + 1) := by
  unfold getJob
  rw [run_bind, run_call]
  unfold servicePlane
  rw [scripted_fails rfl fails]

/-- A job as `cancel` of its store leaves it. -/
def cancelledJob (job : Job) (now : Instant) : Job := ⟨JobStore.cancelled now job.record, job.valid⟩

theorem saveReplaced_cancelled (jobs : JobStore) (job : Job) :
    jobs.saveReplaced job (JobStore.cancelled now) = jobs.save (cancelledJob job now) := by
  have replaced : job.replace (JobStore.cancelled now) = .ok (cancelledJob job now) :=
    Checked.create_eq_ok_iff.mpr rfl
  unfold JobStore.saveReplaced
  rw [replaced]

variable {jobs : JobStore} {job : Job}

theorem stored_of_findById {organizationId projectId : Option String}
    (found : jobs.findById jobId organizationId projectId = some job) : jobs.byId.get? jobId = some job := by
  unfold JobStore.findById at found
  exact (Option.filter_eq_some_iff.mp found).1

theorem cancel_of_stored (stored : jobs.byId.get? jobId = some job) :
    jobs.cancel jobId now = jobs.save (cancelledJob job now) := by
  have everywhere : jobs.findById jobId none none = some job := by
    unfold JobStore.findById
    rw [stored]
    rfl
  unfold JobStore.cancel
  rw [everywhere]
  exact saveReplaced_cancelled jobs job

theorem save_of_owned (owned : OwnsKey jobs job) : jobs.save job = (.ok (), jobs.put job) := by
  unfold JobStore.save
  cases found : jobs.findByIdempotencyKey job.record.jobType job.record.idempotencyKey
      (job.record.executionContext.map (·.organizationId)) (job.record.executionContext.map (·.projectId)) with
  | none => rfl
  | some existing =>
    obtain ⟨sameJob, sameInput⟩ := owned existing found
    dsimp only
    rw [if_neg]
    rintro (other | changed)
    · exact other sameJob
    · exact changed sameInput

theorem save_of_not_owned (taken : ¬ OwnsKey jobs job) : jobs.save job = (.error JobStore.reusedKey, jobs) := by
  unfold OwnsKey at taken
  push Not at taken
  obtain ⟨existing, found, differs⟩ := taken
  unfold JobStore.save
  rw [found]
  dsimp only
  rw [if_pos]
  by_cases same : existing.record.jobId = job.record.jobId
  · exact Or.inr (differs same)
  · exact Or.inl same

theorem job_call_acts {command : PlaneCommand} (served : isJobCall command = true) (acts : script calls = none) :
    servicePlane primitives script command (plane, calls) =
      ((planeStores primitives command plane).1, (planeStores primitives command plane).2, calls + 1) :=
  scripted_acts served acts plane

theorem job_call_fails {command : PlaneCommand} (served : isJobCall command = true) {raised : Raised}
    (fails : script calls = some raised) :
    servicePlane primitives script command (plane, calls) = (.error raised, plane, calls + 1) :=
  scripted_fails served fails plane

/-- The calls of `cancel` on a job that is found and can be stopped, after it was looked at. -/
theorem cancelJobRequest_run (answered : script 0 = none)
    (found : plane.jobs.findById jobId (some scope.organizationId) scope.projectId = some job)
    (working : job.record.status = .queued ∨ job.record.status = .running) :
    (cancelJobRequest jobId (some scope) now).run (servicePlane primitives script) (plane, 0) =
      (do let _ ← ask (.findJobById jobId none none)
          let _ ← ask (.cancelJob jobId now)
          getJob jobId (some scope)).run (servicePlane primitives script) (plane, 1) := by
  unfold cancelJobRequest
  rw [run_bind, getJob_run_acts answered, found]
  dsimp only
  rw [if_pos working]

variable (primitives) in
theorem cancelJobRequest_stops (plane : Plane) (stoppable : Stoppable plane.jobs script scope jobId job)
    (now : Instant) :
    (cancelJobRequest jobId (some scope) now).run (servicePlane primitives script) (plane, 0) =
      (.ok (cancelledJob job now), { plane with jobs := plane.jobs.put (cancelledJob job now) }, 4) := by
  have stored := stored_of_findById stoppable.found
  have ownId : job.record.jobId = jobId := plane.jobs.keyed stored
  have cancelled : planeStores primitives (.cancelJob jobId now) plane =
      (.ok (), { plane with jobs := plane.jobs.put (cancelledJob job now) }) := by
    have saved : plane.jobs.save (cancelledJob job now) = (.ok (), plane.jobs.put (cancelledJob job now)) :=
      save_of_owned stoppable.owned
    unfold planeStores
    dsimp only
    rw [cancel_of_stored stored, saved]
  have again : (plane.jobs.put (cancelledJob job now)).findById jobId (some scope.organizationId) scope.projectId =
      some (cancelledJob job now) := by
    have tenant := (Option.filter_eq_some_iff.mp stoppable.found).2
    have own : jobId = (cancelledJob job now).record.jobId := ownId.symm
    unfold JobStore.findById
    rw [JobStore.get?_put, if_pos own]
    exact Option.filter_eq_some_iff.mpr ⟨rfl, tenant⟩
  rw [cancelJobRequest_run (stoppable.answered 0 (by decide)) stoppable.found stoppable.working]
  rw [run_bind, run_call, job_call_acts rfl (stoppable.answered 1 (by decide))]
  change ((do
    let _ ← ask (.cancelJob jobId now)
    getJob jobId (some scope)).run (servicePlane primitives script) (plane, 2)) = _
  rw [run_bind, run_call, job_call_acts rfl (stoppable.answered 2 (by decide)), cancelled]
  dsimp only
  rw [getJob_run_acts (stoppable.answered 3 (by decide)), again]

/-- The same calls on a job that cannot be stopped. -/
theorem cancelAfterLook_raises (stuck : ¬ Stoppable plane.jobs script scope jobId job) (first : script 0 = none)
    (found : plane.jobs.findById jobId (some scope.organizationId) scope.projectId = some job)
    (working : job.record.status = .queued ∨ job.record.status = .running) :
    ∃ raised after, (do
        let _ ← ask (.findJobById jobId none none)
        let _ ← ask (.cancelJob jobId now)
        getJob jobId (some scope) : PlaneOperation Job).run (servicePlane primitives script) (plane, 1) =
      (.error raised, after) ∧ after.1.replays = plane.replays := by
  rw [run_bind, run_call]
  cases second : script 1 with
  | some raised =>
    rw [job_call_fails rfl second]
    exact ⟨raised, (plane, 2), rfl, rfl⟩
  | none =>
    rw [job_call_acts rfl second]
    change ∃ raised after, (do
      let _ ← ask (.cancelJob jobId now)
      getJob jobId (some scope) : PlaneOperation Job).run (servicePlane primitives script) (plane, 2) =
        (.error raised, after) ∧ after.1.replays = plane.replays
    rw [run_bind, run_call]
    cases third : script 2 with
    | some raised =>
      rw [job_call_fails rfl third]
      exact ⟨raised, (plane, 3), rfl, rfl⟩
    | none =>
      rw [job_call_acts rfl third]
      unfold planeStores
      dsimp only
      rw [cancel_of_stored (stored_of_findById found)]
      by_cases owned : OwnsKey plane.jobs job
      · have saved : plane.jobs.save (cancelledJob job now) = (.ok (), plane.jobs.put (cancelledJob job now)) :=
          save_of_owned owned
        rw [saved]
        cases fourth : script 3 with
        | none =>
          refine absurd ⟨found, working, owned, fun call below => ?_⟩ stuck
          have cases : call = 0 ∨ call = 1 ∨ call = 2 ∨ call = 3 := by omega
          rcases cases with rfl | rfl | rfl | rfl <;> assumption
        | some raised =>
          dsimp only
          rw [getJob_run_fails fourth]
          exact ⟨raised, _, rfl, rfl⟩
      · have refused : plane.jobs.save (cancelledJob job now) = (.error JobStore.reusedKey, plane.jobs) :=
          save_of_not_owned owned
        rw [refused]
        exact ⟨JobStore.reusedKey, _, rfl, rfl⟩

variable (primitives) in
theorem cancelJobRequest_raises (plane : Plane) (stuck : ∀ job, ¬ Stoppable plane.jobs script scope jobId job)
    (now : Instant) :
    ∃ raised after, (cancelJobRequest jobId (some scope) now).run (servicePlane primitives script) (plane, 0) =
      (.error raised, after) ∧ after.1.replays = plane.replays := by
  cases first : script 0 with
  | some raised =>
    refine ⟨raised, (plane, 1), ?_, rfl⟩
    unfold cancelJobRequest
    rw [run_bind, getJob_run_fails first]
  | none =>
    cases found : plane.jobs.findById jobId (some scope.organizationId) scope.projectId with
    | none =>
      refine ⟨⟨.jobNotFoundError, "Job '" ++ jobId ++ "' was not found."⟩, (plane, 1), ?_, rfl⟩
      unfold cancelJobRequest
      rw [run_bind, getJob_run_acts first, found]
    | some job =>
      by_cases working : job.record.status = .queued ∨ job.record.status = .running
      · rw [cancelJobRequest_run first found working]
        exact cancelAfterLook_raises (fun stoppable => stuck job stoppable) first found working
      · refine ⟨invalidJobRequest ("Job '" ++ jobId ++ "' cannot be cancelled from " ++
          job.record.status.value ++ " status."), (plane, 1), ?_, rfl⟩
        unfold cancelJobRequest
        rw [run_bind, getJob_run_acts first, found]
        dsimp only
        rw [if_neg working]
        rfl

end Jobs

/-! ## The replay -/

section Replays

variable {primitives : Primitives} {script : FaultScript controlPlane} {plane : Plane} {replayId : String}
  {caller : ReplayCaller} {ambient : ReplayAmbient} {now jobNow : Instant} {calls : Nat}

theorem replay_call {command : PlaneCommand} (aside : isJobCall command = false) :
    servicePlane primitives script command (plane, calls) =
      ((planeStores primitives command plane).1, (planeStores primitives command plane).2, calls) := by
  unfold servicePlane scripted
  rw [aside]
  rfl

variable {replay : Replay}

theorem update_stored {store : ReplayStore} {next : Replay} (stored : store.byId.get? replay.replayId = some replay)
    (sameReplay : next.replayId = replay.replayId) (sameOrganization : next.organizationId = replay.organizationId)
    (sameProject : next.projectId = replay.projectId) (sameKey : next.idempotencyKey = replay.idempotencyKey)
    (sameInput : next.inputHash = replay.inputHash) :
    store.update next replay.version =
      (.ok { next with version := replay.version + 1 }, store.put { next with version := replay.version + 1 }) := by
  unfold ReplayStore.update
  rw [sameReplay, stored]
  dsimp only
  rw [if_neg (fun differs => differs rfl), sameOrganization, sameProject, sameKey, sameInput]
  simp

/-- The call is permitted, and the replay it names is active. -/
structure Admitted (plane : Plane) (replayId : String) (caller : ReplayCaller) (ambient : ReplayAmbient)
    (replay : Replay) : Prop where
  permitted : ambient.denied = none
  readable : ambient.readDenied = none
  found : plane.replays.get replayId caller.scope.organizationId caller.scope.projectKey = some replay
  enforced : ambient.enforced replay = none
  active : Replay.active replay.status = true

/-- The call stores a request and asks the job service to cancel a job. -/
structure Asks (plane : Plane) (replayId : String) (caller : ReplayCaller) (ambient : ReplayAmbient)
    (replay : Replay) (jobId : String) : Prop where
  admitted : Admitted plane replayId caller ambient replay
  started : replay.status ≠ .ready
  linked : ReplayApplicationService.activeJobId replay = some jobId
  served : ambient.hasJobService = true

theorem Admitted.stored (admitted : Admitted plane replayId caller ambient replay) :
    plane.replays.byId.get? replayId = some replay ∧ replay.replayId = replayId :=
  have stored := ReplayStore.stored_of_get admitted.found
  ⟨stored, plane.replays.keyed stored⟩

/-- A replay with a request. -/
def requested (replay : Replay) (now : Instant) : Replay :=
  { replay with cancelRequestedAt := some now, updatedAt := now }

/-- The request as it is stored. -/
def storedRequest (replay : Replay) (now : Instant) : Replay :=
  { requested replay now with version := replay.version + 1 }

/-- The part of `cancel` after its checks. -/
def cancelAdmitted (replay : Replay) (caller : ReplayCaller) (ambient : ReplayAmbient) (jobNow : Instant) :
    PlaneOperation Replay := do
  let requested ← Program.ofExcept (replay.requestCancellation ambient.requestedAt)
  if replay.status = .ready then do
    let cancelled ← Program.ofExcept (requested.markCancelled ambient.finishedAt)
    ask (.updateReplay cancelled replay.version)
  else
    match ReplayApplicationService.activeJobId replay with
    | none => .raise ⟨.replayCancellationFailed, "Replay job service is not configured."⟩
    | some jobId =>
      if ambient.hasJobService = false then
        .raise ⟨.replayCancellationFailed, "Replay job service is not configured."⟩
      else do
        let persisted ← ask (.updateReplay requested replay.version)
        ReplayApplicationService.settleCancellation persisted jobId caller ambient jobNow

@[simp] theorem passes_run (denied : Option Raised) (state : Plane × Nat) :
    (passes denied).run (servicePlane primitives script) state =
      (match denied with
        | some raised => .error raised
        | none => .ok (), state) := by
  cases denied <;> rfl

theorem get_run (readable : ambient.readDenied = none) :
    (get replayId caller ambient).run (servicePlane primitives script) (plane, 0) =
      (match plane.replays.get replayId caller.scope.organizationId caller.scope.projectKey with
        | none => .error ⟨.replayNotFound, "Replay '" ++ replayId ++ "' was not found."⟩
        | some replay => .ok replay, plane, 0) := by
  unfold ReplayApplicationService.get
  rw [run_bind, passes_run, readable]
  dsimp only
  rw [run_bind, run_call, replay_call rfl]
  have looked : planeStores primitives
      (.getReplay replayId caller.scope.organizationId caller.scope.projectKey) plane =
    (.ok (plane.replays.get replayId caller.scope.organizationId caller.scope.projectKey), plane) := rfl
  rw [looked]
  cases plane.replays.get replayId caller.scope.organizationId caller.scope.projectKey with
  | none => rfl
  | some replay => rfl

theorem cancel_admitted (admitted : Admitted plane replayId caller ambient replay) (jobNow : Instant) :
    (cancel replayId caller ambient jobNow).run (servicePlane primitives script) (plane, 0) =
      (cancelAdmitted replay caller ambient jobNow).run (servicePlane primitives script) (plane, 0) := by
  have active : Replay.active replay.status ≠ false := by
    rw [admitted.active]
    decide
  unfold cancel cancelAdmitted
  rw [run_bind, passes_run, admitted.permitted]
  dsimp only
  rw [run_bind, get_run admitted.readable, admitted.found]
  dsimp only
  rw [run_bind, passes_run, admitted.enforced]
  dsimp only
  rw [if_neg active] <;> rfl

variable (primitives script) in
theorem cancel_rejected (rejected : ∀ replay, ¬ Admitted plane replayId caller ambient replay) (jobNow : Instant) :
    ∃ raised, (cancel replayId caller ambient jobNow).run (servicePlane primitives script)
      (plane, 0) = (.error raised, plane, 0) := by
  unfold cancel
  rw [run_bind, passes_run]
  cases permitted : ambient.denied with
  | some raised => exact ⟨raised, rfl⟩
  | none =>
    dsimp only
    rw [run_bind]
    cases readable : ambient.readDenied with
    | some raised =>
      unfold ReplayApplicationService.get
      rw [run_bind, passes_run, readable]
      exact ⟨raised, rfl⟩
    | none =>
      rw [get_run readable]
      cases found : plane.replays.get replayId caller.scope.organizationId caller.scope.projectKey with
      | none => exact ⟨_, rfl⟩
      | some replay =>
        dsimp only
        rw [run_bind, passes_run]
        cases enforced : ambient.enforced replay with
        | some raised => exact ⟨raised, rfl⟩
        | none =>
          dsimp only
          cases active : Replay.active replay.status with
          | false => exact ⟨_, rfl⟩
          | true => exact absurd ⟨permitted, readable, found, enforced, active⟩ (rejected replay)

theorem requestCancellation_active (active : Replay.active replay.status = true) :
    replay.requestCancellation now = .ok (requested replay now) := by
  unfold Replay.requestCancellation Replay.require
  rw [if_pos active]
  rfl

theorem requested_asked (replay : Replay) (now : Instant) : (requested replay now).cancelRequestedAt ≠ none := by
  unfold requested
  simp

/-- A replay with a request, cancelled. -/
def cancelledReplay (replay : Replay) (now : Instant) : Replay :=
  { replay with status := .cancelled, cancelledAt := some now, updatedAt := now }

/-- A replay with a request is cancelled from any active state. -/
theorem markCancelled_requested (active : Replay.active replay.status = true) (asked : replay.cancelRequestedAt ≠ none)
    (now : Instant) : replay.markCancelled now = .ok (cancelledReplay replay now) := by
  unfold Replay.markCancelled
  split
  · obtain ⟨earlier, request⟩ := Option.ne_none_iff_exists'.mp asked
    unfold cancelledReplay
    rw [request]
    rfl
  · unfold Replay.require
    rw [if_pos ⟨active, asked⟩]
    rfl

theorem update_run (next : Replay) (stored : plane.replays.byId.get? replay.replayId = some replay)
    (same : next.replayId = replay.replayId ∧ next.organizationId = replay.organizationId ∧
      next.projectId = replay.projectId ∧ next.idempotencyKey = replay.idempotencyKey ∧
      next.inputHash = replay.inputHash) :
    servicePlane primitives script (.updateReplay next replay.version) (plane, calls) =
      (.ok { next with version := replay.version + 1 },
        { plane with replays := plane.replays.put { next with version := replay.version + 1 } }, calls) := by
  rw [replay_call rfl]
  unfold planeStores
  dsimp only
  rw [update_stored stored same.1 same.2.1 same.2.2.1 same.2.2.2.1 same.2.2.2.2]

theorem Admitted.own (admitted : Admitted plane replayId caller ambient replay) :
    plane.replays.byId.get? replay.replayId = some replay := by
  obtain ⟨stored, sameId⟩ := admitted.stored
  rw [sameId]
  exact stored

variable (primitives script) in
theorem cancelAdmitted_ready (admitted : Admitted plane replayId caller ambient replay) (ready : replay.status = .ready)
    (jobNow : Instant) :
    ∃ cancelled : Replay, cancelled.status = .cancelled ∧ cancelled.replayId = replayId ∧
      (cancelAdmitted replay caller ambient jobNow).run (servicePlane primitives script) (plane, 0) =
        (.ok cancelled, { plane with replays := plane.replays.put cancelled }, 0) := by
  unfold cancelAdmitted
  have marked : (requested replay ambient.requestedAt).markCancelled ambient.finishedAt =
    .ok (cancelledReplay (requested replay ambient.requestedAt) ambient.finishedAt) :=
      @markCancelled_requested (requested replay ambient.requestedAt) admitted.active (requested_asked replay _)
          ambient.finishedAt
  rw [requestCancellation_active admitted.active, ofExcept_ok, done_bind, if_pos ready, marked,
    ofExcept_ok, done_bind, run_call,
    update_run (cancelledReplay (requested replay ambient.requestedAt) ambient.finishedAt) admitted.own
      ⟨rfl, rfl, rfl, rfl, rfl⟩]
  exact ⟨{ cancelledReplay (requested replay ambient.requestedAt) ambient.finishedAt with
    version := replay.version + 1 }, rfl, admitted.stored.2, rfl⟩

variable {jobId : String}

/-- A request that reaches the job service is stored before the service is asked. -/
theorem cancelAdmitted_asks (asks : Asks plane replayId caller ambient replay jobId) :
    (cancelAdmitted replay caller ambient jobNow).run (servicePlane primitives script) (plane, 0) =
      (settleCancellation (storedRequest replay ambient.requestedAt) jobId caller ambient
        jobNow).run (servicePlane primitives script)
          ({ plane with replays := plane.replays.put (storedRequest replay ambient.requestedAt) }, 0) := by
  have served : ¬ ambient.hasJobService = false := by
    rw [asks.served]
    decide
  unfold cancelAdmitted
  rw [requestCancellation_active asks.admitted.active, ofExcept_ok, done_bind, if_neg asks.started,
    asks.linked]
  dsimp only
  rw [if_neg served, run_bind, run_call,
    update_run (requested replay ambient.requestedAt) asks.admitted.own ⟨rfl, rfl, rfl, rfl, rfl⟩]
  rfl

variable (primitives script) in
/-- An active replay that is not ready and whose job service is not asked is left as it is. -/
theorem cancelAdmitted_unasked (admitted : Admitted plane replayId caller ambient replay)
    (started : replay.status ≠ .ready) (unasked : ∀ jobId, ¬ Asks plane replayId caller ambient replay jobId)
    (jobNow : Instant) :
    ∃ raised, (cancelAdmitted replay caller ambient jobNow).run (servicePlane primitives script) (plane, 0) =
      (.error raised, plane, 0) := by
  unfold cancelAdmitted
  rw [requestCancellation_active admitted.active, ofExcept_ok, done_bind, if_neg started]
  cases linked : activeJobId replay with
  | none => exact ⟨_, rfl⟩
  | some jobId =>
    dsimp only
    cases served : ambient.hasJobService with
    | false => exact ⟨_, rfl⟩
    | true => exact absurd ⟨admitted, started, linked, served⟩ (unasked jobId)

/-! ## The call -/

/-- Whether a job is over or can still run is all a cancelled request leaves open. -/
def stoppedOrActive (status : JobStatus) : Prop := status = .cancelled ∨ status = .queued ∨ status = .running

/-- A call that raises changed no replay and no job; one that returns leaves the replay cancelled, or
its request stored with a job that is cancelled or active. -/
def AllOrNothing (replayId : String) (before after : Plane) : Except Raised Replay → Prop
  | .error _ =>
    (∀ other, after.replays.byId.get? other = before.replays.byId.get? other) ∧
      ∀ other, after.jobs.byId.get? other = before.jobs.byId.get? other
  | .ok _ =>
    ∃ replay, after.replays.byId.get? replayId = some replay ∧
      (replay.status = .cancelled ∨
        replay.cancelRequestedAt ≠ none ∧ ∃ jobId job, ReplayApplicationService.activeJobId replay = some jobId ∧
          after.jobs.byId.get? jobId = some job ∧ stoppedOrActive job.record.status)

variable (primitives) in
theorem settleCancellation_stops {job : Job} (asks : Asks plane replayId caller ambient replay jobId)
    (stoppable : Stoppable plane.jobs script caller.scope jobId job) (jobNow : Instant) :
    ∃ (cancelled : Replay) (after : Plane),
      (cancelAdmitted replay caller ambient jobNow).run (servicePlane primitives script) (plane, 0) =
        (.ok cancelled, after, 4) ∧
      after.replays.byId.get? replayId = some cancelled ∧ cancelled.status = .cancelled := by
  have sameId := asks.admitted.stored.2
  have settled := cancelJobRequest_stops primitives { plane with
    replays := plane.replays.put (storedRequest replay ambient.requestedAt) } stoppable jobNow
  have active : Replay.active (storedRequest replay ambient.requestedAt).status = true := asks.admitted.active
  have asked : (storedRequest replay ambient.requestedAt).cancelRequestedAt ≠ none :=
    requested_asked replay ambient.requestedAt
  have marked := markCancelled_requested active asked ambient.finishedAt
  have ended : (cancelledJob job jobNow).record.status = .cancelled := rfl
  rw [cancelAdmitted_asks asks]
  unfold settleCancellation
  rw [run_bind, run_caught, settled]
  dsimp only
  rw [if_pos ended, marked, ofExcept_ok, done_bind, run_call,
    update_run (cancelledReplay (storedRequest replay ambient.requestedAt) ambient.finishedAt)]
  · refine ⟨_, _, rfl, ?_, rfl⟩
    dsimp only
    rw [ReplayStore.get?_put]
    exact if_pos sameId.symm
  · dsimp only
    rw [ReplayStore.get?_put]
    exact if_pos rfl
  · exact ⟨rfl, rfl, rfl, rfl, rfl⟩

variable (primitives) in
theorem settleCancellation_raises (asks : Asks plane replayId caller ambient replay jobId)
    (stuck : ∀ job, ¬ Stoppable plane.jobs script caller.scope jobId job) (jobNow : Instant) :
    ∃ raised after, (cancelAdmitted replay caller ambient jobNow).run (servicePlane primitives script) (plane, 0) =
        (.error raised, after) ∧
      after.1.replays.byId.get? replayId = some (storedRequest replay ambient.requestedAt) := by
  obtain ⟨raised, after, outcome, kept⟩ := cancelJobRequest_raises primitives { plane with
    replays := plane.replays.put (storedRequest replay ambient.requestedAt) } stuck jobNow
  rw [cancelAdmitted_asks asks]
  unfold settleCancellation
  rw [run_bind, run_caught, outcome]
  refine ⟨_, after, rfl, ?_⟩
  rw [kept]
  have own : replayId = (storedRequest replay ambient.requestedAt).replayId := asks.admitted.stored.2.symm
  rw [ReplayStore.get?_put, if_pos own]

/-- The claims run with its execution completed. -/
def completedExecution : Replay :=
  after (Replay.draftOf claimsReplay) (completedRun.take 5)

/-- The job that produced the execution. -/
def succeededJob : Job :=
  ⟨{ jobId := "job-1"
     jobType := .replayExecution
     status := .succeeded
     inputRefs := [("replay_id", .str "replay-1")]
     inputHash := "hash-3"
     idempotencyKey := "replay-execution:org-1:project-1:replay-1"
     submittedBy := "analyst-1"
     attemptCount := 1
     maxAttempts := 3
     resultRef := some "workflow_execution:exec-2"
     failureReason := none
     leasedBy := none
     leaseExpiresAt := none
     heartbeatAt := none
     createdAt := ⟨63000000000000000⟩
     updatedAt := ⟨63000000000000000⟩
     startedAt := some ⟨63000000000000000⟩
     completedAt := some ⟨63000000000000000⟩
     executionContext := some {
       organizationId := "org-1"
       projectId := "project-1"
       actorId := "analyst-1"
       submittedRequestId := "request-1" } }, by decide +kernel⟩

/-- The plane of the completed execution. -/
def completedPlane : Plane where
  jobs := JobStore.empty.put succeededJob
  replays := ReplayStore.empty.put completedExecution
  executions := Dict.empty

/-- The request of the analyst. -/
def analyst : ReplayCaller where
  scope := { organizationId := "org-1", projectId := some "project-1" }
  actorId := "analyst-1"
  requestId := "request-2"

/-- Clock readings of a request. -/
def requestAmbient : ReplayAmbient where
  requestedAt := ⟨63000000001000000⟩
  finishedAt := ⟨63000000002000000⟩
  job := { jobId := "job-2", now := ⟨63000000001000000⟩ }

end Replays

end AiGovernance.Replays
