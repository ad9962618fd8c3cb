import AiGovernance.Jobs.Moves
import AiGovernance.Semantics.Pool

/-!
# Who changes the outcome of a job

Any number of `run_once` turns and retries in flight, interleaved call by call.
The completion methods carry neither a worker nor an attempt, so a worker whose
lease ran out still reports. What does hold of every step is `Attributed`: a job
becomes succeeded or failed by the report of a turn that claimed it, or when its
lease expires with no attempt left, and a finished job changes only by such a
report or a retry.
-/

namespace AiGovernance.Jobs

open AiGovernance.Std Domain Repositories
open Semantics Services Program

/-- What callers of the platform see of a finished job. -/
def outcome (job : Job) : JobStatus × Option String × Option String :=
  (job.record.status, job.record.resultRef, job.record.failureReason)

theorem outcome_ne {old new : Job} (different : new.record.status ≠ old.record.status) :
    outcome new ≠ outcome old :=
  fun same => different (congrArg Prod.fst same)

/-- Finished by its own execution. -/
def Settled (job : Job) : Prop := job.record.status = .succeeded ∨ job.record.status = .failed

/-! ## Turns and retries in flight -/

/-- A turn of a worker, or a retry request. -/
inductive WorkCall where
  | runOnce (config : WorkerConfig) (executor : Job → PlaneOperation JobResult) (clock : WorkerClock)
  | retry (jobId : String) (scope : Option Scope) (ambient : RetryAmbient)

/-- The worker of a turn. -/
def WorkCall.workerId : WorkCall → Option String
  | runOnce config _ _ => some config.workerId
  | retry _ _ _ => none

/-- The call is a retry. -/
def WorkCall.isRetry : WorkCall → Bool
  | runOnce _ _ _ => false
  | retry _ _ _ => true

/-- A handler works on other records than the jobs. -/
def LeavesJobs : PlaneCommand → Prop
  | .saveJob _ | .acquireNextQueuedJob _ _ _ _ | .heartbeat _ _ _ _ | .markSucceeded _ _ _
  | .markFailed _ _ _ | .cancelJob _ _ | .releaseExpiredLeases _ => False
  | _ => True

section Pool

variable (primitives : Primitives)

/-- The steps of a call; what it returns is dropped. -/
def WorkCall.body : WorkCall → PlaneOperation Unit
  | runOnce config executor clock => do
      let _ ← Services.runOnce config executor clock
      return ()
  | retry jobId scope ambient => do
      let _ ← retryJob primitives jobId scope ambient
      return ()

/-- Turns of any workers with handlers that leave jobs alone, and retries. Everything else
in the platform may add jobs and change other records between any two steps. -/
def workers : Pool controlPlane Plane WorkCall Unit where
  handler := planeStores primitives
  body := WorkCall.body primitives
  offered
    | .runOnce _ executor _ => ∀ job, (executor job).Within LeavesJobs fun _ => True
    | .retry _ _ _ => True
  environment plane next := ∀ jobId job, plane.jobs.byId.get? jobId = some job →
    next.jobs.byId.get? jobId = some job
  admits _ _ _ := True

/-- An earlier step of the same turn claimed the job for the worker. -/
def Claimed (workerId jobId : String) (log : CommandLog controlPlane Plane) : Prop :=
  ∃ plane leaseSeconds filter now job,
    (plane, PlaneCommand.acquireNextQueuedJob workerId leaseSeconds filter now) ∈ log ∧
      (planeStores primitives (.acquireNextQueuedJob workerId leaseSeconds filter now) plane).1 =
        .ok (some job) ∧
      job.record.jobId = jobId

/-- What the step of a call does to a job whose outcome it changes. -/
structure Attributed (call : WorkCall) (log : CommandLog controlPlane Plane) (command : PlaneCommand)
    (jobId : String) (old new : Job) : Prop where
  completed : Settled new →
    (∃ now, command = .releaseExpiredLeases now ∧ old.record.status = .running ∧
        old.record.leaseExpiresAt.any (· ≤ now) = true ∧ old.record.maxAttempts ≤ old.record.attemptCount) ∨
      (∃ workerId, call.workerId = some workerId ∧ Claimed primitives workerId jobId log ∧
        ((∃ resultRef now, command = .markSucceeded jobId resultRef now) ∨
          ∃ failureReason now, command = .markFailed jobId failureReason now))
  settled : Settled old →
    call.isRetry = true ∨
      (∃ workerId, call.workerId = some workerId ∧ Claimed primitives workerId jobId log ∧
        ((∃ resultRef now, command = .markSucceeded jobId resultRef now) ∨
          (∃ failureReason now, command = .markFailed jobId failureReason now) ∨
            ∃ now, command = .cancelJob jobId now))

/-- What a lease would have to guarantee of a step: only the holder completes a running job,
and only a retry changes a settled one. -/
structure Fenced (call : WorkCall) (old new : Job) : Prop where
  completed : Settled new →
    old.record.status = .running ∧ ∃ workerId, call.workerId = some workerId ∧
      old.record.leasedBy = some workerId
  settled : Settled old → call.isRetry = true

/-! ## What each call issues -/

/-- The commands of a turn: a report follows its claim. -/
def turnRule (workerId : String) (log : CommandLog controlPlane Plane) : PlaneCommand → Prop
  | .markSucceeded jobId _ _ | .markFailed jobId _ _ | .cancelJob jobId _ =>
    Claimed primitives workerId jobId log
  | .acquireNextQueuedJob _ _ _ _ | .releaseExpiredLeases _ => True
  | command => LeavesJobs command

/-- The commands of a retry: it saves a queued job only. -/
def retryRule : PlaneCommand → Prop
  | .saveJob job => job.record.status = .queued
  | command => LeavesJobs command

/-- The commands of a call. -/
def workRule : WorkCall → CommandLog controlPlane Plane → PlaneCommand → Prop
  | .runOnce config _ _, log, command => turnRule primitives config.workerId log command
  | .retry _ _ _, _, command => retryRule command

variable {primitives}

variable {workerId : String}

theorem turnRule_of_leavesJobs (log : CommandLog controlPlane Plane) (command : PlaneCommand)
    (leaves : LeavesJobs command) : turnRule primitives workerId log command := by
  cases command <;> first | exact leaves | exact leaves.elim

variable {jobId : String} {log : CommandLog controlPlane Plane}

theorem Claimed.later {later : CommandLog controlPlane Plane} (claimed : Claimed primitives workerId jobId log)
    (extended : log <+: later) : Claimed primitives workerId jobId later := by
  obtain ⟨plane, leaseSeconds, filter, now, job, member, answered, identity⟩ := claimed
  exact ⟨plane, leaseSeconds, filter, now, job, extended.subset member, answered, identity⟩

theorem report_obeys (claimed : Claimed primitives workerId jobId log) (result : JobResult) (now : Instant) :
    Obeys (planeStores primitives) (turnRule primitives workerId) (report jobId result now) log := by
  unfold report
  split
  · split
    · exact obeys_call claimed
    · exact obeys_call claimed
  · exact obeys_call claimed
  · exact obeys_call claimed

variable {job : Job}

theorem executeClaimed_obeys {executor : Job → PlaneOperation JobResult}
    (leaves : ∀ job, (executor job).Within LeavesJobs fun _ => True) (clock : WorkerClock)
    (claimed : Claimed primitives workerId job.record.jobId log) :
    Obeys (planeStores primitives) (turnRule primitives workerId) (executeClaimed executor clock job) log := by
  unfold executeClaimed
  have executes : Obeys (planeStores primitives) (turnRule primitives workerId)
      (executor job >>= fun result => report job.record.jobId result clock.finishedAt) log := by
    refine (obeys_of_within (leaves job) turnRule_of_leavesJobs).bind fun result later extended => ?_
    exact report_obeys (claimed.later extended) result clock.finishedAt
  refine executes.caught.bind fun outcome later extended => ?_
  cases outcome with
  | ok value => exact obeys_call trivial
  | error raised => exact obeys_call_bind (claimed.later extended) fun _ _ _ => trivial

theorem runOnce_obeys (config : WorkerConfig) {executor : Job → PlaneOperation JobResult}
    (leaves : ∀ job, (executor job).Within LeavesJobs fun _ => True) (clock : WorkerClock) :
    Obeys (planeStores primitives) (turnRule primitives config.workerId)
      (runOnce config executor clock) log := by
  unfold runOnce
  refine obeys_call_bind trivial fun plane _ _ => ?_
  have reads : (atCapacity config.concurrency).Within LeavesJobs fun _ => True := by
    unfold atCapacity
    split
    · trivial
    · exact within_call_bind trivial fun _ => trivial
  refine (obeys_of_within reads turnRule_of_leavesJobs).bind fun full later _ => ?_
  cases full with
  | true => trivial
  | false =>
    refine obeys_call_bind trivial fun plane answer answered => ?_
    cases answer with
    | none => trivial
    | some job =>
      refine executeClaimed_obeys leaves clock ⟨plane, _, _, _, job, ?_, answered, rfl⟩
      exact List.mem_append_right _ (List.mem_singleton_self _)

/-- The commands of a submission: lookups, and saves of a queued job. -/
def Queues : PlaneCommand → Prop
  | .saveJob job => job.record.status = .queued
  | .findJobById _ _ _ | .findJobByIdempotencyKey _ _ _ _ | .listJobs _ _ _ _ => True
  | _ => False

variable {command : PlaneCommand}

theorem retryRule_of_queues (queues : Queues command) : retryRule command := by
  cases command <;> first | exact queues | exact queues.elim

theorem submitJob_within (submission : JobSubmission) (ambient : SubmitAmbient) :
    (submitJob primitives submission ambient).Within Queues fun _ => True := by
  unfold submitJob
  split
  · trivial
  · refine within_call_bind trivial fun existing => ?_
    cases existing with
    | some existing =>
      dsimp only
      split <;> trivial
    | none =>
      have capacity : (checkCapacity submission ambient.queueSize).Within Queues fun _ => True := by
        unfold checkCapacity
        split
        · trivial
        · refine within_call_bind trivial fun queued => ?_
          split <;> trivial
      refine within_bind.mpr (capacity.mono (fun _ permitted => permitted) fun _ _ => ?_)
      refine within_ofExcept_bind fun job created => ?_
      refine within_call_bind ?_ fun _ => trivial
      change job.record.status = .queued
      rw [Checked.create_eq_ok_iff.mp created]
      rfl

theorem retryJob_within (scope : Option Scope) (ambient : RetryAmbient) :
    (retryJob primitives jobId scope ambient).Within Queues fun _ => True := by
  unfold retryJob
  have reads : (getJob jobId scope).Within Queues fun _ => True := by
    refine within_call_bind trivial fun job => ?_
    cases job <;> trivial
  refine within_bind.mpr (reads.mono (fun _ permitted => permitted) fun job _ => ?_)
  split
  · trivial
  · split
    · trivial
    · split
      · refine within_ofExcept_bind fun requeued created => ?_
        refine within_call_bind ?_ fun _ => trivial
        change requeued.record.status = .queued
        rw [Checked.create_eq_ok_iff.mp created]
        rfl
      · exact submitJob_within _ _

theorem body_obeys (call : WorkCall) (offered : (workers primitives).offered call) :
    Obeys (planeStores primitives) (workRule primitives call) (WorkCall.body primitives call) [] := by
  cases call with
  | runOnce config executor clock =>
    exact (runOnce_obeys config offered clock).bind fun _ _ _ => trivial
  | retry jobId scope ambient =>
    refine Obeys.bind ?_ fun _ _ _ => trivial
    exact obeys_of_within (retryJob_within scope ambient) fun _ _ => retryRule_of_queues

/-! ## What each command does to a job -/

variable {store : JobStore}

theorem Rewrites.get? {allowed : JobRecord → JobRecord → Prop} {next : JobStore}
    (rewrites : Rewrites allowed store next) (stored : store.byId.get? jobId = some job) :
    ∃ later, next.byId.get? jobId = some later ∧ (later = job ∨ allowed job.record later.record) := by
  obtain ⟨old, new, found, change, rfl⟩ := rewrites
  rw [JobStore.get?_put]
  split
  · rename_i same
    rw [same, found] at stored
    cases stored
    exact ⟨new, rfl, Or.inr change⟩
  · exact ⟨job, stored, Or.inl rfl⟩

variable {old new : Job}

theorem change_of_rewrites {allowed : JobRecord → JobRecord → Prop} {next : JobStore}
    (changed : next = store ∨ Rewrites allowed store next) (stored : store.byId.get? jobId = some old)
    (after : next.byId.get? jobId = some new) (different : outcome new ≠ outcome old) :
    allowed old.record new.record := by
  rcases changed with rfl | rewrites
  · rw [stored] at after
    cases after
    exact absurd rfl different
  · obtain ⟨later, found, same | change⟩ := rewrites.get? stored
    · rw [found] at after
      cases after
      exact absurd (congrArg outcome same) different
    · rw [found] at after
      cases after
      exact change

variable {now : Instant}

/-- A released job is not running, so a sweep changes it once. -/
theorem change_of_release (stored : store.byId.get? jobId = some old)
    (after : (store.releaseExpiredLeases now).2.byId.get? jobId = some new) (different : outcome new ≠ outcome old) :
    JobStore.isExpired now old.record = true ∧ new.record = JobStore.released now old.record := by
  have steps := release_rewrites store now
  have reached : ∀ {next : JobStore}, RewritesAll (fun old new => JobStore.isExpired now old = true ∧
      new = JobStore.released now old) store next → ∃ later, next.byId.get? jobId = some later ∧
        (later = old ∨ JobStore.isExpired now old.record = true ∧
          later.record = JobStore.released now old.record) := by
    intro next rewrites
    induction rewrites with
    | refl => exact ⟨old, stored, Or.inl rfl⟩
    | tail _ last ih =>
      obtain ⟨middle, found, reason⟩ := ih
      obtain ⟨later, foundLater, change⟩ := last.get? found
      refine ⟨later, foundLater, ?_⟩
      rcases change with rfl | ⟨expired, record⟩
      · exact reason
      · rcases reason with rfl | ⟨-, released⟩
        · exact Or.inr ⟨expired, record⟩
        · exfalso
          rw [released] at expired
          simp only [JobStore.isExpired, JobStore.released, JobStore.unleased] at expired
          split at expired <;> simp at expired
  obtain ⟨later, found, same | change⟩ := reached steps
  · rw [found] at after
    cases after
    exact absurd (congrArg outcome same) different
  · rw [found] at after
    cases after
    exact change

theorem jobs_of_leavesJobs (leaves : LeavesJobs command) (plane : Plane) :
    (planeStores primitives command plane).2.jobs = plane.jobs := by
  cases command <;> first | rfl | exact leaves.elim

theorem change_of_finish {target : String} (change : JobRecord → JobRecord)
    (sameId : ∀ record, (change record).jobId = record.jobId) (stored : store.byId.get? jobId = some old)
    (after : (store.finish target change).2.byId.get? jobId = some new) (different : outcome new ≠ outcome old) :
    jobId = target := by
  have changed : (store.finish target change).2 = store ∨
      Rewrites (fun old _ => old.jobId = target) store (store.finish target change).2 :=
    finish_rewrites sameId fun _ same _ => same
  exact (store.keyed stored).symm.trans (change_of_rewrites changed stored after different)

theorem change_of_cancel {target : String} (stored : store.byId.get? jobId = some old)
    (after : (store.cancel target now).2.byId.get? jobId = some new) (different : outcome new ≠ outcome old) :
    jobId = target ∧ new.record.status = .cancelled := by
  have changed : (store.cancel target now).2 = store ∨
      Rewrites (fun old new => old.jobId = target ∧ new.status = .cancelled) store
        (store.cancel target now).2 :=
    cancel_rewrites fun _ same => ⟨same, rfl⟩
  obtain ⟨named, cancelled⟩ := change_of_rewrites changed stored after different
  exact ⟨(store.keyed stored).symm.trans named, cancelled⟩

theorem change_of_acquire {leaseSeconds : Int} {filter : ClaimFilter} (stored : store.byId.get? jobId = some old)
    (after : (store.acquireNextQueuedJob primitives workerId leaseSeconds filter now).2.byId.get? jobId = some new)
    (different : outcome new ≠ outcome old) : old.record.status = .queued ∧ new.record.status = .running := by
  have changed : (store.acquireNextQueuedJob primitives workerId leaseSeconds filter now).2 = store ∨
      Rewrites (fun old new => old.status = .queued ∧ new.status = .running) store
        (store.acquireNextQueuedJob primitives workerId leaseSeconds filter now).2 := by
    rcases acquire_cases primitives store workerId leaseSeconds filter now with
      ⟨-, same⟩ | ⟨claimed, next, selected, record, outcome⟩
    · exact Or.inl same
    · obtain ⟨queued, found⟩ := nextQueued_stored selected
      refine Or.inr ⟨claimed, next, ?_, ⟨queued, ?_⟩, by rw [outcome]⟩
      · rw [record]
        exact found
      · rw [record]
        rfl
  exact change_of_rewrites changed stored after different

theorem change_of_save (stored : store.byId.get? jobId = some old)
    (after : (store.save job).2.byId.get? jobId = some new) (different : outcome new ≠ outcome old) : new = job := by
  rcases save_cases store job with refused | written
  · rw [refused, stored] at after
    cases after
    exact absurd rfl different
  · rw [written, JobStore.get?_put] at after
    split at after
    · cases after
      rfl
    · rw [stored] at after
      cases after
      exact absurd rfl different

theorem not_settled {status : JobStatus} (held : job.record.status = status)
    (other : status ≠ .succeeded ∧ status ≠ .failed) : ¬ Settled job := by
  rintro (succeeded | failed)
  · exact other.1 (held.symm.trans succeeded)
  · exact other.2 (held.symm.trans failed)

/-- A step within the rule of its call changes outcomes only as attributed. -/
theorem attributed_of_rule {call : WorkCall} {plane : Plane} (rule : workRule primitives call log command)
    (stored : plane.jobs.byId.get? jobId = some old)
    (after : (planeStores primitives command plane).2.jobs.byId.get? jobId = some new)
    (different : outcome new ≠ outcome old) : Attributed primitives call log command jobId old new := by
  have untouched : ¬ LeavesJobs command := by
    intro leaves
    rw [jobs_of_leavesJobs leaves, stored] at after
    cases after
    exact different rfl
  cases call with
  | retry retryId scope ambient =>
    refine ⟨fun settled => ?_, fun _ => Or.inl rfl⟩
    cases command with
    | saveJob job =>
      rw [change_of_save stored after different] at settled
      exact absurd settled (not_settled rule (by decide))
    | _ => exact absurd rule untouched
  | runOnce config executor clock =>
    cases command with
    | acquireNextQueuedJob workerId leaseSeconds filter now =>
      obtain ⟨queued, running⟩ := change_of_acquire stored after different
      exact ⟨fun settled => absurd settled (not_settled running (by decide)),
        fun settled => absurd settled (not_settled queued (by decide))⟩
    | releaseExpiredLeases now =>
      obtain ⟨expired, record⟩ := change_of_release stored after different
      simp only [JobStore.isExpired, Bool.and_eq_true, decide_eq_true_eq] at expired
      refine ⟨fun settled => Or.inl ⟨now, rfl, expired.1, expired.2, ?_⟩,
        fun settled => absurd settled (not_settled expired.1 (by decide))⟩
      by_contra left
      have queued : new.record.status = .queued := by
        rw [record, JobStore.released, if_pos (by omega)]
      exact not_settled queued (by decide) settled
    | markSucceeded target resultRef now =>
      obtain rfl := change_of_finish (JobStore.succeeded resultRef now) (fun _ => rfl) stored after different
      exact ⟨fun _ => Or.inr ⟨_, rfl, rule, Or.inl ⟨_, _, rfl⟩⟩,
        fun _ => Or.inr ⟨_, rfl, rule, Or.inl ⟨_, _, rfl⟩⟩⟩
    | markFailed target failureReason now =>
      obtain rfl := change_of_finish (JobStore.failed failureReason now) (fun _ => rfl) stored after different
      exact ⟨fun _ => Or.inr ⟨_, rfl, rule, Or.inr ⟨_, _, rfl⟩⟩,
        fun _ => Or.inr ⟨_, rfl, rule, Or.inr (Or.inl ⟨_, _, rfl⟩)⟩⟩
    | cancelJob target now =>
      obtain ⟨rfl, cancelled⟩ := change_of_cancel stored after different
      exact ⟨fun settled => absurd settled (not_settled cancelled (by decide)),
        fun _ => Or.inr ⟨_, rfl, rule, Or.inr (Or.inr ⟨_, rfl⟩)⟩⟩
    | _ => exact absurd rule untouched

/-- In every run, a step that changes the outcome of a stored job is a call's, and attributed. -/
theorem outcome_attributed {start : Plane} {config next : Config controlPlane Plane WorkCall Unit}
    (reaches : (workers primitives).Reaches ⟨start, []⟩ config)
    (step : (workers primitives).Step config next) {jobId : String} {old new : Job}
    (stored : config.state.jobs.byId.get? jobId = some old)
    (changed : next.state.jobs.byId.get? jobId = some new) (different : outcome new ≠ outcome old) :
    (∃ call log command, (workers primitives).Issues config next call log command) ∧
      ∀ call log command, (workers primitives).Issues config next call log command →
        Attributed primitives call log command jobId old new := by
  constructor
  · rcases step.cases with same | kept | issues
    · rw [same, stored] at changed
      cases changed
      exact absurd rfl different
    · rw [kept jobId old stored] at changed
      cases changed
      exact absurd rfl different
    · exact issues
  · intro call log command issues
    obtain ⟨continuation, member⟩ := issues.mem
    have obeys := Pool.obeys_of_reaches (workRule primitives) body_obeys reaches (by simp) _ member
    obtain ⟨before, after, continuation, shape, -, rfl⟩ := issues
    exact attributed_of_rule obeys.1 stored changed different

end Pool

/-! ## A lease that runs out -/

/-- A queued evaluation job. -/
def queuedEvaluation : Job where
  record :=
    { jobId := "job-1", jobType := .evaluation, status := .queued, inputRefs := [], inputHash := "hash-1"
      idempotencyKey := "evaluate-1", submittedBy := "analyst-1", attemptCount := 0, maxAttempts := 3
      resultRef := none, failureReason := none, leasedBy := none, leaseExpiresAt := none
      heartbeatAt := none, createdAt := ⟨0⟩, updatedAt := ⟨0⟩, startedAt := none, completedAt := none
      executionContext := none }
  valid := by decide

/-- A handler that reads a record and succeeds. -/
def readingHandler (resultRef : String) (_ : Job) : PlaneOperation JobResult := do
  let _ ← ask (.getReplay "replay-1" "org-1" "project-1")
  return ⟨.succeeded, some resultRef, none⟩

/-- The turn of a worker whose steps all read one clock. -/
def turnAt (workerId : String) (now : Instant) : WorkCall :=
  .runOnce { workerId := workerId } (readingHandler ("result of " ++ workerId)) ⟨now, now, now, now⟩

/-- A platform with the queued job. -/
def queuedPlane : Plane := ⟨JobStore.empty.put queuedEvaluation, .empty, .empty⟩

/-- The samples compute no digest. -/
def samplePrimitives : Primitives := .tabulated [] [] Primitives.noTexts Primitives.noValues

theorem readingHandler_leaves (resultRef : String) (job : Job) :
    (readingHandler resultRef job).Within LeavesJobs fun _ => True :=
  within_call_bind trivial fun _ => trivial

/-- `worker-1` claims the job and executes it. -/
def claimedAtZero : Config controlPlane Plane WorkCall Unit :=
  (workers samplePrimitives).play [.enter (turnAt "worker-1" ⟨0⟩), .issue 0, .issue 0, .issue 0]
    ⟨queuedPlane, []⟩

/-- The lease of `worker-1` runs out and `worker-2` claims the job; then `worker-1` is done. -/
def claimedAgain : Config controlPlane Plane WorkCall Unit :=
  (workers samplePrimitives).play
    [.enter (turnAt "worker-1" ⟨0⟩), .issue 0, .issue 0, .enter (turnAt "worker-2" ⟨400000000⟩), .issue 1,
      .issue 1, .issue 0] ⟨queuedPlane, []⟩

/-- The report of the turn that claimed the job is attributed to it. -/
theorem outcome_attributed_report :
    ∃ next old new, (workers samplePrimitives).Reaches ⟨queuedPlane, []⟩ claimedAtZero ∧
      (workers samplePrimitives).Step claimedAtZero next ∧
      claimedAtZero.state.jobs.byId.get? "job-1" = some old ∧
      next.state.jobs.byId.get? "job-1" = some new ∧ Settled new ∧
      ∃ log command, Attributed samplePrimitives (turnAt "worker-1" ⟨0⟩) log command "job-1" old new := by
  have reaches : (workers samplePrimitives).Reaches ⟨queuedPlane, []⟩ claimedAtZero :=
    Pool.reaches_play ⟨readingHandler_leaves _, trivial, trivial, trivial, trivial⟩
  have issues : (workers samplePrimitives).Issues claimedAtZero
      ((workers samplePrimitives).move (.issue 0) claimedAtZero) (turnAt "worker-1" ⟨0⟩) _
      (.markSucceeded "job-1" "result of worker-1" ⟨0⟩) := ⟨[], [], _, rfl, trivial, rfl⟩
  obtain ⟨old, stored, running⟩ := (Option.any_eq_true _ _).mp (show (claimedAtZero.state.jobs.byId.get?
    "job-1").any (·.record.status = .running) = true by decide +kernel)
  obtain ⟨new, changed, succeeded⟩ := (Option.any_eq_true _ _).mp
    (show (((workers samplePrimitives).move (.issue 0) claimedAtZero).state.jobs.byId.get? "job-1").any
      (·.record.status = .succeeded) = true by decide +kernel)
  simp only [decide_eq_true_eq] at running succeeded
  have different := outcome_ne (show new.record.status ≠ old.record.status by
    rw [running, succeeded]
    decide)
  exact ⟨_, old, new, reaches, issues.step, stored, changed, Or.inl succeeded, _, _,
    (outcome_attributed reaches issues.step stored changed different).2 _ _ _ issues⟩

/-- A worker that lost its lease completes the job the other worker holds. -/
theorem stale_worker_completes :
    ∃ next log command old new, (workers samplePrimitives).Reaches ⟨queuedPlane, []⟩ claimedAgain ∧
      (workers samplePrimitives).Issues claimedAgain next (turnAt "worker-1" ⟨0⟩) log command ∧
      claimedAgain.state.jobs.byId.get? "job-1" = some old ∧
      next.state.jobs.byId.get? "job-1" = some new ∧ outcome new ≠ outcome old ∧
      ¬ Fenced (turnAt "worker-1" ⟨0⟩) old new := by
  have reaches : (workers samplePrimitives).Reaches ⟨queuedPlane, []⟩ claimedAgain :=
    Pool.reaches_play ⟨readingHandler_leaves _, trivial, trivial, readingHandler_leaves _, trivial, trivial,
      trivial, trivial⟩
  have issues : (workers samplePrimitives).Issues claimedAgain
      ((workers samplePrimitives).move (.issue 0) claimedAgain) (turnAt "worker-1" ⟨0⟩) _
      (.markSucceeded "job-1" "result of worker-1" ⟨0⟩) := ⟨[], _, _, rfl, trivial, rfl⟩
  obtain ⟨old, stored, held⟩ := (Option.any_eq_true _ _).mp (show (claimedAgain.state.jobs.byId.get?
    "job-1").any (fun job => job.record.status = .running && job.record.leasedBy = some "worker-2") = true
      by decide +kernel)
  obtain ⟨new, changed, succeeded⟩ := (Option.any_eq_true _ _).mp
    (show (((workers samplePrimitives).move (.issue 0) claimedAgain).state.jobs.byId.get? "job-1").any
      (·.record.status = .succeeded) = true by decide +kernel)
  simp only [Bool.and_eq_true, decide_eq_true_eq] at held succeeded
  refine ⟨_, _, _, old, new, reaches, issues, stored, changed, outcome_ne ?_, fun fenced => ?_⟩
  · rw [held.1, succeeded]
    decide
  · obtain ⟨-, workerId, own, leased⟩ := fenced.completed (Or.inl succeeded)
    rw [held.2] at leased
    cases leased
    exact absurd own (by decide)

end AiGovernance.Jobs
