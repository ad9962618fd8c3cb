import AiGovernance.Jobs.Moves

/-!
# The job lifecycle

Eight operations, each run to its end, in any order and with any clock. Every
stored job keeps its attempt bound, its lease and its completion time in step
with its status, its identity never changes, and a key of a tenant names at
most one job.
-/

namespace AiGovernance.Jobs

open AiGovernance.Std Domain Repositories JobStore
open Semantics Services Program

/-! ## One job -/

/-- What holds of every stored job. -/
structure JobSound (record : JobRecord) : Prop where
  attempts : 0 ≤ record.attemptCount ∧ record.attemptCount ≤ record.maxAttempts
  queued : record.status = .queued → record.attemptCount < record.maxAttempts
  leased : record.leasedBy.isSome = true ↔ record.status = .running
  expiry : record.leaseExpiresAt.isSome = true ↔ record.status = .running
  completed : record.completedAt.isSome = true ↔ record.status.isFinished = true

theorem JobMove.sound {old new : JobRecord} (move : JobMove old new) (sound : JobSound old) :
    JobSound new := by
  obtain ⟨⟨nonnegative, bounded⟩, queuedBound, leased, expiry, completed⟩ := sound
  cases move with
  | claim workerId leaseSeconds now queued =>
    have below := queuedBound queued
    have unfinished : old.completedAt.isSome = false := by
      simpa [queued, JobStatus.isFinished] using completed
    refine ⟨⟨?_, ?_⟩, ?_, ?_, ?_, ?_⟩ <;> simp [acquired, JobStatus.isFinished, unfinished]
    · omega
    · omega
  | extend workerId leaseSeconds now running held =>
    have unfinished : old.completedAt.isSome = false := by
      simpa [running, JobStatus.isFinished] using completed
    refine ⟨⟨nonnegative, bounded⟩, ?_, ?_, ?_, ?_⟩ <;>
      simp [extended, running, held, JobStatus.isFinished, unfinished]
  | succeed resultRef now alive =>
    refine ⟨⟨nonnegative, bounded⟩, ?_, ?_, ?_, ?_⟩ <;>
      simp [succeeded, unleased, JobStatus.isFinished]
  | fail failureReason now alive =>
    refine ⟨⟨nonnegative, bounded⟩, ?_, ?_, ?_, ?_⟩ <;>
      simp [failed, unleased, JobStatus.isFinished]
  | cancel now =>
    refine ⟨⟨nonnegative, bounded⟩, ?_, ?_, ?_, ?_⟩ <;>
      simp [cancelled, unleased, JobStatus.isFinished]
  | release now expired =>
    have running : old.status = .running := by
      have tests := expired
      simp only [isExpired, Bool.and_eq_true, decide_eq_true_eq] at tests
      exact tests.1
    have unfinished : old.completedAt.isSome = false := by
      simpa [running, JobStatus.isFinished] using completed
    unfold released
    split
    · rename_i below
      refine ⟨⟨nonnegative, bounded⟩, fun _ => below, ?_, ?_, ?_⟩ <;>
        simp [unleased, JobStatus.isFinished, unfinished]
    · refine ⟨⟨nonnegative, bounded⟩, ?_, ?_, ?_, ?_⟩ <;>
        simp [unleased, JobStatus.isFinished]
  | retry now ended below =>
    refine ⟨⟨nonnegative, bounded⟩, fun _ => below, ?_, ?_, ?_⟩ <;>
      simp [retried, JobStatus.isFinished]

theorem queuedJob_sound {submission : JobSubmission} (valid : submissionViolation submission = none)
    (inputHash : String) (ambient : SubmitAmbient) :
    JobSound (queuedJob submission inputHash ambient) := by
  have bounds : 1 ≤ submission.maxAttempts := by
    simp only [submissionViolation, firstViolation_eq_none, rejectSubmission, List.mem_cons,
      List.not_mem_nil, or_false, forall_eq_or_imp, forall_eq, rejectIf_eq_none] at valid
    simpa using (of_decide_eq_false valid.2.2.2 |> Decidable.not_not.mp).1
  refine ⟨⟨le_refl 0, ?_⟩, fun _ => ?_, ?_, ?_, ?_⟩ <;> simp [queuedJob, JobStatus.isFinished]
  · omega
  · omega

/-! ## The store -/

/-- The tenant, type and key a job is idempotent under. -/
def slot (record : JobRecord) : Option (String × String) × JobType × String :=
  (record.executionContext.map fun context => (context.organizationId, context.projectId),
    record.jobType, record.idempotencyKey)

/-- What holds of the store. -/
structure StoreSound (store : JobStore) : Prop where
  jobs : ∀ {jobId job}, store.byId.get? jobId = some job → JobSound job.record
  unique : ∀ {left right leftJob rightJob}, store.byId.get? left = some leftJob →
    store.byId.get? right = some rightJob → slot leftJob.record = slot rightJob.record → left = right

/-- A new job in a slot no stored job has. -/
def Creates (store next : JobStore) : Prop :=
  ∃ new : Job, store.byId.get? new.record.jobId = none ∧ JobSound new.record ∧
    (∀ {jobId job}, store.byId.get? jobId = some job → slot job.record ≠ slot new.record) ∧
    next = store.put new

/-- The store grows by new jobs and changes of stored ones. -/
abbrev Grows : JobStore → JobStore → Prop :=
  Relation.ReflTransGen fun store next => Rewrites JobMove store next ∨ Creates store next

theorem SameIdentity.slot_eq {old new : JobRecord} (same : SameIdentity old new) : slot new = slot old := by
  simp only [slot, same.executionContext, same.jobType, same.idempotencyKey]

variable {store next : JobStore}

theorem Rewrites.sound (rewrites : Rewrites JobMove store next) (sound : StoreSound store) : StoreSound next := by
  obtain ⟨old, new, found, move, rfl⟩ := rewrites
  have sameSlot := move.sameIdentity.slot_eq
  -- Reading the changed store, every job stands in the slot it had before.
  have before : ∀ {jobId job}, (store.put new).byId.get? jobId = some job →
      ∃ previous, store.byId.get? jobId = some previous ∧ slot job.record = slot previous.record := by
    intro jobId job stored
    rw [get?_put] at stored
    split at stored
    · rename_i same
      cases stored
      exact ⟨old, same ▸ found, sameSlot⟩
    · exact ⟨job, stored, rfl⟩
  constructor
  · intro jobId job stored
    rw [get?_put] at stored
    split at stored
    · cases stored
      exact move.sound (sound.jobs found)
    · exact sound.jobs stored
  · intro left right leftJob rightJob leftStored rightStored same
    obtain ⟨leftBefore, leftFound, leftSlot⟩ := before leftStored
    obtain ⟨rightBefore, rightFound, rightSlot⟩ := before rightStored
    exact sound.unique leftFound rightFound (leftSlot ▸ rightSlot ▸ same)

theorem Creates.sound (creates : Creates store next) (sound : StoreSound store) : StoreSound next := by
  obtain ⟨new, fresh, newSound, free, rfl⟩ := creates
  constructor
  · intro jobId job stored
    rw [get?_put] at stored
    split at stored
    · cases stored
      exact newSound
    · exact sound.jobs stored
  · intro left right leftJob rightJob leftStored rightStored same
    rw [get?_put] at leftStored rightStored
    split at leftStored
    · rename_i leftNew
      split at rightStored
      · rename_i rightNew
        exact leftNew.trans rightNew.symm
      · cases leftStored
        exact absurd same.symm (free rightStored)
    · split at rightStored
      · cases rightStored
        exact absurd same (free leftStored)
      · exact sound.unique leftStored rightStored same

theorem Grows.sound (grows : Grows store next) (sound : StoreSound store) : StoreSound next := by
  induction grows with
  | refl => exact sound
  | tail _ last ih =>
    rcases last with rewrites | creates
    · exact rewrites.sound ih
    · exact creates.sound ih

variable {jobId : String}

theorem Grows.identity (grows : Grows store next) {job : Job} (stored : store.byId.get? jobId = some job) :
    ∃ later, next.byId.get? jobId = some later ∧ SameIdentity job.record later.record := by
  induction grows with
  | refl => exact ⟨job, stored, SameIdentity.refl _⟩
  | tail _ last ih =>
    obtain ⟨previous, found, same⟩ := ih
    rcases last with ⟨old, new, oldFound, move, rfl⟩ | ⟨new, fresh, -, -, rfl⟩
    · rw [get?_put]
      split
      · rename_i changed
        subst changed
        rw [oldFound] at found
        cases found
        exact ⟨new, rfl, same.trans move.sameIdentity⟩
      · exact ⟨previous, found, same⟩
    · rw [get?_put, if_neg]
      · exact ⟨previous, found, same⟩
      · rintro rfl
        rw [fresh] at found
        cases found

/-! ## The operations -/

theorem Grows.of_rewrites {allowed : JobRecord → JobRecord → Prop} (rewrites : RewritesAll allowed store next)
    (implies : ∀ old new, allowed old new → JobMove old new) : Grows store next := by
  induction rewrites with
  | refl => exact .refl
  | tail _ last ih =>
    exact ih.tail (Or.inl (last.mono implies))

theorem Grows.of_change (changed : next = store ∨ Rewrites JobMove store next) : Grows store next := by
  rcases changed with rfl | rewrites
  · exact .refl
  · exact .single (Or.inl rewrites)

/-- A slot that the tenant lookup finds free is free in the store. -/
theorem slot_free {record : JobRecord} (missing : store.findByIdempotencyKey record.jobType record.idempotencyKey
      (record.executionContext.map (·.organizationId))
      (record.executionContext.map (·.projectId)) = none) {job : Job} (stored : store.byId.get? jobId = some job) :
    slot job.record ≠ slot record := by
  intro same
  have member := (Dict.mem_values_iff store.byId job).mpr ⟨jobId, stored⟩
  have rejected := List.find?_eq_none.mp missing job member
  simp only [slot, Prod.mk.injEq] at same
  obtain ⟨tenant, sameType, sameKey⟩ := same
  refine rejected ?_
  rw [sameType, sameKey]
  cases wanted : record.executionContext with
  | none => simp [inTenant]
  | some context =>
    rw [wanted] at tenant
    cases held : job.record.executionContext with
    | none =>
      rw [held] at tenant
      cases tenant
    | some own =>
      rw [held] at tenant
      simp only [Option.map_some, Option.some.injEq, Prod.mk.injEq] at tenant
      simp [inTenant, held, tenant]

variable (primitives : Primitives)

variable {plane : Plane}

theorem enqueue_grows {submission : JobSubmission} (valid : submissionViolation submission = none) (inputHash : String)
    (ambient : SubmitAmbient) (fresh : plane.jobs.byId.get? ambient.jobId = none)
    (missing : plane.jobs.findByIdempotencyKey submission.jobType submission.idempotencyKey
      (submission.executionContext.map (·.organizationId))
      (submission.executionContext.map (·.projectId)) = none) :
    (enqueue submission inputHash ambient).Ensures (planeStores primitives) plane
      (fun _ after => Grows plane.jobs after.jobs) := by
  have stores : (do
      let job : Job ← Program.ofExcept (Checked.create (queuedJob submission inputHash ambient))
      let _ ← ask (.saveJob job)
      return job : PlaneOperation Job).Ensures (planeStores primitives) plane
        (fun _ after => Grows plane.jobs after.jobs) := by
    refine ensures_ofExcept_bind ?_ (fun _ _ => .refl)
    intro job created
    have record := Checked.create_eq_ok_iff.mp created
    refine ensures_call_bind ?_ ?_
    all_goals
      intro answer after outcome
      have jobs : after.jobs = (plane.jobs.save job).2 := by
        rw [← congrArg (fun pair => pair.2.jobs) outcome]
        rfl
      change Grows plane.jobs after.jobs
      rw [jobs]
      rcases save_cases plane.jobs job with refused | written
      · rw [refused]
      · rw [written]
        refine .single (Or.inr ⟨job, ?_, ?_, ?_, rfl⟩)
        · rw [record]
          exact fresh
        · rw [record]
          exact queuedJob_sound valid inputHash ambient
        · intro jobId stored found
          rw [record]
          exact slot_free missing found
  unfold enqueue checkCapacity
  split
  · exact stores
  · rw [ensures_bind]
    refine ensures_read_bind rfl ?_
    split
    · exact Relation.ReflTransGen.refl
    · exact stores

theorem submitJob_grows (submission : JobSubmission) (ambient : SubmitAmbient)
    (fresh : plane.jobs.byId.get? ambient.jobId = none) :
    (submitJob primitives submission ambient).Ensures (planeStores primitives) plane
      (fun _ after => Grows plane.jobs after.jobs) := by
  unfold submitJob
  split
  · exact Relation.ReflTransGen.refl
  · rename_i valid
    refine ensures_read_bind rfl ?_
    split
    · split
      · exact Relation.ReflTransGen.refl
      · exact Relation.ReflTransGen.refl
    · rename_i missing
      exact enqueue_grows primitives valid _ ambient fresh missing

theorem getJob_ensures {scope : Option Scope} {β : Type} {next : Job → PlaneOperation β}
    {post : Except Raised β → Plane → Prop}
    (found : ∀ job, plane.jobs.byId.get? job.record.jobId = some job → job.record.jobId = jobId →
      (next job).Ensures (planeStores primitives) plane post) (missing : ∀ raised, post (.error raised) plane) :
    (getJob jobId scope >>= next).Ensures (planeStores primitives) plane post := by
  unfold getJob
  rw [ensures_bind]
  refine ensures_read_bind rfl ?_
  split
  · exact missing _
  · rename_i job read
    obtain ⟨stored, identity⟩ := findById_stored read
    exact found job stored identity

theorem cancelJobRequest_grows (jobId : String) (scope : Option Scope) (now : Instant) (plane : Plane) :
    (cancelJobRequest jobId scope now).Ensures (planeStores primitives) plane
      (fun _ after => Grows plane.jobs after.jobs) := by
  unfold cancelJobRequest
  refine getJob_ensures primitives (fun job stored identity => ?_) (fun _ => .refl)
  split
  · refine ensures_read_bind rfl ?_
    have grows : Grows plane.jobs (plane.jobs.cancel jobId now).2 :=
      .of_change (cancel_rewrites fun record _ => JobMove.cancel now)
    refine ensures_call_bind ?_ ?_
    · intro answer after outcome
      have jobs : after.jobs = (plane.jobs.cancel jobId now).2 := by
        rw [← congrArg (fun pair => pair.2.jobs) outcome]
        rfl
      rw [← jobs] at grows
      unfold getJob
      refine ensures_read_bind rfl ?_
      split <;> exact grows
    · intro raised after outcome
      have jobs : after.jobs = (plane.jobs.cancel jobId now).2 := by
        rw [← congrArg (fun pair => pair.2.jobs) outcome]
        rfl
      exact jobs ▸ grows
  · exact Relation.ReflTransGen.refl

/-- `retry` requeues a failed job with attempts left, or submits a new one. -/
theorem retryJob_grows (jobId : String) (scope : Option Scope) (ambient : RetryAmbient)
    (fresh : plane.jobs.byId.get? ambient.submit.jobId = none) :
    (retryJob primitives jobId scope ambient).Ensures (planeStores primitives) plane
      (fun _ after => Grows plane.jobs after.jobs) := by
  unfold retryJob
  refine getJob_ensures primitives (fun job stored identity => ?_) (fun _ => .refl)
  split
  · exact Relation.ReflTransGen.refl
  · rename_i ended
    split
    · exact Relation.ReflTransGen.refl
    · split
      · rename_i below
        refine ensures_ofExcept_bind ?_ (fun _ _ => .refl)
        intro requeued created
        have record : requeued.record = retried ambient.now job.record :=
          Checked.create_eq_ok_iff.mp created
        have grows : Grows plane.jobs (plane.jobs.save requeued).2 := by
          rcases save_cases plane.jobs requeued with refused | written
          · rw [refused]
          · rw [written]
            refine .single (Or.inl ⟨job, requeued, ?_, ?_, rfl⟩)
            · rw [record]
              exact stored
            · rw [record]
              exact JobMove.retry ambient.now (Decidable.not_not.mp ended) below
        refine ensures_call_bind ?_ ?_
        all_goals
          intro answer after outcome
          have jobs : after.jobs = (plane.jobs.save requeued).2 := by
            rw [← congrArg (fun pair => pair.2.jobs) outcome]
            rfl
          rw [← jobs] at grows
          exact grows
      · exact submitJob_grows primitives _ ambient.submit fresh

/-! ## Runs -/

/-- One operation on jobs, with everything it draws from outside the store. -/
inductive JobCall where
  | submit (submission : JobSubmission) (ambient : SubmitAmbient)
  | acquireNextQueuedJob (workerId : String) (leaseSeconds : Int) (filter : ClaimFilter) (now : Instant)
  | heartbeat (jobId workerId : String) (leaseSeconds : Int) (now : Instant)
  | markSucceeded (jobId resultRef : String) (now : Instant)
  | markFailed (jobId failureReason : String) (now : Instant)
  | cancel (jobId : String) (now : Instant)
  | cancelRequest (jobId : String) (scope : Option Scope) (now : Instant)
  | releaseExpiredLeases (now : Instant)
  | retry (jobId : String) (scope : Option Scope) (ambient : RetryAmbient)

/-- The control plane after one operation that nothing disturbs. -/
def serve (plane : Plane) : JobCall → Plane
  | .submit submission ambient =>
    ((submitJob primitives submission ambient).run (planeStores primitives) plane).2
  | .acquireNextQueuedJob workerId leaseSeconds filter now =>
    (planeStores primitives (.acquireNextQueuedJob workerId leaseSeconds filter now) plane).2
  | .heartbeat jobId workerId leaseSeconds now =>
    (planeStores primitives (.heartbeat jobId workerId leaseSeconds now) plane).2
  | .markSucceeded jobId resultRef now =>
    (planeStores primitives (.markSucceeded jobId resultRef now) plane).2
  | .markFailed jobId failureReason now =>
    (planeStores primitives (.markFailed jobId failureReason now) plane).2
  | .cancel jobId now => (planeStores primitives (.cancelJob jobId now) plane).2
  | .cancelRequest jobId scope now =>
    ((cancelJobRequest jobId scope now).run (planeStores primitives) plane).2
  | .releaseExpiredLeases now => (planeStores primitives (.releaseExpiredLeases now) plane).2
  | .retry jobId scope ambient =>
    ((retryJob primitives jobId scope ambient).run (planeStores primitives) plane).2

/-- The identifier an operation generates, if it needs one, names no stored job. -/
def Fresh (plane : Plane) : JobCall → Prop
  | .submit _ ambient => plane.jobs.byId.get? ambient.jobId = none
  | .retry _ _ ambient => plane.jobs.byId.get? ambient.submit.jobId = none
  | _ => True

/-- The control plane after a run of operations. -/
def serveAll (plane : Plane) (calls : List JobCall) : Plane := calls.foldl (serve primitives) plane

/-- Every generated identifier of a run is fresh where it is generated. -/
def FreshRun : Plane → List JobCall → Prop
  | _, [] => True
  | plane, call :: rest => Fresh plane call ∧ FreshRun (serve primitives plane call) rest

theorem serve_grows {call : JobCall} (fresh : Fresh plane call) :
    Grows plane.jobs (serve primitives plane call).jobs := by
  cases call with
  | submit submission ambient => exact submitJob_grows primitives submission ambient fresh
  | acquireNextQueuedJob workerId leaseSeconds filter now =>
    exact .of_change (acquire_rewrites primitives workerId leaseSeconds filter now)
  | heartbeat jobId workerId leaseSeconds now =>
    exact .of_change (heartbeat_rewrites workerId leaseSeconds now)
  | markSucceeded jobId resultRef now =>
    exact .of_change (finish_rewrites (fun _ => rfl) fun _ _ => JobMove.succeed resultRef now)
  | markFailed jobId failureReason now =>
    exact .of_change (finish_rewrites (fun _ => rfl) fun _ _ => JobMove.fail failureReason now)
  | cancel jobId now => exact .of_change (cancel_rewrites fun _ _ => JobMove.cancel now)
  | cancelRequest jobId scope now => exact cancelJobRequest_grows primitives jobId scope now plane
  | releaseExpiredLeases now =>
    refine .of_rewrites (release_rewrites plane.jobs now) ?_
    rintro old new ⟨expired, rfl⟩
    exact JobMove.release now expired
  | retry jobId scope ambient => exact retryJob_grows primitives jobId scope ambient fresh

theorem serveAll_grows {calls : List JobCall} (fresh : FreshRun primitives plane calls) :
    Grows plane.jobs (serveAll primitives plane calls).jobs := by
  induction calls generalizing plane with
  | nil => exact .refl
  | cons call rest ih =>
    exact (serve_grows primitives fresh.1).trans (ih fresh.2)

theorem FreshRun.split {earlier later : List JobCall} (fresh : FreshRun primitives plane (earlier ++ later)) :
    FreshRun primitives plane earlier ∧ FreshRun primitives (serveAll primitives plane earlier) later := by
  induction earlier generalizing plane with
  | nil => exact ⟨trivial, fresh⟩
  | cons call rest ih =>
    obtain ⟨first, second⟩ := ih fresh.2
    exact ⟨⟨fresh.1, first⟩, second⟩

/-- After every run of job operations from an empty store, each stored job is sound, a slot
has at most one job, and every job stored at an earlier point is still stored with the
same identity, input and context. -/
theorem job_lifecycle {plane : Plane} (start : plane.jobs = .empty) {calls : List JobCall}
    (fresh : FreshRun primitives plane calls) :
    StoreSound (serveAll primitives plane calls).jobs ∧
      ∀ earlier later jobId job, calls = earlier ++ later →
        (serveAll primitives plane earlier).jobs.byId.get? jobId = some job →
        ∃ current, (serveAll primitives plane calls).jobs.byId.get? jobId = some current ∧
          SameIdentity job.record current.record := by
  constructor
  · refine (serveAll_grows primitives fresh).sound ?_
    rw [start]
    exact ⟨nofun, nofun⟩
  · rintro earlier later jobId job rfl stored
    have grows := serveAll_grows primitives (FreshRun.split primitives fresh).2
    have appended : serveAll primitives plane (earlier ++ later) =
        serveAll primitives (serveAll primitives plane earlier) later := by
      simp [serveAll, List.foldl_append]
    rw [appended]
    exact grows.identity stored

/-! ## A short run -/

/-- A submission of the evaluation of a run. -/
def evaluationSubmission : JobSubmission where
  jobType := .evaluation
  inputRefs := [("execution_id", .str "exec-1")]
  idempotencyKey := "evaluate-1"
  submittedBy := "analyst-1"

/-- The digest of that input. -/
def evaluationPrimitives : Primitives :=
  .tabulated [] [(.obj [("execution_id", .str "exec-1")],
    "7a07fd7d536d1f967d570b1cc8ea4dd01050c5b0af6ecd21c1f2a32a539b4793")] Primitives.noTexts (by decide)

/-- A job is submitted, claimed, lost when its lease expires, and claimed again. -/
def reclaimedRun : List JobCall :=
  [.submit evaluationSubmission ⟨"job-1", ⟨0⟩, none⟩,
    .acquireNextQueuedJob "worker-1" 300 {} ⟨0⟩,
    .releaseExpiredLeases ⟨400000000⟩,
    .acquireNextQueuedJob "worker-2" 300 {} ⟨400000000⟩]

/-- The control plane of the worked runs. -/
def emptyPlane : Plane := ⟨.empty, .empty, .empty⟩

/-- The worked run leaves a sound store in which the second worker holds the job. -/
theorem job_lifecycle_reclaimed :
    StoreSound (serveAll evaluationPrimitives emptyPlane reclaimedRun).jobs ∧
      ((serveAll evaluationPrimitives emptyPlane reclaimedRun).jobs.byId.get? "job-1").any
        (fun job => job.record.leasedBy = some "worker-2" && job.record.attemptCount = 2) = true := by
  have fresh : FreshRun evaluationPrimitives emptyPlane reclaimedRun := ⟨rfl, trivial, trivial, trivial, trivial⟩
  exact ⟨(job_lifecycle evaluationPrimitives rfl fresh).1, by decide +kernel⟩

end AiGovernance.Jobs
