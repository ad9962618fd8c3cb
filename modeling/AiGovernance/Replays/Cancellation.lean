import AiGovernance.Replays.Race

/-!
# A cancellation against a worker

A request is stored on the replay before the job is looked at, and the replay is
marked cancelled only after the job was. A worker that cancels the job in
between leaves the request to fail and the replay running. Where the request
finds the job not yet cancelled, and the replay as it left it when it marks it,
a cancelled job always has a cancelled replay.
-/

namespace AiGovernance.Replays

open AiGovernance.Std Domain Repositories
open Semantics Services ReplayApplicationService Contract

section Race

variable {primitives : Primitives} {replayId jobId : String}

/-! ## The request -/

/-- The request leaves nothing behind: it was not recorded, the replay is cancelled, or the job
has ended otherwise. -/
def Settled (replayId jobId : String) (plane : Plane) : Prop :=
  ∃ replay job, plane.replays.byId.get? replayId = some replay ∧ plane.jobs.byId.get? jobId = some job ∧
    (replay.cancelRequestedAt = none ∨ replay.status = .cancelled ∨
      (job.record.status.isFinished = true ∧ job.record.status ≠ .cancelled))

variable {next plane : Plane}

theorem Settled.advance (settled : Settled replayId jobId plane) (step : WorkerStep jobId plane next) :
    Settled replayId jobId next := by
  obtain ⟨replay, job, replayStored, jobStored, rest⟩ := settled
  obtain ⟨later, laterStored, follows⟩ := step.advances replayId replay replayStored
  obtain ⟨new, newStored, kept⟩ := step.job job jobStored
  refine ⟨later, new, laterStored, newStored, ?_⟩
  rcases rest with unasked | isOver | ⟨finished, alive⟩
  · refine Or.inl (follows.keeps (·.cancelRequestedAt = none) ?_ (fun _ _ before => before) unasked)
    intro old next call calls moved before
    exact (request_kept calls moved).trans before
  · have raced : Follows raceCalls replay later := follows.mono fun _ _ => Or.inl
    exact Or.inr (Or.inl ((raced.settled (by rw [isOver]; rfl)).trans isOver))
  · refine Or.inr (Or.inr ?_)
    rw [kept finished]
    exact ⟨finished, alive⟩

variable {log : CommandLog controlPlane Plane}

/-- A call of the request that changes neither replay nor job. -/
theorem service_idle {command : PlaneCommand} (paired : Paired primitives replayId jobId plane) (same : next = plane) :
    (serviceContract primitives replayId jobId).promise plane log command next := by
  subst same
  exact ⟨.refl next, paired⟩

/-- A write of the request over a copy. -/
theorem service_writes {copy next : Replay} {call : Transition} (paired : Paired primitives replayId jobId plane)
    (knows : Knows raceCalls copy plane) (calls : serviceCalls copy call) (moved : transition copy call = .ok next) :
    (serviceContract primitives replayId jobId).promise plane log (.updateReplay next copy.version)
      (planeStores primitives (.updateReplay next copy.version) plane).2 := by
  have raced : raceCalls copy call := Or.inr calls
  have advances : Advances serviceCalls plane
      (planeStores primitives (.updateReplay next copy.version) plane).2 :=
    update_advances knows (moves_of_transition call calls moved)
  refine ⟨⟨advances, fun old stored => ⟨old, stored, Or.inl rfl⟩⟩, ?_⟩
  rcases update_known primitives knows (moves_of_transition call raced moved).same with
    ⟨raised, stored, -, -, -, outcome⟩ | ⟨stored, outcome⟩
  · rw [outcome]
    exact paired
  · rw [outcome]
    obtain ⟨replay, job, pairing⟩ := paired
    exact pairing.replay_changed stored raced moved

/-- What the request knows once it is stored. -/
structure Requested (replayId : String) (caller : ReplayCaller) (persisted : Replay) (plane : Plane) : Prop where
  known : Knows raceCalls persisted plane
  own : persisted.replayId = replayId
  active : Replay.active persisted.status = true
  started : persisted.status ≠ .ready
  asked : persisted.cancelRequestedAt.isSome = true
  organization : persisted.organizationId = caller.scope.organizationId
  project : persisted.projectId = caller.scope.projectKey

variable {persisted : Replay} {caller : ReplayCaller}

theorem Requested.advance (requested : Requested replayId caller persisted plane)
    (advances : Advances raceCalls plane next) : Requested replayId caller persisted next :=
  { requested with known := requested.known.advance advances }

theorem Requested.visible {replay : Replay} {job : Job} (requested : Requested replayId caller persisted plane)
    (pairing : Pairing primitives replayId jobId plane replay job) :
    plane.jobs.findById jobId (some caller.scope.organizationId) caller.scope.projectId = some job := by
  obtain ⟨stored, found, follows⟩ := requested.known
  rw [requested.own, pairing.replayStored] at found
  cases found
  obtain ⟨context, held, organization, project⟩ := pairing.tenant
  have sameOrganization : context.organizationId = caller.scope.organizationId :=
    organization.trans (follows.same.organizationId.trans requested.organization)
  have sameProject : context.projectId = caller.scope.projectKey :=
    project.trans (follows.same.projectId.trans requested.project)
  unfold JobStore.findById
  rw [pairing.jobStored, Option.filter_some]
  rw [if_pos]
  unfold JobStore.inTenant
  cases chosen : caller.scope.projectId with
  | none => simp [held, sameOrganization]
  | some projectId =>
    have key : caller.scope.projectKey = projectId := by simp [Scope.projectKey, chosen]
    simp [held, sameOrganization, sameProject, key]

/-- The last step stored the request on the replay. -/
def JustRequested (replayId : String) (log : CommandLog controlPlane Plane) : Prop :=
  ∃ state requested version, log.getLast? = some (state, .updateReplay requested version) ∧
    requested.replayId = replayId

/-- The last step looked at a job. -/
def JustLooked (log : CommandLog controlPlane Plane) : Prop :=
  ∃ state jobId organizationId projectId, log.getLast? = some (state, .findJobById jobId organizationId projectId)

theorem getJob_meets (requested : Requested replayId caller persisted plane) :
    (serviceContract primitives replayId jobId).Meets (fun final result later =>
        ∃ seen replay job, final = log ++ [(seen, .findJobById jobId (some caller.scope.organizationId)
            caller.scope.projectId)] ∧ WorkerStep jobId plane seen ∧
          unraced seen log (.findJobById jobId (some caller.scope.organizationId) caller.scope.projectId) ∧
          Pairing primitives replayId jobId seen replay job ∧ result = .ok job ∧ WorkerStep jobId seen later)
      (getJob jobId (some caller.scope)) log plane := by
  unfold getJob
  rw [Option.map_some, Option.bind_some]
  refine meets_call_bind (fun later _ paired _ => service_idle paired rfl) ?_ ?_
  · intro later answer after reached paired admitted outcome
    obtain ⟨replay, job, pairing⟩ := paired
    have found := (requested.advance reached.raced).visible pairing
    cases outcome
    rw [found]
    exact meets_pure fun final beyond _ =>
      ⟨later, replay, job, rfl, reached, admitted, pairing, rfl, beyond⟩
  · intro later raised after _ _ _ outcome
    cases outcome

/-- The job is cancelled. -/
def JobCancelled (jobId : String) (plane : Plane) : Prop :=
  ∃ job, plane.jobs.byId.get? jobId = some job ∧ job.record.status = .cancelled

theorem JobCancelled.advance (cancelled : JobCancelled jobId plane) (step : WorkerStep jobId plane next) :
    JobCancelled jobId next := by
  obtain ⟨job, stored, isOver⟩ := cancelled
  obtain ⟨new, newStored, kept⟩ := step.job job stored
  exact ⟨new, newStored, (kept (by rw [isOver]; rfl)).trans isOver⟩

/-- The request cancels the job of a replay that was asked to stop. -/
theorem service_cancels (now : Instant) (paired : Paired primitives replayId jobId plane)
    (requested : Requested replayId caller persisted plane) :
    ∃ after, planeStores primitives (.cancelJob jobId now) plane = (.ok (), after) ∧
      JobCancelled jobId after ∧ ServiceStep jobId plane after ∧ Paired primitives replayId jobId after := by
  obtain ⟨replay, job, pairing⟩ := paired
  have asked : replay.cancelRequestedAt.isSome = true := by
    obtain ⟨stored, found, follows⟩ := requested.known
    rw [requested.own, pairing.replayStored] at found
    cases found
    exact follows.asked requested.asked
  obtain ⟨context, tenant, -, -⟩ := pairing.tenant
  obtain ⟨new, record, outcome⟩ := Jobs.cancel_accepted pairing.jobs pairing.jobStored tenant now
  have answered : planeStores primitives (.cancelJob jobId now) plane =
      (.ok (), { plane with jobs := plane.jobs.put new }) := by simp only [planeStores, outcome]
  have same : new.record.jobId = jobId := by
    rw [record]
    exact plane.jobs.keyed pairing.jobStored
  have stored : (plane.jobs.put new).byId.get? jobId = some new := by rw [JobStore.get?_put, if_pos same.symm]
  have isOver : new.record.status = .cancelled := by
    rw [record]
    rfl
  refine ⟨{ plane with jobs := plane.jobs.put new }, answered, ⟨new, stored, isOver⟩,
    ⟨advances_of_same rfl, fun old _ => ⟨new, stored, Or.inr isOver⟩⟩, ?_⟩
  have leaves : LeavesReplays (.cancelJob jobId now) := trivial
  obtain ⟨kept, paired, -⟩ := pairing.jobs_changed leaves trivial (fun _ => True) trivial
    (fun _ _ _ _ _ => trivial) fun _ _ _ => asked
  rw [answered] at paired
  exact ⟨replay, kept, paired⟩

/-- What the request knows once it has dealt with the job. -/
def JobDealtWith (replayId jobId : String) (caller : ReplayCaller) (persisted : Replay)
    (log : CommandLog controlPlane Plane) (result : Except Raised Job) (plane : Plane) : Prop :=
  match result with
  | .ok job => job.record.status = .cancelled ∧ JustLooked log ∧ Requested replayId caller persisted plane
  | .error _ => Settled replayId jobId plane

theorem cancelJobRequest_meets (now : Instant) (requested : Requested replayId caller persisted plane)
    (just : JustRequested replayId log) :
    (serviceContract primitives replayId jobId).Meets (JobDealtWith replayId jobId caller persisted)
      (cancelJobRequest jobId (some caller.scope) now) log plane := by
  unfold cancelJobRequest
  refine meets_bind ((getJob_meets requested).mono ?_)
  rintro _ _ later ⟨seen, replay, job, rfl, reached, admitted, pairing, rfl, beyond⟩
  have current := (requested.advance reached.raced).advance beyond.raced
  dsimp only
  split
  · refine meets_call_bind (fun _ _ paired _ => service_idle paired rfl) ?_ fun _ _ _ _ _ _ outcome => by
      cases outcome
    rintro second _ _ on - - ⟨⟩
    have still := current.advance on.raced
    have cancels : ∀ {third}, WorkerStep jobId second third → Paired primitives replayId jobId third →
        ∃ after, planeStores primitives (.cancelJob jobId now) third = (.ok (), after) ∧
          JobCancelled jobId after ∧ ServiceStep jobId third after ∧ Paired primitives replayId jobId after :=
      fun on paired => service_cancels now paired (still.advance on.raced)
    refine meets_call_bind ?_ ?_ ?_
    · intro third on paired _
      obtain ⟨after, answered, -, step, kept⟩ := cancels on paired
      change ServiceStep jobId third (planeStores primitives (.cancelJob jobId now) third).2 ∧
        Paired primitives replayId jobId (planeStores primitives (.cancelJob jobId now) third).2
      rw [answered]
      exact ⟨step, kept⟩
    · intro third answer after on paired _ outcome
      obtain ⟨final, answered, isOver, step, -⟩ := cancels on paired
      have same : after = final := congrArg Prod.snd (outcome.symm.trans answered)
      subst same
      -- The worker leaves the cancelled job as it is, so the last look finds it cancelled.
      have asked := (still.advance on.raced).advance step.raced
      refine (getJob_meets asked).mono ?_
      rintro _ _ last ⟨seen, replay, job, rfl, reached, -, pairing, rfl, beyond⟩
      obtain ⟨held, stored, cancelled⟩ := isOver.advance reached
      rw [pairing.jobStored] at stored
      cases stored
      exact ⟨cancelled, ⟨_, _, _, _, List.getLast?_concat⟩, (asked.advance reached.raced).advance beyond.raced⟩
    · intro third raised after on paired _ outcome
      obtain ⟨final, answered, -⟩ := cancels on paired
      have failed : Except.error raised = Except.ok () := congrArg Prod.fst (outcome.symm.trans answered)
      cases failed
  · rename_i finished
    refine meets_raise fun final on _ => ?_
    refine Settled.advance (Settled.advance ⟨replay, job, pairing.replayStored, pairing.jobStored, ?_⟩ beyond) on
    by_cases isOver : job.record.status = .cancelled
    · obtain ⟨state, asked, version, last, same⟩ := just
      unfold unraced at admitted
      rw [last] at admitted
      exact Or.inr (Or.inl (admitted replay job (by rw [same]; exact pairing.replayStored) pairing.jobStored isOver))
    · refine Or.inr (Or.inr ⟨?_, isOver⟩)
      push Not at finished
      cases status : job.record.status with
      | queued => exact absurd status finished.1
      | running => exact absurd status finished.2
      | _ => rfl

/-- A request whose replay has not moved since it was stored marks it cancelled. -/
theorem markCancelled_meets {cancelled : Replay} {now : Instant} (requested : Requested replayId caller persisted plane)
    (looked : JustLooked log) (moved : transition persisted (.markCancelled now) = .ok cancelled) :
    (serviceContract primitives replayId jobId).Meets (fun _ _ plane => Settled replayId jobId plane)
      (ask (.updateReplay cancelled persisted.version)) log plane := by
  have calls : serviceCalls persisted (.markCancelled now) := requested.started
  have raced : raceCalls persisted (.markCancelled now) := Or.inr calls
  have same : SameReplay persisted cancelled := transition_same moved
  refine meets_call ?_ ?_
  · intro later on paired _
    exact service_writes paired (requested.known.advance on.raced) calls moved
  · intro later result after on paired admitted outcome final beyond _
    refine Settled.advance ?_ beyond
    obtain ⟨replay, job, pairing⟩ := paired
    have known := requested.known.advance on.raced
    rcases update_known primitives known same with ⟨raised, stored, found, changed, follows, refused⟩ | ⟨stored, accepted⟩
    · have unchanged : after = later := congrArg Prod.snd (outcome.symm.trans refused)
      subst unchanged
      obtain ⟨state, looked, organizationId, projectId, last⟩ := looked
      change unraced after log (.updateReplay cancelled persisted.version) at admitted
      unfold unraced at admitted
      rw [last] at admitted
      rw [requested.own] at found
      rcases admitted stored (by rw [same.replayId, requested.own]; exact found) with current | isOver
      · rcases follows.version with equal | newer
        · exact absurd equal changed
        · omega
      · exact ⟨stored, job, found, pairing.jobStored, Or.inr (Or.inl isOver)⟩
    · have written : after = _ := congrArg Prod.snd (outcome.symm.trans accepted)
      subst written
      have isOver : cancelled.status = .cancelled := by
        simp only [transition, Replay.markCancelled, if_neg requested.started, require_bind_eq_ok,
          pure_eq_ok] at moved
        obtain ⟨-, rfl⟩ := moved
        rfl
      refine ⟨advanced persisted cancelled, job, ?_, pairing.jobStored, Or.inr (Or.inl isOver)⟩
      have own : (advanced persisted cancelled).replayId = replayId :=
        (advanced_same same).replayId.trans requested.own
      rw [ReplayStore.get?_put, if_pos own.symm]

theorem settleCancellation_meets (ambient : ReplayAmbient) (jobNow : Instant)
    (requested : Requested replayId caller persisted plane) (just : JustRequested replayId log) :
    (serviceContract primitives replayId jobId).Meets (fun _ _ plane => Settled replayId jobId plane)
      (settleCancellation persisted jobId caller ambient jobNow) log plane := by
  unfold settleCancellation
  refine meets_bind (meets_caught ((cancelJobRequest_meets jobNow requested just).mono
    fun log result plane dealt => ?_))
  cases result with
  | error raised => exact meets_raise fun later on _ => Settled.advance dealt on
  | ok job =>
    obtain ⟨isOver, looked, asked⟩ := dealt
    dsimp only
    rw [if_pos isOver]
    refine meets_ofExcept_bind (fun cancelled moved => markCancelled_meets asked looked moved) ?_
    intro raised failed
    have possible : persisted.markCancelled ambient.finishedAt =
        .ok { persisted with
          status := .cancelled, cancelledAt := some ambient.finishedAt, updatedAt := ambient.finishedAt } := by
      simp only [Replay.markCancelled, if_neg requested.started, require_bind_eq_ok, pure_eq_ok, and_true]
      exact ⟨requested.active, Option.isSome_iff_ne_none.mp requested.asked⟩
    rw [possible] at failed
    cases failed

theorem get_meets {ambient : ReplayAmbient} (settled : Settled replayId jobId plane) :
    (serviceContract primitives replayId jobId).Meets (fun _ result plane => Settled replayId jobId plane ∧
        ∀ copy, result = .ok copy → Knows raceCalls copy plane ∧ copy.replayId = replayId ∧
          copy.jobId = some jobId ∧
          copy.status ∈ [.queued, .running, .executionCompleted, .completed, .failed, .cancelled] ∧
          copy.organizationId = caller.scope.organizationId ∧ copy.projectId = caller.scope.projectKey)
      (get replayId caller ambient) log plane := by
  have refused : ∀ {raised : Raised} {copy : Replay}, Except.error raised ≠ Except.ok copy := nofun
  unfold ReplayApplicationService.get passes
  split
  · exact meets_raise fun later on _ => ⟨settled.advance on, fun _ read => (refused read).elim⟩
  · rw [Program.done_bind]
    refine meets_call_bind (fun _ _ paired _ => service_idle paired rfl) ?_ ?_
    rotate_left
    · intro later raised after _ _ _ outcome
      cases outcome
    intro later answer after on paired _ outcome
    cases outcome
    cases found : later.replays.get replayId caller.scope.organizationId caller.scope.projectKey with
    | none =>
      exact meets_raise fun final beyond _ =>
        ⟨(settled.advance on).advance beyond, fun _ read => (refused read).elim⟩
    | some copy =>
      refine meets_pure fun final beyond _ => ⟨(settled.advance on).advance beyond, ?_⟩
      rintro _ ⟨⟩
      have stored := ReplayStore.stored_of_get found
      obtain ⟨organization, project⟩ := ReplayStore.tenant_of_get found
      obtain ⟨replay, job, pairing⟩ := paired
      have current := pairing.replayStored
      rw [stored] at current
      cases current
      exact ⟨(knows_of_stored stored).advance beyond.raced, later.replays.keyed stored, pairing.link,
        pairing.status, organization, project⟩

/-- The request is stored on the replay, and the rest follows. -/
theorem request_meets {copy asked : Replay} (ambient : ReplayAmbient) (jobNow : Instant)
    (settled : Settled replayId jobId plane) (knows : Knows raceCalls copy plane) (own : copy.replayId = replayId)
    (started : copy.status ≠ .ready) (organization : copy.organizationId = caller.scope.organizationId)
    (project : copy.projectId = caller.scope.projectKey)
    (moved : copy.requestCancellation ambient.requestedAt = .ok asked) :
    (serviceContract primitives replayId jobId).Meets (fun _ _ plane => Settled replayId jobId plane)
      (ask (.updateReplay asked copy.version) >>= fun persisted =>
        settleCancellation persisted jobId caller ambient jobNow) log plane := by
  have requesting : transition copy (.requestCancellation ambient.requestedAt) = .ok asked := moved
  have calls : serviceCalls copy (.requestCancellation ambient.requestedAt) := trivial
  have moves : Moves raceCalls copy asked := moves_of_transition _ (Or.inr calls) requesting
  have same := advanced_same moves.same
  refine meets_call_bind ?_ ?_ ?_
  · intro later on paired _
    exact service_writes paired (knows.advance on.raced) calls requesting
  · intro later persisted after on _ _ outcome
    have answered : planeStores primitives (.updateReplay asked copy.version) later = (.ok persisted, after) :=
      outcome
    obtain ⟨rfl, -, rfl, known⟩ := update_accepted (knows.advance on.raced) moves answered
    simp only [Replay.requestCancellation, require_bind_eq_ok, pure_eq_ok] at moved
    obtain ⟨active, rfl⟩ := moved
    refine settleCancellation_meets ambient jobNow ⟨known, same.replayId.trans own, active, started, rfl,
      same.organizationId.trans organization, same.projectId.trans project⟩
      ⟨later, _, copy.version, List.getLast?_concat, own⟩
  · intro later raised after on _ _ outcome final beyond _
    have answered : planeStores primitives (.updateReplay asked copy.version) later = (.error raised, after) :=
      outcome
    obtain ⟨rfl, -⟩ := update_refused (knows.advance on.raced) moves answered
    exact (settled.advance on).advance beyond

theorem cancelRequest_meets {ambient : ReplayAmbient} {jobNow : Instant} (settled : Settled replayId jobId plane) :
    (serviceContract primitives replayId jobId).Meets (fun _ _ plane => Settled replayId jobId plane)
      (cancel replayId caller ambient jobNow) log plane := by
  unfold cancel passes
  split
  · exact meets_raise fun later on _ => settled.advance on
  · rw [Program.done_bind]
    refine meets_bind ((get_meets settled).mono fun log result plane read => ?_)
    obtain ⟨settled, read⟩ := read
    have raising : ∀ raised : Raised, (serviceContract primitives replayId jobId).Meets
        (fun _ _ plane => Settled replayId jobId plane) (Program.raise raised : PlaneOperation Replay) log plane :=
      fun raised => meets_raise fun later on _ => settled.advance on
    cases result with
    | error raised => exact settled
    | ok copy =>
      obtain ⟨knows, own, link, status, organization, project⟩ := read copy rfl
      have started : copy.status ≠ .ready := by
        rintro ready
        rw [ready] at status
        simp at status
      have carried : activeJobId copy = some jobId := by
        unfold activeJobId
        rw [if_neg]
        · exact link
        · rintro (evaluating | comparing)
          · rw [evaluating] at status
            simp at status
          · rw [comparing] at status
            simp at status
      dsimp only
      split
      · exact raising _
      · rw [Program.done_bind]
        split
        · exact raising _
        · refine meets_ofExcept_bind (fun requested moved => ?_) fun raised _ later on _ =>
            settled.advance on
          rw [carried]
          dsimp only
          split
          · exact raising _
          · exact request_meets ambient jobNow settled knows own started organization project moved

/-! ## Both together -/

/-- The two parties. -/
inductive Party where
  | service (caller : ReplayCaller) (ambient : ReplayAmbient) (jobNow : Instant)
  | worker (config : WorkerConfig) (ambient : HandlerAmbient)
      (others : Job → Option (Job → PlaneOperation JobResult)) (clock : WorkerClock)

variable (primitives replayId jobId)

/-- The steps of a party; what it returns is dropped. -/
def Party.body : Party → PlaneOperation Unit
  | service caller ambient jobNow => do
      let _ ← ReplayApplicationService.cancel replayId caller ambient jobNow
      return ()
  | worker config ambient others clock => do
      let _ ← runOnce config (execute (replayRegistry primitives ambient others)) clock
      return ()

/-- The schedules of one request and one turn of a worker that are considered. -/
def race (admits : Plane → CommandLog controlPlane Plane → PlaneCommand → Prop) :
    Pool controlPlane Plane Party Unit where
  handler := planeStores primitives
  body := Party.body primitives replayId
  offered _ := False
  environment _ _ := False
  admits := admits

/-- A party before its first step. -/
def Party.thread (party : Party) : Thread controlPlane Plane Party Unit :=
  ⟨party, party.body primitives replayId, []⟩

/-- What each party relies on and promises. -/
def Party.contract : Party → Contract controlPlane Plane
  | service _ _ _ => serviceContract primitives replayId jobId
  | worker _ _ _ _ => workerContract primitives replayId jobId

/-- What holds where a party has ended. -/
def Party.post : Party → CommandLog controlPlane Plane → Except Raised Unit → Plane → Prop
  | service _ _ _, _, _, plane => Settled replayId jobId plane
  | worker _ _ _ _, _, _, _ => True

variable {primitives replayId jobId}

theorem race_agreement : (race primitives replayId unraced).Agreement (Party.contract primitives replayId jobId)
    (Paired primitives replayId jobId) where
  sameHandler party := by cases party <;> rfl
  sameAdmits party := by cases party <;> rfl
  sameSound party := by cases party <;> rfl
  kept := by
    intro party plane log command next _ promised
    cases party with
    | service caller ambient jobNow => exact promised.2
    | worker config ambient others clock => exact promised.2
  environment changed := changed.elim
  joining _ _ offered := offered.elim

end Race

/-! ## A worker that is asked to stop -/

/-- The job of the claims replay, before a worker has claimed it. -/
def waitingJob : Job where
  record :=
    { claimsJob.record with
      status := .queued, attemptCount := 0, leasedBy := none, leaseExpiresAt := none, heartbeatAt := none
      startedAt := none }
  valid := by decide

/-- A platform with the queued replay and its waiting job. -/
def waitingPlane : Plane := { claimsPlane with jobs := JobStore.empty.put waitingJob }

theorem waitingPlane_paired :
    Pairing Jobs.samplePrimitives "replay-1" "job-1" waitingPlane queuedClaims waitingJob where
  replayStored := rfl
  jobStored := rfl
  link := rfl
  kind := rfl
  named := by decide +kernel
  tenant := ⟨_, rfl, rfl, rfl⟩
  status := by decide
  asked := by
    rintro (isOver | isOver)
    · cases isOver
    · cases isOver
  jobs := by
    have only : ∀ {jobId job}, waitingPlane.jobs.byId.get? jobId = some job → jobId = "job-1" ∧ job = waitingJob := by
      intro jobId job stored
      change (JobStore.empty.put waitingJob).byId.get? jobId = some job at stored
      rw [JobStore.get?_put] at stored
      split at stored
      · cases stored
        exact ⟨by assumption, rfl⟩
      · cases stored
    constructor
    · intro jobId job stored
      obtain ⟨-, rfl⟩ := only stored
      refine ⟨⟨?_, ?_⟩, ?_, ?_, ?_, ?_⟩ <;> decide
    · intro left right leftJob rightJob leftStored rightStored _
      exact (only leftStored).1.trans (only rightStored).1.symm

/-- The request of an analyst. -/
def claimsRequest : Party :=
  .service { scope := ⟨"org-1", some "project-1"⟩, actorId := "analyst-1", requestId := "request-2" }
    { requestedAt := ⟨7⟩, finishedAt := ⟨8⟩, job := ⟨"unused", ⟨8⟩, none⟩ } ⟨8⟩

/-- A turn of a worker that knows no other kind of job. -/
def claimsWorker : Party :=
  .worker { workerId := "worker-1" } (claimsAmbient "exec-2" (completes "approve")) (fun _ => none)
    ⟨⟨3⟩, ⟨3⟩, ⟨9⟩, ⟨9⟩⟩

/-- Both parties before their first steps. -/
def bothWaiting : Config controlPlane Plane Party Unit :=
  ⟨waitingPlane, [Party.thread Jobs.samplePrimitives "replay-1" claimsRequest,
    Party.thread Jobs.samplePrimitives "replay-1" claimsWorker]⟩

/-- The request comes when the worker holds its copy, and is settled before the worker looks again. -/
def settledFirst : List (Pool.Move Party) := List.replicate 6 (.issue 1) ++ List.replicate 7 (.issue 0) ++
  List.replicate 3 (.issue 1)

/-- The worker notices the request and cancels the job before the request looks at it. -/
def overtaken : List (Pool.Move Party) := List.replicate 6 (.issue 1) ++ List.replicate 2 (.issue 0) ++
  List.replicate 3 (.issue 1) ++ [.issue 0]

/-- A test of a schedule by what it has to say about the request. -/
def testUnraced (plane : Plane) (log : CommandLog controlPlane Plane) (command : PlaneCommand) : Bool :=
  match log.getLast?, command with
  | some (_, .updateReplay requested _), .findJobById jobId _ _ =>
    (plane.replays.byId.get? requested.replayId).all fun replay =>
      (plane.jobs.byId.get? jobId).all fun job =>
        job.record.status ≠ .cancelled || replay.status = .cancelled
  | some (_, .findJobById _ _ _), .updateReplay cancelled version =>
    (plane.replays.byId.get? cancelled.replayId).all fun replay =>
      replay.version = version || replay.status = .cancelled
  | _, _ => true

theorem unraced_of_test (plane : Plane) (log : CommandLog controlPlane Plane) (command : PlaneCommand)
    (passes : testUnraced plane log command = true) : unraced plane log command := by
  unfold testUnraced at passes
  unfold unraced
  split
  · rename_i last
    rw [last] at passes
    intro replay job replayStored jobStored isOver
    simpa [replayStored, jobStored, isOver] using passes
  · rename_i last
    rw [last] at passes
    intro replay stored
    simpa [stored] using passes
  · trivial

end AiGovernance.Replays
