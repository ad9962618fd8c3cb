import AiGovernance.Replays.Production

/-!
# Evidence of a finished replay

The handler stores the produced execution before the versioned update that would
tell it whether the replay is still its own, and it enters its work for every
status it does not return early for. Runs that find the replay queued or
running, and on which nobody else writes more than a cancellation request, call
the adapter and store the execution only while the replay is running, and what
a replay has produced is fixed once it has left that state.
-/

namespace AiGovernance.Replays

open AiGovernance.Std Domain Repositories
open Semantics Services

/-- The states after the execution of a replay. -/
def ended : ReplayStatus → Bool
  | .draft | .ready | .queued | .running => false
  | _ => true

theorem Follows.ended {old new : Replay} (follows : Follows replayCalls old new)
    (isOver : ended old.status = true) : Replays.ended new.status = true := by
  refine kept_of_follows (fun replay => Replays.ended replay.status = true) ?_ (fun _ _ before => before)
    follows isOver
  intro old next move before
  cases move with
  | start attemptCount now queued =>
    rw [queued] at before
    cases before
  | reserve executionId now unassigned active => exact before
  | request now active => exact before
  | _ => rfl

/-! ## What a run holds -/

/-- The replay a run of the handler has read first. -/
def firstRead (log : CommandLog controlPlane Plane) : Option Replay :=
  match log with
  | (plane, .getReplay replayId organizationId projectId) :: _ =>
    plane.replays.get replayId organizationId projectId
  | _ => none

/-- The copy in hand after one more command: the first read, then each accepted write. -/
def heldAfter (held : Option Replay) (entry : Plane × PlaneCommand) : Option Replay :=
  match held, entry with
  | none, (plane, .getReplay replayId organizationId projectId) =>
    plane.replays.get replayId organizationId projectId
  | some copy, (plane, .updateReplay next expectedVersion) =>
    match (plane.replays.update next expectedVersion).1 with
    | .ok new => some new
    | .error _ => some copy
  | held, _ => held

/-- The copy of the replay a run has in hand. -/
def held (log : CommandLog controlPlane Plane) : Option Replay := log.foldl heldAfter none

theorem held_append (log : CommandLog controlPlane Plane) (entry : Plane × PlaneCommand) :
    held (log ++ [entry]) = heldAfter (held log) entry := by
  simp [held, List.foldl_append]

theorem firstRead_append {log : CommandLog controlPlane Plane} {copy : Replay} (holds : held log = some copy)
    (entry : Plane × PlaneCommand) : firstRead (log ++ [entry]) = firstRead log := by
  cases log with
  | nil => cases holds
  | cons first rest =>
    obtain ⟨plane, command⟩ := first
    cases command <;> rfl

/-- The stored replay is the copy, up to a recorded cancellation request. -/
def OnlyRequested (copy stored : Replay) : Prop :=
  stored = { copy with
    cancelRequestedAt := stored.cancelRequestedAt, updatedAt := stored.updatedAt, version := stored.version }

instance (copy stored : Replay) : Decidable (OnlyRequested copy stored) :=
  inferInstanceAs (Decidable (_ = _))

/-- The run has found the replay queued or running, and nothing but a cancellation request was
written over the copy it has in hand. -/
def Undisturbed (plane : Plane) (log : CommandLog controlPlane Plane) : Bool :=
  (firstRead log).any (fun first => first.status = .queued || first.status = .running) &&
    (held log).any fun copy => (plane.replays.byId.get? copy.replayId).any (OnlyRequested copy)

/-- The commands that produce evidence: the call of the adapter and the write of the execution. -/
def Produces : PlaneCommand → Prop
  | .invokeAdapter _ | .saveWorkflowExecution _ => True
  | _ => False

section Evidence

variable (primitives : Primitives) (replayId : String)

/-- The tenant and identity the produced execution of a replay is stored under. -/
def producedKey (replay : Replay) (executionId : String) : String × String × String :=
  (replay.organizationId, replay.projectId, executionId)

/-- What the replay has produced is the same in both states. -/
def SameProduct (plane next : Plane) : Prop :=
  ∀ replay executionId, plane.replays.byId.get? replayId = some replay →
    replay.replayExecutionId = some executionId →
    next.executions.get? (producedKey replay executionId) = plane.executions.get? (producedKey replay executionId)

/-- Runs for one replay in any number, with cancellations, archivals and retries. Everything
else leaves stored replays and what the replay has produced alone. -/
def evidenceTraffic (admits : Plane → CommandLog controlPlane Plane → PlaneCommand → Prop) :
    Pool controlPlane Plane ReplayCall Unit where
  handler := planeStores primitives
  body := ReplayCall.body primitives
  offered
    | .handle _ job => jobReplayId primitives job = .ok replayId
    | _ => True
  environment plane next := (∀ replayId replay, plane.replays.byId.get? replayId = some replay →
    next.replays.byId.get? replayId = some replay) ∧ SameProduct replayId plane next
  admits := admits

/-- Evidence is produced on an undisturbed copy only. -/
def undisturbed (plane : Plane) (log : CommandLog controlPlane Plane) (command : PlaneCommand) : Prop :=
  Produces command → Undisturbed plane log = true

/-- The replay is stored as running. -/
def Running (plane : Plane) : Prop :=
  ∃ replay, plane.replays.byId.get? replayId = some replay ∧ replay.status = .running

/-- The replays advance, and the product of a replay that has ended is fixed. -/
def Freezes (plane next : Plane) : Prop :=
  Advances replayCalls plane next ∧
    ∀ replay executionId, plane.replays.byId.get? replayId = some replay → ended replay.status = true →
      replay.replayExecutionId = some executionId →
      next.executions.get? (producedKey replay executionId) =
        plane.executions.get? (producedKey replay executionId)

variable {replayId}

theorem Freezes.refl (plane : Plane) : Freezes replayId plane plane :=
  ⟨.refl plane, fun _ _ _ _ _ => rfl⟩

theorem Freezes.trans {first second third : Plane} (left : Freezes replayId first second)
    (right : Freezes replayId second third) : Freezes replayId first third := by
  refine ⟨left.1.trans right.1, fun replay executionId stored isOver reserved => ?_⟩
  obtain ⟨next, nextStored, follows⟩ := left.1 replayId replay stored
  have sameKey : producedKey next executionId = producedKey replay executionId := by
    simp [producedKey, follows.same.organizationId, follows.same.projectId]
  have kept := right.2 next executionId nextStored (follows.ended isOver) (follows.executionId reserved)
  rw [sameKey] at kept
  rw [kept, left.2 replay executionId stored isOver reserved]

/-- Every call freezes the product of an ended replay and produces evidence of a running one only. -/
def evidenceContract (replayId : String) : Contract controlPlane Plane where
  handler := planeStores primitives
  admits := undisturbed
  sound _ := True
  rely := Advances replayCalls
  refl := Advances.refl
  trans := Advances.trans
  promise plane _ command next := Freezes replayId plane next ∧ (Produces command → Running replayId plane)

variable {primitives}

variable {plane : Plane} {command : PlaneCommand}

/-- A command that produces nothing leaves the executions alone. -/
theorem freezes_of_plain (plain : Plain command)
    (advances : Advances replayCalls plane (planeStores primitives command plane).2) :
    Freezes replayId plane (planeStores primitives command plane).2 := by
  refine ⟨advances, fun replay executionId _ _ _ => ?_⟩
  rw [executions_of_plain primitives plain]

theorem not_produces_of_plain (plain : Plain command) : ¬ Produces command := by
  cases command <;> first | exact id | cases plain

theorem evidenceContract_orderly : Orderly primitives (evidenceContract primitives replayId) where
  handler := rfl
  advances related := related
  promising plain advances :=
    ⟨freezes_of_plain plain advances, fun produces => absurd produces (not_produces_of_plain plain)⟩

/-- The run has the copy in hand; until its own write ends the replay, the copy of a replay
that was found queued or running still is. -/
def HasInHand (replayId : String) (notice : Notice) (copy : Replay) (log : CommandLog controlPlane Plane)
    (plane : Plane) : Prop :=
  Knows replayCalls copy plane ∧ copy.replayId = replayId ∧ held log = some copy ∧
    (notice ≠ .ended → ∀ first, firstRead log = some first → first.status = .queued ∨ first.status = .running →
      copy.status = .queued ∨ copy.status = .running)

variable {copy : Replay} {log : CommandLog controlPlane Plane}

/-- A command that writes no replay leaves the copy in hand. -/
theorem HasInHand.append {notice : Notice} {later : Plane} (holds : HasInHand replayId notice copy log plane)
    (advances : Advances replayCalls plane later) (reads : ∀ next version, command ≠ .updateReplay next version) :
    HasInHand replayId notice copy (log ++ [(plane, command)]) later := by
  obtain ⟨knows, same, inHand, active⟩ := holds
  refine ⟨knows.advance advances, same, ?_, ?_⟩
  · rw [held_append, inHand]
    cases command <;> first | rfl | exact absurd rfl (reads _ _)
  · rw [firstRead_append inHand]
    exact active

/-- On an undisturbed copy that has left the queue, the replay is stored as running. -/
theorem running_of_undisturbed (holds : HasInHand replayId .copy copy log plane) (left : copy.status ≠ .queued)
    (admitted : Undisturbed plane log = true) : Running replayId plane := by
  obtain ⟨-, rfl, inHand, active⟩ := holds
  unfold Undisturbed at admitted
  rw [inHand, Bool.and_eq_true, Option.any_eq_true, Option.any_some, Option.any_eq_true] at admitted
  obtain ⟨⟨first, read, found⟩, stored, present, same⟩ := admitted
  simp only [Bool.or_eq_true, decide_eq_true_eq] at found same
  have running : copy.status = .running := (active (by decide) first read found).resolve_left left
  refine ⟨stored, present, ?_⟩
  rw [same]
  exact running

/-- What a run has written is what it has in hand. -/
theorem HasInHand.written {next new : Replay} {after : Plane} {call : Transition}
    (holds : HasInHand replayId .copy copy log plane) (calls : handlerCalls copy call)
    (moved : transition copy call = .ok next)
    (outcome : planeStores primitives (.updateReplay next copy.version) plane = (.ok new, after)) :
    new = advanced copy next ∧
      HasInHand replayId (.after call) new (log ++ [(plane, .updateReplay next copy.version)]) after := by
  obtain ⟨knows, same, inHand, active⟩ := holds
  have moves := moves_of_transition call (replayCalls_of_handler calls) moved
  have accepted : (plane.replays.update next copy.version).1 = .ok new := congrArg Prod.fst outcome
  obtain ⟨rfl, -, -, known⟩ := update_accepted knows moves outcome
  refine ⟨rfl, known, (advanced_same moves.same).replayId.trans same, ?_, ?_⟩
  · rw [held_append, inHand]
    simp only [heldAfter, accepted]
  · rw [firstRead_append inHand]
    intro working first read found
    -- Only a start and a reservation leave the run working on its copy.
    cases call with
    | markRunning attemptCount now =>
      simp only [transition, Replay.markRunning, requireStatus_bind_eq_ok, require_bind_eq_ok,
        pure_eq_ok] at moved
      obtain ⟨-, -, rfl⟩ := moved
      exact Or.inr rfl
    | reserveReplayExecutionId replayExecutionId now =>
      simp only [transition, Replay.reserveReplayExecutionId, require_bind_eq_ok, pure_eq_ok] at moved
      obtain ⟨-, -, -, rfl⟩ := moved
      exact active (by decide) first read found
    | _ => exact absurd rfl working

theorem evidenceContract_outline :
    Outline primitives (evidenceContract primitives replayId) (HasInHand replayId) where
  handler := rfl
  stable := fun ⟨knows, rest⟩ related => ⟨knows.advance related, rest⟩
  held := fun ⟨knows, same, inHand, active⟩ working => ⟨knows, same, inHand, fun _ => active working⟩
  looking := by
    intro plane log command looksUp _
    have plain : Plain command := by cases command <;> trivial
    exact ⟨.refl plane, fun produces => absurd produces (not_produces_of_plain plain)⟩
  looked := by
    intro notice copy log plane command looksUp holds
    exact holds.append (.refl plane) (by rintro next version rfl; cases looksUp)
  stopping := by
    intro copy log plane _ holds _
    have looked : HasInHand replayId .copy copy (log ++ [(plane, .getReplay copy.replayId copy.organizationId
        copy.projectId)]) plane := holds.append (.refl plane) (by rintro next version ⟨⟩)
    obtain ⟨knows, same, inHand, active⟩ := looked
    exact ⟨knows, same, inHand, fun _ => active (by decide)⟩
  writing := by
    intro copy next log plane call _ holds calls moved _
    have plain : Plain (.updateReplay next copy.version) := trivial
    refine ⟨freezes_of_plain plain ?_, fun produces => produces.elim⟩
    exact update_advances holds.1 (moves_of_transition call (replayCalls_of_handler calls) moved)
  written _ holds calls moved _ outcome := holds.written calls moved outcome
  refused := by
    intro copy next raised log plane after call _ holds calls moved _ outcome
    have rejected : (plane.replays.update next copy.version).1 = .error raised := congrArg Prod.fst outcome
    obtain ⟨knows, same, inHand, active⟩ := holds
    obtain ⟨rfl, -⟩ := update_refused knows
      (moves_of_transition call (replayCalls_of_handler calls) moved) outcome
    refine ⟨knows, same, ?_, ?_⟩
    · rw [held_append, inHand]
      simp only [heldAfter, rejected]
    · rw [firstRead_append inHand]
      exact fun _ => active (by decide)
  invoking := by
    intro copy log plane request _ holds left _ admitted
    refine ⟨⟨.refl plane, fun produces => running_of_undisturbed holds left (admitted produces)⟩, ?_⟩
    exact holds.append (.refl plane) (by rintro next version ⟨⟩)
  saving := by
    intro copy log plane execution _ holds left _ _ _ _ admitted
    have running := running_of_undisturbed holds left (admitted trivial)
    have advances : Advances replayCalls plane
        (planeStores primitives (.saveWorkflowExecution execution) plane).2 := advances_of_same rfl
    refine ⟨⟨⟨advances, fun replay executionId stored isOver _ => ?_⟩, fun _ => running⟩, ?_⟩
    · obtain ⟨current, present, status⟩ := running
      rw [stored] at present
      cases present
      rw [status] at isOver
      cases isOver
    · exact holds.append advances (by rintro next version ⟨⟩)

theorem evidenceContract_meets (call : ReplayCall) (plane : Plane)
    (offered : (evidenceTraffic primitives replayId undisturbed).offered call) :
    (evidenceContract primitives replayId).Meets anyOutcome (ReplayCall.body primitives call) [] plane := by
  have orderly : Orderly primitives (evidenceContract primitives replayId) := evidenceContract_orderly
  cases call with
  | handle ambient job =>
    refine meets_dropped (handle_meets evidenceContract_outline ambient job ?_ (fun _ _ _ _ => trivial)
      (fun _ _ _ _ _ => trivial) fun _ _ _ _ _ _ _ _ _ _ _ => trivial)
    intro later named context replay _ _ _ names found _
    have stored := ReplayStore.stored_of_get found
    rw [offered] at names
    cases names
    refine ⟨knows_of_stored stored, later.replays.keyed stored, found, fun _ first read active => ?_⟩
    change later.replays.get _ _ _ = some first at read
    rw [found] at read
    cases read
    exact active
  | cancel replayId caller ambient jobNow => exact meets_dropped (orderly.cancel replayId caller ambient jobNow)
  | archive replayId caller ambient => exact meets_dropped (orderly.archive replayId caller ambient)
  | retry jobId scope ambient => exact meets_dropped (orderly.retry jobId scope ambient)

theorem freezes_of_environment {next : Plane}
    (changed : (evidenceTraffic primitives replayId undisturbed).environment plane next) :
    Freezes replayId plane next :=
  ⟨fun other old stored => ⟨old, changed.1 other old stored, .refl⟩,
    fun replay executionId stored _ reserved => changed.2 replay executionId stored reserved⟩

theorem evidenceTraffic_agreement : (evidenceTraffic primitives replayId undisturbed).Agreement
    (fun _ => evidenceContract primitives replayId) fun _ => True where
  sameHandler _ := rfl
  sameAdmits _ := rfl
  sameSound _ := rfl
  kept _ _ _ _ _ _ _ := trivial
  environment changed _ := ⟨trivial, fun _ => (freezes_of_environment changed).1⟩
  joining _ _ _ := ⟨fun _ promised => promised.1.1, fun _ promised => promised.1.1⟩

/-- In every run that produces evidence on undisturbed copies only, evidence is produced only
while the replay is running, and the product of a replay that has ended never changes. -/
theorem evidence_frozen {start : Plane} {earlier later : Config controlPlane Plane ReplayCall Unit}
    (first : (evidenceTraffic primitives replayId undisturbed).Reaches ⟨start, []⟩ earlier)
    (second : (evidenceTraffic primitives replayId undisturbed).Reaches earlier later) :
    (∀ next call log command,
        (evidenceTraffic primitives replayId undisturbed).Issues later next call log command →
        Produces command → Running replayId later.state) ∧
      ∀ replay executionId, earlier.state.replays.byId.get? replayId = some replay →
        ended replay.status = true → replay.replayExecutionId = some executionId →
        later.state.executions.get? (producedKey replay executionId) =
          earlier.state.executions.get? (producedKey replay executionId) := by
  have entering : ∀ call plane, True → (evidenceTraffic primitives replayId undisturbed).offered call →
      (evidenceContract primitives replayId).Meets anyOutcome (ReplayCall.body primitives call) [] plane :=
    fun call plane _ offered => evidenceContract_meets call plane offered
  obtain ⟨-, compatible, meeting⟩ := Pool.meets_of_reaches (fun _ => anyOutcome) evidenceTraffic_agreement
    entering first trivial List.Pairwise.nil (by simp)
  constructor
  · intro next call log command issues produces
    obtain ⟨-, -, meetingLater⟩ := Pool.meets_of_reaches (fun _ => anyOutcome) evidenceTraffic_agreement
      entering second trivial compatible meeting
    exact (issues.promise (fun _ => anyOutcome) evidenceTraffic_agreement trivial meetingLater).2 produces
  · have freezes := Pool.related_of_reaches (fun _ => anyOutcome) evidenceTraffic_agreement entering
      second trivial compatible meeting (Freezes replayId) Freezes.refl Freezes.trans
      (fun _ _ _ _ _ promised => promised.1) freezes_of_environment
    exact freezes.2

end Evidence

/-- Whether the job names the claims replay. -/
def namesClaims : ReplayCall → Bool
  | .handle _ job => (jobReplayId Jobs.samplePrimitives job).toOption == some "replay-1"
  | _ => true

theorem offered_of_namesClaims {admits : Plane → CommandLog controlPlane Plane → PlaneCommand → Prop}
    (call : ReplayCall) (names : namesClaims call = true) :
    (evidenceTraffic Jobs.samplePrimitives "replay-1" admits).offered call := by
  cases call with
  | handle ambient job =>
    simp only [namesClaims, beq_iff_eq] at names
    change jobReplayId _ job = .ok "replay-1"
    cases named : jobReplayId Jobs.samplePrimitives job with
    | ok replayId =>
      rw [named] at names
      cases names
      rfl
    | error raised =>
      rw [named] at names
      cases names
  | _ => trivial

/-- A test of `undisturbed`. -/
def testUndisturbed (plane : Plane) (log : CommandLog controlPlane Plane) : PlaneCommand → Bool
  | .invokeAdapter _ | .saveWorkflowExecution _ => Undisturbed plane log
  | _ => true

theorem undisturbed_of_test (plane : Plane) (log : CommandLog controlPlane Plane) (command : PlaneCommand)
    (passes : testUndisturbed plane log command = true) : undisturbed plane log command := by
  cases command with
  | invokeAdapter request => exact fun _ => passes
  | saveWorkflowExecution execution => exact fun _ => passes
  | _ => exact fun produces => produces.elim

/-- A run of the claims replay that is about to call its adapter. -/
def invokingMoves : List (Pool.Move ReplayCall) :=
  [.enter (.handle (claimsAmbient "exec-2" (completes "approve")) claimsJob), .issue 0, .issue 0, .issue 0,
    .issue 0, .issue 0]

/-- The adapter of an undisturbed run is called while the replay is running. -/
theorem evidence_frozen_invoking :
    ∃ config next call log request,
      (evidenceTraffic Jobs.samplePrimitives "replay-1" undisturbed).Reaches ⟨claimsPlane, []⟩ config ∧
      (evidenceTraffic Jobs.samplePrimitives "replay-1" undisturbed).Issues config next call log
        (.invokeAdapter request) ∧ Running "replay-1" config.state := by
  have legal : (evidenceTraffic Jobs.samplePrimitives "replay-1" undisturbed).Legal invokingMoves
      ⟨claimsPlane, []⟩ :=
    Pool.legal_of_tested offered_of_namesClaims undisturbed_of_test (by decide +kernel)
  have reaches := Pool.reaches_play legal
  have issues : ∃ next call log request, (evidenceTraffic Jobs.samplePrimitives "replay-1" undisturbed).Issues
      ((evidenceTraffic Jobs.samplePrimitives "replay-1" undisturbed).play invokingMoves ⟨claimsPlane, []⟩)
      next call log (.invokeAdapter request) := by
    refine ⟨_, _, _, _, [], [], _, rfl, fun _ => ?_, rfl⟩
    decide +kernel
  obtain ⟨next, call, log, request, issues⟩ := issues
  exact ⟨_, next, call, log, request, reaches, issues,
    (evidence_frozen reaches .refl).1 next call log _ issues trivial⟩

/-! ## A retried job -/

/-- Every schedule. -/
abbrev anyTraffic : Pool controlPlane Plane ReplayCall Unit :=
  evidenceTraffic Jobs.samplePrimitives "replay-1" fun _ _ _ => True

/-- A change of the job store by a worker. -/
def reported (command : PlaneCommand) (config : Config controlPlane Plane ReplayCall Unit) :
    Config controlPlane Plane ReplayCall Unit :=
  ⟨(planeStores Jobs.samplePrimitives command config.state).2, config.threads⟩

theorem reaches_reported (command : PlaneCommand) (leaves : LeavesReplays command)
    (config : Config controlPlane Plane ReplayCall Unit) : anyTraffic.Reaches config (reported command config) := by
  refine .single (.environment ⟨fun replayId replay stored => ?_, fun replay executionId _ _ => ?_⟩)
  · rw [replays_of_leavesReplays Jobs.samplePrimitives leaves]
    exact stored
  · rw [executions_of_plain Jobs.samplePrimitives (plain_of_leavesReplays leaves)]

/-- The job at its second attempt. -/
def secondAttempt : Job where
  record := JobStore.acquired "worker-1" 300 ⟨9⟩
    (retried ⟨8⟩ (JobStore.failed "adapter failed" ⟨7⟩ claimsJob.record))
  valid := by decide

/-- The second run of the job, whose adapter succeeds. -/
def secondRun : ReplayCall := .handle (claimsAmbient "exec-3" (completes "approve")) secondAttempt

/-- The adapter of the first run fails, and the worker reports the job as failed. -/
def failedOnce : Config controlPlane Plane ReplayCall Unit :=
  reported (.markFailed "job-1" "adapter failed" ⟨7⟩) (anyTraffic.play
    [.enter (.handle (claimsAmbient "exec-2" (.error ⟨.valueError, "adapter failed"⟩)) claimsJob), .issue 0,
      .issue 0, .issue 0, .issue 0, .issue 0, .issue 0, .issue 0, .issue 0] ⟨claimsPlane, []⟩)

/-- The job is retried and claimed again; its second run is about to call its adapter. -/
def ranAgain : Config controlPlane Plane ReplayCall Unit :=
  anyTraffic.play [.enter secondRun, .issue 2, .issue 2, .issue 2]
    (reported (.acquireNextQueuedJob "worker-1" 300 {} ⟨9⟩) (anyTraffic.play
      [.enter (.retry "job-1" none ⟨⟨8⟩, none, "retry-1", ⟨"job-2", ⟨8⟩, none⟩⟩), .issue 1, .issue 1]
      failedOnce))

theorem reaches_any {moves : List (Pool.Move ReplayCall)} {config : Config controlPlane Plane ReplayCall Unit}
    (passes : anyTraffic.tested namesClaims (fun _ _ _ => true) moves config = true) :
    anyTraffic.Reaches config (anyTraffic.play moves config) :=
  Pool.reaches_play (Pool.legal_of_tested offered_of_namesClaims (fun _ _ _ _ => trivial) passes)

theorem reaches_ranAgain : anyTraffic.Reaches ⟨claimsPlane, []⟩ ranAgain := by
  refine (reaches_any ?_).trans ((reaches_reported (.markFailed "job-1" "adapter failed" ⟨7⟩) trivial _).trans
    ((reaches_any ?_).trans ((reaches_reported (.acquireNextQueuedJob "worker-1" 300 {} ⟨9⟩) trivial _).trans
      (reaches_any ?_))))
  · decide +kernel
  · decide +kernel
  · decide +kernel

/-- The retried job calls the adapter on the failed replay and stores an execution under its
identity. -/
theorem failed_replay_rewritten :
    ∃ next log request later replay, anyTraffic.Reaches ⟨claimsPlane, []⟩ ranAgain ∧
      ranAgain.state.replays.byId.get? "replay-1" = some replay ∧ replay.status = .failed ∧
      replay.replayExecutionId = some "exec-2" ∧
      anyTraffic.Issues ranAgain next secondRun log (.invokeAdapter request) ∧
      anyTraffic.Reaches ranAgain later ∧
      later.state.executions.get? (producedKey replay "exec-2") ≠
        ranAgain.state.executions.get? (producedKey replay "exec-2") := by
  have found : ∃ replay, ranAgain.state.replays.byId.get? "replay-1" = some replay ∧
      replay.status = .failed ∧ replay.replayExecutionId = some "exec-2" ∧
      producedKey replay "exec-2" = ("org-1", "project-1", "exec-2") := by
    refine ⟨_, rfl, ?_⟩
    decide +kernel
  obtain ⟨replay, stored, failed, reserved, key⟩ := found
  have issues : ∃ next log request, anyTraffic.Issues ranAgain next secondRun log (.invokeAdapter request) :=
    ⟨_, _, _, _, [], _, rfl, trivial, rfl⟩
  obtain ⟨next, log, request, issues⟩ := issues
  refine ⟨next, log, request, anyTraffic.play [.issue 2, .issue 2, .issue 2] ranAgain, replay, reaches_ranAgain,
    stored, failed, reserved, issues, reaches_any (by decide +kernel), ?_⟩
  rw [key]
  decide +kernel

end AiGovernance.Replays
