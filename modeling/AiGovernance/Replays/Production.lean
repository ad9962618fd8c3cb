import AiGovernance.Replays.Parties

/-!
# What a replay produces

A replay reserves the identity of the execution it produces once. However runs
of the handler, cancellations, archivals and retries interleave, the identity
never changes, every execution that is stored carries it, and the source
execution is never written.
-/

namespace AiGovernance.Replays

open AiGovernance.Std Domain Repositories
open Semantics Services

/-! ## One identity -/

/-- A reserved identity is kept by every move. -/
theorem Follows.executionId {old new : Replay} {executionId : String} (follows : Follows replayCalls old new)
    (reserved : old.replayExecutionId = some executionId) : new.replayExecutionId = some executionId := by
  refine kept_of_follows (·.replayExecutionId = some executionId) ?_ (fun _ _ before => before) follows reserved
  intro old next move before
  cases move with
  | reserve executionId now unassigned active =>
    rw [unassigned] at before
    cases before
  | _ => exact before

section Identity

variable (primitives : Primitives)

/-- Any number of calls, for any replays and jobs. Everything else may change jobs and
executions and create replays between any two steps. -/
def replayTraffic : Pool controlPlane Plane ReplayCall Unit where
  handler := planeStores primitives
  body := ReplayCall.body primitives
  offered _ := True
  environment plane next := ∀ replayId replay, plane.replays.byId.get? replayId = some replay →
    next.replays.byId.get? replayId = some replay
  admits _ _ _ := True

/-- The execution has the identity that the replay of the run has reserved, and not the source's. -/
def Reserved (call : ReplayCall) (plane : Plane) (execution : WorkflowExecution) : Prop :=
  ∃ ambient job replayId replay, call = .handle ambient job ∧ jobReplayId primitives job = .ok replayId ∧
    plane.replays.byId.get? replayId = some replay ∧
    replay.replayExecutionId = some execution.executionId ∧
    execution.executionId ≠ replay.sourceExecutionId

/-- Every call advances the replays and stores an execution only under the reserved identity. -/
def identityContract (call : ReplayCall) : Contract controlPlane Plane where
  handler := planeStores primitives
  admits _ _ _ := True
  sound _ := True
  rely := Advances replayCalls
  refl := Advances.refl
  trans := Advances.trans
  promise plane _ command next := Advances replayCalls plane next ∧
    ∀ execution, command = .saveWorkflowExecution execution → Reserved primitives call plane execution

variable {primitives}

theorem identityContract_orderly (call : ReplayCall) : Orderly primitives (identityContract primitives call) where
  handler := rfl
  advances related := related
  promising plain advances := ⟨advances, by rintro execution rfl; cases plain⟩

/-- A run knows the replay its job names. -/
def KnowsNamed (primitives : Primitives) (job : Job) (_ : Notice) (copy : Replay) (_ : CommandLog controlPlane Plane) (plane : Plane) :
    Prop :=
  Knows replayCalls copy plane ∧ jobReplayId primitives job = .ok copy.replayId

theorem identityContract_outline (ambient : HandlerAmbient) (job : Job) :
    Outline primitives (identityContract primitives (.handle ambient job))
      (KnowsNamed primitives job) where
  handler := rfl
  stable holds related := ⟨holds.1.advance related, holds.2⟩
  held holds _ := holds
  looking looksUp _ := ⟨.refl _, by rintro execution rfl; cases looksUp⟩
  looked _ holds := holds
  stopping _ holds _ := holds
  writing _ holds calls moved _ :=
    ⟨update_advances holds.1 (moves_of_transition _ (replayCalls_of_handler calls) moved), by
      rintro execution ⟨⟩⟩
  written := by
    intro copy next new log plane after call _ holds calls moved _ outcome
    have moves := moves_of_transition call (replayCalls_of_handler calls) moved
    obtain ⟨rfl, -, -, known⟩ := update_accepted holds.1 moves outcome
    refine ⟨rfl, known, ?_⟩
    rw [(advanced_same moves.same).replayId]
    exact holds.2
  refused := by
    intro copy next raised log plane after call _ holds calls moved _ outcome
    obtain ⟨rfl, -⟩ := update_refused holds.1
      (moves_of_transition call (replayCalls_of_handler calls) moved) outcome
    exact holds
  invoking _ holds _ _ _ := ⟨⟨.refl _, by rintro execution ⟨⟩⟩, holds⟩
  saving := by
    intro copy log plane execution _ holds _ reserved distinct _ _ _
    refine ⟨⟨advances_of_same rfl, ?_⟩, holds⟩
    rintro _ ⟨⟩
    obtain ⟨⟨stored, found, follows⟩, named⟩ := holds
    refine ⟨ambient, job, copy.replayId, stored, rfl, named, found, follows.executionId reserved, ?_⟩
    rw [follows.same.sourceExecutionId]
    exact distinct

theorem identityContract_meets (call : ReplayCall) (plane : Plane) :
    (identityContract primitives call).Meets anyOutcome (ReplayCall.body primitives call) [] plane := by
  have orderly : Orderly primitives (identityContract primitives call) := identityContract_orderly call
  cases call with
  | handle ambient job =>
    refine meets_dropped (handle_meets (identityContract_outline ambient job) ambient job ?_
      (fun _ _ _ _ => trivial) (fun _ _ _ _ _ => trivial) fun _ _ _ _ _ _ _ _ _ _ _ => trivial)
    intro later replayId context replay _ _ _ named found _
    have stored := ReplayStore.stored_of_get found
    refine ⟨knows_of_stored stored, ?_⟩
    rw [later.replays.keyed stored]
    exact named
  | cancel replayId caller ambient jobNow => exact meets_dropped (orderly.cancel replayId caller ambient jobNow)
  | archive replayId caller ambient => exact meets_dropped (orderly.archive replayId caller ambient)
  | retry jobId scope ambient => exact meets_dropped (orderly.retry jobId scope ambient)

theorem replayTraffic_agreement :
    (replayTraffic primitives).Agreement (identityContract primitives) fun _ => True where
  sameHandler _ := rfl
  sameAdmits _ := rfl
  sameSound _ := rfl
  kept _ _ _ _ _ _ _ := trivial
  environment kept _ := ⟨trivial, fun _ replayId old stored => ⟨old, kept replayId old stored, .refl⟩⟩
  joining _ _ _ := ⟨fun _ promised => promised.1, fun _ promised => promised.1⟩

/-- However the steps of the calls interleave, a replay has at most one produced execution: an
identity that was ever stored is the only one, and every execution that is stored has the identity
its replay has reserved by then, which is not the source's. -/
theorem one_execution_per_replay {start : Plane} {earlier later : Config controlPlane Plane ReplayCall Unit}
    (first : (replayTraffic primitives).Reaches ⟨start, []⟩ earlier)
    (second : (replayTraffic primitives).Reaches earlier later) :
    (∀ replayId old new executionId otherId, earlier.state.replays.byId.get? replayId = some old →
        later.state.replays.byId.get? replayId = some new → old.replayExecutionId = some executionId →
        new.replayExecutionId = some otherId → otherId = executionId) ∧
      ∀ next call log execution,
        (replayTraffic primitives).Issues later next call log (.saveWorkflowExecution execution) →
        Reserved primitives call later.state execution := by
  have entering : ∀ call plane, True → True → (identityContract primitives call).Meets anyOutcome
      (ReplayCall.body primitives call) [] plane := fun call plane _ _ => identityContract_meets call plane
  obtain ⟨-, compatible, meeting⟩ := Pool.meets_of_reaches (fun _ => anyOutcome) replayTraffic_agreement
    entering first trivial List.Pairwise.nil (by simp)
  constructor
  · intro replayId old new executionId otherId stored now reserved other
    have advances := Pool.related_of_reaches (fun _ => anyOutcome) replayTraffic_agreement entering
      second trivial compatible meeting (Advances replayCalls) Advances.refl Advances.trans
      (fun _ _ _ _ _ promised => promised.1) (fun kept replayId old stored => ⟨old, kept replayId old stored, .refl⟩)
    obtain ⟨found, foundNow, follows⟩ := advances replayId old stored
    rw [now] at foundNow
    cases foundNow
    rw [follows.executionId reserved] at other
    cases other
    rfl
  · intro next call log execution issues
    obtain ⟨-, -, meetingLater⟩ := Pool.meets_of_reaches (fun _ => anyOutcome) replayTraffic_agreement
      entering second trivial compatible meeting
    exact (issues.promise (fun _ => anyOutcome) replayTraffic_agreement trivial meetingLater).2 execution rfl

end Identity

/-- Two runs of the job: the second takes over after the first has reserved the identity, and is
about to store its execution. -/
def takenOver : Config controlPlane Plane ReplayCall Unit :=
  (replayTraffic Jobs.samplePrimitives).play
    [.enter (.handle (claimsAmbient "exec-2" (completes "approve")) claimsJob), .issue 0, .issue 0, .issue 0,
      .enter (.handle (claimsAmbient "exec-3" (completes "approve")) claimsJob), .issue 1, .issue 1, .issue 1,
      .issue 1, .issue 1] ⟨claimsPlane, []⟩

/-- The second run stores its execution under the identity of the first. -/
theorem one_execution_per_replay_takenOver :
    ∃ next log execution, (replayTraffic Jobs.samplePrimitives).Issues takenOver next
        (.handle (claimsAmbient "exec-3" (completes "approve")) claimsJob) log
        (.saveWorkflowExecution execution) ∧ execution.executionId = "exec-2" ∧
      Reserved Jobs.samplePrimitives (.handle (claimsAmbient "exec-3" (completes "approve")) claimsJob)
        takenOver.state execution := by
  have reaches : (replayTraffic Jobs.samplePrimitives).Reaches ⟨claimsPlane, []⟩ takenOver :=
    Pool.reaches_play (Pool.legal_of_free (fun _ => trivial) (fun _ _ _ => trivial) _ _)
  have issues : ∃ next log execution, (replayTraffic Jobs.samplePrimitives).Issues takenOver next
      (.handle (claimsAmbient "exec-3" (completes "approve")) claimsJob) log
      (.saveWorkflowExecution execution) ∧ execution.executionId = "exec-2" := by
    refine ⟨_, _, _, ⟨_, [], _, rfl, trivial, rfl⟩, ?_⟩
    decide +kernel
  obtain ⟨next, log, execution, issues, identity⟩ := issues
  exact ⟨next, log, execution, issues, identity,
    (one_execution_per_replay reaches .refl).2 next _ log execution issues⟩

end AiGovernance.Replays
