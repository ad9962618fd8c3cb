import AiGovernance.Replays.Handler
import AiGovernance.Jobs.Fencing
import AiGovernance.Services.ReplayApplication

/-!
# The calls that act on a replay

Runs of the execution handler, cancellations, archivals and retries of jobs, in
one pool. Each call keeps to the same discipline: it changes a replay only by a
transition of the copy it read, over the version it read (`Orderly`).
-/

namespace AiGovernance.Replays

open AiGovernance.Std Domain Repositories
open Semantics Services

/-- One call. -/
inductive ReplayCall where
  | handle (ambient : HandlerAmbient) (job : Job)
  | cancel (replayId : String) (caller : ReplayCaller) (ambient : ReplayAmbient) (jobNow : Instant)
  | archive (replayId : String) (caller : ReplayCaller) (ambient : ReplayAmbient)
  | retry (jobId : String) (scope : Option Scope) (ambient : RetryAmbient)

/-- The steps of a call; what it returns is dropped. -/
def ReplayCall.body (primitives : Primitives) : ReplayCall → PlaneOperation Unit
  | handle ambient job => do
      let _ ← ReplayJobHandler.handle primitives ambient job
      return ()
  | cancel replayId caller ambient jobNow => do
      let _ ← ReplayApplicationService.cancel replayId caller ambient jobNow
      return ()
  | archive replayId caller ambient => do
      let _ ← ReplayApplicationService.archive replayId caller ambient
      return ()
  | retry jobId scope ambient => do
      let _ ← retryJob primitives jobId scope ambient
      return ()

/-- The transitions these calls make. -/
def replayCalls (copy : Replay) : Transition → Prop
  | .markRunning _ _ | .markExecutionCompleted _ | .markExecutionFailed _ _ => True
  | .reserveReplayExecutionId _ _ => copy.replayExecutionId = none
  | .requestCancellation _ | .markCancelled _ | .archive _ => True
  | _ => False

theorem replayCalls_of_handler {copy : Replay} {call : Transition} (calls : handlerCalls copy call) :
    replayCalls copy call := by
  cases call <;> first | exact calls | trivial

/-- What these calls may make of a replay. -/
inductive ReplayMove (old : Replay) : Replay → Prop where
  | start (attemptCount : Int) (now : Instant) (queued : old.status = .queued) :
      ReplayMove old { old with
        status := .running, startedAt := some now, updatedAt := now, attemptCount := attemptCount }
  | reserve (executionId : String) (now : Instant) (unassigned : old.replayExecutionId = none)
      (active : old.status = .queued ∨ old.status = .running) :
      ReplayMove old { old with replayExecutionId := some executionId, updatedAt := now }
  | complete (now : Instant) (running : old.status = .running) :
      ReplayMove old { old with
        status := .executionCompleted, executionCompletedAt := some now, updatedAt := now }
  | request (now : Instant) (active : Replay.active old.status = true) :
      ReplayMove old { old with cancelRequestedAt := some now, updatedAt := now }
  | cancel (requested now : Instant) (active : Replay.active old.status = true)
      (asked : old.status = .ready ∨ old.cancelRequestedAt = some requested) :
      ReplayMove old { old with
        status := .cancelled, cancelRequestedAt := some requested, cancelledAt := some now, updatedAt := now }
  | fail (failure : ReplayFailure) (now : Instant) (active : Replay.active old.status = true) :
      ReplayMove old { old with status := .failed, failure := some failure, updatedAt := now }
  | archive (now : Instant) (archivable : Replay.archivable old.status = true) :
      ReplayMove old { old with status := .archived, archivedAt := some now, updatedAt := now }

theorem move_of_transition {old next : Replay} {call : Transition} (calls : replayCalls old call)
    (moved : transition old call = .ok next) : ReplayMove old next := by
  cases call with
  | reserveReplayExecutionId replayExecutionId now =>
    simp only [transition, Replay.reserveReplayExecutionId, require_bind_eq_ok, pure_eq_ok] at moved
    obtain ⟨active, -, -, rfl⟩ := moved
    exact .reserve replayExecutionId now calls active
  | archive now =>
    simp only [transition, Replay.archive, require_bind_eq_ok, pure_eq_ok] at moved
    obtain ⟨archivable, rfl⟩ := moved
    exact .archive now archivable
  | markRunning attemptCount now =>
    simp only [transition, Replay.markRunning, requireStatus_bind_eq_ok, require_bind_eq_ok,
      pure_eq_ok] at moved
    obtain ⟨queued, -, rfl⟩ := moved
    exact .start attemptCount now queued
  | markExecutionCompleted now =>
    simp only [transition, Replay.markExecutionCompleted, requireStatus_bind_eq_ok,
      require_bind_eq_ok, pure_eq_ok] at moved
    obtain ⟨running, -, rfl⟩ := moved
    exact .complete now running
  | requestCancellation now =>
    simp only [transition, Replay.requestCancellation, require_bind_eq_ok, pure_eq_ok] at moved
    obtain ⟨active, rfl⟩ := moved
    exact .request now active
  | markCancelled now =>
    simp only [transition, Replay.markCancelled] at moved
    split at moved
    · rename_i ready
      cases moved
      exact .cancel _ now (by rw [ready]; rfl) (Or.inl ready)
    · simp only [require_bind_eq_ok, pure_eq_ok] at moved
      obtain ⟨⟨active, asked⟩, rfl⟩ := moved
      obtain ⟨requested, asked⟩ := Option.ne_none_iff_exists'.mp asked
      rw [asked]
      exact .cancel requested now active (Or.inr asked)
  | markExecutionFailed failure now =>
    simp only [transition, Replay.markExecutionFailed, require_bind_eq_ok, pure_eq_ok] at moved
    obtain ⟨active, rfl⟩ := moved
    exact .fail failure now active
  | _ => exact calls.elim

/-- What every move keeps of the fields other than the version is kept. -/
theorem kept_of_follows (kept : Replay → Prop) (step : ∀ old next, ReplayMove old next → kept old → kept next)
    (unversioned : ∀ replay version, kept replay → kept { replay with version := version })
    {old new : Replay} (follows : Follows replayCalls old new) (holds : kept old) : kept new :=
  follows.keeps kept (fun _ _ _ calls moved => step _ _ (move_of_transition calls moved)) unversioned holds

/-- Neither a call of an adapter nor a write of an execution. -/
def Plain : PlaneCommand → Prop
  | .invokeAdapter _ | .saveWorkflowExecution _ => False
  | _ => True

/-- A plain command other than an update of a replay leaves replays and executions alone. -/
def LeavesReplays : PlaneCommand → Prop
  | .invokeAdapter _ | .saveWorkflowExecution _ | .updateReplay _ _ => False
  | _ => True

variable {command : PlaneCommand}

theorem replays_of_leavesReplays (primitives : Primitives) (leaves : LeavesReplays command) (plane : Plane) :
    (planeStores primitives command plane).2.replays = plane.replays := by
  cases command <;> first | rfl | cases leaves

theorem executions_of_plain (primitives : Primitives) (plain : Plain command) (plane : Plane) :
    (planeStores primitives command plane).2.executions = plane.executions := by
  cases command <;> first | rfl | cases plain

theorem plain_of_leavesReplays (leaves : LeavesReplays command) : Plain command := by
  cases command <;> trivial

theorem getJob_within (jobId : String) (scope : Option Scope) :
    (getJob jobId scope).Within LeavesReplays fun _ => True := by
  refine Program.within_call_bind trivial fun job => ?_
  cases job <;> trivial

theorem cancelJobRequest_within (jobId : String) (scope : Option Scope) (now : Instant) :
    (cancelJobRequest jobId scope now).Within LeavesReplays fun _ => True := by
  unfold cancelJobRequest
  refine Program.within_bind.mpr ((getJob_within jobId scope).mono (fun _ leaves => leaves) fun job _ => ?_)
  split
  · refine Program.within_call_bind trivial fun _ => Program.within_call_bind trivial fun _ => ?_
    exact getJob_within jobId scope
  · trivial

theorem retryJob_leavesReplays (primitives : Primitives) (jobId : String) (scope : Option Scope)
    (ambient : RetryAmbient) : (retryJob primitives jobId scope ambient).Within LeavesReplays fun _ => True := by
  refine (Jobs.retryJob_within scope ambient).mono (fun command queues => ?_) fun _ _ => trivial
  cases command <;> trivial

/-- A contract that asks of a plain command only that it advances the replays. -/
structure Orderly (primitives : Primitives) (C : Contract controlPlane Plane) : Prop where
  handler : C.handler = planeStores primitives
  advances : ∀ {plane later}, C.rely plane later → Advances replayCalls plane later
  promising : ∀ {plane log command}, Plain command →
    Advances replayCalls plane (planeStores primitives command plane).2 →
    C.promise plane log command (planeStores primitives command plane).2

section Orderly

variable {primitives : Primitives} {C : Contract controlPlane Plane} (orderly : Orderly primitives C)
  {β : Type} {log : CommandLog controlPlane Plane} {plane : Plane}

/-- No outcome is asked for. -/
abbrev anyOutcome : CommandLog controlPlane Plane → Except Raised β → Plane → Prop := fun _ _ _ => True

/-- What a call returns may be dropped. -/
theorem meets_dropped {program : PlaneOperation β} (meets : C.Meets anyOutcome program log plane) :
    C.Meets anyOutcome (program >>= fun _ => pure ()) log plane := by
  refine Contract.meets_bind (meets.mono fun log result later _ => ?_)
  cases result with
  | ok value => exact fun _ _ _ => trivial
  | error raised => trivial

include orderly

/-- A program that leaves the replays alone keeps the contract, and what was known stays known. -/
theorem Orderly.of_within {known : Plane → Prop} {returns : β → Prop} {program : PlaneOperation β}
    (within : program.Within LeavesReplays returns)
    (stable : ∀ {plane later}, Advances replayCalls plane later → known plane → known later)
    (knows : known plane) : C.Meets (fun _ _ later => known later) program log plane := by
  induction program generalizing log plane with
  | done value => exact fun _ related _ => stable (orderly.advances related) knows
  | raise exception => exact fun _ related _ => stable (orderly.advances related) knows
  | perform command next ih =>
    intro later related _ _
    rw [orderly.handler]
    have kept : Advances replayCalls later (planeStores primitives command later).2 :=
      advances_of_same (replays_of_leavesReplays primitives within.1 later)
    exact ⟨orderly.promising (plain_of_leavesReplays within.1) kept,
      ih _ (within.2 _) (stable kept (stable (orderly.advances related) knows))⟩

/-- A write of a transition over a known copy. -/
theorem Orderly.update {copy changed : Replay} (knows : Knows replayCalls copy plane)
    (moves : Moves replayCalls copy changed) :
    C.Meets (fun _ result later => ∀ new, result = .ok new →
        new = advanced copy changed ∧ Knows replayCalls (advanced copy changed) later)
      (ask (.updateReplay changed copy.version)) log plane := by
  refine Contract.meets_call ?_ ?_
  · intro later related _ _
    rw [orderly.handler]
    exact orderly.promising trivial (update_advances (knows.advance (orderly.advances related)) moves)
  · intro later result after related _ _ outcome final beyond _ new returned
    rw [orderly.handler] at outcome
    subst returned
    obtain ⟨rfl, -, -, known⟩ := update_accepted (knows.advance (orderly.advances related)) moves outcome
    exact ⟨rfl, known.advance (orderly.advances beyond)⟩

/-- A request reads the replay it is about. -/
theorem Orderly.get (replayId : String) (caller : ReplayCaller) (ambient : ReplayAmbient) :
    C.Meets (fun _ result later => ∀ copy, result = .ok copy → Knows replayCalls copy later)
      (ReplayApplicationService.get replayId caller ambient) log plane := by
  unfold ReplayApplicationService.get passes
  split
  · exact fun _ _ _ _ => nofun
  · rw [Program.done_bind]
    refine Contract.meets_call_bind ?_ ?_ fun _ _ _ _ _ _ _ _ _ _ _ => nofun
    · intro later _ _ _
      rw [orderly.handler]
      exact orderly.promising trivial (.refl later)
    · intro later answer after _ _ _ outcome
      rw [orderly.handler] at outcome
      cases outcome
      cases found : later.replays.get replayId caller.scope.organizationId caller.scope.projectKey with
      | none => exact fun _ _ _ _ => nofun
      | some copy =>
        refine Contract.meets_pure fun final beyond _ known returned => ?_
        cases returned
        exact (knows_of_stored (ReplayStore.stored_of_get found)).advance (orderly.advances beyond)

theorem Orderly.archive (replayId : String) (caller : ReplayCaller) (ambient : ReplayAmbient) :
    C.Meets anyOutcome (ReplayApplicationService.archive replayId caller ambient) log plane := by
  unfold ReplayApplicationService.archive passes
  split
  · exact fun _ _ _ => trivial
  · rw [Program.done_bind]
    refine Contract.meets_bind ((orderly.get replayId caller ambient).mono fun log result later read => ?_)
    cases result with
    | error raised => trivial
    | ok copy =>
      dsimp only
      cases archived : copy.archive ambient.finishedAt with
      | error raised => exact fun _ _ _ => trivial
      | ok changed =>
        have moves : Moves replayCalls copy changed :=
          moves_of_transition (.archive ambient.finishedAt) trivial archived
        exact (orderly.update (read copy rfl) moves).mono fun _ _ _ _ => trivial

theorem Orderly.settleCancellation {persisted : Replay} (knows : Knows replayCalls persisted plane)
    (jobId : String) (caller : ReplayCaller) (ambient : ReplayAmbient) (jobNow : Instant) :
    C.Meets anyOutcome
      (ReplayApplicationService.settleCancellation persisted jobId caller ambient jobNow) log plane := by
  unfold ReplayApplicationService.settleCancellation
  refine Contract.meets_bind (Contract.meets_caught ((orderly.of_within (cancelJobRequest_within jobId
    (some caller.scope) jobNow) (fun advances knows => knows.advance advances) knows).mono
      fun log result later known => ?_))
  cases result with
  | error raised => exact fun _ _ _ => trivial
  | ok job =>
    dsimp only
    split
    · refine Contract.meets_ofExcept_bind (fun cancelled moved => ?_) fun _ _ _ _ _ => trivial
      have moves : Moves replayCalls persisted cancelled :=
        moves_of_transition (.markCancelled ambient.finishedAt) trivial moved
      exact (orderly.update known moves).mono fun _ _ _ _ => trivial
    · exact fun _ _ _ => trivial

theorem Orderly.cancel (replayId : String) (caller : ReplayCaller) (ambient : ReplayAmbient)
    (jobNow : Instant) :
    C.Meets anyOutcome (ReplayApplicationService.cancel replayId caller ambient jobNow) log plane := by
  unfold ReplayApplicationService.cancel passes
  split
  · exact fun _ _ _ => trivial
  · rw [Program.done_bind]
    refine Contract.meets_bind ((orderly.get replayId caller ambient).mono fun log result later read => ?_)
    cases result with
    | error raised => trivial
    | ok copy =>
      have knows := read copy rfl
      dsimp only
      split
      · exact fun _ _ _ => trivial
      · rw [Program.done_bind]
        split
        · exact fun _ _ _ => trivial
        · refine Contract.meets_ofExcept_bind (fun requested moved => ?_) fun _ _ _ _ _ => trivial
          have requesting : Moves replayCalls copy requested :=
            moves_of_transition (.requestCancellation ambient.requestedAt) trivial moved
          split
          · refine Contract.meets_ofExcept_bind (fun cancelled moved => ?_) fun _ _ _ _ _ => trivial
            have finishing : Moves replayCalls requested cancelled :=
              moves_of_transition (.markCancelled ambient.finishedAt) trivial moved
            exact (orderly.update knows (requesting.trans finishing)).mono fun _ _ _ _ => trivial
          · split
            · exact fun _ _ _ => trivial
            · split
              · exact fun _ _ _ => trivial
              · refine Contract.meets_bind ((orderly.update knows requesting).mono
                  fun log result later stored => ?_)
                cases result with
                | error raised => trivial
                | ok persisted =>
                  obtain ⟨rfl, known⟩ := stored persisted rfl
                  exact orderly.settleCancellation known _ caller ambient jobNow

theorem Orderly.retry (jobId : String) (scope : Option Scope) (ambient : RetryAmbient) :
    C.Meets anyOutcome (retryJob primitives jobId scope ambient) log plane :=
  orderly.of_within (retryJob_leavesReplays primitives jobId scope ambient) (fun _ _ => trivial) trivial

end Orderly

/-! ## A worked replay -/

/-- The claims replay with its job submitted. -/
def queuedClaims : Replay :=
  { after (Replay.draftOf claimsReplay) [.markReady claimsConfiguration ⟨1⟩, .markQueued "job-1" ⟨2⟩] with
    version := 1 }

/-- The job of the claims replay. -/
def claimsJob : Job where
  record :=
    { jobId := "job-1", jobType := .replayExecution, status := .running
      inputRefs := [("replay_id", .str "replay-1")], inputHash := "hash-1", idempotencyKey := "replay-execution:1"
      submittedBy := "analyst-1", attemptCount := 1, maxAttempts := 3, resultRef := none
      failureReason := none, leasedBy := some "worker-1", leaseExpiresAt := some ⟨300⟩, heartbeatAt := some ⟨3⟩
      createdAt := ⟨2⟩, updatedAt := ⟨3⟩, startedAt := some ⟨3⟩, completedAt := none
      executionContext := some
        { organizationId := "org-1", projectId := "project-1", actorId := "analyst-1"
          submittedRequestId := "request-1" } }
  valid := by decide

/-- The execution that is replayed. -/
def claimsSource : WorkflowExecution where
  workflowId := "claims"
  executionId := "exec-1"
  workflowName := "Claims"
  workflowVersion := "1"
  executionStatus := "completed"
  input := []
  finalState := []
  events := []
  organizationId := "org-1"
  projectId := "project-1"

/-- A platform with the queued replay, its job and its source. -/
def claimsPlane : Plane where
  jobs := JobStore.empty.put claimsJob
  replays := ReplayStore.empty.put queuedClaims
  executions := Dict.empty.set ("org-1", "project-1", "exec-1") claimsSource

/-- A run of the handler with the outcome of its adapter. -/
def claimsAmbient (executionId : String) (outcome : Except Raised AdapterOutput) : HandlerAmbient where
  resolve _ := some { validateConfiguration := fun _ _ => .ok (), replay := fun _ => outcome }
  executionId := executionId
  startedAt := ⟨4⟩
  reservedAt := ⟨5⟩
  completedAt := ⟨6⟩
  cancelledAt := ⟨6⟩
  occurredAt := ⟨6⟩
  failedAt := ⟨6⟩

/-- An adapter that reports a completed run. -/
def completes (finalState : String) : Except Raised AdapterOutput :=
  .ok (.result { executionStatus := "completed", finalState := [("decision", .str finalState)] })

end AiGovernance.Replays
