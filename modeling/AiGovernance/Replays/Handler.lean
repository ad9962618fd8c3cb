import AiGovernance.Replays.Updates
import AiGovernance.Semantics.Contract
import AiGovernance.Services.ReplayExecution

/-!
# A run of the execution handler

One walk through `ReplayJobHandler`, for every contract. `Outline` lists what a
contract has to say about the copy of the replay a run holds: it stays known
while others act and while the run reads, each write of the run keeps the
promise, and so do the adapter call and the stored execution. `handle_meets`
then gives the contract of the whole run and what is known where it ends.
-/

namespace AiGovernance.Replays

open AiGovernance.Std Domain Repositories
open Semantics Services ReplayJobHandler Contract

/-- The transitions of the handler, with what it has checked of its copy. -/
def handlerCalls (copy : Replay) : Transition → Prop
  | .markRunning _ _ => True
  | .reserveReplayExecutionId _ _ => copy.replayExecutionId = none
  | .markExecutionCompleted _ => True
  | .markCancelled _ => copy.status = .running ∧ copy.cancelRequestedAt ≠ none
  | .markExecutionFailed _ _ => True
  | _ => False

/-- The commands with which the handler looks something up. -/
def LooksUp : PlaneCommand → Prop
  | .getReplay _ _ _ | .getWorkflowExecution _ _ _ => True
  | _ => False

theorem state_of_looksUp (primitives : Primitives) {command : PlaneCommand} (looksUp : LooksUp command)
    (plane : Plane) : (planeStores primitives command plane).2 = plane := by
  cases command <;> first | rfl | cases looksUp

/-- What a run of the handler has noticed: it works on a copy, a write over the copy was refused,
the cancellation token was set, or its own write has ended the replay. -/
inductive Notice where
  | copy
  | lost
  | stopped
  | ended
deriving DecidableEq

/-- What a run knows of what it has written. -/
def Notice.after : Transition → Notice
  | .markRunning _ _ | .reserveReplayExecutionId _ _ => .copy
  | _ => .ended

/-- The replay the token looks at is cancelled, asked to be, or gone. -/
def TokenSet (copy : Replay) (plane : Plane) : Prop :=
  (plane.replays.get copy.replayId copy.organizationId copy.projectId).all
    (fun replay => replay.status = .cancelled || replay.cancelRequestedAt.isSome) = true

/-- What a contract says about a run of the handler. -/
structure Outline (primitives : Primitives) (C : Contract controlPlane Plane)
    (Noted : Notice → Replay → CommandLog controlPlane Plane → Plane → Prop) : Prop where
  handler : C.handler = planeStores primitives
  stable : ∀ {notice copy log plane later}, Noted notice copy log plane → C.rely plane later →
    Noted notice copy log later
  held : ∀ {notice copy log plane}, Noted notice copy log plane → notice ≠ .ended →
    Noted .copy copy log plane
  looking : ∀ {plane log command}, LooksUp command → C.sound plane → C.promise plane log command plane
  looked : ∀ {notice copy log plane command}, LooksUp command → Noted notice copy log plane →
    Noted notice copy (log ++ [(plane, command)]) plane
  stopping : ∀ {copy log plane}, C.sound plane → Noted .copy copy log plane → TokenSet copy plane →
    Noted .stopped copy (log ++ [(plane, .getReplay copy.replayId copy.organizationId copy.projectId)]) plane
  writing : ∀ {copy next log plane call}, C.sound plane → Noted .copy copy log plane →
    handlerCalls copy call → transition copy call = .ok next →
    C.admits plane log (.updateReplay next copy.version) →
    C.promise plane log (.updateReplay next copy.version)
      (planeStores primitives (.updateReplay next copy.version) plane).2
  written : ∀ {copy next new log plane after call}, C.sound plane → Noted .copy copy log plane →
    handlerCalls copy call → transition copy call = .ok next →
    C.admits plane log (.updateReplay next copy.version) →
    planeStores primitives (.updateReplay next copy.version) plane = (.ok new, after) →
    new = advanced copy next ∧
      Noted (.after call) new (log ++ [(plane, .updateReplay next copy.version)]) after
  refused : ∀ {copy next raised log plane after call}, C.sound plane → Noted .copy copy log plane →
    handlerCalls copy call → transition copy call = .ok next →
    C.admits plane log (.updateReplay next copy.version) →
    planeStores primitives (.updateReplay next copy.version) plane = (.error raised, after) →
    Noted .lost copy (log ++ [(plane, .updateReplay next copy.version)]) after
  invoking : ∀ {copy log plane request}, C.sound plane → Noted .copy copy log plane →
    copy.status ≠ .queued → request.replayId = copy.replayId → C.admits plane log (.invokeAdapter request) →
    C.promise plane log (.invokeAdapter request) plane ∧
      Noted .copy copy (log ++ [(plane, .invokeAdapter request)]) plane
  saving : ∀ {copy log plane execution}, C.sound plane → Noted .copy copy log plane →
    copy.status ≠ .queued → copy.replayExecutionId = some execution.executionId → execution.executionId ≠ copy.sourceExecutionId →
    execution.organizationId = copy.organizationId → execution.projectId = copy.projectId →
    C.admits plane log (.saveWorkflowExecution execution) →
    C.promise plane log (.saveWorkflowExecution execution)
        (planeStores primitives (.saveWorkflowExecution execution) plane).2 ∧
      Noted .copy copy (log ++ [(plane, .saveWorkflowExecution execution)])
        (planeStores primitives (.saveWorkflowExecution execution) plane).2

section Outline

variable {primitives : Primitives} {C : Contract controlPlane Plane}
  {Noted : Notice → Replay → CommandLog controlPlane Plane → Plane → Prop}

/-- What is known where a run ends: its copy has left the queue or is outdated, and it reports a
cancellation only of a replay that is over or asked to stop. -/
def Exits (Noted : Notice → Replay → CommandLog controlPlane Plane → Plane → Prop)
    (log : CommandLog controlPlane Plane) (result : Except Raised JobResult) (plane : Plane) : Prop :=
  ∃ notice copy, Noted notice copy log plane ∧ (copy.status ≠ .queued ∨ Noted .lost copy log plane) ∧
    ∀ answer, result = .ok answer → answer.status = .cancelled →
      copy.status = .cancelled ∨ copy.status = .archived ∨ Noted .stopped copy log plane

variable {plane : Plane} {log : CommandLog controlPlane Plane}

theorem Exits.of_rely (outline : Outline primitives C Noted) {result : Except Raised JobResult} {later : Plane}
    (exits : Exits Noted log result plane) (related : C.rely plane later) : Exits Noted log result later := by
  obtain ⟨notice, copy, holds, left, cancelled⟩ := exits
  refine ⟨notice, copy, outline.stable holds related, ?_, fun answer returned reported => ?_⟩
  · exact left.imp_right fun lost => outline.stable lost related
  · exact (cancelled answer returned reported).imp_right fun rest =>
      rest.imp_right fun stopped => outline.stable stopped related

/-- What a part of the run that works on a copy ends with: it is the end of the run, or an
exception that leaves the copy in hand. -/
def Works (Noted : Notice → Replay → CommandLog controlPlane Plane → Plane → Prop) (copy : Replay)
    (log : CommandLog controlPlane Plane) (result : Except Raised JobResult) (plane : Plane) : Prop :=
  match result with
  | .ok answer => Exits Noted log (.ok answer) plane
  | .error _ => Noted .copy copy log plane

/-! ## Single steps -/

variable {copy : Replay} {β : Type}

/-- A lookup answers and leaves the copy in hand. -/
theorem lookup_meets_bind {post : CommandLog controlPlane Plane → Except Raised β → Plane → Prop}
    (outline : Outline primitives C Noted) {notice : Notice} {command : PlaneCommand}
    {next : command.Answer → PlaneOperation β} (looksUp : LooksUp command) (holds : Noted notice copy log plane)
    (answered : ∀ later answer, C.sound later → Noted notice copy log later →
      planeStores primitives command later = (.ok answer, later) →
      C.Meets post (next answer) (log ++ [(later, command)]) later) :
    C.Meets post (ask command >>= next) log plane := by
  refine meets_call_bind ?_ ?_ ?_
  · intro later _ sound _
    rw [outline.handler, state_of_looksUp primitives looksUp]
    exact outline.looking looksUp sound
  · intro later answer after related sound _ outcome
    rw [outline.handler] at outcome
    have unchanged := state_of_looksUp primitives looksUp later
    rw [outcome] at unchanged
    subst unchanged
    exact answered after answer sound (outline.stable holds related) outcome
  · intro later exception after _ _ _ outcome
    rw [outline.handler] at outcome
    cases command <;> first | cases outcome | cases looksUp

/-- A write over the copy is accepted, and the run holds what was stored, or refused. -/
theorem write_meets (outline : Outline primitives C Noted) {changed : Replay} (call : Transition)
    (holds : Noted .copy copy log plane) (calls : handlerCalls copy call) (moved : transition copy call = .ok changed) :
    C.Meets (fun log result plane =>
      match result with
      | .ok new => new = advanced copy changed ∧ Noted (.after call) (advanced copy changed) log plane
      | .error _ => Noted .lost copy log plane) (ask (.updateReplay changed copy.version)) log plane := by
  refine meets_call ?_ ?_
  · intro later related sound admitted
    rw [outline.handler]
    exact outline.writing sound (outline.stable holds related) calls moved admitted
  · intro later result after related sound admitted outcome final beyond _
    rw [outline.handler] at outcome
    have known := outline.stable holds related
    cases result with
    | ok new =>
      obtain ⟨rfl, stored⟩ := outline.written sound known calls moved admitted outcome
      exact ⟨rfl, outline.stable stored beyond⟩
    | error raised =>
      exact outline.stable (outline.refused sound known calls moved admitted outcome) beyond

theorem write_meets_bind {post : CommandLog controlPlane Plane → Except Raised β → Plane → Prop}
    (outline : Outline primitives C Noted) {changed : Replay} (call : Transition) {next : Replay → PlaneOperation β}
    (holds : Noted .copy copy log plane) (calls : handlerCalls copy call) (moved : transition copy call = .ok changed)
    (written : ∀ log after, Noted (.after call) (advanced copy changed) log after →
      C.Meets post (next (advanced copy changed)) log after)
    (refused : ∀ log raised later, Noted .lost copy log later → post log (.error raised) later) :
    C.Meets post (ask (.updateReplay changed copy.version) >>= next) log plane := by
  refine meets_bind ((write_meets outline call holds calls moved).mono fun log result later met => ?_)
  cases result with
  | ok new =>
    obtain ⟨rfl, stored⟩ := met
    exact written log later stored
  | error raised => exact refused log raised later met

/-- The token is looked up; where it is set, the run has noticed. -/
theorem isCancelled_meets_bind {post : CommandLog controlPlane Plane → Except Raised β → Plane → Prop}
    (outline : Outline primitives C Noted) {context : JobExecutionContext} {next : Bool → PlaneOperation β}
    (holds : Noted .copy copy log plane) (organization : copy.organizationId = context.organizationId)
    (project : copy.projectId = context.projectId)
    (stopped : ∀ log later, Noted .stopped copy log later → C.Meets post (next true) log later)
    (free : ∀ log later, Noted .copy copy log later → C.Meets post (next false) log later) :
    C.Meets post (isCancelled copy.replayId context >>= next) log plane := by
  unfold isCancelled
  rw [← organization, ← project, Program.bind_assoc]
  refine lookup_meets_bind outline (by trivial) holds fun later answer sound known outcome => ?_
  cases outcome
  rw [Program.pure_bind]
  cases token : (later.replays.get copy.replayId copy.organizationId copy.projectId).all
      (fun replay => replay.status = .cancelled || replay.cancelRequestedAt.isSome) with
  | true => exact stopped _ _ (outline.stopping sound known token)
  | false => exact free _ _ (outline.looked (by trivial) known)

/-! ## The parts of a run -/

section Parts

variable (outline : Outline primitives C Noted) (ambient : HandlerAmbient) (job : Job) {copy : Replay}
  {log : CommandLog controlPlane Plane} {plane : Plane}

include outline

theorem meets_exit {answer : JobResult} (exits : Exits Noted log (.ok answer) plane) :
    C.Meets (Works Noted copy) (pure answer) log plane :=
  meets_pure fun _ related _ => exits.of_rely outline related

theorem cancel_meets (stopped : Noted .stopped copy log plane) (left : copy.status ≠ .queued) :
    C.Meets (Works Noted copy) (cancel ambient copy) log plane := by
  have holds := outline.held stopped (by decide)
  unfold cancel
  split
  · rename_i asked
    refine meets_ofExcept_bind (fun cancelled moved => ?_) fun raised _ final related _ => ?_
    · have isOver : cancelled.status = .cancelled := by
        simp only [Replay.markCancelled, asked.1, reduceCtorEq, if_false, require_bind_eq_ok,
          pure_eq_ok] at moved
        rw [← moved.2]
      refine write_meets_bind outline (.markCancelled ambient.cancelledAt) holds
        asked moved (fun log after stored => meets_exit outline ?_) fun log raised later lost => ?_
      · exact ⟨_, _, stored, Or.inl (by simp [advanced, isOver]), fun _ _ _ => Or.inl isOver⟩
      · exact outline.held lost (by decide)
    · exact outline.stable holds related
  · exact meets_exit outline
      ⟨.copy, copy, holds, Or.inl left, fun _ _ _ => Or.inr (Or.inr stopped)⟩

/-- A failure is recorded on the copy in hand. -/
theorem fail_meets (error : Raised) (holds : Noted .copy copy log plane)
    (left : copy.status ≠ .queued ∨ Noted .lost copy log plane) :
    C.Meets (Exits Noted) (fail ambient job copy error) log plane := by
  have known : ∀ result later, (∀ answer, result = .ok answer → answer.status ≠ .cancelled) →
      C.rely plane later → Exits Noted log result later := by
    intro result later failing related
    refine ⟨.copy, copy, outline.stable holds related, ?_, fun answer returned reported => ?_⟩
    · exact left.imp_right fun lost => outline.stable lost related
    · exact absurd reported (failing answer returned)
  unfold fail
  split
  · refine meets_ofExcept_bind (fun failure _ => ?_) fun raised _ later related _ => ?_
    · refine meets_ofExcept_bind (fun failed moved => ?_) fun raised _ later related _ => ?_
      · have isOver : failed.status = .failed := by
          simp only [Replay.markExecutionFailed, require_bind_eq_ok, pure_eq_ok] at moved
          rw [← moved.2]
        refine write_meets_bind outline (.markExecutionFailed failure ambient.failedAt) holds
          trivial moved (fun log after stored => ?_) fun log raised later lost => ?_
        · refine meets_pure fun later related _ => Exits.of_rely outline ?_ related
          refine ⟨_, _, stored, Or.inl (by simp [advanced, isOver]), ?_⟩
          rintro _ ⟨⟩ reported
          cases reported
        · exact ⟨.lost, copy, lost, Or.inr lost, by rintro _ ⟨⟩⟩
      · exact known _ later (by rintro _ ⟨⟩) related
    · exact known _ later (by rintro _ ⟨⟩) related
  · refine meets_pure fun later related _ => known _ later ?_ related
    rintro _ ⟨⟩
    simp

theorem start_meets (holds : Noted .copy copy log plane) :
    C.Meets (fun log result plane =>
      match result with
      | .ok started => Noted .copy started log plane ∧ started.status ≠ .queued ∧ SameReplay copy started
      | .error _ => Noted .lost copy log plane) (start ambient job copy) log plane := by
  unfold start
  split
  · rename_i queued
    refine meets_ofExcept_bind (fun running moved => ?_) fun raised failed => ?_
    · have isOver : running.status = .running := by
        simp only [Replay.markRunning, requireStatus_bind_eq_ok, require_bind_eq_ok, pure_eq_ok] at moved
        rw [← moved.2.2]
      refine (write_meets outline (.markRunning _ _) holds trivial moved).mono fun log result later met => ?_
      cases result with
      | ok started =>
        obtain ⟨rfl, stored⟩ := met
        refine ⟨stored, by simp [advanced, isOver], ?_⟩
        exact advanced_same (transition_same (show transition copy (.markRunning _ _) = .ok running from moved))
      | error raised => exact met
    · -- A queued replay always starts: the attempt is at least the first.
      have attempt : 1 ≤ max job.record.attemptCount 1 := le_max_right _ _
      simp only [Replay.markRunning, Replay.requireStatus, Replay.require, if_pos queued,
        if_pos attempt] at failed
      cases failed
  · rename_i left
    refine meets_pure fun later related _ => ?_
    exact ⟨outline.stable holds related, left, .refl copy⟩

theorem reserve_meets (holds : Noted .copy copy log plane) (left : copy.status ≠ .queued) :
    C.Meets (fun log result plane =>
      match result with
      | .ok reserved => Noted .copy reserved log plane ∧ reserved.status ≠ .queued ∧
          SameReplay copy reserved
      | .error _ => Noted .copy copy log plane) (reserve ambient copy) log plane := by
  unfold reserve
  split
  · rename_i unassigned
    refine meets_ofExcept_bind (fun reserved moved => ?_) fun raised _ later related _ => ?_
    · have kept : reserved.status = copy.status := by
        simp only [Replay.reserveReplayExecutionId, require_bind_eq_ok, pure_eq_ok] at moved
        rw [← moved.2.2.2]
      refine (write_meets outline (.reserveReplayExecutionId _ _) holds unassigned moved).mono
        fun log result later met => ?_
      cases result with
      | ok stored =>
        obtain ⟨rfl, known⟩ := met
        refine ⟨known, by simpa [advanced, kept] using left, ?_⟩
        exact advanced_same (transition_same
          (show transition copy (.reserveReplayExecutionId _ _) = .ok reserved from moved))
      | error raised => exact outline.held met (by decide)
    · exact outline.stable holds related
  · refine meets_pure fun later related _ => ?_
    exact ⟨outline.stable holds related, left, .refl copy⟩

theorem complete_meets {execution : WorkflowExecution} (holds : Noted .copy copy log plane)
    (left : copy.status ≠ .queued)
    (reserved : copy.replayExecutionId = some execution.executionId)
    (distinct : execution.executionId ≠ copy.sourceExecutionId)
    (organization : execution.organizationId = copy.organizationId)
    (project : execution.projectId = copy.projectId) :
    C.Meets (Works Noted copy) (complete ambient copy execution) log plane := by
  unfold complete
  refine meets_call_bind ?_ ?_ ?_
  · intro later related sound admitted
    rw [outline.handler]
    exact (outline.saving sound (outline.stable holds related) left reserved distinct organization project
      admitted).1
  · intro later answer after related sound admitted outcome
    have saved := (outline.saving sound (outline.stable holds related) left reserved distinct organization
      project admitted).2
    rw [outline.handler] at outcome
    rw [outcome] at saved
    refine meets_ofExcept_bind (fun finished moved => ?_) fun raised _ final beyond _ => ?_
    · have isOver : finished.status = .executionCompleted := by
        simp only [Replay.markExecutionCompleted, requireStatus_bind_eq_ok, require_bind_eq_ok,
          pure_eq_ok] at moved
        rw [← moved.2.2]
      refine write_meets_bind outline (.markExecutionCompleted _) saved trivial moved
        (fun log after stored => meets_exit outline ?_) fun log raised later lost =>
          outline.held lost (by decide)
      refine ⟨_, _, stored, Or.inl (by simp [advanced, isOver]), ?_⟩
      rintro _ ⟨⟩ reported
      cases reported
    · exact outline.stable saved beyond
  · intro later exception after _ _ _ outcome
    rw [outline.handler] at outcome
    cases outcome

omit outline in
/-- The identity of a produced execution is the one reserved for it. -/
theorem producedExecution_spec {source : WorkflowExecution} {configuration : ReplayConfiguration}
    {output : AdapterOutput} {execution : WorkflowExecution}
    (produced : producedExecution copy source configuration output = .ok execution) :
    copy.replayExecutionId = some execution.executionId ∧
      execution.executionId ≠ copy.sourceExecutionId := by
  have checked : ∀ candidate : WorkflowExecution,
      (if some candidate.executionId ≠ copy.replayExecutionId then
        Except.error (⟨.replayExecutionIdentityConflict, "Adapter returned an unexpected execution ID."⟩ : Raised)
      else if candidate.executionId = copy.sourceExecutionId then
        .error ⟨.replayExecutionIdentityConflict, "Replay execution ID equals source execution ID."⟩
      else .ok candidate) = .ok execution →
      copy.replayExecutionId = some execution.executionId ∧
        execution.executionId ≠ copy.sourceExecutionId := by
    intro candidate accepted
    split at accepted
    · cases accepted
    · rename_i reserved
      split at accepted
      · cases accepted
      · rename_i distinct
        cases accepted
        exact ⟨(Decidable.not_not.mp reserved).symm, distinct⟩
  cases output with
  | execution candidate => exact checked candidate produced
  | result result => exact checked _ produced
  | unsupported => cases produced

variable {context : JobExecutionContext}

theorem invoke_meets (source : WorkflowExecution) (configuration : ReplayConfiguration)
    (adapter : ReplayExecutionAdapter) (holds : Noted .copy copy log plane) (left : copy.status ≠ .queued)
    (organization : copy.organizationId = context.organizationId) (project : copy.projectId = context.projectId) :
    C.Meets (Works Noted copy)
      (invoke ambient job context copy source configuration adapter) log plane := by
  unfold invoke
  refine isCancelled_meets_bind outline holds organization project
    (fun log later stopped => cancel_meets outline ambient stopped left) fun log later free => ?_
  refine meets_call_bind ?_ ?_ ?_
  · intro later related sound admitted
    rw [outline.handler]
    exact (outline.invoking sound (outline.stable free related) left rfl admitted).1
  · intro later answer after related sound admitted outcome
    rw [outline.handler] at outcome
    cases outcome
    have called := (outline.invoking sound (outline.stable free related) left rfl admitted).2
    split
    · refine isCancelled_meets_bind outline called organization project
        (fun log later stopped => cancel_meets outline ambient stopped left) fun log later free => ?_
      exact meets_raise fun final beyond _ => outline.stable free beyond
    · refine isCancelled_meets_bind outline called organization project
        (fun log later stopped => cancel_meets outline ambient stopped left) fun log later free => ?_
      refine meets_ofExcept_bind (fun execution produced => ?_) fun raised _ final beyond _ => ?_
      · obtain ⟨reserved, distinct⟩ := producedExecution_spec produced
        exact complete_meets outline ambient free left reserved distinct organization.symm project.symm
      · exact outline.stable free beyond
  · intro later exception after _ _ _ outcome
    rw [outline.handler] at outcome
    cases outcome

theorem produce_meets (holds : Noted .copy copy log plane) (left : copy.status ≠ .queued)
    (organization : copy.organizationId = context.organizationId) (project : copy.projectId = context.projectId) :
    C.Meets (Works Noted copy) (produce ambient job context copy) log plane := by
  unfold produce
  refine lookup_meets_bind outline (by trivial) holds fun later source _ known _ => ?_
  have kept : Noted .copy copy (log ++ [(later, .getWorkflowExecution copy.sourceExecutionId
      context.organizationId context.projectId)]) later := outline.looked (by trivial) known
  have raising : ∀ raised : Raised, C.Meets (Works Noted copy) (Program.raise raised) _ later :=
    fun raised => meets_raise fun final beyond _ => outline.stable kept beyond
  split
  · exact raising _
  · exact raising _
  · split
    · exact raising _
    · split
      · exact raising _
      · exact invoke_meets outline ambient job _ _ _ kept left organization project

theorem execute_meets (holds : Noted .copy copy log plane) (organization : copy.organizationId = context.organizationId)
    (project : copy.projectId = context.projectId) :
    C.Meets (Exits Noted) (ReplayJobHandler.execute ambient job context copy) log plane := by
  unfold ReplayJobHandler.execute
  refine meets_bind (meets_caught ((start_meets outline ambient job holds).mono ?_))
  intro log result plane startedWith
  cases result with
  | error raised =>
    exact fail_meets outline ambient job raised (outline.held startedWith (by decide)) (Or.inr startedWith)
  | ok started =>
    obtain ⟨known, left, same⟩ := startedWith
    refine meets_bind (meets_caught ((reserve_meets outline ambient known left).mono ?_))
    intro log result plane reservedWith
    cases result with
    | error raised => exact fail_meets outline ambient job raised reservedWith (Or.inl left)
    | ok reserved =>
      obtain ⟨reservedKnown, reservedLeft, reservedSame⟩ := reservedWith
      have both := same.trans reservedSame
      refine meets_bind (meets_caught ((produce_meets outline ambient job reservedKnown
        reservedLeft (both.organizationId.trans organization)
        (both.projectId.trans project)).mono ?_))
      intro log result plane works
      cases result with
      | error raised => exact fail_meets outline ambient job raised works (Or.inl reservedLeft)
      | ok answer => exact meets_pure fun later related _ => works.of_rely outline related

end Parts

/-- The run of a job: what it knows of the replay it finds, and what holds where it ends. -/
theorem handle_meets (outline : Outline primitives C Noted) (ambient : HandlerAmbient) (job : Job)
    {post : CommandLog controlPlane Plane → Except Raised JobResult → Plane → Prop}
    (found : ∀ later replayId context replay, C.rely plane later → C.sound later →
      jobContext job = .ok context → jobReplayId primitives job = .ok replayId →
      later.replays.get replayId context.organizationId context.projectId = some replay →
      replay.jobId = some job.record.jobId →
      Noted .copy replay (log ++ [(later, .getReplay replayId context.organizationId context.projectId)])
        later) (exits : ∀ log result plane, Exits Noted log result plane → post log result plane)
    (unscoped : ∀ raised later, jobContext job = .error raised ∨ jobReplayId primitives job = .error raised →
      C.rely plane later → C.sound later → post log (.error raised) later)
    (unlinked : ∀ later final replayId context, C.rely plane later → C.sound later →
      jobContext job = .ok context → jobReplayId primitives job = .ok replayId →
      (∀ replay, later.replays.get replayId context.organizationId context.projectId = some replay →
        replay.jobId ≠ some job.record.jobId) → C.rely later final → C.sound final →
      post (log ++ [(later, .getReplay replayId context.organizationId context.projectId)])
        (.ok ⟨.failed, none, some "Replay job linkage is invalid."⟩) final) :
    C.Meets post (handle primitives ambient job) log plane := by
  unfold handle
  refine meets_ofExcept_bind (fun context tenant => ?_) fun raised failed later related sound =>
    unscoped raised later (Or.inl failed) related sound
  refine meets_ofExcept_bind (fun replayId named => ?_) fun raised failed later related sound =>
    unscoped raised later (Or.inr failed) related sound
  refine meets_call_bind ?_ ?_ ?_
  · intro later _ sound _
    rw [outline.handler]
    exact outline.looking (by trivial) sound
  · intro later answer after related sound _ outcome
    rw [outline.handler] at outcome
    cases outcome
    have missing := fun final => unlinked later final replayId context related sound tenant named
    split
    · rename_i none
      refine meets_pure fun final beyond finalSound => missing final ?_ beyond finalSound
      intro replay some
      rw [none] at some
      cases some
    · rename_i replay some
      split
      · rename_i other
        refine meets_pure fun final beyond finalSound => missing final ?_ beyond finalSound
        intro candidate found
        rw [some] at found
        cases found
        exact other
      · rename_i linked
        have known := found later replayId context replay related sound tenant named some
          (Decidable.not_not.mp linked)
        have early : ∀ answer : JobResult, replay.status ≠ .queued →
            (answer.status = .cancelled → replay.status = .cancelled ∨ replay.status = .archived) →
            C.Meets post (pure answer)
              (log ++ [(later, .getReplay replayId context.organizationId context.projectId)]) later := by
          intro answer left reported
          refine meets_pure fun final beyond _ => exits _ _ _ ?_
          refine ⟨.copy, replay, outline.stable known beyond, Or.inl left, ?_⟩
          rintro _ ⟨⟩ cancelled
          exact (reported cancelled).imp_right Or.inl
        split
        · rename_i completed
          refine early _ (fun queued => ?_) (by simp)
          rw [queued] at completed
          exact absurd completed.1 (by simp)
        · split
          · rename_i isOver
            refine early _ (fun queued => ?_) fun _ => isOver
            rw [queued] at isOver
            exact absurd isOver (by simp)
          · obtain ⟨organization, project⟩ := ReplayStore.tenant_of_get some
            exact (execute_meets outline ambient job known organization project).mono exits
  · intro later exception after _ _ _ outcome
    rw [outline.handler] at outcome
    cases outcome

end Outline

end AiGovernance.Replays
