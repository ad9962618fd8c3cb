import AiGovernance.Lifecycle.Ingestion
import AiGovernance.Services.Footprints

/-!
# The lifecycle of workflow steps

What a stream of workflow steps must look like, and that the transition check
of `ingest_event` admits exactly the steps that keep it so, as long as the
listing it reads shows the steps it asks about. The listing stops at 200
events: past that, a step can start twice and a started step cannot end.
-/

namespace AiGovernance.Lifecycle

open AiGovernance.Std Domain Repositories List
open Semantics Services Program

/-! ## Lawful streams -/

/-- The lifecycles of one step in a stream, in order. -/
def trail (steps : List WorkflowStep) (stepId : String) : List WorkflowStepLifecycle :=
  (steps.filter (·.record.stepId = stepId)).map (·.record.lifecycle)

/-- The trails a step may leave: nothing, one start, or one start and one end. -/
def lawfulTrails : List (List WorkflowStepLifecycle) :=
  [[], [.started], [.started, .completed], [.started, .failed]]

/-- A lawful stream: every step starts once before it ends at most once, and every parent
is a step that occurred earlier. -/
structure Lawful (steps : List WorkflowStep) : Prop where
  lifecycle : ∀ stepId, trail steps stepId ∈ lawfulTrails
  parents : ∀ {earlier step later parent}, steps = earlier ++ step :: later →
    step.record.parentStepId = some parent → parent ∈ earlier.map (·.record.stepId)

variable {prior other : List WorkflowStep} {step : WorkflowStep}

theorem lawful_nil : Lawful [] where
  lifecycle := fun _ => by simp [trail, lawfulTrails]
  parents := by
    intro earlier step later parent split
    simp at split

theorem trail_append (stepId : String) :
    trail (prior ++ [step]) stepId =
      if stepId = step.record.stepId then trail prior stepId ++ [step.record.lifecycle]
      else trail prior stepId := by
  unfold trail
  split
  · rename_i here
    simp [here]
  · rename_i elsewhere
    simp [Ne.symm elsewhere]

/-- A stream stays lawful exactly when the new step extends its own trail lawfully and its
parent occurred. -/
theorem lawful_append_iff (lawful : Lawful prior) :
    Lawful (prior ++ [step]) ↔
      trail prior step.record.stepId ++ [step.record.lifecycle] ∈ lawfulTrails ∧
        ∀ parent, step.record.parentStepId = some parent →
          parent ∈ prior.map (·.record.stepId) := by
  constructor
  · intro longer
    refine ⟨?_, fun parent named => longer.parents rfl named⟩
    have own := longer.lifecycle step.record.stepId
    rw [trail_append, if_pos rfl] at own
    exact own
  · rintro ⟨own, parents⟩
    constructor
    · intro stepId
      rw [trail_append]
      split
      · rename_i here
        rw [here]
        exact own
      · exact lawful.lifecycle stepId
    · intro earlier last later parent split named
      rcases eq_nil_or_concat later with rfl | ⟨rest, final, rfl⟩
      · obtain ⟨rfl, same⟩ := append_inj' split rfl
        obtain rfl := singleton_inj.mp same
        exact parents parent named
      · rw [concat_eq_append, ← cons_append, ← append_assoc] at split
        obtain ⟨same, -⟩ := append_inj' split rfl
        exact lawful.parents same named

theorem mem_trail {stepId : String} {lifecycle : WorkflowStepLifecycle} :
    lifecycle ∈ trail prior stepId ↔
      ∃ earlier ∈ prior, earlier.record.stepId = stepId ∧ earlier.record.lifecycle = lifecycle := by
  simp [trail, and_assoc]

/-- What the transition check asks of the steps it reads. -/
theorem checkWorkflowStep_ok_iff :
    checkWorkflowStep prior step = .ok () ↔
      (∀ parent, step.record.parentStepId = some parent → parent ∈ prior.map (·.record.stepId)) ∧
        (step.record.lifecycle = .started → trail prior step.record.stepId = []) ∧
        (step.record.lifecycle ≠ .started →
          .started ∈ trail prior step.record.stepId ∧
            ∀ lifecycle ∈ trail prior step.record.stepId, lifecycle = .started) := by
  have noTrail : prior.filter (·.record.stepId = step.record.stepId) = [] ↔
      trail prior step.record.stepId = [] := by
    rw [trail, map_eq_nil_iff]
  have unstarted : (prior.filter (·.record.stepId = step.record.stepId)).all
      (·.record.lifecycle ≠ .started) = true ↔ .started ∉ trail prior step.record.stepId := by
    simp only [all_eq_true, mem_filter, decide_eq_true_eq, ne_eq, mem_trail, not_exists,
      not_and, and_imp]
  have ended : (prior.filter (·.record.stepId = step.record.stepId)).any
      (·.record.lifecycle ≠ .started) = true ↔
        ∃ lifecycle ∈ trail prior step.record.stepId, lifecycle ≠ .started := by
    simp [trail, and_assoc]
  simp only [checkWorkflowStep]
  split
  · rename_i missing
    obtain ⟨parent, named, absent⟩ := (Option.any_eq_true _ _).mp missing
    simp only [reduceCtorEq, false_iff]
    rintro ⟨parents, -⟩
    exact (of_decide_eq_true absent) (parents parent named)
  · rename_i present
    have parents : ∀ parent, step.record.parentStepId = some parent →
        parent ∈ prior.map (·.record.stepId) := by
      intro parent named
      by_contra absent
      exact present (by rw [named]; exact decide_eq_true absent)
    split
    · rename_i starting
      split
      · rename_i seen
        simp only [reduceCtorEq, false_iff]
        rintro ⟨-, fresh, -⟩
        exact seen (noTrail.mpr (fresh starting))
      · rename_i unseen
        rw [Decidable.not_not] at unseen
        simp only [true_iff]
        exact ⟨parents, fun _ => noTrail.mp unseen, fun other => absurd starting other⟩
    · rename_i ending
      split
      · rename_i never
        simp only [reduceCtorEq, false_iff]
        rintro ⟨-, -, both⟩
        exact unstarted.mp never (both ending).1
      · rename_i begun
        rw [unstarted, Decidable.not_not] at begun
        split
        · rename_i finished
          obtain ⟨lifecycle, left, terminal⟩ := ended.mp finished
          simp only [reduceCtorEq, false_iff]
          rintro ⟨-, -, both⟩
          exact terminal ((both ending).2 lifecycle left)
        · rename_i open_
          simp only [true_iff]
          refine ⟨parents, fun starting => absurd starting ending, fun _ => ⟨begun, ?_⟩⟩
          intro lifecycle left
          by_contra terminal
          exact open_ (ended.mpr ⟨lifecycle, left, terminal⟩)

/-- Over a lawful stream, the check admits exactly the steps that keep it lawful. -/
theorem checkWorkflowStep_lawful (lawful : Lawful prior) :
    checkWorkflowStep prior step = .ok () ↔ Lawful (prior ++ [step]) := by
  rw [checkWorkflowStep_ok_iff, lawful_append_iff lawful, and_comm]
  refine and_congr_left fun _ => ?_
  have own := lawful.lifecycle step.record.stepId
  simp only [lawfulTrails, mem_cons, not_mem_nil, or_false] at own ⊢
  cases step.record.lifecycle <;> rcases own with trail | trail | trail | trail <;> simp [trail]

/-- The check depends only on the steps it asks about: those with the identifier of the new
step or of its parent. -/
theorem checkWorkflowStep_congr
    (agree : ∀ earlier, (earlier.record.stepId = step.record.stepId ∨
      step.record.parentStepId = some earlier.record.stepId) → (earlier ∈ prior ↔ earlier ∈ other)) :
    checkWorkflowStep prior step = .ok () ↔ checkWorkflowStep other step = .ok () := by
  have trails : ∀ lifecycle, lifecycle ∈ trail prior step.record.stepId ↔
      lifecycle ∈ trail other step.record.stepId := by
    intro lifecycle
    simp only [mem_trail]
    refine exists_congr fun earlier => ?_
    constructor
    · rintro ⟨member, same, rest⟩
      exact ⟨(agree earlier (Or.inl same)).mp member, same, rest⟩
    · rintro ⟨member, same, rest⟩
      exact ⟨(agree earlier (Or.inl same)).mpr member, same, rest⟩
  have parents : ∀ parent, step.record.parentStepId = some parent →
      (parent ∈ prior.map (·.record.stepId) ↔ parent ∈ other.map (·.record.stepId)) := by
    intro parent named
    simp only [mem_map]
    refine exists_congr fun earlier => ?_
    constructor
    · rintro ⟨member, rfl⟩
      exact ⟨(agree earlier (Or.inr named)).mp member, rfl⟩
    · rintro ⟨member, rfl⟩
      exact ⟨(agree earlier (Or.inr named)).mpr member, rfl⟩
  rw [checkWorkflowStep_ok_iff, checkWorkflowStep_ok_iff]
  simp only [eq_nil_iff_forall_not_mem, trails]
  exact and_congr_left fun _ => forall_congr' fun parent => imp_congr_right (parents parent)

/-! ## Accepted streams -/

/-- The events of an execution that a served call appended. -/
def appended (executionId : String) (entry : Platform.Entry) : List AgentExecutionEvent :=
  (entry.after.events.tables.ofExecution executionId).filter
    (· ∉ entry.before.events.tables.ofExecution executionId)

/-- The accepted workflow steps of an execution, in the order of their acceptance. -/
def acceptedSteps (executionId : String) (entries : List Platform.Entry) : List WorkflowStep :=
  priorSteps (entries.flatMap (appended executionId))

/-- When a workflow step is submitted, every stored step with its identifier or its parent's
is among the events the transition check lists. -/
def StepsListed (stores : Stores) : Call → Prop
  | .ingestEvent submission context _ =>
    submission.eventType = .workflowStep → ∀ step, submission.workflowStep = some step →
      ∀ event ∈ stores.events.tables.ofExecution submission.executionId, ∀ earlier,
        event.record.workflowStep = some earlier →
        earlier.record.stepId = step.record.stepId ∨
          step.record.parentStepId = some earlier.record.stepId →
        event ∈ stores.events.listByExecution submission.executionId context.scope none
  | _ => True

theorem mem_priorSteps {events : List AgentExecutionEvent} :
    step ∈ priorSteps events ↔
      ∃ event ∈ events, event.record.eventType = .workflowStep ∧ event.record.workflowStep = some step := by
  simp only [priorSteps, mem_filterMap]
  refine exists_congr fun event => and_congr_right fun _ => ?_
  split
  · simp [*]
  · simp [*]

theorem acceptedSteps_append (executionId : String) (entries : List Platform.Entry)
    (entry : Platform.Entry) :
    acceptedSteps executionId (entries ++ [entry]) =
      acceptedSteps executionId entries ++ priorSteps (appended executionId entry) := by
  simp [acceptedSteps, priorSteps]

variable {entry : Platform.Entry}

/-- Whatever a call appends is stored, and nothing else is new. -/
theorem mem_priorSteps_after {executionId : String}
    (extended : EventStore.Extends entry.before.events entry.after.events) :
    step ∈ priorSteps (entry.after.events.tables.ofExecution executionId) ↔
      step ∈ priorSteps (entry.before.events.tables.ofExecution executionId) ∨
        step ∈ priorSteps (appended executionId entry) := by
  simp only [mem_priorSteps, appended, mem_filter, decide_eq_true_eq]
  constructor
  · rintro ⟨event, member, typed⟩
    by_cases old : event ∈ entry.before.events.tables.ofExecution executionId
    · exact Or.inl ⟨event, old, typed⟩
    · exact Or.inr ⟨event, ⟨member, old⟩, typed⟩
  · rintro (⟨event, member, typed⟩ | ⟨event, ⟨member, -⟩, typed⟩)
    · exact ⟨event, extended.ofExecution member, typed⟩
    · exact ⟨event, member, typed⟩

variable {event : AgentExecutionEvent}

/-- One inserted event is all that is appended. -/
theorem appended_insert {executionId : String} {events : EventStore} {idempotencyKey : Option String}
    (absent : events.tables.byId.get? event.record.eventId = none) (before : entry.before.events = events)
    (after : entry.after.events = events.insert event idempotencyKey absent) :
    appended executionId entry = if executionId = event.record.executionId then [event] else [] := by
  have unseen : event ∉ events.tables.ofExecution executionId := by
    rw [events.coherent.listed, absent]
    rintro ⟨impossible, -⟩
    cases impossible
  unfold appended
  rw [before, after]
  simp only [EventStore.insert, EventTables.ofExecution_insert events.coherent absent]
  split
  · refine perm_singleton.mp (((perm_insertionSort _ _).filter _).trans ?_)
    rw [filter_append, filter_eq_nil_iff.mpr (by simp)]
    simp [unseen]
  · exact filter_eq_nil_iff.mpr (by simp)

variable {platform : Platform} {entries : List Platform.Entry} {stores : Stores}

/-- What the event store owes to the accepted streams. -/
private structure Streams (entries : List Platform.Entry) (events : EventStore) : Prop where
  stored : ∀ executionId step, step ∈ acceptedSteps executionId entries ↔
    step ∈ priorSteps (events.tables.ofExecution executionId)
  lawful : ∀ executionId, Lawful (acceptedSteps executionId entries)

variable {submission : EventSubmission} {context : TenantContext}

/-- Where the listing shows the steps asked about, the check decides over the stream. -/
theorem Streams.check_iff {ambient : Ambient} (streams : Streams entries stores.events)
    (listed : StepsListed stores (.ingestEvent submission context ambient))
    (typed : submission.eventType = .workflowStep) (carried : submission.workflowStep = some step) :
    checkWorkflowStep
        (priorSteps (stores.events.listByExecution submission.executionId context.scope none)) step =
          .ok () ↔
      Lawful (acceptedSteps submission.executionId entries ++ [step]) := by
  rw [← checkWorkflowStep_lawful (streams.lawful submission.executionId)]
  refine checkWorkflowStep_congr fun earlier asked => ?_
  rw [streams.stored, mem_priorSteps, mem_priorSteps]
  constructor
  · rintro ⟨event, member, rest⟩
    exact ⟨event, (mem_filter.mp (mem_of_mem_take member)).1, rest⟩
  · rintro ⟨event, member, eventTyped, carries⟩
    exact ⟨event, listed typed step carried event member earlier carries asked, eventTyped, carries⟩

theorem priorSteps_eq_nil {events : List AgentExecutionEvent}
    (other : ∀ event ∈ events, event.record.eventType ≠ .workflowStep) : priorSteps events = [] := by
  refine eq_nil_iff_forall_not_mem.mpr fun step member => ?_
  obtain ⟨event, present, typed, -⟩ := mem_priorSteps.mp member
  exact other event present typed

/-- Storing an accepted submission keeps the stream lawful. -/
theorem Streams.accepted {ambient : Ambient} (streams : Streams entries stores.events)
    (listed : StepsListed stores (.ingestEvent submission context ambient)) (before : entry.before = stores)
    (accepted : Accepted stores submission context ambient event entry.after) (executionId : String) :
    Lawful (acceptedSteps executionId entries ++ priorSteps (appended executionId entry)) := by
  obtain ⟨nothing, after⟩ := accepted.stored
  rw [appended_insert (EventTables.precheck_eq_none nothing).1 (congrArg Stores.events before)
    (congrArg Stores.events after)]
  split
  · rename_i here
    rw [here, accepted.executionId]
    have carried : event.record.workflowStep = submission.workflowStep := by
      obtain ⟨execution, -, -, record⟩ := accepted.record
      rw [record]
      rfl
    have admitted := accepted.step
    unfold StepAdmitted at admitted
    split at admitted
    · rw [priorSteps_eq_nil (by simpa [accepted.eventType] using admitted), append_nil]
      exact streams.lawful _
    · rename_i step found
      obtain ⟨typed, checked⟩ := admitted
      have single : priorSteps [event] = [step] := by
        simp [priorSteps, accepted.eventType, typed, carried, found]
      rw [single]
      exact (streams.check_iff listed typed found).mp checked
  · simp only [priorSteps, filterMap_nil, append_nil]
    exact streams.lawful _

private theorem Streams.serve (streams : Streams entries stores.events) {call : Call}
    (listed : StepsListed stores call) :
    Streams (entries ++ [platform.serve stores call])
      (platform.serve stores call).after.events := by
  have extended := serve_extends platform stores call
  refine ⟨fun executionId step => ?_, fun executionId => ?_⟩
  · rw [acceptedSteps_append, mem_append, streams.stored, mem_priorSteps_after extended]
    rfl
  · rw [acceptedSteps_append]
    have quiet : (∀ event ∈ appended executionId (platform.serve stores call),
        event.record.eventType ≠ .workflowStep) →
        Lawful (acceptedSteps executionId entries ++
          priorSteps (appended executionId (platform.serve stores call))) := by
      intro other
      rw [priorSteps_eq_nil other, append_nil]
      exact streams.lawful executionId
    cases call with
    | ingestEvent submission context ambient =>
      rcases ingestEvent_ensures platform.primitives stores submission context ambient with
        same | ⟨event, -, accepted⟩
      · refine quiet fun event member => ?_
        rw [platform.serve_of_operation rfl] at member
        simp only [appended, mem_filter, decide_eq_true_eq, same] at member
        exact absurd member.1 member.2
      · have stored : Accepted stores submission context ambient event
            (platform.serve stores (.ingestEvent submission context ambient)).after := by
          rw [platform.serve_of_operation rfl]
          exact accepted
        exact streams.accepted listed rfl stored executionId
    | _ =>
      refine quiet fun event member typed => ?_
      simp only [appended, mem_filter, decide_eq_true_eq] at member
      rcases (serve_newEventsOf platform stores _).listed member.1 with old | stored
      · exact member.2 old
      · rw [typed] at stored
        cases stored

theorem streams_of_history (history : platform.History StepsListed entries stores) :
    Streams entries stores.events := by
  induction history with
  | start => exact ⟨fun _ _ => by simp [acceptedSteps, priorSteps, Stores.empty, EventStore.empty,
      EventTables.empty, EventTables.ofExecution], fun _ => lawful_nil⟩
  | administer policies _ ih => exact ih
  | serve call listed _ ih => exact ih.serve listed

/-! ## Rejections -/

/-- A rejection of the step for its lifecycle or its parent. -/
def LifecycleRejection (step : WorkflowStep) (raised : Raised) : Prop :=
  ∃ prior, checkWorkflowStep prior step = .error raised

/-- What tells the other rejections of `ingest_event` from those of the transition check:
their class, or the message about a terminal execution. -/
private def Unrelated (raised : Raised) : Prop :=
  raised.kind ≠ .agentExecutionInvalidTransition ∨ raised.message.toList.head? = some 'C'

theorem not_lifecycleRejection {raised : Raised} (unrelated : Unrelated raised) :
    ¬ LifecycleRejection step raised := by
  have told : ∀ message : String, message.toList.head? = some 'p' ∨ message.toList.head? = some 'W' →
      ¬ Unrelated (invalidTransition message) := by
    rintro message head (class_ | start)
    · exact class_ rfl
    · rw [show (invalidTransition message).message = message from rfl] at start
      rw [start] at head
      simp at head
  rintro ⟨prior, rejected⟩
  simp only [checkWorkflowStep] at rejected
  split at rejected
  · cases rejected
    exact told _ (Or.inl (by decide)) unrelated
  · split at rejected
    · split at rejected
      · cases rejected
        exact told _ (Or.inr (by simp)) unrelated
      · cases rejected
    · split at rejected
      · cases rejected
        exact told _ (Or.inr (by simp)) unrelated
      · split at rejected
        · cases rejected
          exact told _ (Or.inr (by simp)) unrelated
        · cases rejected

theorem storeSubmission_unrelated (primitives : Primitives) (ambient : Ambient) {execution : AgentExecution}
    (typed : submission.eventType = .workflowStep) (carried : submission.workflowStep = some step)
    (checked : checkWorkflowStep
      (priorSteps (stores.events.listByExecution submission.executionId context.scope none)) step =
        .ok ()) :
    (storeSubmission submission context.scope ambient execution).Ensures (inMemory primitives) stores
      (fun result _ => ∀ raised, result = .error raised → Unrelated raised) := by
  refine ensures_bind.mpr ?_
  unfold validateWorkflowStepTransition
  rw [if_neg (not_not.mpr typed), carried]
  refine ensures_read_bind rfl ?_
  rw [checked, ofExcept_ok, ensures_done]
  refine ensures_read_bind rfl ?_
  refine ensures_ofExcept_bind (fun event _ => ?_) fun raised failed => ?_
  · refine ensures_call.mpr fun raised failed => Or.inl ?_
    rcases stores.events.save_cases event submission.idempotencyKey with
      ⟨_, saved, refused⟩ | ⟨_, saved, -⟩ | ⟨_, saved, -⟩
    · simp only [inMemory, saved] at failed
      cases failed
      rcases EventTables.precheck_error_kind refused with kind | kind <;> simp [kind]
    · simp only [inMemory, saved] at failed
      cases failed
    · simp only [inMemory, saved] at failed
      cases failed
  · rintro _ ⟨⟩
    refine Or.inl ?_
    rw [AgentExecutionEventRecord.violation_kind (Checked.create_eq_error_iff.mp failed)]
    intro impossible
    cases impossible

/-- A step that passes the check is not rejected for its lifecycle or its parent. -/
theorem ingestEvent_unrelated (primitives : Primitives) (ambient : Ambient)
    (typed : submission.eventType = .workflowStep) (carried : submission.workflowStep = some step)
    (checked : checkWorkflowStep
      (priorSteps (stores.events.listByExecution submission.executionId context.scope none)) step =
        .ok ()) :
    (ingestEvent submission context ambient).Ensures (inMemory primitives) stores
      (fun result _ => ∀ raised, result = .error raised → Unrelated raised) := by
  have other : ∀ {kind : ErrorKind} {message : String} {β : Type},
      kind ≠ .agentExecutionInvalidTransition →
      ∀ raised, (Except.error (⟨kind, message⟩ : Raised) : Except Raised β) = .error raised →
        Unrelated raised := by
    rintro kind message β different _ ⟨⟩
    exact Or.inl different
  unfold ingestEvent enforce
  split
  · rw [done_bind, if_neg (by rw [typed]; exact nofun)]
    refine ensures_read_bind rfl ?_
    split
    · exact other nofun
    · split
      · rintro _ ⟨⟩
        exact Or.inr (by simp [invalidTransition])
      · split
        · exact storeSubmission_unrelated primitives ambient typed carried checked
        · refine ensures_read_bind rfl ?_
          split
          · refine ensures_ofExcept.mpr fun raised refused => ?_
            unfold redeliver at refused
            split at refused
            · cases refused
            · cases refused
              exact Or.inl nofun
          · exact storeSubmission_unrelated primitives ambient typed carried checked
  · exact other nofun

/-- In every history whose listings show the steps asked about, the accepted steps of every
execution form a lawful stream, and a submitted step that keeps the stream lawful is never
rejected for its lifecycle or its parent. -/
theorem workflowSteps_lawful (history : platform.History StepsListed entries stores) :
    (∀ executionId, Lawful (acceptedSteps executionId entries)) ∧
      ∀ {earlier later entry submission context ambient step raised},
        entries = earlier ++ entry :: later →
        entry.call = .ingestEvent submission context ambient →
        submission.eventType = .workflowStep → submission.workflowStep = some step →
        Lawful (acceptedSteps submission.executionId earlier ++ [step]) →
        entry.result = .error raised → ¬ LifecycleRejection step raised := by
  refine ⟨(streams_of_history history).lawful, ?_⟩
  intro earlier later entry submission context ambient step raised split called typed carried keeps
    rejected
  obtain ⟨before, prior, listed, served⟩ := history.entry split
  rw [called] at listed served
  have checked := ((streams_of_history prior).check_iff listed typed carried).mpr keeps
  rw [served] at rejected
  exact not_lifecycleRejection (ingestEvent_unrelated platform.primitives ambient typed carried
    checked raised (platform.raised_of_operation rfl rejected))

/-! ## A short run and a crowded one -/

/-- The start of one step, reported under an event identifier. -/
def stepStarts : WorkflowStep :=
  ⟨{ stepId := "triage"
     stepName := "Triage"
     lifecycle := .started
     parentStepId := none
     sourceKind := none }, by decide⟩

/-- The submission that reports it. -/
def stepSubmission : EventSubmission where
  executionId := "exec-1"
  eventType := .workflowStep
  attributes := []
  workflowStep := some stepStarts

/-- The call that submits it. -/
def stepCall (eventId : String) : Call :=
  .ingestEvent stepSubmission ⟨claimsScope, "agent-1", none⟩ (claimsAmbient eventId)

theorem runningStores_plain :
    ∀ event ∈ runningStores.events.tables.ofExecution "exec-1", event.record.workflowStep = none := by
  decide +kernel

/-- In a short run the started step is the whole stream. -/
theorem workflowSteps_lawful_short_run :
    ∃ entries stores, claimsPlatform.History StepsListed entries stores ∧
      acceptedSteps "exec-1" entries = [stepStarts] ∧ Lawful (acceptedSteps "exec-1" entries) := by
  have listed : StepsListed runningStores (stepCall "event-2") := by
    intro _ step _ event member earlier carries
    rw [runningStores_plain event member] at carries
    cases carries
  have history : claimsPlatform.History StepsListed _ _ :=
    .serve (stepCall "event-2") listed (.serve startCall trivial .start)
  refine ⟨_, _, history, ?_, (workflowSteps_lawful history).1 "exec-1"⟩
  decide +kernel

/-- The identifier of the nth model call. -/
def reportId (n : Nat) : String := String.ofList (List.replicate (n + 1) 'r')

/-- A model call without anything to report. -/
def reportSubmission : EventSubmission where
  executionId := "exec-1"
  eventType := .modelCall
  attributes := []

/-- The nth model call. -/
def report (n : Nat) : Call :=
  .ingestEvent reportSubmission ⟨claimsScope, "agent-1", none⟩ (claimsAmbient (reportId n))

/-- The stores after n model calls. -/
def crowdedStores : Nat → Stores
  | 0 => runningStores
  | n + 1 => (claimsPlatform.serve (crowdedStores n) (report n)).after

/-- The history of n model calls. -/
def crowdedEntries : Nat → List Platform.Entry
  | 0 => [claimsPlatform.serve .empty startCall]
  | n + 1 => crowdedEntries n ++ [claimsPlatform.serve (crowdedStores n) (report n)]

theorem crowded_history (n : Nat) :
    claimsPlatform.History (fun _ _ => True) (crowdedEntries n) (crowdedStores n) := by
  induction n with
  | zero => exact .serve startCall trivial .start
  | succ n ih => exact .serve (report n) trivial ih

/-- The run is open, and n events without steps were stored after its start. -/
private structure Crowded (n : Nat) (stores : Stores) : Prop where
  running : ∃ execution, stores.executions.get "exec-1" claimsScope = some execution ∧
    AgentExecution.isTerminal execution = false
  count : (stores.events.tables.ofExecution "exec-1").length = n + 1
  seen : ∀ event ∈ stores.events.tables.ofExecution "exec-1",
    claimsScope.sees event.record.organizationId event.record.projectId = true
  plain : ∀ event ∈ stores.events.tables.ofExecution "exec-1", event.record.workflowStep = none
  known : ∀ {eventId event}, stores.events.tables.byId.get? eventId = some event →
    eventId = "event-1" ∨ ∃ k < n, eventId = reportId k

variable {n : Nat}

theorem reportId_injective {k : Nat} (same : reportId k = reportId n) : k = n := by
  have lengths := congrArg (fun text => text.toList.length) same
  simpa [reportId] using lengths

theorem reportId_ne {text : String} (head : text.toList.head? ≠ some 'r') : text ≠ reportId n := by
  rintro rfl
  simp [reportId, replicate_succ] at head

theorem crowded_start : Crowded 0 runningStores where
  running := by
    have open_ : (runningStores.executions.get "exec-1" claimsScope).any
        (fun execution => !AgentExecution.isTerminal execution) = true := by
      decide +kernel
    obtain ⟨execution, present, active⟩ := (Option.any_eq_true _ _).mp open_
    exact ⟨execution, present, by simpa using active⟩
  count := by decide +kernel
  seen := by decide +kernel
  plain := runningStores_plain
  known := by
    intro eventId event found
    have only : ∀ event ∈ runningStores.events.tables.byId.values,
        event.record.eventId = "event-1" := by
      decide +kernel
    rw [← runningStores.events.coherent.keyed found]
    exact Or.inl (only event ((Dict.mem_values_iff _ _).mpr ⟨eventId, found⟩))

variable {eventId : String}

theorem submittedEvent_valid (chosen : submission = reportSubmission ∨ submission = stepSubmission)
    (named : Text.isBlank eventId = false) (execution : AgentExecution) (sequenceNumber : Nat) :
    (submittedEvent submission claimsScope (claimsAmbient eventId) execution
      sequenceNumber).violation = none := by
  rcases chosen with rfl | rfl
  · simp only [AgentExecutionEventRecord.violation, submittedEvent, reportSubmission]
    simp [requireText, requireProject, claimsAmbient, claimsScope, named]
    exact ⟨by decide, by decide, by decide, by simp [Instant.lt_def]⟩
  · simp only [AgentExecutionEventRecord.violation, submittedEvent, stepSubmission]
    simp [requireText, requireProject, claimsAmbient, claimsScope, named]
    exact ⟨by decide, by decide, by decide, by simp [Instant.lt_def]⟩

/-- What storing one of the submissions leaves. -/
private structure StoredLast (stores after : Stores) (submission : EventSubmission)
    (eventId : String) (event : AgentExecutionEvent) : Prop where
  identity : event.record.eventId = eventId
  execution : event.record.executionId = "exec-1"
  typed : event.record.eventType = submission.eventType
  carried : event.record.workflowStep = submission.workflowStep
  seen : claimsScope.sees event.record.organizationId event.record.projectId = true
  stored : ∃ absent : stores.events.tables.byId.get? event.record.eventId = none,
    after = { stores with events := stores.events.insert event none absent }
  last : after.events.tables.ofExecution "exec-1" =
    stores.events.tables.ofExecution "exec-1" ++ [event]

theorem stored_last (running : ∃ execution, stores.executions.get "exec-1" claimsScope = some execution ∧
      AgentExecution.isTerminal execution = false) (seen : ∀ event ∈ stores.events.tables.ofExecution "exec-1",
      claimsScope.sees event.record.organizationId event.record.projectId = true)
    (chosen : submission = reportSubmission ∨ submission = stepSubmission) (named : Text.isBlank eventId = false)
    (absent : stores.events.tables.byId.get? eventId = none) (admitted : StepAdmitted stores submission claimsScope) :
    ∃ event, StoredLast stores (claimsPlatform.serve stores (.ingestEvent submission
      ⟨claimsScope, "agent-1", none⟩ (claimsAmbient eventId))).after submission eventId event := by
  obtain ⟨execution, found, active⟩ := running
  have facts : submission.executionId = "exec-1" ∧ submission.idempotencyKey = none ∧
      submission.toolCallContext = none ∧ submission.eventType ≠ .runtimeActionExecutionReceipt := by
    rcases chosen with rfl | rfl
    · exact ⟨rfl, rfl, rfl, nofun⟩
    · exact ⟨rfl, rfl, rfl, nofun⟩
  obtain ⟨here, unkeyed, noTool, plain⟩ := facts
  have present : stores.executions.get submission.executionId claimsScope = some execution := by
    rw [here]
    exact found
  obtain ⟨event, record⟩ : ∃ event : AgentExecutionEvent,
      event.record = submittedEvent submission claimsScope (claimsAmbient eventId) execution
        (stores.events.maxSequenceNumber submission.executionId claimsScope + 1) :=
    ⟨⟨_, submittedEvent_valid chosen named execution _⟩, rfl⟩
  have identity : event.record.eventId = eventId := by
    rw [record]
    rfl
  have inRun : event.record.executionId = "exec-1" := by
    rw [record]
    exact here
  have free : stores.events.tables.byId.get? event.record.eventId = none := by
    rw [identity]
    exact absent
  have ran : (ingestEvent submission ⟨claimsScope, "agent-1", none⟩ (claimsAmbient eventId)).run
      (inMemory claimsPlatform.primitives) stores =
        (.ok event, { stores with events := stores.events.insert event none free }) :=
    ingestEvent_accepts claimsPlatform.primitives ⟨claimsScope, "agent-1", none⟩
      (claimsAmbient eventId) rfl plain present active unkeyed noTool admitted record free
  refine ⟨event, identity, inRun, by rw [record]; rfl, by rw [record]; rfl, ?_, ⟨free, ?_⟩, ?_⟩
  · rw [record]
    exact Scope.sees_self claimsScope
  · rw [claimsPlatform.serve_of_operation rfl, ran]
  · rw [claimsPlatform.serve_of_operation rfl, ran, ← inRun]
    refine EventStore.ofExecution_insert_last free fun earlier member => ?_
    rw [inRun] at member
    have visible : earlier ∈ stores.events.visible submission.executionId claimsScope :=
      EventStore.mem_visible.mpr ⟨here ▸ member, seen earlier member⟩
    rw [record]
    exact (EventStore.le_maxSequenceNumber visible).trans (Nat.le_succ _)

theorem Crowded.absent (crowded : Crowded n stores) (first : eventId ≠ "event-1")
    (others : ∀ k < n, eventId ≠ reportId k) : stores.events.tables.byId.get? eventId = none := by
  cases found : stores.events.tables.byId.get? eventId with
  | none => rfl
  | some event =>
    rcases crowded.known found with same | ⟨k, below, same⟩
    · exact absurd same first
    · exact absurd same (others k below)

private theorem Crowded.report (crowded : Crowded n stores) :
    Crowded (n + 1) (claimsPlatform.serve stores (report n)).after := by
  have named : Text.isBlank (reportId n) = false := by
    simp only [Text.isBlank, reportId, String.toList_ofList, replicate_succ, all_cons]
    rfl
  have fresh : stores.events.tables.byId.get? (reportId n) = none :=
    crowded.absent (reportId_ne (by decide)).symm
      fun k below same => Nat.ne_of_gt below (reportId_injective same)
  have admitted : StepAdmitted stores reportSubmission claimsScope := nofun
  obtain ⟨event, stored⟩ := stored_last crowded.running crowded.seen (Or.inl rfl) named fresh admitted
  obtain ⟨absent, after⟩ := stored.stored
  have extended : (claimsPlatform.serve stores (Lifecycle.report n)).after.events.tables.ofExecution
      "exec-1" = stores.events.tables.ofExecution "exec-1" ++ [event] := stored.last
  constructor
  · rw [show (claimsPlatform.serve stores (Lifecycle.report n)).after = _ from after]
    exact crowded.running
  · rw [extended, length_append, crowded.count, length_singleton]
  · rw [extended, forall_mem_append]
    exact ⟨crowded.seen, by simpa using stored.seen⟩
  · rw [extended, forall_mem_append]
    exact ⟨crowded.plain, by simpa [reportSubmission] using stored.carried⟩
  · intro eventId other found
    rw [show (claimsPlatform.serve stores (Lifecycle.report n)).after = _ from after] at found
    simp only [EventStore.byId_insert] at found
    split at found
    · rename_i here
      exact Or.inr ⟨n, Nat.lt_succ_self n, here.trans stored.identity⟩
    · rcases crowded.known found with same | ⟨k, below, same⟩
      · exact Or.inl same
      · exact Or.inr ⟨k, Nat.lt_succ_of_lt below, same⟩

theorem crowded_all (n : Nat) : Crowded n (crowdedStores n) := by
  induction n with
  | zero => exact crowded_start
  | succ n ih => exact ih.report

/-- Two starts of one step are no lawful trail, whatever came before. -/
theorem not_lawful_twice (steps : List WorkflowStep) :
    ¬ Lawful (steps ++ [stepStarts] ++ [stepStarts]) := by
  intro lawful
  have own := lawful.lifecycle "triage"
  rw [trail_append, if_pos (by rfl), trail_append, if_pos (by rfl)] at own
  generalize trail steps "triage" = earlier at own
  revert own
  simp only [lawfulTrails, append_assoc]
  rcases earlier with _ | ⟨first, _ | ⟨second, rest⟩⟩ <;> simp [stepStarts]

/-- The check admits the start of the step when it lists no step at all. -/
theorem step_admitted
    (plain : ∀ event ∈ stores.events.listByExecution "exec-1" claimsScope none,
      event.record.workflowStep = none) : StepAdmitted stores stepSubmission claimsScope := by
  have none_ : priorSteps (stores.events.listByExecution "exec-1" claimsScope none) = [] := by
    refine eq_nil_iff_forall_not_mem.mpr fun step member => ?_
    obtain ⟨event, present, -, carried⟩ := mem_priorSteps.mp member
    rw [plain event present] at carried
    cases carried
  refine ⟨rfl, ?_⟩
  rw [show stepSubmission.executionId = "exec-1" from rfl, none_]
  decide

/-- The step is what storing its submission appends to the stream. -/
theorem step_appended
    (stored : StoredLast stores (claimsPlatform.serve stores (stepCall eventId)).after stepSubmission eventId event) :
    priorSteps (appended "exec-1" (claimsPlatform.serve stores (stepCall eventId))) =
      [stepStarts] := by
  obtain ⟨absent, after⟩ := stored.stored
  rw [appended_insert absent rfl (congrArg Stores.events after), if_pos stored.execution.symm]
  simp [priorSteps, stored.typed, stored.carried, stepSubmission]

/-- With 200 events stored, the listing no longer reaches a step that starts now, and the
step starts a second time. -/
theorem Crowded.starts_twice (crowded : Crowded 199 stores)
    (history : claimsPlatform.History (fun _ _ => True) entries stores) :
    ∃ longer final, claimsPlatform.History (fun _ _ => True) longer final ∧
      ¬ Lawful (acceptedSteps "exec-1" longer) := by
  have fresh : ∀ {eventId : String}, eventId.toList.head? ≠ some 'r' → eventId ≠ "event-1" →
      stores.events.tables.byId.get? eventId = none :=
    fun head other => crowded.absent other fun k _ => reportId_ne head
  obtain ⟨first, storedFirst⟩ := stored_last crowded.running crowded.seen (Or.inr rfl)
    (show Text.isBlank "step-1" = false by decide) (fresh (by decide) (by decide))
    (step_admitted fun event member =>
      crowded.plain event (mem_filter.mp (mem_of_mem_take member)).1)
  have firstAppended := step_appended storedFirst
  have longer := history.serve (stepCall "step-1") trivial
  change StoredLast stores (claimsPlatform.serve stores (stepCall "step-1")).after stepSubmission
    "step-1" first at storedFirst
  generalize claimsPlatform.serve stores (stepCall "step-1") = entry at storedFirst firstAppended longer
  obtain ⟨absent, after⟩ := storedFirst.stored
  have running := crowded.running
  rw [← congrArg Stores.executions after] at running
  have seen : ∀ event ∈ entry.after.events.tables.ofExecution "exec-1",
      claimsScope.sees event.record.organizationId event.record.projectId = true := by
    rw [storedFirst.last, forall_mem_append]
    exact ⟨crowded.seen, by simpa using storedFirst.seen⟩
  have listing : entry.after.events.listByExecution "exec-1" claimsScope none =
      stores.events.tables.ofExecution "exec-1" := by
    have visible : entry.after.events.visible "exec-1" claimsScope = _ := filter_eq_self.mpr seen
    simp only [EventStore.listByExecution, visible, storedFirst.last]
    exact take_left' crowded.count
  have freshSecond : entry.after.events.tables.byId.get? "step-2" = none := by
    rw [after, EventStore.byId_insert, storedFirst.identity]
    exact fresh (by decide) (by decide)
  obtain ⟨second, storedSecond⟩ := stored_last running seen (Or.inr rfl)
    (show Text.isBlank "step-2" = false by decide) freshSecond
    (step_admitted (by rw [listing]; exact crowded.plain))
  refine ⟨_, _, longer.serve (stepCall "step-2") trivial, ?_⟩
  rw [acceptedSteps_append, acceptedSteps_append, firstAppended, step_appended storedSecond]
  exact not_lawful_twice _

/-- After 199 model calls, one step starts twice. -/
theorem workflowStep_starts_twice :
    ∃ entries stores, claimsPlatform.History (fun _ _ => True) entries stores ∧
      ¬ Lawful (acceptedSteps "exec-1" entries) :=
  (crowded_all 199).starts_twice (crowded_history 199)

end AiGovernance.Lifecycle
