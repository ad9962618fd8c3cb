import AiGovernance.Services.CausalAuditExecution

/-!
# Ended audits

No call changes an audit that has ended. A later `execute` of it does nothing
but read, unless the audit has failed with no replay planned and its execution
can be audited after all: `execute` returns early for the other two ends only,
so such an audit is queued once more before its transition is refused.
-/

namespace AiGovernance.Audits

open AiGovernance.Std Domain Findings

variable {World : Type}

variable {caller : AuditCaller} {audit : CausalAudit} {strategy : ControlledEvidenceStrategy}
  {before after : AuditState World} {events : List AgentExecutionEvent} {execution : AgentExecution}

/-! ## Runs -/

/-- A call of the service, with the readings of the clock and the identifier it is given. -/
inductive AuditCall where
  | start (request : CausalAuditService.AuditRequest) (caller : AuditCaller) (auditId : String) (now : Instant)
  | execute (auditId : String) (caller : AuditCaller) (clock : AuditClock)

/-- What a call returns or raises and the state it leaves. -/
def AuditCall.perform (service : CausalAuditService World) : AuditCall → AuditState World → AuditOutcome World CausalAudit
  | .start request caller auditId now, state => service.start request caller auditId now state
  | .execute auditId caller clock, state => service.execute auditId caller clock state

/-- One step of a run: a call; anything that happens to what the other services hold; or a save of a call that
another worker has under way. -/
inductive AuditStep (service : CausalAuditService World) : AuditState World → AuditState World → Prop where
  | called {state : AuditState World} (call : AuditCall) : AuditStep service state (call.perform service state).2
  | elsewhere {state : AuditState World} (world : World) : AuditStep service state { state with world }
  | interleaved {state : AuditState World} {audit : CausalAudit} {expectedVersion : Option Nat}
      {audits : CausalAuditStore} (saved : state.audits.save audit expectedVersion = .ok audits) :
      AuditStep service state { state with audits }

/-- A run. -/
def AuditReaches (service : CausalAuditService World) : AuditState World → AuditState World → Prop :=
  Relation.ReflTransGen (AuditStep service)

/-! ## What a call may do to the state -/

/-- An ended audit stays as it is, and no effect is forgotten. -/
structure Advances (before after : AuditState World) : Prop where
  ended : ∀ {auditId audit}, before.audits.audits.get? auditId = some audit → audit.isTerminal = true →
    after.audits.audits.get? auditId = some audit
  effects : before.effects <+: after.effects

namespace Advances

theorem refl (state : AuditState World) : Advances state state :=
  ⟨fun stored _ => stored, List.prefix_rfl⟩

theorem trans {middle : AuditState World} (first : Advances before middle) (second : Advances middle after) :
    Advances before after where
  ended stored terminal := second.ended (first.ended stored terminal) terminal
  effects := first.effects.trans second.effects

theorem andThen {α β : Type} {outcome : AuditOutcome World α} {next : α → AuditState World → AuditOutcome World β}
    (first : Advances before outcome.2) (second : ∀ value state, Advances state (next value state).2) :
    Advances before (outcome.andThen next).2 := by
  obtain ⟨result, state⟩ := outcome
  cases result with
  | error exception => exact first
  | ok value => exact first.trans (second value state)

theorem perform {α : Type} (state : AuditState World) (effect : AuditEffect) (act : World → Answer α × World) :
    Advances state (state.perform effect act).2 :=
  ⟨fun stored _ => stored, List.prefix_append _ _⟩

theorem save (state : AuditState World) (audit : CausalAudit) (expectedVersion : Option Nat) :
    Advances state (state.save audit expectedVersion).2 := by
  unfold AuditState.save
  split
  · rename_i audits saved
    exact ⟨fun stored terminal => CausalAuditStore.save_keeps_terminal saved stored terminal, List.prefix_rfl⟩
  · exact refl state

end Advances

namespace CausalAuditService

variable (service : CausalAuditService World)

variable {application : ReplayApplication World} {generator : CounterfactualGenerator World} {state : AuditState World}
  {sourceExecutionId auditId : String} {event : AgentExecutionEvent} {sampleIndex : Nat} {progress : QueueProgress}
  {calls : List AgentExecutionEvent} {now waiting ending : Instant} {examination : Examination} {planned : List Diagnostics}

theorem queueGenerated_advances (sourceReference : String) (seed : Int) (generated : CounterfactualEvidence) :
    Advances state (service.queueGenerated application audit caller sourceExecutionId sourceReference event sampleIndex
      seed generated progress state).2 := by
  unfold queueGenerated
  split
  · exact .refl state
  · apply Advances.andThen (.perform state _ _)
    intro replayId created
    apply Advances.andThen (.perform created _ _)
    intro queuedId submitted
    exact .refl submitted

theorem queueSample_advances :
    Advances state (service.queueSample generator application audit caller sourceExecutionId event sampleIndex
      progress state).2 := by
  unfold queueSample
  split
  · exact .refl state
  · apply Advances.andThen (.perform state _ _)
    intro generated after
    split
    · exact .refl after
    · exact service.queueGenerated_advances ..

theorem queueSamples_advances (samples : List Nat) :
    Advances state (service.queueSamples generator application audit caller sourceExecutionId event samples
      progress state).2 := by
  induction samples generalizing progress state with
  | nil => exact .refl state
  | cons sampleIndex rest ih =>
    apply Advances.andThen (service.queueSample_advances ..)
    intro queued after
    exact ih

theorem queueCalls_advances :
    Advances state (service.queueCalls generator application audit caller sourceExecutionId calls planned
      state).2 := by
  induction calls generalizing planned state with
  | nil => exact .refl state
  | cons event rest ih =>
    apply Advances.andThen (service.queueSamples_advances ..)
    intro progress after
    exact ih

theorem queuePrepared_advances (prepared : PreparedAgentRuntimeReplay) :
    Advances state (service.queuePrepared generator application audit calls caller waiting prepared state).2 := by
  unfold queuePrepared
  dsimp only
  split
  · exact .refl state
  · apply Advances.andThen (service.queueCalls_advances ..)
    intro planned after
    split
    · exact .refl after
    · exact .save after _ _

theorem queueControlledReplays_advances (events : List AgentExecutionEvent) :
    Advances state (service.queueControlledReplays audit events calls caller waiting state).2 := by
  unfold queueControlledReplays
  split
  · exact .refl state
  · split
    · exact .refl state
    · exact .refl state
    · split
      · apply Advances.andThen (.perform state _ _)
        intro prepared after
        exact service.queuePrepared_advances ..
      · exact .refl state
      · exact .refl state

theorem saveFindings_advances (save : RuntimeFinding → World → Answer Unit × World)
    (types : List (String × FindingSeverity × List String)) :
    Advances state (saveFindings save audit now types state).2 := by
  induction types generalizing state with
  | nil => exact .refl state
  | cons head rest ih =>
    obtain ⟨findingType, severity, toolCallIds⟩ := head
    unfold saveFindings
    split
    · exact .refl state
    · apply Advances.andThen (.perform state _ _)
      intro _ after
      exact ih

theorem emitFindings_advances : Advances state (service.emitFindings audit now state).2 := by
  unfold emitFindings
  split
  · exact .refl state
  · split
    · exact .refl state
    · exact saveFindings_advances ..

theorem complete_advances : Advances state (service.complete audit examination caller ending state).2 := by
  unfold complete
  dsimp only
  split
  · exact .refl state
  · split
    · exact .refl state
    · apply Advances.andThen (.save state _ _)
      intro completed after
      apply Advances.andThen (service.emitFindings_advances ..)
      intro _ emitted
      exact .refl emitted

theorem attempt_advances : Advances state (service.attempt audit caller ending state).2 := by
  unfold attempt
  split
  · exact .refl state
  · split
    · exact service.complete_advances ..
    · split
      · exact service.queueControlledReplays_advances ..
      · split
        · exact .refl state
        · exact .refl state
        · exact service.complete_advances ..

theorem recordFailure_advances (failing : Instant) (exception : AuditException) :
    Advances state (recordFailure auditId caller failing exception state).2 := by
  unfold recordFailure
  split
  · exact .refl state
  · split
    · exact .refl state
    · split
      · exact .refl state
      · exact .save state _ _

theorem begin_advances (running : Instant) : Advances state (begin audit running state).2 := by
  unfold begin
  split
  · split
    · exact .refl state
    · exact .save state _ _
  · exact .refl state

theorem execute_advances (clock : AuditClock) : Advances state (service.execute auditId caller clock state).2 := by
  unfold execute
  split
  · exact .refl state
  · split
    · exact .refl state
    · apply Advances.andThen (begin_advances ..)
      intro audit started
      have attempted : Advances started (service.attempt audit caller clock.ending started).2 :=
        service.attempt_advances
      split
      · rename_i returned
        rw [returned] at attempted
        exact attempted
      · rename_i raised
        rw [raised] at attempted
        exact attempted.trans (recordFailure_advances ..)

theorem start_advances (request : AuditRequest) :
    Advances state (service.start request caller auditId now state).2 := by
  unfold start
  split
  · exact .refl state
  · dsimp only
    split
    · exact .refl state
    · split
      · exact .refl state
      · apply Advances.andThen (.save state _ _)
        intro audit saved
        unfold submitJob
        split
        · exact .refl saved
        · apply Advances.andThen (.perform saved _ _)
          intro _ submitted
          exact .refl submitted

end CausalAuditService

theorem AuditStep.advances {service : CausalAuditService World} (step : AuditStep service before after) :
    Advances before after := by
  cases step with
  | called call =>
    cases call with
    | start request caller auditId now => exact service.start_advances ..
    | execute auditId caller clock => exact service.execute_advances ..
  | elsewhere world => exact ⟨fun stored _ => stored, List.prefix_rfl⟩
  | interleaved saved =>
    exact ⟨fun stored terminal => CausalAuditStore.save_keeps_terminal saved stored terminal, List.prefix_rfl⟩

theorem AuditReaches.advances {service : CausalAuditService World} (run : AuditReaches service before after) :
    Advances before after := by
  induction run with
  | refl => exact .refl before
  | tail _ step ih => exact ih.trans step.advances

/-! ## What an ended audit still sets off -/

/-- What makes `execute` queue an ended audit again: it has failed with no replay planned, and now its execution is
eligible, has a baseline, and has tool calls that a policy governs. -/
structure Reopens (service : CausalAuditService World) (world : World) (ended : CausalAudit) (caller : AuditCaller) :
    Prop where
  failed : ended.record.status = .failed
  unplanned : plannedReplays ended = .ok []
  eligible : ∃ eligibility, service.auditEligibility world ended caller = .ok eligibility ∧
    eligibility.code = .eligible
  governed : ∃ events baseline calls, service.events world ended.record.executionId caller = .ok events ∧
    service.baseline ended events = .ok baseline ∧ service.auditCalls world ended events caller = .ok calls ∧ calls ≠ []

namespace CausalAuditService

variable {service : CausalAuditService World}

/-- What a successful examination has read. -/
theorem examine_ok {world : World} {examination : Examination}
    (examined : service.examine world audit caller = .ok examination) :
    (∃ eligibility, service.auditEligibility world audit caller = .ok eligibility ∧ eligibility.code = .eligible) ∧
      service.events world audit.record.executionId caller = .ok examination.events ∧
      service.baseline audit examination.events = .ok examination.baseline ∧
      service.auditCalls world audit examination.events caller = .ok examination.calls ∧
      plannedReplays audit = .ok examination.planned := by
  unfold examine at examined
  split at examined
  · cases examined
  · rename_i eligibility found
    split at examined
    · cases examined
    · rename_i eligible
      obtain ⟨events, listed, examined⟩ := bind_ok examined
      obtain ⟨baseline, scored, examined⟩ := bind_ok examined
      obtain ⟨calls, audited, examined⟩ := bind_ok examined
      obtain ⟨planned, read, examined⟩ := bind_ok examined
      cases examined
      exact ⟨⟨eligibility, found, not_not.mp eligible⟩, listed, scored, audited, read⟩

/-- A failed audit is examined to the end, with calls and without a plan, exactly when it reopens. -/
theorem reopens_iff {world : World} {ended : CausalAudit} (failed : ended.record.status = .failed) :
    Reopens service world ended caller ↔
      ∃ examination, service.examine world ended caller = .ok examination ∧ examination.calls ≠ [] ∧
        examination.planned = [] := by
  constructor
  · rintro ⟨_, unplanned, ⟨eligibility, found, eligible⟩, events, baseline, calls, listed, scored, audited, some⟩
    refine ⟨⟨events, baseline, calls, []⟩, ?_, some, rfl⟩
    unfold examine
    rw [found]
    simp only [eligible, ne_eq, not_true_eq_false, if_false]
    unfold examineEligible
    simp only [listed, scored, audited, unplanned, bind, Except.bind]
  · rintro ⟨examination, examined, calls, planned⟩
    obtain ⟨eligible, listed, scored, audited, read⟩ := examine_ok examined
    rw [planned] at read
    exact ⟨failed, read, eligible, _, _, _, listed, scored, audited, calls⟩

/-! ### The services of an eligible execution -/

theorem controlledReplayAvailable_services
    (available : service.controlledReplayAvailable execution events caller strategy = .ok true) :
    service.replaySourceBridge.isSome ∧ service.replayApplication.isSome := by
  unfold controlledReplayAvailable at available
  split at available
  · cases available
  · rename_i bridge found
    split at available
    · cases available
    · rename_i present
      simp only [Bool.or_eq_true, not_or, Option.isNone_iff_eq_none, ← ne_eq, Option.ne_none_iff_isSome] at present
      exact ⟨by rw [found]; rfl, present.1.1⟩

theorem toolCallEligibility_services {world : World} {calls : List AgentExecutionEvent} {policyId : Option String}
    {policyVersion : Option Int} {eligibility : CausalAuditEligibility}
    (found : service.toolCallEligibility world execution events calls caller strategy policyId policyVersion =
      .ok eligibility)
    (eligible : eligibility.code = .eligible) :
    service.counterfactualGenerator.isSome ∧ service.replaySourceBridge.isSome ∧ service.replayApplication.isSome := by
  unfold toolCallEligibility at found
  split at found
  · cases found
    cases eligible
  · rename_i present
    simp only [Bool.or_eq_true, not_or, Option.isNone_iff_eq_none, ← ne_eq, Option.ne_none_iff_isSome] at present
    split at found
    · cases found
    · cases found
      cases eligible
    · rename_i available
      exact ⟨present.1, controlledReplayAvailable_services available⟩

theorem replayRefusal_code {refusal : CausalAuditEligibility}
    (refused : service.replayRefusal execution events caller = some refusal) : refusal.code ≠ .eligible := by
  unfold replayRefusal at refused
  split at refused
  · dsimp only at refused
    split at refused
    · cases refused
    · cases refused
      simp
  · split at refused
    · cases refused
      simp
    · cases refused

/-- An eligible execution is found, and with tool calls every service that queueing needs is there. -/
theorem eligibility_services {world : World} {executionId : String} {evaluatorRef : String} {policyId : Option String}
    {policyVersion : Option Int} {eligibility : CausalAuditEligibility}
    (found : service.eligibility world executionId caller evaluatorRef strategy policyId policyVersion =
      .ok eligibility)
    (eligible : eligibility.code = .eligible) :
    ∃ execution events, service.executions world executionId caller = .ok (some execution) ∧
      service.events world executionId caller = .ok events ∧
      (events.filter (·.record.eventType = .toolCall) ≠ [] →
        service.counterfactualGenerator.isSome ∧ service.replaySourceBridge.isSome ∧
          service.replayApplication.isSome) := by
  obtain ⟨stored, read, found⟩ := bind_ok found
  cases stored with
  | none =>
    cases found
    cases eligible
  | some execution =>
    dsimp only at found
    split at found
    · cases found
      cases eligible
    · obtain ⟨events, listed, found⟩ := bind_ok found
      refine ⟨execution, events, read, listed, ?_⟩
      intro some
      split at found
      · rename_i refusal refused
        cases found
        exact absurd eligible (replayRefusal_code refused)
      · split at found
        · cases found
          cases eligible
        · split at found
          · cases found
            cases eligible
          · split at found
            · rename_i empty
              exact absurd (List.isEmpty_iff.mp empty) some
            · exact toolCallEligibility_services found eligible

theorem auditedToolCalls_nil {world : World} {policyId : Option String} {policyVersion : Option Int}
    {calls : List AgentExecutionEvent}
    (audited : service.auditedToolCalls world [] strategy policyId policyVersion caller = .ok calls) :
    calls = [] := by
  unfold auditedToolCalls at audited
  split at audited
  · cases audited
  · obtain ⟨selected, chosen, audited⟩ := bind_ok audited
    obtain ⟨_, _, audited⟩ := bind_ok audited
    cases audited
    unfold selectedToolCalls at chosen
    split at chosen
    · cases chosen
      rfl
    · cases chosen
    · split at chosen
      · cases chosen
      · obtain ⟨policy, _, chosen⟩ := bind_ok chosen
        cases chosen
        rfl

/-- The services that an examined audit with calls finds when it is queued. -/
theorem examine_services {world : World} {examination : Examination}
    (examined : service.examine world audit caller = .ok examination) (calls : examination.calls ≠ []) :
    (∃ execution, service.executions world audit.record.executionId caller = .ok (some execution)) ∧
      service.counterfactualGenerator.isSome ∧ service.replaySourceBridge.isSome ∧ service.replayApplication.isSome := by
  obtain ⟨⟨eligibility, found, eligible⟩, listed, _, audited, _⟩ := examine_ok examined
  obtain ⟨execution, events, read, same, services⟩ := eligibility_services found eligible
  rw [listed] at same
  cases same
  refine ⟨⟨execution, read⟩, services ?_⟩
  intro none
  unfold auditCalls at audited
  dsimp only at audited
  rw [none] at audited
  exact calls (auditedToolCalls_nil audited)

/-! ### Queueing leaves an effect -/

/-- With its services, queueing prepares the replay source first. -/
theorem queueControlledReplays_effects {calls : List AgentExecutionEvent} {waiting : Instant}
    {state : AuditState World}
    (read : service.executions state.world audit.record.executionId caller = .ok (some execution))
    (generator : service.counterfactualGenerator.isSome) (bridge : service.replaySourceBridge.isSome)
    (application : service.replayApplication.isSome) :
    state.effects ++ [.sourcePrepared execution.record.executionId] <+:
      (service.queueControlledReplays audit events calls caller waiting state).2.effects := by
  obtain ⟨generator, generates⟩ := Option.isSome_iff_exists.mp generator
  obtain ⟨bridge, bridges⟩ := Option.isSome_iff_exists.mp bridge
  obtain ⟨application, applies⟩ := Option.isSome_iff_exists.mp application
  unfold queueControlledReplays
  simp only [generates, read, bridges, applies]
  have queued (prepared : PreparedAgentRuntimeReplay) (after : AuditState World) : Advances after
      (service.queuePrepared generator application audit calls caller waiting prepared after).2 :=
    service.queuePrepared_advances prepared
  have continued : Advances (state.perform (.sourcePrepared execution.record.executionId)
      (bridge.prepare execution events caller)).2 _ :=
    Advances.andThen (.refl _) queued
  exact continued.effects

/-! ### The try block on a failed audit -/

theorem complete_refused (failed : audit.record.status = .failed) (examination : Examination) (ending : Instant)
    (state : AuditState World) :
    ∃ exception, service.complete audit examination caller ending state = (.error exception, state) := by
  unfold complete
  dsimp only
  split
  · rename_i exception _
    exact ⟨exception, rfl⟩
  · split
    · rename_i exception _
      exact ⟨exception, rfl⟩
    · rename_i marked
      simp [CausalAudit.markSucceeded, CausalAudit.fromStatus, failed, lift, Except.mapError] at marked

/-- The try block returns a failed audit or raises, with nothing done, unless the audit reopens. -/
theorem attempt_of_not_reopens (failed : audit.record.status = .failed) {ending : Instant} {state : AuditState World}
    (closed : ¬ Reopens service state.world audit caller) :
    service.attempt audit caller ending state = (.ok audit, state) ∨
      ∃ exception, service.attempt audit caller ending state = (.error exception, state) := by
  unfold attempt
  split
  · rename_i exception _
    exact Or.inr ⟨exception, rfl⟩
  · rename_i examination examined
    split
    · exact Or.inr (complete_refused failed ..)
    · rename_i calls
      split
      · rename_i unplanned
        refine absurd ((reopens_iff failed).mpr ⟨examination, examined, ?_, List.isEmpty_iff.mp unplanned⟩) closed
        intro none
        exact calls (List.isEmpty_iff.mpr none)
      · split
        · rename_i exception _
          exact Or.inr ⟨exception, rfl⟩
        · exact Or.inl rfl
        · exact Or.inr (complete_refused failed ..)

theorem attempt_of_reopens {ending : Instant} {state : AuditState World}
    (reopens : Reopens service state.world audit caller) :
    ∃ executionId, state.effects ++ [.sourcePrepared executionId] <+:
      (service.attempt audit caller ending state).2.effects := by
  obtain ⟨examination, examined, calls, unplanned⟩ := (reopens_iff reopens.failed).mp reopens
  obtain ⟨⟨execution, read⟩, generator, bridge, application⟩ := examine_services examined calls
  refine ⟨execution.record.executionId, ?_⟩
  unfold attempt
  simp only [examined, List.isEmpty_iff, calls, unplanned, if_true, if_false]
  exact queueControlledReplays_effects read generator bridge application

end CausalAuditService

/-! ## Executing an ended audit -/

/-- Whether a caller is of the tenant of an audit. -/
def AuditCaller.owns (caller : AuditCaller) (audit : CausalAudit) : Prop :=
  audit.record.organizationId = caller.organizationId ∧ audit.record.projectId = caller.projectId

instance (caller : AuditCaller) (audit : CausalAudit) : Decidable (caller.owns audit) :=
  inferInstanceAs (Decidable (_ ∧ _))

theorem CausalAuditStore.get_eq {store : CausalAuditStore} {auditId : String}
    (stored : store.audits.get? auditId = some audit) :
    store.get auditId caller.organizationId caller.projectId = if caller.owns audit then some audit else none := by
  unfold get
  rw [stored]
  by_cases owned : caller.owns audit
  · rw [if_pos owned]
    simp [Option.filter, owned.1, owned.2]
  · rw [if_neg owned]
    simp only [Option.filter, Bool.and_eq_true, decide_eq_true_eq]
    exact if_neg owned

namespace CausalAuditService

variable {service : CausalAuditService World} {state : AuditState World} {auditId : String} {ended : CausalAudit}
  {caller : AuditCaller}

/-- The handler returns an ended audit. -/
theorem recordFailure_ended (stored : state.audits.audits.get? auditId = some ended)
    (terminal : ended.isTerminal = true) (owned : caller.owns ended) (failing : Instant) (exception : AuditException) :
    recordFailure auditId caller failing exception state = (.ok ended, state) := by
  unfold recordFailure
  rw [CausalAuditStore.get_eq stored, if_pos owned]
  simp [terminal]

theorem execute_inert (stored : state.audits.audits.get? auditId = some ended) (terminal : ended.isTerminal = true)
    (owned : caller.owns ended) (closed : ¬ Reopens service state.world ended caller) (clock : AuditClock) :
    service.execute auditId caller clock state = (.ok ended, state) := by
  unfold execute
  rw [CausalAuditStore.get_eq stored, if_pos owned]
  dsimp only
  split
  · rfl
  · rename_i returned
    have failed : ended.record.status = .failed := by
      simp only [Bool.or_eq_true, decide_eq_true_eq, not_or] at returned
      unfold CausalAudit.isTerminal at terminal
      cases status : ended.record.status with
      | failed => rfl
      | queued | running => simp [status, CausalAuditStatus.isTerminal] at terminal
      | succeeded => exact absurd status returned.1
      | cancelled => exact absurd status returned.2
    have unstarted : begin ended clock.running state = (.ok ended, state) := by simp [begin, failed]
    rw [unstarted]
    unfold AuditOutcome.andThen
    dsimp only
    rcases attempt_of_not_reopens failed closed with waiting | ⟨exception, raised⟩
    · rw [waiting]
    · rw [raised]
      exact recordFailure_ended stored terminal owned clock.failing exception

theorem execute_reopens (stored : state.audits.audits.get? auditId = some ended) (owned : caller.owns ended)
    (reopens : Reopens service state.world ended caller) (clock : AuditClock) :
    ∃ executionId, state.effects ++ [.sourcePrepared executionId] <+:
      (service.execute auditId caller clock state).2.effects := by
  obtain ⟨executionId, prepared⟩ := @attempt_of_reopens World caller ended service clock.ending state reopens
  refine ⟨executionId, prepared.trans ?_⟩
  unfold execute
  rw [CausalAuditStore.get_eq stored, if_pos owned]
  have unstarted : begin ended clock.running state = (.ok ended, state) := by simp [begin, reopens.failed]
  simp only [reopens.failed, reduceCtorEq, decide_false, Bool.or_self, Bool.false_eq_true, if_false, unstarted]
  unfold AuditOutcome.andThen
  dsimp only
  split
  · rename_i returned
    rewrite [returned]
    exact List.prefix_rfl
  · rename_i raised
    rw [raised]
    exact (recordFailure_advances ..).effects

end CausalAuditService

/-- In every run an audit that has ended stays what it is, and a later execute of it returns it with nothing done
exactly when it does not reopen. -/
theorem ended_audits_inert {service : CausalAuditService World} {before after : AuditState World}
    (run : AuditReaches service before after) {auditId : String} {ended : CausalAudit}
    (stored : before.audits.audits.get? auditId = some ended) (terminal : ended.isTerminal = true) :
    after.audits.audits.get? auditId = some ended ∧
      ∀ (caller : AuditCaller) (clock : AuditClock), caller.owns ended →
        (service.execute auditId caller clock after = (.ok ended, after) ↔
          ¬ Reopens service after.world ended caller) := by
  have kept := run.advances.ended stored terminal
  refine ⟨kept, ?_⟩
  intro caller clock owned
  constructor
  · intro inert reopens
    obtain ⟨executionId, prepared⟩ := service.execute_reopens kept owned reopens clock
    rw [inert] at prepared
    have longer := prepared.length_le
    simp at longer
  · intro closed
    exact service.execute_inert kept terminal owned closed clock

/-- The intervention that the example audits. -/
def nullifiedFields : InterventionConfigurationRecord := ⟨.nullify, 1, "v1", none, [], none, none⟩

theorem nullifiedFields_valid : nullifiedFields.violation = none := by decide +kernel

def nullified : InterventionConfiguration := ⟨nullifiedFields, nullifiedFields_valid⟩

/-- The execution that the example audits. -/
def finishedRun : AgentExecution :=
  ⟨⟨"execution-1", "org-1", none, "agent-1", "Agent", "1", "external-1", "runtime", .succeeded, ⟨0⟩, some ⟨1⟩, none,
    none, ⟨0⟩, ⟨1⟩, [], 1⟩, by decide +kernel⟩

/-- Its tool call and its evaluation. -/
def finishedEvents : List AgentExecutionEvent :=
  [⟨{ eventId := "event-1", executionId := "execution-1", organizationId := "org-1", projectId := none
      eventType := .toolCall, sequenceNumber := 1, occurredAt := ⟨0⟩, receivedAt := ⟨0⟩, correlationId := none
      causationId := none, actorId := some "search", actorType := none, evidenceReferences := ["evidence-1"] },
    by decide +kernel⟩,
   ⟨{ eventId := "event-2", executionId := "execution-1", organizationId := "org-1", projectId := none
      eventType := .evaluation, sequenceNumber := 2, occurredAt := ⟨1⟩, receivedAt := ⟨1⟩, correlationId := none
      causationId := none, actorId := none, actorType := none, attributes := [("score", .float 1)] },
    by decide +kernel⟩]

/-- A service whose world is whether the intervention policy is active. -/
def policyService : CausalAuditService Bool where
  executions _ executionId _ := .ok (if executionId = "execution-1" then some finishedRun else none)
  events _ _ _ := .ok finishedEvents
  jobs := none
  scorers := [("recorded-outcome/v1", recordedOutcomeScorer)]
  settings := {}
  findingRepository := none
  replayApplication := some {
    create := fun creation _ active => (.ok creation.idempotencyKey, active)
    submit := fun replayId _ active => (.ok replayId, active) }
  replays := some fun _ _ _ => .ok none
  replaySourceBridge := some {
    manifest := fun _ _ _ => ⟨[]⟩
    validate := fun _ _ _ => .ok ⟨"adapter-1", [.nullify]⟩
    prepare := fun execution _ _ active => (.ok ⟨execution.record.executionId, ⟨"adapter-1", [.nullify]⟩⟩, active) }
  replayExecutionStore := some fun _ _ _ => .ok none
  counterfactualGenerator := some {
    validate := fun _ _ _ _ _ active =>
      if active then .ok ()
      else .error {
        className := "InterventionError", code := some "INTERVENTION_POLICY_INACTIVE"
        message := "INTERVENTION_POLICY_INACTIVE" }
    generate := fun _ _ _ _ _ _ active =>
      (.ok ⟨"counterfactual-1", "policy-1", 1, "provider-1", "1", "digest-1", "digest-2"⟩, active) }
  interventionPolicies := some fun _ _ _ _ => .ok ⟨"search", "schema-1", "1"⟩
  fingerprint _ executionId _ _ := executionId
  resultDigest _ _ := "result"
  interventionSeed _ _ sampleIndex := sampleIndex
  sealed intervention := .ok { intervention with interventionDigest := "digest-3" }
  textOf _ := ""

/-- The caller of the example. -/
def auditor : AuditCaller := ⟨"org-1", none, "actor-1", "request-1", none⟩

/-- The clock of the example. -/
def auditClock : AuditClock := ⟨⟨3⟩, ⟨4⟩, ⟨5⟩⟩

/-- A new repository and an active policy. -/
def auditStart : AuditState Bool := ⟨.empty, true, []⟩

/-- The audit is started; the policy is deactivated; the job runs; and the policy is as given. -/
def auditRun (active : Bool) : AuditState Bool :=
  let started := ((AuditCall.start ⟨"execution-1", "recorded-outcome/v1", nullified⟩ auditor "audit-1" ⟨2⟩).perform
    policyService auditStart).2
  let failed := ((AuditCall.execute "audit-1" auditor auditClock).perform policyService { started with world := false }).2
  { failed with world := active }

theorem auditRun_reaches (active : Bool) : AuditReaches policyService auditStart (auditRun active) :=
  .tail (.tail (.tail (.tail .refl (.called _)) (.elsewhere _)) (.called _)) (.elsewhere _)

/-- The audit that the run leaves. -/
def failedAudit : CausalAudit :=
  ⟨{ auditId := "audit-1", organizationId := "org-1", projectId := none, executionId := "execution-1"
     agentId := "agent-1", status := .failed, methodologyVersion := "causal-audit/v1"
     evaluatorRef := "recorded-outcome/v1", intervention := nullified, requestFingerprint := "execution-1"
     createdBy := "actor-1", createdAt := ⟨2⟩, updatedAt := ⟨5⟩, startedAt := some ⟨3⟩, completedAt := some ⟨5⟩
     failureCode := some "CAUSALAUDITNOTELIGIBLE"
     failureReason := some "INTERVENTION_POLICY_INACTIVE: INTERVENTION_POLICY_INACTIVE"
     version := 2 }, by decide +kernel⟩

theorem auditRun_stored (active : Bool) :
    (auditRun active).audits.audits.get? "audit-1" = some failedAudit := by
  cases active <;> decide +kernel

/-- The policy is inactive again when the job is redelivered: the failed audit is returned. -/
theorem ended_audits_inert_inactive :
    policyService.execute "audit-1" auditor auditClock (auditRun false) = (.ok failedAudit, auditRun false) := by
  have changed : AuditReaches policyService (auditRun true) (auditRun false) := .single (.elsewhere false)
  refine ((ended_audits_inert changed (auditRun_stored true) (by decide)).2 auditor auditClock (by decide)).mpr ?_
  rintro ⟨-, -, ⟨eligibility, found, eligible⟩, -⟩
  have inactive : (policyService.auditEligibility false failedAudit auditor).map (·.code) =
      .ok .interventionPolicyInactive := by decide +kernel
  have world : (auditRun false).world = false := rfl
  rw [world] at found
  rw [found] at inactive
  simp [Except.map, eligible] at inactive

/-- The policy is activated again and the job redelivered: the failed audit sets off a counterfactual and a replay. -/
theorem ended_audits_not_inert : ¬ ∀ (World : Type) (service : CausalAuditService World) (world : World)
    (after : AuditState World), AuditReaches service ⟨.empty, world, []⟩ after →
      ∀ (auditId : String) (ended : CausalAudit), after.audits.audits.get? auditId = some ended →
        ended.isTerminal = true → ∀ (caller : AuditCaller) (clock : AuditClock), caller.owns ended →
          (service.execute auditId caller clock after).2.effects = after.effects := by
  intro inert
  have unchanged := inert Bool policyService true (auditRun true) (auditRun_reaches true) "audit-1" failedAudit
    (auditRun_stored true) (by decide) auditor auditClock (by decide)
  exact absurd unchanged (by decide +kernel)

end AiGovernance.Audits
