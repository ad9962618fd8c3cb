import AiGovernance.Lifecycle.Ingestion
import AiGovernance.Services.RuntimeAggregation
import AiGovernance.Services.RuntimeFindings

/-!
# Finalized evidence

What later ingestion can do to the metrics of a window that was final when it
was reconciled. The metrics read the executions created in the window and, for
four of the detectors, the events that count by its cutoff. An event received
after the cutoff does not count; but an event received at the cutoff does, an
execution that completes later changes the metrics that read executions, and an
event numbered below others can push one of them out of a full listing.
-/

namespace AiGovernance.Findings

open AiGovernance.Std Domain Repositories List
open Semantics Services Lifecycle

/-! ## Later calls -/

/-- A call of the ingestion service after a decision. -/
inductive LaterCall where
  | ingestStart (submission : StartSubmission) (context : TenantContext) (ambient : Ambient)
  | ingestEvent (submission : EventSubmission) (context : TenantContext) (ambient : Ambient)
  | markCompleted (executionId : String) (status : AgentExecutionStatus) (context : TenantContext) (ambient : Ambient)

/-- The stores a call leaves. -/
def LaterCall.perform (primitives : Primitives) : LaterCall → Stores → Stores
  | .ingestStart submission context ambient, stores =>
    ((Services.ingestStart primitives submission context ambient).run (inMemory primitives) stores).2
  | .ingestEvent submission context ambient, stores =>
    ((Services.ingestEvent submission context ambient).run (inMemory primitives) stores).2
  | .markCompleted executionId status context ambient, stores =>
    ((Services.markCompleted executionId status context ambient).run (inMemory primitives) stores).2

/-- The stores a sequence of calls leaves. -/
def performLater (primitives : Primitives) (calls : List LaterCall) (stores : Stores) : Stores :=
  calls.foldl (fun reached call => call.perform primitives reached) stores

/-- When a call is made. -/
def LaterCall.now : LaterCall → Instant
  | .ingestStart _ _ ambient | .ingestEvent _ _ ambient | .markCompleted _ _ _ ambient => ambient.now

/-- Whether the enforcer lets a call through. -/
def LaterCall.permitted : LaterCall → Bool
  | .ingestStart _ _ ambient | .ingestEvent _ _ ambient | .markCompleted _ _ _ ambient => ambient.permitted

/-- The identifier a call may create an execution under is new. -/
def LaterCall.fresh (stores : Stores) : LaterCall → Bool
  | .ingestStart _ _ ambient => (stores.executions.byId.get? ambient.executionId).isNone
  | _ => true

/-! ## Harmless calls -/

/-- The events a detector reads, if it reads events. -/
def readsEvents : SupportedDetector → Option EventType
  | .toolFailureRate => some .toolCall
  | .evaluationFailureRate => some .evaluation
  | .policyDenialRate => some .governanceDecision
  | .repeatedRuntimeError => some .error
  | .agentExecutionFailureRate | .executionLatencyRegression => none

/-- The tool metrics read the events of one tool. -/
def concernsSubject (detector : SupportedDetector) (subjectId : String) (attributes : List (String × Json)) : Bool :=
  detector ≠ .toolFailureRate || toolIdentity attributes = some subjectId

/-- An execution of a window that a scope sees. -/
def inWindow (scope : Scope) (window : ReconciliationWindow) (execution : AgentExecution) : Bool :=
  scope.sees execution.record.organizationId execution.record.projectId &&
    window.record.baselineStart ≤ execution.record.createdAt && execution.record.createdAt ≤ window.record.observedEnd

/-- The running execution of the window that a caller names, if it names one. -/
def concerned (stores : Stores) (scope : Scope) (window : ReconciliationWindow) (executionId : String)
    (caller : Scope) : Option AgentExecution :=
  (stores.executions.get executionId caller).filter fun execution =>
    inWindow scope window execution && !AgentExecution.isTerminal execution

/-- An event numbered by a caller comes last in the scope's list, or the list has room for it. -/
def keepsOrder (stores : Stores) (scope : Scope) (executionId : String) (caller : Scope) : Bool :=
  (stores.events.visible executionId scope).length < 200 ||
    stores.events.maxSequenceNumber executionId scope ≤ stores.events.maxSequenceNumber executionId caller

/-- A call that cannot reach the metrics of a window. -/
def harmless (detector : SupportedDetector) (subjectId : String) (scope : Scope) (window : ReconciliationWindow)
    (stores : Stores) : LaterCall → Bool
  | .ingestStart submission context ambient =>
    match stores.executions.getByExternalId submission.externalExecutionId submission.runtimeProvider
        context.scope with
    | some existing =>
      -- A known execution is moved to RUNNING, which takes a completion time away.
      detector ≠ .executionLatencyRegression || existing.record.agentId ≠ subjectId ||
        existing.record.status ≠ .received || existing.record.completedAt.isNone || !inWindow scope window existing
    | none =>
      -- A new execution is created after the window or out of sight.
      window.record.observedEnd < ambient.now ||
        !scope.sees context.scope.organizationId context.scope.projectId
  | .ingestEvent submission context ambient =>
    match concerned stores scope window submission.executionId context.scope, readsEvents detector with
    | none, _ | _, none => true
    | some _, some type =>
      -- The event is of another type or tool, late, or received after the cutoff.
      (submission.eventType ≠ type || !concernsSubject detector subjectId submission.attributes ||
        (lateness ambient (submission.occurredAt.getD ambient.now)).1 ||
        window.record.finalizationCutoffAt.any (· < ambient.now)) &&
        keepsOrder stores scope submission.executionId context.scope
  | .markCompleted executionId status context _ =>
    match concerned stores scope window executionId context.scope with
    | none => true
    | some execution =>
      match detector with
      | .agentExecutionFailureRate => execution.record.agentId ≠ subjectId || !isFailure status
      | .executionLatencyRegression => execution.record.agentId ≠ subjectId
      | _ => keepsOrder stores scope executionId context.scope

/-- Every call of a sequence is denied or harmless where it is made, and creates under a new identifier. -/
def allHarmless (primitives : Primitives) (detector : SupportedDetector) (subjectId : String) (scope : Scope)
    (window : ReconciliationWindow) : List LaterCall → Stores → Bool
  | [], _ => true
  | call :: rest, stores => call.fresh stores &&
      (!call.permitted || harmless detector subjectId scope window stores call) &&
      allHarmless primitives detector subjectId scope window rest (call.perform primitives stores)

/-! ## What the metrics read -/

/-- What a detector reads of an execution itself. -/
def view (detector : SupportedDetector) (subjectId : String) (execution : AgentExecution) : Option (Bool × Option Int) :=
  if execution.record.agentId = subjectId then
    match detector with
    | .agentExecutionFailureRate => some (isFailure execution.record.status, none)
    | .executionLatencyRegression => some (false, duration? execution)
    | _ => none
  else none

/-- The line of an execution in a listing. -/
structure Line where
  createdAt : Instant
  executionId : String
  view : Option (Bool × Option Int)
deriving DecidableEq

/-- The line of an execution, when the listing has it. -/
def line? (detector : SupportedDetector) (subjectId : String) (scope : Scope) (start stop : Instant)
    (execution : AgentExecution) : Option Line :=
  if scope.sees execution.record.organizationId execution.record.projectId ∧ start ≤ execution.record.createdAt ∧
      execution.record.createdAt ≤ stop then
    some ⟨execution.record.createdAt, execution.record.executionId, view detector subjectId execution⟩
  else none

/-- The order of a listing. -/
def Line.before (left right : Line) : Prop :=
  left.createdAt < right.createdAt ∨ (left.createdAt = right.createdAt ∧ left.executionId ≤ right.executionId)

instance (left right : Line) : Decidable (left.before right) := inferInstanceAs (Decidable (_ ∨ _))

/-- The lines of a period. -/
def lines (detector : SupportedDetector) (subjectId : String) (scope : Scope) (start stop : Instant)
    (stores : Stores) : List Line :=
  ((stores.executions.byId.values.filterMap (line? detector subjectId scope start stop)).insertionSort
    Line.before).take 10000

theorem filterMap_ite {S T : Type} (keep : S → Prop) [DecidablePred keep] (value : S → T) (items : List S) :
    items.filterMap (fun item => if keep item then some (value item) else none) =
      (items.filter (keep ·)).map value := by
  induction items with
  | nil => rfl
  | cons item rest ih =>
    by_cases kept : keep item
    · simp [kept, ih]
    · simp [kept, ih]

theorem lines_eq (detector : SupportedDetector) (subjectId : String) (scope : Scope) (start stop : Instant)
    (stores : Stores) :
    lines detector subjectId scope start stop stores = (executionsBetween stores scope start stop).map fun execution =>
      ⟨execution.record.createdAt, execution.record.executionId, view detector subjectId execution⟩ := by
  have kept : ∀ execution : AgentExecution,
      (scope.sees execution.record.organizationId execution.record.projectId &&
        ExecutionStore.passes { createdAfter := some start, createdBefore := some stop, limit := 10000 } execution) =
      decide (scope.sees execution.record.organizationId execution.record.projectId ∧
        start ≤ execution.record.createdAt ∧ execution.record.createdAt ≤ stop) := by
    intro execution
    simp [ExecutionStore.passes, Instant.lt_def, Instant.le_def]
  unfold lines executionsBetween ExecutionStore.list
  rw [map_take]
  congr 1
  unfold line?
  rw [filterMap_ite]
  simp only [kept]
  exact (map_insertionSort ExecutionStore.listedBefore Line.before _ _ fun _ _ _ _ => Iff.rfl).symm

/-- An event of an execution that the metrics read. -/
def readsEvent (detector : SupportedDetector) (subjectId : String) (type : EventType) (cutoff : Option Instant)
    (event : AgentExecutionEvent) : Bool :=
  concernsSubject detector subjectId event.record.attributes && countsAs type cutoff event

/-- The events of an execution that the metrics read. -/
def readings (stores : Stores) (detector : SupportedDetector) (subjectId : String) (scope : Scope) (type : EventType)
    (cutoff : Option Instant) (executionId : String) : List AgentExecutionEvent :=
  (stores.events.listByExecution executionId scope none).filter (readsEvent detector subjectId type cutoff)

/-- Two states with the same lines, and the same events that count for each line, have the same metrics. -/
structure SameReadings (detector : SupportedDetector) (subjectId : String) (scope : Scope)
    (window : ReconciliationWindow) (before after : Stores) : Prop where
  lines : ∀ {start stop}, window.record.baselineStart ≤ start → stop ≤ window.record.observedEnd →
    lines detector subjectId scope start stop after = lines detector subjectId scope start stop before
  events : ∀ {type}, readsEvents detector = some type → ∀ {execution : AgentExecution},
    before.executions.byId.get? execution.record.executionId = some execution →
    inWindow scope window execution = true →
    readings after detector subjectId scope type window.record.finalizationCutoffAt execution.record.executionId =
      readings before detector subjectId scope type window.record.finalizationCutoffAt execution.record.executionId

section Metrics

variable {primitives : Primitives} {detector : SupportedDetector} {subjectId : String} {scope : Scope}
  {window : ReconciliationWindow} {before after stores : Stores} {start stop : Instant}

theorem mem_executionsBetween {execution : AgentExecution}
    (member : execution ∈ executionsBetween stores scope start stop) :
    stores.executions.byId.get? execution.record.executionId = some execution ∧
      scope.sees execution.record.organizationId execution.record.projectId = true ∧
      start ≤ execution.record.createdAt ∧ execution.record.createdAt ≤ stop := by
  have listed := mem_of_mem_take member
  rw [mem_insertionSort, mem_filter, Bool.and_eq_true] at listed
  obtain ⟨stored, seen, passed⟩ := listed
  obtain ⟨executionId, found⟩ := (Dict.mem_values_iff _ _).mp stored
  refine ⟨by rw [stores.executions.keyed found]; exact found, seen, ?_⟩
  simpa [ExecutionStore.passes, Instant.lt_def, Instant.le_def] using passed

theorem evidence_eq (type : EventType) (cutoff : Option Instant) :
    (evidence stores scope type start stop cutoff).filter
        (fun event => concernsSubject detector subjectId event.record.attributes) =
      (lines detector subjectId scope start stop stores).flatMap fun line =>
        readings stores detector subjectId scope type cutoff line.executionId := by
  rw [lines_eq, flatMap_map]
  unfold evidence
  rw [filter_flatMap]
  refine flatMap_congr fun execution _ => ?_
  unfold evidenceOf readings readsEvent
  rw [filter_filter]

theorem evidence_same (same : SameReadings detector subjectId scope window before after) {type : EventType}
    (reads : readsEvents detector = some type) (late : window.record.baselineStart ≤ start)
    (early : stop ≤ window.record.observedEnd) :
    (evidence after scope type start stop window.record.finalizationCutoffAt).filter
        (fun event => concernsSubject detector subjectId event.record.attributes) =
      (evidence before scope type start stop window.record.finalizationCutoffAt).filter
        (fun event => concernsSubject detector subjectId event.record.attributes) := by
  rw [evidence_eq, evidence_eq, same.lines late early]
  refine flatMap_congr fun line member => ?_
  rw [lines_eq, mem_map] at member
  obtain ⟨execution, listed, rfl⟩ := member
  obtain ⟨stored, seen, notBefore, notAfter⟩ := mem_executionsBetween listed
  refine same.events reads stored ?_
  simp only [inWindow, seen, Bool.true_and, Bool.and_eq_true, decide_eq_true_eq]
  exact ⟨Nat.le_trans late notBefore, Nat.le_trans notAfter early⟩

theorem evidence_same_whole (same : SameReadings detector subjectId scope window before after) {type : EventType}
    (reads : readsEvents detector = some type) (whole : detector ≠ .toolFailureRate)
    (late : window.record.baselineStart ≤ start) (early : stop ≤ window.record.observedEnd) :
    evidence after scope type start stop window.record.finalizationCutoffAt =
      evidence before scope type start stop window.record.finalizationCutoffAt := by
  simpa [concernsSubject, whole] using evidence_same same reads late early

/-- The tool metrics read the calls of their tool. -/
theorem computeToolMetrics_own (events : List AgentExecutionEvent) :
    computeToolMetrics subjectId events = computeToolMetrics subjectId
      (events.filter fun event => concernsSubject .toolFailureRate subjectId event.record.attributes) := by
  unfold computeToolMetrics concernsSubject
  simp only [ne_eq, not_true_eq_false, decide_false, Bool.false_or, filter_filter, Bool.and_self]

theorem length_executionsBetween (detector : SupportedDetector) (subjectId : String) :
    (executionsBetween stores scope start stop).length = (lines detector subjectId scope start stop stores).length := by
  rw [lines_eq, length_map]

/-- What a detector reads of the executions of its subject. -/
theorem views_eq (read : AgentExecution → Bool × Option Int)
    (own : ∀ execution, view detector subjectId execution =
      if execution.record.agentId = subjectId then some (read execution) else none) :
    (lines detector subjectId scope start stop stores).filterMap Line.view =
      ((executionsBetween stores scope start stop).filter (·.record.agentId = subjectId)).map read := by
  rw [lines_eq, filterMap_map, ← filterMap_ite]
  exact congrArg (List.filterMap · _) (funext own)

theorem computeAgentExecutionMetrics_eq :
    computeAgentExecutionMetrics subjectId (executionsBetween stores scope start stop) =
      let views := (lines .agentExecutionFailureRate subjectId scope start stop stores).filterMap Line.view
      [("total_executions", (views.length : Rat)), ("failures", ((views.filter (·.1)).length : Rat))] := by
  rw [views_eq (fun execution => (isFailure execution.record.status, none)) fun _ => rfl]
  simp only [computeAgentExecutionMetrics, length_map, filter_map, Function.comp_def]

theorem durations_eq :
    ((executionsBetween stores scope start stop).filter (·.record.agentId = subjectId)).filterMap duration? =
      ((lines .executionLatencyRegression subjectId scope start stop stores).filterMap Line.view).filterMap (·.2) := by
  rw [views_eq (fun execution => (false, duration? execution)) fun _ => rfl, filterMap_map]
  rfl

theorem periodMetrics_same (same : SameReadings detector subjectId scope window before after)
    (late : window.record.baselineStart ≤ start) (early : stop ≤ window.record.observedEnd) :
    periodMetrics primitives after scope detector subjectId window.record.finalizationCutoffAt start stop =
      periodMetrics primitives before scope detector subjectId window.record.finalizationCutoffAt start stop := by
  cases detector with
  | toolFailureRate =>
    dsimp only [periodMetrics]
    rw [computeToolMetrics_own, evidence_same same rfl late early, ← computeToolMetrics_own]
  | evaluationFailureRate => simp only [periodMetrics, evidence_same_whole same rfl (by decide) late early]
  | policyDenialRate => simp only [periodMetrics, evidence_same_whole same rfl (by decide) late early]
  | repeatedRuntimeError =>
    simp only [periodMetrics, evidence_same_whole same rfl (by decide) late early,
      length_executionsBetween .repeatedRuntimeError subjectId, same.lines late early]
  | agentExecutionFailureRate =>
    simp only [periodMetrics, computeAgentExecutionMetrics_eq, same.lines late early]
  | executionLatencyRegression =>
    change computeLatencyMetrics subjectId _ = computeLatencyMetrics subjectId _
    unfold computeLatencyMetrics
    rw [durations_eq, durations_eq, same.lines late early]

/-- The periods of a window lie within it. -/
theorem window_periods (window : ReconciliationWindow) :
    window.record.baselineEnd ≤ window.record.observedEnd ∧
      window.record.baselineStart ≤ window.record.observedStart := by
  have valid := window.valid
  unfold ReconciliationWindowRecord.violation at valid
  simp only [firstViolation_eq_none, forall_mem_cons, rejectIf_eq_none, decide_eq_false_iff_not, not_not,
    Instant.le_def, not_le] at valid
  obtain ⟨observed, baseline, joined, -⟩ := valid
  rw [joined] at baseline ⊢
  exact ⟨Nat.le_of_lt observed, Nat.le_of_lt baseline⟩

theorem windowMetrics_same (same : SameReadings detector subjectId scope window before after) :
    windowMetrics primitives after scope detector subjectId window =
      windowMetrics primitives before scope detector subjectId window := by
  obtain ⟨baseline, observed⟩ := window_periods window
  unfold windowMetrics
  dsimp only
  rw [periodMetrics_same same (Nat.le_refl _) baseline, periodMetrics_same same observed (Nat.le_refl _)]

end Metrics

/-! ## What one call changes -/

section Calls

variable {primitives : Primitives} {detector : SupportedDetector} {subjectId : String} {scope : Scope}
  {window : ReconciliationWindow} {stores middle after : Stores}

variable {execution : AgentExecution} {start stop : Instant} {executionId : String}

/-- An execution written where it reads like the old one keeps the lines. -/
theorem lines_set (written : after.executions.byId = stores.executions.byId.set executionId execution)
    (same : line? detector subjectId scope start stop execution =
      (stores.executions.byId.get? executionId).bind (line? detector subjectId scope start stop)) :
    lines detector subjectId scope start stop after = lines detector subjectId scope start stop stores := by
  unfold lines
  rw [written, Dict.filterMap_values_set same]

variable {status : AgentExecutionStatus} {completedAt : Option Instant}

/-- A status update that a detector does not see keeps the line. -/
theorem line?_withStatus {result : AgentExecution}
    (record : result.record = ExecutionStore.withStatus execution status completedAt)
    (same : start ≤ execution.record.createdAt → execution.record.createdAt ≤ stop →
      scope.sees execution.record.organizationId execution.record.projectId = true →
      view detector subjectId result = view detector subjectId execution) :
    line? detector subjectId scope start stop result = line? detector subjectId scope start stop execution := by
  have unchanged : result.record.createdAt = execution.record.createdAt ∧
      result.record.executionId = execution.record.executionId ∧
      result.record.organizationId = execution.record.organizationId ∧
      result.record.projectId = execution.record.projectId := by
    rw [record]
    exact ⟨rfl, rfl, rfl, rfl⟩
  obtain ⟨created, named, organization, project⟩ := unchanged
  unfold line?
  rw [created, named, organization, project]
  by_cases listed : scope.sees execution.record.organizationId execution.record.projectId ∧
      start ≤ execution.record.createdAt ∧ execution.record.createdAt ≤ stop
  · rw [if_pos listed, if_pos listed, same listed.2.1 listed.2.2 listed.1]
  · rw [if_neg listed, if_neg listed]

theorem readings_congr (events : after.events = stores.events) (type : EventType) (cutoff : Option Instant) :
    readings after detector subjectId scope type cutoff executionId =
      readings stores detector subjectId scope type cutoff executionId := by
  unfold readings
  rw [events]

variable {type : EventType} {event : AgentExecutionEvent}

/-- An event that is not read, and that comes last or into a list with room, changes no readings. -/
theorem readings_joined (joined : Joined stores event after) {cutoff : Option Instant}
    (apart : event.record.executionId = executionId → readsEvent detector subjectId type cutoff event = false ∧
      ((stores.events.visible executionId scope).length < 200 ∨
        ∀ earlier ∈ stores.events.visible executionId scope,
          earlier.record.sequenceNumber ≤ event.record.sequenceNumber)) :
    readings after detector subjectId scope type cutoff executionId =
      readings stores detector subjectId scope type cutoff executionId := by
  obtain ⟨idempotencyKey, absent, inserted⟩ := joined.events
  unfold readings EventStore.listByExecution
  rw [inserted]
  dsimp only
  obtain same | ⟨here, before, later, shape, placed, higher⟩ :=
    stores.events.visible_insert idempotencyKey absent executionId scope
  · rw [same]
  · obtain ⟨unread, room⟩ := apart here
    rw [placed, shape] at *
    cases room with
    | inl short =>
      have whole : (before ++ event :: later).length ≤ 200 := by
        simp only [length_append, length_cons] at short ⊢
        omega
      rw [take_of_length_le whole, take_of_length_le (Nat.le_of_lt short), filter_append,
        filter_append, filter_cons, unread]
      rfl
    | inr last =>
      have none : later = [] := by
        cases later with
        | nil => rfl
        | cons first rest =>
          have above := higher first (by simp)
          have below := last first (by simp)
          omega
      subst none
      rw [append_nil, take_append, filter_append]
      have nothing : ([event].take (200 - before.length)).filter (readsEvent detector subjectId type cutoff) = [] := by
        rw [filter_eq_nil_iff]
        intro other member
        rw [mem_singleton.mp (mem_of_mem_take member), unread]
        decide
      rw [nothing, append_nil]

/-- An event of another type or tool, a late one, and one received after the cutoff are not read. -/
theorem readsEvent_eq_false {cutoff : Option Instant}
    (apart : event.record.eventType ≠ type ∨ concernsSubject detector subjectId event.record.attributes = false ∨
      event.record.lateForRuntimeFindings = true ∨ cutoff.any (· < event.record.receivedAt) = true) :
    readsEvent detector subjectId type cutoff event = false := by
  unfold readsEvent countsAs
  rcases apart with other | apart | late | received
  · rw [decide_eq_false other, Bool.and_false, Bool.and_false]
  · rw [apart, Bool.false_and]
  · rw [late, Bool.true_or, Bool.not_true, Bool.false_and, Bool.and_false]
  · rw [received, Bool.or_true, Bool.not_true, Bool.false_and, Bool.and_false]

/-- A caller that keeps the order numbers its event past the scope's list, or the list has room. -/
theorem room_of_keepsOrder {caller : Scope} (keeps : keepsOrder stores scope executionId caller = true)
    (numbered : event.record.sequenceNumber = stores.events.maxSequenceNumber executionId caller + 1) :
    (stores.events.visible executionId scope).length < 200 ∨
      ∀ earlier ∈ stores.events.visible executionId scope,
        earlier.record.sequenceNumber ≤ event.record.sequenceNumber := by
  unfold keepsOrder at keeps
  rw [Bool.or_eq_true, decide_eq_true_eq, decide_eq_true_eq] at keeps
  refine keeps.imp id fun highest earlier member => ?_
  have below := EventStore.le_maxSequenceNumber member
  omega

/-- The execution a caller names is the one stored, so it is the one concerned. -/
theorem concerned_eq {caller : Scope} {stored : AgentExecution}
    (found : stores.executions.get executionId caller = some execution)
    (active : AgentExecution.isTerminal execution = false)
    (present : stores.executions.byId.get? stored.record.executionId = some stored)
    (named : stored.record.executionId = executionId) (within : inWindow scope window stored = true) :
    concerned stores scope window executionId caller = some execution ∧ stored = execution := by
  have looked := found
  unfold ExecutionStore.get at looked
  have same : stored = execution := by
    rw [named] at present
    exact Option.some.inj (present.symm.trans (Option.filter_eq_some_iff.mp looked).1)
  refine ⟨?_, same⟩
  unfold concerned
  rw [found, ← same]
  simp [within, same ▸ active, Option.filter]

theorem SameReadings.refl : SameReadings detector subjectId scope window stores stores where
  lines := fun _ _ => rfl
  events := fun _ _ _ _ => rfl

variable {ambient : Ambient} {context : TenantContext}

theorem ingestEvent_same {submission : EventSubmission}
    (safe : harmless detector subjectId scope window stores (.ingestEvent submission context ambient) = true)
    (accepted : Accepted stores submission context ambient event after) :
    SameReadings detector subjectId scope window stores after := by
  obtain ⟨execution, found, active, record⟩ := accepted.record
  obtain ⟨nothing, stored⟩ := accepted.stored
  have joined : Joined stores event after := ⟨by rw [stored], submission.idempotencyKey,
    (EventTables.precheck_eq_none nothing).1, by rw [stored]⟩
  refine ⟨fun _ _ => ?_, fun {type} reads {listed} present within => ?_⟩
  · unfold lines
    rw [joined.executions]
  · refine readings_joined joined fun here => ?_
    obtain ⟨concerns, -⟩ := concerned_eq found active present (here.symm.trans accepted.executionId) within
    unfold harmless at safe
    dsimp only at safe
    rw [concerns, reads] at safe
    simp only [Bool.and_eq_true, Bool.or_eq_true, decide_eq_true_eq, Bool.not_eq_true'] at safe
    have numbered : event.record.sequenceNumber =
        stores.events.maxSequenceNumber listed.record.executionId context.scope + 1 := by
      rw [record, ← here, accepted.executionId]
      rfl
    rw [← accepted.executionId, here] at safe
    refine ⟨?_, room_of_keepsOrder safe.2 numbered⟩
    -- The event is of another type or tool, late, or received after the cutoff.
    refine readsEvent_eq_false ?_
    rw [record]
    rcases safe.1 with ((other | apart) | late) | received
    · exact Or.inl other
    · exact Or.inr (Or.inl apart)
    · exact Or.inr (Or.inr (Or.inl late))
    · exact Or.inr (Or.inr (Or.inr received))

/-- A status update whose status and completion time a detector does not read differently. -/
def Unread (detector : SupportedDetector) (subjectId : String) (execution : AgentExecution)
    (status : AgentExecutionStatus) (completedAt : Option Instant) : Prop :=
  execution.record.agentId = subjectId →
    (detector = .agentExecutionFailureRate → isFailure status = isFailure execution.record.status) ∧
      (detector = .executionLatencyRegression → completedAt = execution.record.completedAt)

theorem view_withStatus {result : AgentExecution}
    (record : result.record = ExecutionStore.withStatus execution status completedAt)
    (unread : Unread detector subjectId execution status completedAt) :
    view detector subjectId result = view detector subjectId execution := by
  have kept : result.record.agentId = execution.record.agentId ∧ result.record.startedAt = execution.record.startedAt ∧
      result.record.status = status ∧ result.record.completedAt = completedAt := by
    rw [record]
    exact ⟨rfl, rfl, rfl, rfl⟩
  obtain ⟨agent, started, moved, completed⟩ := kept
  unfold view duration?
  rw [agent, started, moved, completed]
  by_cases own : execution.record.agentId = subjectId
  · rw [if_pos own, if_pos own]
    obtain ⟨failure, completion⟩ := unread own
    cases detector with
    | agentExecutionFailureRate => dsimp only; rw [failure rfl]
    | executionLatencyRegression => dsimp only; rw [completion rfl]
    | toolFailureRate => rfl
    | evaluationFailureRate => rfl
    | policyDenialRate => rfl
    | repeatedRuntimeError => rfl
  · rw [if_neg own, if_neg own]

/-- An execution listed in a period of the window is one of the window. -/
theorem inWindow_of_listed (late : window.record.baselineStart ≤ start) (early : stop ≤ window.record.observedEnd)
    (notBefore : start ≤ execution.record.createdAt) (notAfter : execution.record.createdAt ≤ stop)
    (seen : scope.sees execution.record.organizationId execution.record.projectId = true) :
    inWindow scope window execution = true := by
  simp only [inWindow, seen, Bool.true_and, Bool.and_eq_true, decide_eq_true_eq]
  exact ⟨Nat.le_trans late notBefore, Nat.le_trans notAfter early⟩

theorem lines_moved (moved : Moved stores executionId execution status completedAt after)
    (unread : inWindow scope window execution = true → Unread detector subjectId execution status completedAt)
    (late : window.record.baselineStart ≤ start) (early : stop ≤ window.record.observedEnd) :
    lines detector subjectId scope start stop after = lines detector subjectId scope start stop stores := by
  obtain ⟨result, record, written⟩ := moved.updated
  refine lines_set written ?_
  rw [moved.found, Option.bind_some]
  exact line?_withStatus record fun notBefore notAfter seen =>
    view_withStatus record (unread (inWindow_of_listed late early notBefore notAfter seen))

theorem lines_congr (executions : after.executions = stores.executions) :
    lines detector subjectId scope start stop after = lines detector subjectId scope start stop stores := by
  unfold lines
  rw [executions]

/-- No detector reads the events a start or a completion records. -/
theorem readsEvents_apart (reads : readsEvents detector = some type) :
    .executionStarted ≠ type ∧ .executionCompleted ≠ type := by
  cases detector <;> cases reads <;> decide

theorem markCompleted_same
    (safe : harmless detector subjectId scope window stores (.markCompleted executionId status context ambient) = true)
    (completed : Completed stores executionId status context ambient after) :
    SameReadings detector subjectId scope window stores after := by
  obtain rfl | ⟨execution, middle, found, active, moved, ends⟩ := completed
  · exact SameReadings.refl
  have named := stores.executions.keyed moved.found
  have executions : after.executions = middle.executions := by
    obtain rfl | ⟨_, _, joined⟩ := ends
    · rfl
    · exact joined.executions
  unfold harmless at safe
  dsimp only at safe
  refine ⟨fun late early => ?_, fun {type} reads {listed} present within => ?_⟩
  · rw [lines_congr executions]
    refine lines_moved moved (fun within own => ?_) late early
    obtain ⟨concerns, -⟩ := concerned_eq found active (named ▸ moved.found) named within
    rw [concerns] at safe
    refine ⟨?_, ?_⟩
    · -- A running execution has not failed.
      rintro rfl
      simp only [own, ne_eq, not_true_eq_false, decide_false, Bool.false_or, Bool.not_eq_true'] at safe
      unfold AgentExecution.isTerminal at active
      rw [safe]
      cases reached : execution.record.status <;> simp_all [AgentExecutionStatus.isTerminal, isFailure]
    · rintro rfl
      simp [own] at safe
  · obtain rfl | ⟨event, record, joined⟩ := ends
    · exact readings_congr moved.events type _
    · refine (readings_joined joined fun here => ?_).trans (readings_congr moved.events type _)
      have same : event.record.executionId = executionId := by
        rw [record]
        rfl
      obtain ⟨concerns, -⟩ := concerned_eq found active present (here.symm.trans same) within
      rw [concerns] at safe
      have keeps : keepsOrder stores scope executionId context.scope = true := by
        cases detector with
        | agentExecutionFailureRate => cases reads
        | executionLatencyRegression => cases reads
        | toolFailureRate => exact safe
        | evaluationFailureRate => exact safe
        | policyDenialRate => exact safe
        | repeatedRuntimeError => exact safe
      refine ⟨readsEvent_eq_false (Or.inl ?_), ?_⟩
      · rw [record]
        exact (readsEvents_apart reads).2
      · rw [moved.events, ← here, same]
        exact room_of_keepsOrder keeps (by rw [record]; rfl)

theorem line?_outside (outside : inWindow scope window execution = false) (late : window.record.baselineStart ≤ start)
    (early : stop ≤ window.record.observedEnd) : line? detector subjectId scope start stop execution = none := by
  unfold line?
  rw [if_neg]
  rintro ⟨seen, notBefore, notAfter⟩
  rw [inWindow_of_listed late early notBefore notAfter seen] at outside
  cases outside

theorem ingestStart_same {submission : StartSubmission}
    (safe : harmless detector subjectId scope window stores (.ingestStart submission context ambient) = true)
    (unused : stores.executions.byId.get? ambient.executionId = none)
    (started : Started stores submission context ambient after) :
    SameReadings detector subjectId scope window stores after := by
  unfold harmless at safe
  dsimp only at safe
  obtain rfl | ⟨existing, known, received, moved⟩ | ⟨unknown, execution, joined, record, saved, ends⟩ := started
  · exact SameReadings.refl
  · rw [known] at safe
    refine ⟨fun late early => ?_, fun {type} _ {listed} _ _ => readings_congr moved.events type _⟩
    refine lines_moved moved (fun within own => ⟨fun _ => ?_, fun latency => ?_⟩) late early
    · rw [received]
      rfl
    · simp [latency, own, received, within] at safe
      exact safe.symm
  · rw [unknown] at safe
    have named : execution.record.executionId = ambient.executionId := by
      rw [record]
      rfl
    have executions : joined.executions = stores.executions.save execution := by
      obtain rfl | ⟨_, _, inserted⟩ := saved
      · rfl
      · exact inserted.executions
    have outside : inWindow scope window execution = false := by
      have filed : execution.record.createdAt = ambient.now ∧
          execution.record.organizationId = context.scope.organizationId ∧
          execution.record.projectId = context.scope.projectId := by
        rw [record]
        exact ⟨rfl, rfl, rfl⟩
      obtain ⟨created, organization, project⟩ := filed
      unfold inWindow
      rw [created, organization, project]
      simp only [Bool.or_eq_true, decide_eq_true_eq, Bool.not_eq_true'] at safe
      rcases safe with after | unseen
      · have notWithin : ¬ ambient.now ≤ window.record.observedEnd := Nat.not_le.mpr after
        rw [decide_eq_false notWithin, Bool.and_false]
      · rw [unseen, Bool.false_and, Bool.false_and]
    refine ⟨fun {start stop} late early => ?_, fun {type} reads {listed} present within => ?_⟩
    · have kept : lines detector subjectId scope start stop joined = lines detector subjectId scope start stop stores := by
        refine lines_set (executions ▸ rfl : joined.executions.byId =
          stores.executions.byId.set execution.record.executionId execution) ?_
        rw [named, unused]
        exact line?_outside outside late early
      obtain rfl | moved := ends
      · exact kept
      · refine (lines_moved moved (fun within => ?_) late early).trans kept
        cases within.symm.trans outside
    · have events : readings joined detector subjectId scope type window.record.finalizationCutoffAt
          listed.record.executionId = readings stores detector subjectId scope type
            window.record.finalizationCutoffAt listed.record.executionId := by
        obtain rfl | ⟨event, started, inserted⟩ := saved
        · rfl
        · refine readings_joined inserted fun here => ?_
          -- The event is filed under the new identifier, which no stored execution has.
          rw [← here, started] at present
          cases present.symm.trans unused
      obtain rfl | moved := ends
      · exact events
      · exact (readings_congr moved.events type _).trans events

theorem perform_denied {call : LaterCall} (denied : call.permitted = false) :
    call.perform primitives stores = stores := by
  cases call with
  | ingestStart submission context ambient =>
    have denied : ambient.permitted = false := denied
    simp [LaterCall.perform, ingestStart, enforce, denied]
  | ingestEvent submission context ambient =>
    have denied : ambient.permitted = false := denied
    simp [LaterCall.perform, ingestEvent, enforce, denied]
  | markCompleted executionId status context ambient =>
    have denied : ambient.permitted = false := denied
    simp [LaterCall.perform, markCompleted, enforce, denied]

/-- A harmless call leaves what the metrics read. -/
theorem perform_same {call : LaterCall} (unused : call.fresh stores = true)
    (safe : harmless detector subjectId scope window stores call = true) :
    SameReadings detector subjectId scope window stores (call.perform primitives stores) := by
  cases call with
  | ingestStart submission context ambient =>
    refine ingestStart_same safe ?_ (ingestStart_ensures submission)
    exact Option.isNone_iff_eq_none.mp unused
  | ingestEvent submission context ambient =>
    obtain same | ⟨event, -, accepted⟩ := ingestEvent_ensures primitives stores submission context ambient
    · dsimp only [LaterCall.perform]
      rw [same]
      exact SameReadings.refl
    · exact ingestEvent_same safe accepted
  | markCompleted executionId status context ambient =>
    exact markCompleted_same safe (markCompleted_ensures executionId status)

end Calls

/-! ## Runs of later calls -/

/-- Recomputed after any run of denied or harmless calls, the metrics of a window are those its decision was based on. -/
theorem finalized_metrics_kept (primitives : Primitives) (detector : SupportedDetector) (subjectId : String)
    (scope : Scope) (window : ReconciliationWindow) (calls : List LaterCall) (stores : Stores)
    (safe : allHarmless primitives detector subjectId scope window calls stores = true) :
    windowMetrics primitives (performLater primitives calls stores) scope detector subjectId window =
      windowMetrics primitives stores scope detector subjectId window := by
  induction calls generalizing stores with
  | nil => rfl
  | cons call rest ih =>
    unfold allHarmless at safe
    rw [Bool.and_eq_true, Bool.and_eq_true] at safe
    obtain ⟨⟨unused, harmlessHere⟩, later⟩ := safe
    have kept : SameReadings detector subjectId scope window stores (call.perform primitives stores) := by
      rw [Bool.or_eq_true, Bool.not_eq_true'] at harmlessHere
      cases harmlessHere with
      | inl denied =>
        rw [perform_denied denied]
        exact SameReadings.refl
      | inr safeHere => exact perform_same unused safeHere
    calc windowMetrics primitives (performLater primitives (call :: rest) stores) scope detector subjectId window
        = windowMetrics primitives (call.perform primitives stores) scope detector subjectId window :=
          ih (call.perform primitives stores) later
      _ = windowMetrics primitives stores scope detector subjectId window :=
          windowMetrics_same kept

/-- Two hours' lateness. -/
def twoHoursLate : EvidenceWindowFinalizationPolicy := ⟨2, by decide⟩

/-- The day that ends when the run starts. -/
def startDay : ReconciliationWindow := ⟨{
  observedStart := ⟨62999913600000000⟩
  observedEnd := ⟨63000000000000000⟩
  baselineStart := ⟨62999308800000000⟩
  baselineEnd := ⟨62999913600000000⟩
  finalizationCutoffAt := some ⟨63000007200000000⟩
  latenessPolicyHours := some 2 }, by decide⟩

/-- What a call of the agent draws, so many seconds past the cutoff. -/
def secondsPastCutoff (seconds : Nat) (eventId : String) : Ambient :=
  { permitted := true, now := ⟨63000007200000000 + seconds * Instant.second⟩, executionId := "exec-2", eventId }

/-- A failed call of the search tool. -/
def failedSearch : EventSubmission where
  executionId := "exec-1"
  eventType := .toolCall
  attributes := [("tool_id", .str "search"), ("status", .str "failed")]
  occurredAt := some ⟨63000000000000000⟩

/-- The agent's own context. -/
def agentContext : TenantContext := ⟨claimsScope, "agent-1", none⟩

/-- The stores the day is reconciled in: the run has called the tool half an hour after its start. -/
def reconciledStores : Stores :=
  (LaterCall.ingestEvent failedSearch agentContext
    { claimsAmbient "event-2" with now := ⟨63000001800000000⟩ }).perform claimsPlatform.primitives runningStores

/-- The run calls the tool again after the cutoff, is announced again, and fails. -/
def runGoesOn : List LaterCall :=
  [.ingestEvent failedSearch agentContext (secondsPastCutoff 1 "event-3"),
    .ingestStart claimsStart agentContext (secondsPastCutoff 2 "event-4"),
    .markCompleted "exec-1" .failed agentContext (secondsPastCutoff 3 "event-5")]

theorem finalized_metrics_kept_runGoesOn :
    allHarmless claimsPlatform.primitives .toolFailureRate "search" claimsScope startDay runGoesOn
        reconciledStores = true ∧
      (windowMetrics claimsPlatform.primitives reconciledStores claimsScope .toolFailureRate "search" startDay).2 =
        [("total_calls", 1), ("failures", 1)] ∧
      windowMetrics claimsPlatform.primitives (performLater claimsPlatform.primitives runGoesOn reconciledStores)
          claimsScope .toolFailureRate "search" startDay =
        windowMetrics claimsPlatform.primitives reconciledStores claimsScope .toolFailureRate "search" startDay := by
  have safe : allHarmless claimsPlatform.primitives .toolFailureRate "search" claimsScope startDay runGoesOn
      reconciledStores = true := by decide +kernel
  exact ⟨safe, by decide +kernel, finalized_metrics_kept claimsPlatform.primitives .toolFailureRate "search"
    claimsScope startDay runGoesOn reconciledStores safe⟩

/-- The day is reconciled at its cutoff. That the run calls the tool in the same instant changes the tool's
metrics, and that it fails later changes the agent's. -/
theorem finalized_metrics_changed :
    completedReconciliationWindow ⟨63000007200000000⟩ (windowsFor (.detector 7 24 1)) twoHoursLate = .ok startDay ∧
      startDay.record.finalizationCutoffAt = some ⟨63000007200000000⟩ ∧
      (let calls := [LaterCall.ingestEvent failedSearch agentContext (secondsPastCutoff 0 "event-3")]
      (∀ call ∈ calls, (⟨63000007200000000⟩ : Instant) ≤ call.now) ∧
        windowMetrics claimsPlatform.primitives (performLater claimsPlatform.primitives calls reconciledStores)
          claimsScope .toolFailureRate "search" startDay ≠
        windowMetrics claimsPlatform.primitives reconciledStores claimsScope .toolFailureRate "search" startDay) ∧
      (let calls := [LaterCall.markCompleted "exec-1" .failed agentContext (secondsPastCutoff 60 "event-3")]
      (∀ call ∈ calls, (⟨63000007200000000⟩ : Instant) ≤ call.now) ∧
        windowMetrics claimsPlatform.primitives (performLater claimsPlatform.primitives calls reconciledStores)
          claimsScope .agentExecutionFailureRate "agent-1" startDay ≠
        windowMetrics claimsPlatform.primitives reconciledStores claimsScope .agentExecutionFailureRate "agent-1"
          startDay) := by
  refine ⟨by decide +kernel, rfl, ⟨by decide +kernel, by decide +kernel⟩, by decide +kernel, by decide +kernel⟩

end AiGovernance.Findings
