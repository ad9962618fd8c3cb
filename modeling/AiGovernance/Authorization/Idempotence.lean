import AiGovernance.Authorization.Evaluation
import AiGovernance.Semantics.Pool
import AiGovernance.Services.Platform

/-!
# Idempotent authorization

Any number of `authorize` calls run interleaved over one event store, while
policies, delegations and executions change and other services append their
own events. The store keeps at most one authorization event for a key of an
execution, every call that returns hands back the decision of that event, and
a call that meets the event with other input is turned away with nothing
stored.
-/

namespace AiGovernance.Authorization

open AiGovernance.Std Domain Repositories
open Semantics Services Discipline

variable {primitives : Primitives} {config : AuthorizationConfig} {call : AuthorizationCall}

/-! ## Stored authorization events -/

/-- The key of the idempotency table a call reads and writes. -/
def tableKey (call : AuthorizationCall) : String × String :=
  (eventIdempotencyKey call.request.record.idempotencyKey, call.request.record.executionId)

/-- The event `_decision_event` builds for a decision of the call. -/
def Records (primitives : Primitives) (config : AuthorizationConfig) (call : AuthorizationCall)
    (decision : RuntimeActionAuthorizationDecision) (event : AgentExecutionEvent) : Prop :=
  DecidedFor primitives config call decision ∧
    ∃ sequenceNumber, event.record = decisionEventRecord primitives call decision sequenceNumber

/-- Every authorization event in the store records a decision and is filed under its key. -/
def Recorded (primitives : Primitives) (config : AuthorizationConfig) (events : EventStore) : Prop :=
  ∀ {eventId event}, events.tables.byId.get? eventId = some event →
    event.record.eventType = .runtimeActionAuthorization →
    ∃ call decision, Records primitives config call decision event ∧
      events.tables.byIdempotency.get? (tableKey call) = some event

variable {decision : RuntimeActionAuthorizationDecision} {event : AgentExecutionEvent}

theorem Records.carries (records : Records primitives config call decision event) :
    Carries primitives call.request decision event := by
  obtain ⟨-, sequenceNumber, record⟩ := records
  exact ⟨by rw [record]; rfl, by rw [record]; rfl, by rw [record]; rfl, by rw [record]; rfl,
    by rw [record]; rfl, by rw [record]; exact Json.sameFields_self _⟩

theorem Records.storedDecision (records : Records primitives config call decision event) :
    storedDecision primitives event = some decision :=
  records.carries.storedDecision records.1.fingerprint

/-- The event is filed under the execution and key the decision names. -/
theorem Records.tableKey_eq (records : Records primitives config call decision event) :
    tableKey call =
      (eventIdempotencyKey decision.record.idempotencyKey, event.record.executionId) := by
  obtain ⟨⟨_, _, _, _, _, _, decided⟩, sequenceNumber, record⟩ := records
  rw [record]
  simp [decisionEventRecord, decided, Services.decision, tableKey]

variable {events : EventStore}

theorem Recorded.insert (recorded : Recorded primitives config events) {idempotencyKey : Option String}
    (nothing : events.tables.precheck event idempotencyKey = .ok none)
    (authorizes : event.record.eventType = .runtimeActionAuthorization →
      ∃ call decision, Records primitives config call decision event ∧
        idempotencyKey = some (tableKey call).1) :
    Recorded primitives config
      (events.insert event idempotencyKey (EventTables.precheck_eq_none nothing).1) := by
  intro eventId stored found authorization
  rw [EventStore.byId_insert] at found
  split at found
  · cases found
    obtain ⟨call, decision, records, rfl⟩ := authorizes authorization
    refine ⟨call, decision, records, ?_⟩
    rw [EventStore.byIdempotency_insert, records.tableKey_eq, if_pos rfl]
  · obtain ⟨call, decision, records, filed⟩ := recorded found authorization
    exact ⟨call, decision, records, (EventStore.extends_insert nothing).byIdempotency filed⟩

theorem Recorded.save (recorded : Recorded primitives config events) {idempotencyKey : Option String}
    (authorizes : event.record.eventType = .runtimeActionAuthorization →
      ∃ call decision, Records primitives config call decision event ∧
        idempotencyKey = some (tableKey call).1) : Recorded primitives config (events.save event idempotencyKey).2 := by
  rcases events.save_cases event idempotencyKey with ⟨_, saved, -⟩ | ⟨_, saved, -⟩ | ⟨_, saved, nothing⟩
  · rw [saved]
    exact recorded
  · rw [saved]
    exact recorded
  · rw [saved]
    exact recorded.insert nothing authorizes

/-- Reading a stored event back as a decision either gives the decision it records,
bound to the request, or is a conflict. -/
theorem existingDecision_cases (recorded : Recorded primitives config events) {key executionId : String}
    (filed : events.tables.byIdempotency.get? (key, executionId) = some event)
    (request : RuntimeActionAuthorizationRequest) (actorId : String) :
    existingDecision primitives request actorId event = .error reusedKey ∨
      ∃ decision, existingDecision primitives request actorId event = .ok decision ∧
        storedDecision primitives event = some decision ∧
        decision.matchesRequest primitives request actorId = true := by
  unfold existingDecision
  split
  · exact Or.inl rfl
  · rename_i eligible
    simp only [not_or, Decidable.not_not] at eligible
    obtain ⟨call, decision, records, -⟩ :=
      recorded (events.coherent.idempotent filed).1 eligible.1
    rw [records.storedDecision]
    simp only
    split
    · exact Or.inl rfl
    · rename_i matching
      exact Or.inr ⟨decision, rfl, rfl, by simpa using matching⟩

/-! ## The pool of calls -/

/-- Calls that authorize while everything else may change: policies, delegations and
executions in any way, and events of other types stored under any key. -/
def authorizations (primitives : Primitives) (config : AuthorizationConfig) :
    Pool repositories Stores AuthorizationCall RuntimeActionAuthorizationDecision where
  handler := inMemory primitives
  body := authorize primitives config
  offered := fun _ => True
  environment := fun before after =>
    after.events = before.events ∨
      ∃ event idempotencyKey, event.record.eventType ≠ .runtimeActionAuthorization ∧
        after.events = (before.events.save event idempotencyKey).2
  admits := fun _ _ _ => True

/-- Interference an authorization tolerates: recorded stores stay recorded and only grow. -/
def interference (primitives : Primitives) (config : AuthorizationConfig) :
    Discipline repositories Stores where
  handler := inMemory primitives
  admits := fun _ _ _ => True
  rely := fun before after => Recorded primitives config before.events →
    Recorded primitives config after.events ∧ EventStore.Extends before.events after.events
  refl := fun stores recorded => ⟨recorded, EventStore.Extends.refl stores.events⟩
  trans := fun first second recorded =>
    have middle := first recorded
    have last := second middle.1
    ⟨last.1, middle.2.trans last.2⟩

/-- The call met `event` under its key: at a lookup, or when it tried to save. -/
def Met (call : AuthorizationCall) (log : CommandLog repositories Stores)
    (event : AgentExecutionEvent) : Prop :=
  ∃ entry ∈ log,
    (entry.2 = .findEventByIdempotencyKey (tableKey call).1 (tableKey call).2 call.context.scope ∧
        entry.1.events.findByIdempotencyKey (tableKey call).1 (tableKey call).2 call.context.scope =
          some event) ∨
      ∃ attempted, entry.2 = .saveEvent attempted (some (tableKey call).1) ∧
        entry.1.events.tables.byIdempotency.get? (tableKey call) = some event

/-- Once the key of the call was taken, none of its steps changed anything. -/
def Harmless (primitives : Primitives) (call : AuthorizationCall)
    (log : CommandLog repositories Stores) : Prop :=
  ∀ entry ∈ log, ∀ event,
    entry.1.events.tables.byIdempotency.get? (tableKey call) = some event →
      (inMemory primitives entry.2 entry.1).2 = entry.1

/-- What the call met is what the store holds under its key. -/
def MetStored (call : AuthorizationCall) (log : CommandLog repositories Stores)
    (events : EventStore) : Prop :=
  ∀ {event}, Met call log event → events.tables.byIdempotency.get? (tableKey call) = some event

/-- What holds of a finished call: it returned the decision stored under its key, bound to
its request and actor; if it met a stored event and raised, it raised the conflict; and
once its key was taken, none of its steps changed anything. -/
structure Answered (primitives : Primitives) (call : AuthorizationCall)
    (log : CommandLog repositories Stores)
    (result : Except Raised RuntimeActionAuthorizationDecision) (stores : Stores) : Prop where
  returned : ∀ {decision}, result = .ok decision → ∃ event,
    stores.events.tables.byIdempotency.get? (tableKey call) = some event ∧
      storedDecision primitives event = some decision ∧
      decision.matchesRequest primitives call.request call.context.actorId = true
  met : MetStored call log stores.events
  conflict : ∀ {raised event}, result = .error raised → Met call log event → raised = reusedKey
  harmless : Harmless primitives call log

/-- Nothing was met yet, and every step so far was a read. -/
structure Quiet (call : AuthorizationCall) (log : CommandLog repositories Stores) : Prop where
  unmet : ∀ {event}, ¬ Met call log event
  reads : ∀ entry ∈ log, entry.2.isRead = true

theorem Quiet.nil : Quiet call [] := by
  constructor
  · rintro event ⟨entry, member, -⟩
    cases member
  · intro entry member
    cases member

variable {stores : Stores} {log : CommandLog repositories Stores}

private theorem Quiet.snoc (quiet : Quiet call log) {command : Command} (read : command.isRead = true)
    (blind : ∀ event, command = .findEventByIdempotencyKey (tableKey call).1 (tableKey call).2
      call.context.scope → stores.events.findByIdempotencyKey (tableKey call).1 (tableKey call).2
        call.context.scope ≠ some event) : Quiet call (log ++ [(stores, command)]) := by
  constructor
  · rintro event ⟨entry, member, meeting⟩
    rcases List.mem_append.mp member with earlier | last
    · exact quiet.unmet ⟨entry, earlier, meeting⟩
    · obtain rfl := List.mem_singleton.mp last
      rcases meeting with ⟨lookup, found⟩ | ⟨attempted, saving, -⟩
      · exact blind event lookup found
      · rw [show command = _ from saving] at read
        cases read
  · intro entry member
    rcases List.mem_append.mp member with earlier | last
    · exact quiet.reads entry earlier
    · obtain rfl := List.mem_singleton.mp last
      exact read

theorem harmless_of_reads (reads : ∀ entry ∈ log, entry.2.isRead = true) : Harmless primitives call log :=
  fun entry member _ _ => inMemory_of_isRead primitives (reads entry member) entry.1

private theorem Harmless.snoc (harmless : Harmless primitives call log) (stores : Stores) (command : Command)
    (read : command.isRead = true) : Harmless primitives call (log ++ [(stores, command)]) := by
  intro entry member event taken
  rcases List.mem_append.mp member with earlier | last
  · exact harmless entry earlier event taken
  · obtain rfl := List.mem_singleton.mp last
    exact inMemory_of_isRead primitives read stores

/-- What is met at one more step is stored in the state of that step. -/
private theorem MetStored.snoc (stored : MetStored call log stores.events) (command : Command) :
    MetStored call (log ++ [(stores, command)]) stores.events := by
  rintro event ⟨entry, member, meeting⟩
  rcases List.mem_append.mp member with earlier | last
  · exact stored ⟨entry, earlier, meeting⟩
  · obtain rfl := List.mem_singleton.mp last
    rcases meeting with ⟨-, found⟩ | ⟨_, -, filed⟩
    · exact (Option.filter_eq_some_iff.mp found).1
    · exact filed

/-- A quiet call may raise anything: it met nothing and changed nothing. -/
private theorem Quiet.raises (quiet : Quiet call log) (raised : Raised) (stores : Stores) :
    Answered primitives call log (.error raised) stores :=
  ⟨fun impossible => (nomatch impossible), fun met => absurd met quiet.unmet,
    fun _ met => absurd met quiet.unmet, harmless_of_reads quiet.reads⟩

/-- Reading the event met under the key back ends the call as it must. -/
theorem answered_existing (recorded : Recorded primitives config stores.events)
    (filed : stores.events.tables.byIdempotency.get? (tableKey call) = some event)
    (met : MetStored call log stores.events) (harmless : Harmless primitives call log) {later : Stores}
    (related : (interference primitives config).rely stores later) :
    Answered primitives call log
      (existingDecision primitives call.request call.context.actorId event) later := by
  have metLater : MetStored call log later.events :=
    fun meeting => (related recorded).2.byIdempotency (met meeting)
  rcases existingDecision_cases recorded filed call.request call.context.actorId with
    conflict | ⟨decision, returned, stored, matching⟩
  · rw [conflict]
    refine ⟨fun impossible => (nomatch impossible), metLater, fun same _ => ?_, harmless⟩
    exact (Except.error.inj same).symm
  · rw [returned]
    refine ⟨fun same => ?_, metLater, fun impossible => (nomatch impossible), harmless⟩
    cases same
    exact ⟨event, (related recorded).2.byIdempotency filed, stored, matching⟩

theorem precheck_conflict {key : String} {raised : Raised} (noTool : event.record.toolCallContext = none)
    (failed : events.tables.precheck event (some key) = .error raised) :
    raised.kind = .agentExecutionIdempotencyConflict := by
  unfold EventTables.precheck at failed
  split at failed
  · split at failed <;> cases failed
    rfl
  · split at failed
    · split at failed <;> cases failed
      rfl
    · rw [noTool] at failed
      cases failed

/-- An equal event found under the identifier is filed under the call's own key and
records the call's own decision. -/
theorem same_event_filed (recorded : Recorded primitives config events) {existing : AgentExecutionEvent}
    (records : Records primitives config call decision event)
    (found : events.tables.byId.get? event.record.eventId = some existing)
    (same : AgentExecutionEvent.sameEvent existing event = true) :
    events.tables.byIdempotency.get? (tableKey call) = some existing ∧
      storedDecision primitives existing = some decision := by
  obtain ⟨fields, attributes⟩ := AgentExecutionEvent.sameEvent_fields same
  have carried := records.carries
  have carries : Carries primitives call.request decision existing := by
    obtain ⟨-, sequenceNumber, record⟩ := records
    injection fields with eventId executionId _ _ eventType _ occurredAt _ correlationId
    refine ⟨eventId.trans carried.eventId, executionId.trans carried.executionId,
      occurredAt.trans carried.occurredAt, correlationId.trans carried.correlationId,
      eventType.trans carried.eventType, ?_⟩
    rw [record] at attributes
    exact attributes
  have stored := carries.storedDecision records.1.fingerprint
  obtain ⟨origin, recordedDecision, originRecords, filed⟩ := recorded found carries.eventType
  obtain rfl : recordedDecision = decision :=
    Option.some.inj (originRecords.storedDecision.symm.trans stored)
  refine ⟨?_, stored⟩
  rw [records.tableKey_eq, carried.executionId.trans carries.executionId.symm,
    ← originRecords.tableKey_eq]
  exact filed

/-- Storing the event of a decision ends the call as it must. -/
theorem recordDecision_upholds (recorded : Recorded primitives config stores.events) (quiet : Quiet call log)
    (records : Records primitives config call decision event) :
    (interference primitives config).Upholds (Answered primitives call)
      (recordDecision primitives call decision event) log stores := by
  have execution : (tableKey call).2 = event.record.executionId := by
    rw [records.tableKey_eq]
  have noTool : event.record.toolCallContext = none := by
    obtain ⟨-, sequenceNumber, record⟩ := records
    rw [record]
    rfl
  refine upholds_attempt_bind (fun later _ _ holds => ?_) fun later answer after related _ outcome => ?_
  · exact ⟨holds.save fun _ => ⟨call, decision, records, rfl⟩, EventStore.extends_save⟩
  · obtain ⟨holds, -⟩ := related recorded
    have harmless : Harmless primitives call
        (log ++ [(later, Command.saveEvent event (some (tableKey call).1))]) := by
      intro entry member stored taken
      rcases List.mem_append.mp member with earlier | last
      · exact inMemory_of_isRead primitives (quiet.reads entry earlier) entry.1
      · obtain rfl := List.mem_singleton.mp last
        have filed : later.events.tables.byIdempotency.get?
            ((tableKey call).1, event.record.executionId) = some stored := by
          rw [← execution]
          exact taken
        simp only [inMemory, EventStore.save_of_taken filed]
    have met : MetStored call (log ++ [(later, Command.saveEvent event (some (tableKey call).1))])
        later.events := MetStored.snoc (fun meeting => absurd meeting quiet.unmet) _
    change inMemory primitives (.saveEvent event (some (tableKey call).1)) later =
      (answer, after) at outcome
    rcases later.events.save_cases event (some (tableKey call).1) with
      ⟨raised, saved, failed⟩ | ⟨existing, saved, replayed⟩ | ⟨absent, saved, nothing⟩
    · simp only [inMemory, saved, Prod.mk.injEq] at outcome
      obtain ⟨rfl, rfl⟩ := outcome
      simp only [if_pos (precheck_conflict noTool failed)]
      refine upholds_call_bind (fun _ _ _ => (interference primitives config).refl _) ?_ ?_
      · intro found reread after rereading _ answered
        obtain ⟨stillHolds, extended⟩ := rereading holds
        have metLater : MetStored call (_ ++ [(found, Command.findEventByIdempotencyKey
            (tableKey call).1 (tableKey call).2 call.context.scope)]) found.events :=
          MetStored.snoc (fun meeting => extended.byIdempotency (met meeting)) _
        change inMemory primitives (.findEventByIdempotencyKey (tableKey call).1 (tableKey call).2
          call.context.scope) found = (.ok reread, after) at answered
        simp only [inMemory, Prod.mk.injEq, Except.ok.injEq] at answered
        obtain ⟨rfl, rfl⟩ := answered
        have harmlessLater := harmless.snoc found (.findEventByIdempotencyKey (tableKey call).1
          (tableKey call).2 call.context.scope) rfl
        cases lookup : found.events.findByIdempotencyKey (tableKey call).1 (tableKey call).2
            call.context.scope with
        | none =>
          intro final related
          exact ⟨fun impossible => (by cases impossible),
            fun meeting => (related stillHolds).2.byIdempotency (metLater meeting),
            fun same _ => (Except.error.inj same).symm, harmlessLater⟩
        | some existing =>
          refine upholds_ofExcept fun final related => ?_
          exact answered_existing stillHolds (Option.filter_eq_some_iff.mp lookup).1
            metLater harmlessLater related
      · intro found exception after _ _ answered
        cases answered
    · simp only [inMemory, saved, Prod.mk.injEq] at outcome
      obtain ⟨rfl, rfl⟩ := outcome
      rcases EventTables.precheck_eq_some replayed with ⟨byId, same⟩ | ⟨absent, key, sameKey, filed, -⟩
      · obtain ⟨filed, stored⟩ := same_event_filed holds records byId same
        have equal : existing.record.eventId = event.record.eventId := later.events.coherent.keyed byId
        simp only [if_neg (not_not.mpr equal)]
        intro final related
        refine ⟨fun returned => ?_, fun meeting => (related holds).2.byIdempotency (met meeting),
          fun impossible => (by cases impossible), harmless⟩
        cases returned
        exact ⟨existing, (related holds).2.byIdempotency filed, stored, records.1.matchesRequest⟩
      · cases sameKey
        have different : existing.record.eventId ≠ event.record.eventId := by
          intro equal
          have stored := (later.events.coherent.idempotent filed).1
          rw [equal, absent] at stored
          cases stored
        simp only [if_pos different]
        refine upholds_ofExcept fun final related => ?_
        exact answered_existing holds (by rw [← execution] at filed; exact filed) met harmless related
    · simp only [inMemory, saved, Prod.mk.injEq] at outcome
      obtain ⟨rfl, rfl⟩ := outcome
      simp only [ne_eq, not_true_eq_false, if_false]
      intro final related
      have after : Recorded primitives config (later.events.insert event (some (tableKey call).1) absent) :=
        holds.insert nothing fun _ => ⟨call, decision, records, rfl⟩
      refine ⟨fun returned => ?_, fun meeting => (related after).2.byIdempotency
        ((EventStore.extends_insert nothing).byIdempotency (met meeting)),
        fun impossible => (by cases impossible), harmless⟩
      cases returned
      refine ⟨event, (related after).2.byIdempotency ?_, records.storedDecision,
        records.1.matchesRequest⟩
      rw [EventStore.byIdempotency_insert, ← execution, if_pos rfl]

theorem authorizeAnew_upholds (recorded : Recorded primitives config stores.events) (quiet : Quiet call log)
    (correlationId : Option String) :
    (interference primitives config).Upholds (Answered primitives call)
      (authorizeAnew primitives config call correlationId) log stores := by
  refine upholds_within_bind (evaluate_within)
    (fun command state consults => inMemory_of_isRead primitives consults.isRead state)
    (fun log state command quiet consults => ?_) quiet ?_ ?_
  · refine Quiet.snoc quiet consults.isRead fun event lookup => ?_
    subst lookup
    cases consults
  · intro decision log later decided quiet related
    obtain ⟨holds, -⟩ := related recorded
    refine upholds_bind (upholds_call_bind
      (fun _ _ _ => (interference primitives config).refl _) ?_ ?_)
    · intro reading highest after rereading _ answered
      obtain ⟨stillHolds, -⟩ := rereading holds
      cases answered
      have quietLater : Quiet call (log ++ [(reading, .maxSequenceNumber decision.record.executionId
          call.context.scope)]) := Quiet.snoc quiet rfl fun event lookup => by cases lookup
      refine upholds_ofExcept fun final related => ?_
      obtain ⟨holdsFinally, -⟩ := related stillHolds
      cases created : (Checked.create (decisionEventRecord primitives call decision
          (reading.events.maxSequenceNumber decision.record.executionId call.context.scope + 1)) :
            Except Raised AgentExecutionEvent) with
      | error raised => exact quietLater.raises raised final
      | ok event =>
        exact recordDecision_upholds holdsFinally quietLater
          ⟨decided, _, Checked.create_eq_ok_iff.mp created⟩
    · intro reading exception after _ _ answered
      cases answered
  · intro raised log later quiet related
    exact quiet.raises raised later

/-- Whatever else happens to the stores, an `authorize` call ends as it must. -/
theorem authorize_upholds (recorded : Recorded primitives config stores.events) :
    (interference primitives config).Upholds (Answered primitives call)
      (authorize primitives config call) [] stores := by
  refine upholds_call_bind (fun _ _ _ => (interference primitives config).refl _) ?_ ?_
  · intro reading execution after rereading _ answered
    obtain ⟨holds, -⟩ := rereading recorded
    cases answered
    have quiet : Quiet call ([] ++ [(reading, .getExecution call.request.record.executionId
        call.context.scope)]) := Quiet.snoc Quiet.nil rfl fun event lookup => by cases lookup
    split
    · exact fun later _ => quiet.raises _ later
    · refine upholds_ofExcept_bind (fun correlationId _ => ?_)
        fun raised _ later _ => quiet.raises raised later
      refine upholds_call_bind (fun _ _ _ => (interference primitives config).refl _) ?_ ?_
      · intro looking existing after rereading _ answered
        obtain ⟨stillHolds, -⟩ := rereading holds
        change inMemory primitives (.findEventByIdempotencyKey (tableKey call).1 (tableKey call).2
          call.context.scope) looking = (.ok existing, after) at answered
        simp only [inMemory, Prod.mk.injEq, Except.ok.injEq] at answered
        obtain ⟨rfl, rfl⟩ := answered
        cases lookup : looking.events.findByIdempotencyKey (tableKey call).1 (tableKey call).2
            call.context.scope with
        | none =>
          refine authorizeAnew_upholds stillHolds (Quiet.snoc quiet rfl fun event _ found => ?_)
            correlationId
          rw [lookup] at found
          cases found
        | some existing =>
          refine upholds_ofExcept fun final related => ?_
          exact answered_existing stillHolds (Option.filter_eq_some_iff.mp lookup).1
            (MetStored.snoc (fun meeting => absurd meeting quiet.unmet) _)
            (Harmless.snoc (harmless_of_reads quiet.reads) looking
              (.findEventByIdempotencyKey (tableKey call).1 (tableKey call).2 call.context.scope)
              rfl) related
      · intro looking exception after _ _ answered
        cases answered
  · intro reading exception after _ _ answered
    cases answered

/-! ## Every interleaving -/

theorem environment_interferes {before after : Stores}
    (changed : (authorizations primitives config).environment before after) :
    (interference primitives config).rely before after := by
  intro recorded
  rcases changed with same | ⟨event, idempotencyKey, other, saved⟩
  · rw [same]
    exact ⟨recorded, EventStore.Extends.refl _⟩
  · rw [saved]
    exact ⟨recorded.save fun authorization => absurd authorization other,
      EventStore.extends_save⟩

theorem recorded_empty : Recorded primitives config EventStore.empty :=
  fun found => nomatch found

/-- What holds in every configuration the calls can reach. -/
structure Idempotent (primitives : Primitives)
    (reached : Config repositories Stores AuthorizationCall RuntimeActionAuthorizationDecision) :
    Prop where
  /-- At most one authorization event is stored for a key of an execution. -/
  unique : ∀ {left right leftDecision rightDecision},
    reached.state.events.tables.byId.get? left.record.eventId = some left →
    reached.state.events.tables.byId.get? right.record.eventId = some right →
    left.record.eventType = .runtimeActionAuthorization →
    right.record.eventType = .runtimeActionAuthorization →
    storedDecision primitives left = some leftDecision →
    storedDecision primitives right = some rightDecision →
    leftDecision.record.idempotencyKey = rightDecision.record.idempotencyKey →
    left.record.executionId = right.record.executionId → left = right
  /-- A call that returned has handed back the decision stored under its key, field for
  field, and that decision was made for its fingerprint and actor. -/
  returned : ∀ thread ∈ reached.threads, ∀ {decision}, thread.Finished (.ok decision) → ∃ event,
    reached.state.events.tables.byIdempotency.get? (tableKey thread.call) = some event ∧
      storedDecision primitives event = some decision ∧
      decision.record.requestFingerprint = thread.call.request.fingerprint primitives ∧
      decision.record.actorId = thread.call.context.actorId
  /-- A call that met a stored event which was decided for another fingerprint or actor
  has raised the conflict. -/
  conflict : ∀ thread ∈ reached.threads, ∀ {result event decision}, thread.Finished result →
    Met thread.call thread.log event → storedDecision primitives event = some decision →
    decision.record.requestFingerprint ≠ thread.call.request.fingerprint primitives ∨
      decision.record.actorId ≠ thread.call.context.actorId → result = .error reusedKey
  /-- Once the key of a call was taken, its steps changed nothing. -/
  harmless : ∀ thread ∈ reached.threads, ∀ {result}, thread.Finished result →
    Harmless primitives thread.call thread.log

theorem matchesRequest_bound {request : RuntimeActionAuthorizationRequest} {actorId : String}
    (matching : decision.matchesRequest primitives request actorId = true) :
    decision.record.requestFingerprint = request.fingerprint primitives ∧
      decision.record.actorId = actorId := by
  simp only [RuntimeActionAuthorizationDecision.matchesRequest, Bool.and_eq_true,
    decide_eq_true_eq] at matching
  exact ⟨matching.2, matching.1.1.2⟩

private theorem Recorded.unique (recorded : Recorded primitives config events) {left right : AgentExecutionEvent}
    {leftDecision rightDecision : RuntimeActionAuthorizationDecision}
    (leftStored : events.tables.byId.get? left.record.eventId = some left)
    (rightStored : events.tables.byId.get? right.record.eventId = some right)
    (leftType : left.record.eventType = .runtimeActionAuthorization)
    (rightType : right.record.eventType = .runtimeActionAuthorization)
    (leftDecoded : storedDecision primitives left = some leftDecision)
    (rightDecoded : storedDecision primitives right = some rightDecision)
    (sameKey : leftDecision.record.idempotencyKey = rightDecision.record.idempotencyKey)
    (sameExecution : left.record.executionId = right.record.executionId) : left = right := by
  obtain ⟨_, _, leftRecords, leftFiled⟩ := recorded leftStored leftType
  obtain ⟨_, _, rightRecords, rightFiled⟩ := recorded rightStored rightType
  obtain rfl := Option.some.inj (leftRecords.storedDecision.symm.trans leftDecoded)
  obtain rfl := Option.some.inj (rightRecords.storedDecision.symm.trans rightDecoded)
  rw [leftRecords.tableKey_eq, sameKey, sameExecution, ← rightRecords.tableKey_eq, rightFiled]
    at leftFiled
  exact (Option.some.inj leftFiled).symm

theorem idempotent_of_answered
    {reached : Config repositories Stores AuthorizationCall RuntimeActionAuthorizationDecision}
    (recorded : Recorded primitives config reached.state.events)
    (answered : ∀ thread ∈ reached.threads, ∀ {result}, thread.Finished result →
      Answered primitives thread.call thread.log result reached.state) :
    Idempotent primitives reached where
  unique := recorded.unique
  returned := by
    intro thread member decision finished
    obtain ⟨event, filed, stored, matching⟩ := (answered thread member finished).returned rfl
    exact ⟨event, filed, stored, matchesRequest_bound matching⟩
  conflict := by
    intro thread member result event decision finished met stored different
    have holds := answered thread member finished
    cases result with
    | error raised => rw [holds.conflict rfl met]
    | ok returned =>
      obtain ⟨other, filed, otherStored, matching⟩ := holds.returned rfl
      obtain rfl : other = event := Option.some.inj (filed.symm.trans (holds.met met))
      obtain rfl : returned = decision := Option.some.inj (otherStored.symm.trans stored)
      obtain ⟨fingerprint, actor⟩ := matchesRequest_bound matching
      rcases different with other | other
      · exact absurd fingerprint other
      · exact absurd actor other
  harmless := fun thread member _ finished => (answered thread member finished).harmless

theorem run_upholds
    {start reached : Config repositories Stores AuthorizationCall RuntimeActionAuthorizationDecision}
    (reaches : (authorizations primitives config).Reaches start reached)
    (recorded : Recorded primitives config start.state.events)
    (initially : ∀ thread ∈ start.threads, (interference primitives config).Upholds
      (Answered primitives thread.call) thread.program thread.log start.state) :
    (interference primitives config).rely start.state reached.state ∧
      ∀ thread ∈ reached.threads, (interference primitives config).Upholds
        (Answered primitives thread.call) thread.program thread.log reached.state :=
  Pool.upholds_of_reaches (interference primitives config) (Answered primitives)
    (fun stores => Recorded primitives config stores.events) rfl rfl
    (fun related holds => (related holds).1) (fun _ _ holds _ => authorize_upholds holds)
    environment_interferes reaches recorded initially

/-- Interleaved `authorize` calls, with everything else changing around them, are
idempotent: in every configuration reached, and an event stored under a key at any
point of the run stays the event stored under it. -/
theorem authorizations_idempotent {stores : Stores} (fresh : stores.events = EventStore.empty)
    {between final : Config repositories Stores AuthorizationCall RuntimeActionAuthorizationDecision}
    (first : (authorizations primitives config).Reaches ⟨stores, []⟩ between)
    (rest : (authorizations primitives config).Reaches between final) :
    Idempotent primitives final ∧
      EventStore.Extends between.state.events final.state.events := by
  have recorded : Recorded primitives config stores.events := fresh ▸ recorded_empty
  obtain ⟨related, early⟩ := run_upholds first recorded (fun thread member => by cases member)
  have middle : Recorded primitives config between.state.events := (related recorded).1
  obtain ⟨grown, late⟩ := run_upholds rest middle early
  obtain ⟨last, extended⟩ := grown middle
  exact ⟨idempotent_of_answered last fun thread member _ finished =>
    (late thread member).finished finished, extended⟩

/-! ## A run of two actors -/

/-- One row of a claims table. -/
def claimsResource : RuntimeActionResource := ⟨⟨"sqlite.row", "claims/1"⟩, by decide⟩

/-- A request to update that row, naming no delegation. -/
def claimsRequest : RuntimeActionAuthorizationRequest :=
  ⟨{ executionId := "exec-1"
     actionId := "claims.update"
     resource := claimsResource
     idempotencyKey := "k-1"
     toolArgumentsDigest := some
       "sha256:1f79048b9949676db851e2ae8267447b537643bef02ecf6c653c25dc2e4a8a3d" }, by decide⟩

/-- The digests of the request and of its empty context. -/
def claimsPrimitives : Primitives :=
  .tabulated [] [
    (Json.sortKeys (.obj claimsRequest.fingerprintPayload),
      "65c2c592f0534b1027cd190e835a3f63790d8cd05034d445c4a8669af4495277"),
    (.obj [], "44136fa355b3678a1146ad16f7e8649e94fb4fc21fe77e8310c060f61caaff8a")]
    Primitives.noTexts (by decide)

/-- A running execution of the tenant. -/
def claimsExecution : AgentExecution :=
  ⟨{ executionId := "exec-1"
     organizationId := "org-1"
     projectId := some "project-1"
     agentId := "agent-1"
     agentName := "Claims agent"
     agentVersion := "1"
     externalExecutionId := "run-1"
     runtimeProvider := "langgraph"
     status := .running
     startedAt := ⟨63000000000000000⟩
     completedAt := none
     correlationId := none
     parentExecutionId := none
     createdAt := ⟨63000000000000000⟩
     updatedAt := ⟨63000000000000000⟩
     metadata := []
     version := 1 }, by decide⟩

/-- The stores with that execution and nothing else. -/
def claimsStores : Stores := { Stores.empty with executions := ExecutionStore.empty.save claimsExecution }

/-- The request, made by an actor. -/
def claimsCall (actorId decisionId : String) : AuthorizationCall :=
  ⟨claimsRequest, ⟨claimsScope, actorId, none⟩, ⟨63000000060000000⟩, decisionId⟩

/-- The first actor's denial is stored and returned; the second actor, reusing the key, is
turned away. -/
theorem authorizations_idempotent_two_actors :
    ∃ final, (authorizations claimsPrimitives claimsConfig).Reaches ⟨claimsStores, []⟩ final ∧
      Idempotent claimsPrimitives final ∧
      final.threads.map (fun thread => (thread.call.context.actorId, match thread.program with
        | .done decision => decision.record.reasonCode
        | .raise raised => raised.message
        | .perform _ _ => "")) =
        [("agent-1", "MISSING_DELEGATION"),
          ("agent-2", "Authorization idempotency key was reused with different input.")] := by
  obtain ⟨firstLog, first⟩ := Pool.reaches_call (authorizations claimsPrimitives claimsConfig)
    (fun _ _ _ => trivial) (claimsCall "agent-1" "decision-1") trivial claimsStores []
  obtain ⟨secondLog, second⟩ := Pool.reaches_call (authorizations claimsPrimitives claimsConfig)
    (fun _ _ _ => trivial) (claimsCall "agent-2" "decision-2") trivial _ _
  refine ⟨_, first.trans second, (authorizations_idempotent rfl first second).1, ?_⟩
  simp only [List.nil_append, List.cons_append, List.map_cons, List.map_nil]
  decide +kernel

end AiGovernance.Authorization
