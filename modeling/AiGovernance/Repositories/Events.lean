import AiGovernance.Domain.AgentExecutionEvent
import AiGovernance.Std.Dict

/-!
# The in-memory event store

`InMemoryAgentExecutionEventRepository`: four tables written together by
`save` under one lock. `EventTables.Coherent` says how the tables agree; an
`EventStore` carries that fact, so every store in this development has it.
`EventStore.save_cases` is the one inversion every argument about `save` uses.
-/

namespace AiGovernance.Repositories

open AiGovernance.Std Domain List

variable {events : List AgentExecutionEvent}

/-- `AgentExecutionEventListFilters`. -/
structure EventListFilters where
  eventType : Option EventType := none
  actorId : Option String := none
  occurredAfter : Option Instant := none
  occurredBefore : Option Instant := none
  limit : Nat
deriving DecidableEq

/-- The four tables of the store. -/
structure EventTables where
  byId : Dict String AgentExecutionEvent
  byExecution : Dict String (List AgentExecutionEvent)
  byIdempotency : Dict (String × String) AgentExecutionEvent
  byRuntimeToolCall : Dict (String × String) AgentExecutionEvent

/-- `exec_events.sort(key=lambda e: e.sequence_number)`; the sort is stable. -/
def sortBySequence (events : List AgentExecutionEvent) : List AgentExecutionEvent :=
  events.insertionSort (fun left right => left.record.sequenceNumber ≤ right.record.sequenceNumber)

namespace EventTables

/-- The events of one execution, in sequence order. -/
def ofExecution (tables : EventTables) (executionId : String) : List AgentExecutionEvent :=
  (tables.byExecution.get? executionId).getD []

/-- What `save` finds before it writes: a conflict, an event to return instead, or nothing. -/
def precheck (tables : EventTables) (event : AgentExecutionEvent) (idempotencyKey : Option String) :
    Except Raised (Option AgentExecutionEvent) :=
  match tables.byId.get? event.record.eventId with
  | some existing =>
    if AgentExecutionEvent.sameEvent existing event then .ok (some existing)
    else .error ⟨.agentExecutionIdempotencyConflict,
      "Event ID conflict for execution '" ++ event.record.executionId ++ "'."⟩
  | none =>
    match idempotencyKey.bind fun key => tables.byIdempotency.get? (key, event.record.executionId) with
    | some existing =>
      if AgentExecutionEvent.samePayload existing event.record.eventType event.record.attributes
          event.record.workflowStep event.record.toolCallContext then .ok (some existing)
      else .error ⟨.agentExecutionIdempotencyConflict,
        "Idempotency key '" ++ idempotencyKey.getD "" ++ "' reused with " ++
          "different payload for execution '" ++ event.record.executionId ++ "'."⟩
    | none =>
      match event.record.toolCallContext.bind fun tool =>
          tables.byRuntimeToolCall.get? (event.record.executionId, tool.record.runtimeToolCallId) with
      | some existing =>
        if existing.record.eventId ≠ event.record.eventId then
          .error ⟨.agentExecutionRuntimeToolCallConflict,
            "Runtime tool-call ID conflict for execution '" ++
              event.record.executionId ++ "'."⟩
        else .ok none
      | none => .ok none

/-- The writes of `save`. -/
def insert (tables : EventTables) (event : AgentExecutionEvent) (idempotencyKey : Option String) :
    EventTables :=
  let siblings := tables.ofExecution event.record.executionId
  { byId := tables.byId.set event.record.eventId event
    byExecution := tables.byExecution.set event.record.executionId
      (if siblings.any (·.record.eventId = event.record.eventId) then siblings
        else sortBySequence (siblings ++ [event]))
    byRuntimeToolCall :=
      match event.record.toolCallContext with
      | none => tables.byRuntimeToolCall
      | some tool => tables.byRuntimeToolCall.set
          (event.record.executionId, tool.record.runtimeToolCallId) event
    byIdempotency :=
      match idempotencyKey with
      | none => tables.byIdempotency
      | some key => tables.byIdempotency.set (key, event.record.executionId) event }

/-- How the tables agree: each event is filed under its own identifiers. -/
structure Coherent (tables : EventTables) : Prop where
  keyed : ∀ {eventId event}, tables.byId.get? eventId = some event → event.record.eventId = eventId
  listed : ∀ {executionId event}, event ∈ tables.ofExecution executionId ↔
    tables.byId.get? event.record.eventId = some event ∧ event.record.executionId = executionId
  distinct : ∀ executionId, (tables.ofExecution executionId).Nodup
  sorted : ∀ executionId, (tables.ofExecution executionId).Pairwise
    (fun left right => left.record.sequenceNumber ≤ right.record.sequenceNumber)
  idempotent : ∀ {key executionId event},
    tables.byIdempotency.get? (key, executionId) = some event →
      tables.byId.get? event.record.eventId = some event ∧ event.record.executionId = executionId

variable {tables : EventTables}

variable {idempotencyKey : Option String} {event : AgentExecutionEvent}

theorem precheck_eq_none (nothing : tables.precheck event idempotencyKey = .ok none) :
    tables.byId.get? event.record.eventId = none ∧
      ∀ key, idempotencyKey = some key →
        tables.byIdempotency.get? (key, event.record.executionId) = none := by
  unfold precheck at nothing
  split at nothing
  · split at nothing <;> cases nothing
  · rename_i absent
    refine ⟨absent, ?_⟩
    rintro key rfl
    split at nothing
    · split at nothing <;> cases nothing
    · assumption

theorem precheck_eq_some {existing : AgentExecutionEvent}
    (found : tables.precheck event idempotencyKey = .ok (some existing)) :
    (tables.byId.get? event.record.eventId = some existing ∧
        AgentExecutionEvent.sameEvent existing event = true) ∨
      (tables.byId.get? event.record.eventId = none ∧
        ∃ key, idempotencyKey = some key ∧
          tables.byIdempotency.get? (key, event.record.executionId) = some existing ∧
          AgentExecutionEvent.samePayload existing event.record.eventType event.record.attributes
            event.record.workflowStep event.record.toolCallContext = true) := by
  unfold precheck at found
  split at found
  · rename_i stored lookup
    split at found
    · rename_i same
      cases found
      exact Or.inl ⟨lookup, same⟩
    · cases found
  · rename_i absent
    split at found
    · rename_i stored lookup
      split at found
      · rename_i same
        cases found
        obtain ⟨key, rfl, byKey⟩ := Option.bind_eq_some_iff.mp lookup
        exact Or.inr ⟨absent, key, rfl, byKey, same⟩
      · cases found
    · split at found
      · split at found <;> cases found
      · cases found

theorem precheck_error_kind {raised : Raised} (failed : tables.precheck event idempotencyKey = .error raised) :
    raised.kind = .agentExecutionIdempotencyConflict ∨
      raised.kind = .agentExecutionRuntimeToolCallConflict := by
  unfold precheck at failed
  split at failed
  · split at failed <;> cases failed
    exact Or.inl rfl
  · split at failed
    · split at failed <;> cases failed
      exact Or.inl rfl
    · split at failed
      · split at failed <;> cases failed
        exact Or.inr rfl
      · cases failed

/-- A new event joins its execution's list; every other list stays as it is. -/
theorem ofExecution_insert (coherent : tables.Coherent) (absent : tables.byId.get? event.record.eventId = none)
    (executionId : String) :
    (tables.insert event idempotencyKey).ofExecution executionId =
      if executionId = event.record.executionId then
        sortBySequence (tables.ofExecution executionId ++ [event])
      else tables.ofExecution executionId := by
  have unseen : ¬ (tables.ofExecution event.record.executionId).any
      (·.record.eventId = event.record.eventId) = true := by
    simp only [any_eq_true, decide_eq_true_eq, not_exists, not_and]
    intro sibling member same
    rw [coherent.listed, same, absent] at member
    cases member.1
  unfold ofExecution insert
  simp only [Dict.get?_set]
  by_cases here : executionId = event.record.executionId
  · subst here
    rw [if_neg unseen]
    simp [ofExecution]
  · simp [here]

theorem mem_ofExecution_insert (coherent : tables.Coherent) (absent : tables.byId.get? event.record.eventId = none)
    (idempotencyKey : Option String) {executionId : String} {other : AgentExecutionEvent} :
    other ∈ (tables.insert event idempotencyKey).ofExecution executionId ↔
      other ∈ tables.ofExecution executionId ∨
        (other = event ∧ event.record.executionId = executionId) := by
  rw [ofExecution_insert coherent absent]
  split
  · rename_i here
    rw [sortBySequence, (perm_insertionSort _ _).mem_iff, mem_append, mem_singleton]
    simp [here]
  · rename_i elsewhere
    simp [Ne.symm elsewhere]

theorem Coherent.insert (coherent : tables.Coherent) (absent : tables.byId.get? event.record.eventId = none)
    (idempotencyKey : Option String) :
    (tables.insert event idempotencyKey).Coherent where
  keyed := Dict.keyed_set _ coherent.keyed rfl
  listed := by
    intro executionId other
    rw [mem_ofExecution_insert coherent absent, coherent.listed]
    simp only [EventTables.insert, Dict.get?_set]
    by_cases same : other.record.eventId = event.record.eventId
    · simp only [same, absent, reduceCtorEq, false_and, false_or, if_true, Option.some.injEq]
      exact ⟨fun ⟨equal, here⟩ => ⟨equal.symm, equal ▸ here⟩, fun ⟨equal, here⟩ =>
        ⟨equal.symm, equal ▸ here⟩⟩
    · have different : other ≠ event := fun equal => same (by rw [equal])
      simp [same, different]
  distinct := by
    intro executionId
    rw [ofExecution_insert coherent absent]
    split
    · refine (perm_insertionSort _ _).nodup_iff.mpr ?_
      rw [nodup_append]
      refine ⟨coherent.distinct _, by simp, ?_⟩
      intro sibling member other new
      rw [mem_singleton] at new
      subst new
      rintro rfl
      rw [coherent.listed, absent] at member
      cases member.1
    · exact coherent.distinct _
  sorted := by
    intro executionId
    rw [ofExecution_insert coherent absent]
    split
    · exact pairwise_insertionSort _ _
    · exact coherent.sorted _
  idempotent := by
    intro key executionId other found
    have written : ∀ {stored : AgentExecutionEvent},
        tables.byId.get? stored.record.eventId = some stored →
          (tables.insert event idempotencyKey).byId.get? stored.record.eventId = some stored :=
      fun lookup => Dict.get?_set_of_some absent lookup
    cases idempotencyKey with
    | none =>
      obtain ⟨byId, here⟩ := coherent.idempotent found
      exact ⟨written byId, here⟩
    | some newKey =>
      simp only [EventTables.insert, Dict.get?_set] at found
      split at found
      · rename_i here
        cases found
        cases here
        exact ⟨Dict.get?_set_self _, rfl⟩
      · obtain ⟨byId, here⟩ := coherent.idempotent found
        exact ⟨written byId, here⟩

/-- The tables of a new store. -/
def empty : EventTables := ⟨Dict.empty, Dict.empty, Dict.empty, Dict.empty⟩

theorem Coherent.empty : EventTables.empty.Coherent where
  keyed := by intro eventId event found; cases found
  listed := by intro executionId event; simp [EventTables.empty, ofExecution]
  distinct := by intro executionId; simp [EventTables.empty, ofExecution]
  sorted := by intro executionId; simp [EventTables.empty, ofExecution]
  idempotent := by intro key executionId event found; cases found

end EventTables

/-- The event store: tables that agree. -/
structure EventStore where
  tables : EventTables
  coherent : tables.Coherent

namespace EventStore

/-- A new store. -/
def empty : EventStore := ⟨.empty, .empty⟩

/-- The store with one more event. -/
def insert (store : EventStore) (event : AgentExecutionEvent) (idempotencyKey : Option String)
    (absent : store.tables.byId.get? event.record.eventId = none) : EventStore :=
  ⟨store.tables.insert event idempotencyKey, store.coherent.insert absent idempotencyKey⟩

variable {event : AgentExecutionEvent} {store : EventStore} {idempotencyKey : Option String}

theorem byId_insert (absent : store.tables.byId.get? event.record.eventId = none) (eventId : String) :
    (store.insert event idempotencyKey absent).tables.byId.get? eventId =
      if eventId = event.record.eventId then some event else store.tables.byId.get? eventId :=
  Dict.get?_set _

theorem byIdempotency_insert (key : String) (absent : store.tables.byId.get? event.record.eventId = none)
    (other : String × String) :
    (store.insert event (some key) absent).tables.byIdempotency.get? other =
      if other = (key, event.record.executionId) then some event
      else store.tables.byIdempotency.get? other :=
  Dict.get?_set _

/-- `save`. -/
def save (store : EventStore) (event : AgentExecutionEvent) (idempotencyKey : Option String) :
    Except Raised AgentExecutionEvent × EventStore :=
  match found : store.tables.precheck event idempotencyKey with
  | .error raised => (.error raised, store)
  | .ok (some existing) => (.ok existing, store)
  | .ok none =>
    (.ok event, store.insert event idempotencyKey (EventTables.precheck_eq_none found).1)

/-- `get_by_id`. -/
def getById (store : EventStore) (eventId executionId : String) (scope : Scope) :
    Option AgentExecutionEvent :=
  (store.tables.byId.get? eventId).filter fun event =>
    event.record.executionId = executionId && scope.sees event.record.organizationId event.record.projectId

/-- The tests `list_by_execution` makes for each filter that is set. -/
def passes (filters : EventListFilters) (event : AgentExecutionEvent) : Bool :=
  filters.eventType.all (event.record.eventType = ·) &&
    filters.actorId.all (event.record.actorId = some ·) &&
    filters.occurredAfter.all (¬ event.record.occurredAt < ·) &&
    filters.occurredBefore.all (¬ · < event.record.occurredAt)

/-- The events of an execution that a scope sees, in sequence order. -/
def visible (store : EventStore) (executionId : String) (scope : Scope) : List AgentExecutionEvent :=
  (store.tables.ofExecution executionId).filter fun event =>
    scope.sees event.record.organizationId event.record.projectId

/-- `list_by_execution`: without filters at most 200 events are returned. -/
def listByExecution (store : EventStore) (executionId : String) (scope : Scope)
    (filters : Option EventListFilters) : List AgentExecutionEvent :=
  match filters with
  | none => (store.visible executionId scope).take 200
  | some filters => ((store.visible executionId scope).filter (passes filters)).take filters.limit

/-- `find_by_idempotency_key`. -/
def findByIdempotencyKey (store : EventStore) (idempotencyKey executionId : String) (scope : Scope) :
    Option AgentExecutionEvent :=
  (store.tables.byIdempotency.get? (idempotencyKey, executionId)).filter fun event =>
    scope.sees event.record.organizationId event.record.projectId

/-- `max_sequence_number`: 0 when the scope sees no event. -/
def maxSequenceNumber (store : EventStore) (executionId : String) (scope : Scope) : Nat :=
  (store.visible executionId scope).foldl (fun highest event => max highest event.record.sequenceNumber) 0

variable {executionId : String} {scope : Scope}

theorem mem_visible :
    event ∈ store.visible executionId scope ↔ event ∈ store.tables.ofExecution executionId ∧
      scope.sees event.record.organizationId event.record.projectId = true :=
  mem_filter

theorem foldl_max_le {start bound : Nat} :
    events.foldl (fun highest event => max highest event.record.sequenceNumber) start ≤ bound ↔
      start ≤ bound ∧ ∀ event ∈ events, event.record.sequenceNumber ≤ bound := by
  induction events generalizing start with
  | nil => simp
  | cons event rest ih =>
    rw [foldl_cons, ih, Nat.max_le, forall_mem_cons, and_assoc]

theorem le_maxSequenceNumber (seen : event ∈ store.visible executionId scope) :
    event.record.sequenceNumber ≤ store.maxSequenceNumber executionId scope :=
  (foldl_max_le.mp (Nat.le_refl _)).2 event seen

/-- An event numbered past all others of its execution comes last in its list. -/
theorem ofExecution_insert_last (absent : store.tables.byId.get? event.record.eventId = none)
    (last : ∀ earlier ∈ store.tables.ofExecution event.record.executionId,
      earlier.record.sequenceNumber ≤ event.record.sequenceNumber) :
    (store.insert event idempotencyKey absent).tables.ofExecution event.record.executionId =
      store.tables.ofExecution event.record.executionId ++ [event] := by
  rw [insert, EventTables.ofExecution_insert store.coherent absent, if_pos rfl]
  refine List.Pairwise.insertionSort_eq (pairwise_append.mpr ⟨store.coherent.sorted _, ?_, ?_⟩)
  · exact pairwise_singleton _ _
  · intro earlier member other new
    rw [mem_singleton.mp new]
    exact last earlier member

/-- An event joins a sorted list before the first event with a higher number. -/
theorem sortBySequence_append
    (sorted : events.Pairwise fun left right => left.record.sequenceNumber ≤ right.record.sequenceNumber)
    (event : AgentExecutionEvent) :
    ∃ before after, events = before ++ after ∧ sortBySequence (events ++ [event]) = before ++ event :: after ∧
      ∀ later ∈ after, event.record.sequenceNumber < later.record.sequenceNumber := by
  induction events with
  | nil => exact ⟨[], [], rfl, rfl, by simp⟩
  | cons head rest ih =>
    rw [pairwise_cons] at sorted
    obtain ⟨before, after, shape, inserted, higher⟩ := ih sorted.2
    have step : sortBySequence (head :: rest ++ [event]) =
        List.orderedInsert (fun left right => left.record.sequenceNumber ≤ right.record.sequenceNumber) head
          (before ++ event :: after) := by
      rw [← inserted]
      rfl
    cases before with
    | cons first more =>
      have lower : head.record.sequenceNumber ≤ first.record.sequenceNumber := sorted.1 first (by simp [shape])
      refine ⟨head :: first :: more, after, by rw [shape]; rfl, ?_, higher⟩
      rw [step, cons_append, orderedInsert_cons, if_pos lower]
      rfl
    | nil =>
      rw [nil_append] at shape step
      subst shape
      by_cases lower : head.record.sequenceNumber ≤ event.record.sequenceNumber
      · refine ⟨[head], rest, rfl, ?_, higher⟩
        rw [step, orderedInsert_cons, if_pos lower]
        rfl
      · refine ⟨[], head :: rest, rfl, ?_, ?_⟩
        · rw [step, orderedInsert_cons, if_neg lower]
          cases rest with
          | nil => rfl
          | cons second others =>
            rw [orderedInsert_cons, if_pos (sorted.1 second (by simp))]
            rfl
        · intro later member
          rw [mem_cons] at member
          cases member with
          | inl same =>
            rw [same]
            omega
          | inr further => exact higher later further
/-- A scope's list of an execution stays, or takes the event in before the higher numbers. -/
theorem visible_insert (store : EventStore) (idempotencyKey : Option String)
    (absent : store.tables.byId.get? event.record.eventId = none) (executionId : String) (scope : Scope) :
    (store.insert event idempotencyKey absent).visible executionId scope = store.visible executionId scope ∨
      (event.record.executionId = executionId ∧ ∃ before after,
        store.visible executionId scope = before ++ after ∧
        (store.insert event idempotencyKey absent).visible executionId scope = before ++ event :: after ∧
        ∀ later ∈ after, event.record.sequenceNumber < later.record.sequenceNumber) := by
  unfold visible
  rw [insert, EventTables.ofExecution_insert store.coherent absent]
  by_cases here : executionId = event.record.executionId
  · obtain ⟨before, after, shape, inserted, higher⟩ := sortBySequence_append (store.coherent.sorted executionId) event
    rw [if_pos here, inserted, shape, filter_append, filter_append, filter_cons]
    split
    · refine Or.inr ⟨here.symm, _, _, rfl, rfl, fun later member => ?_⟩
      exact higher later (mem_of_mem_filter member)
    · exact Or.inl rfl
  · rw [if_neg here]
    exact Or.inl rfl

/-- What one `save` can do: refuse, return an event that is already there, or store. -/
theorem save_cases (store : EventStore) (event : AgentExecutionEvent)
    (idempotencyKey : Option String) :
    (∃ raised, store.save event idempotencyKey = (.error raised, store) ∧
        store.tables.precheck event idempotencyKey = .error raised) ∨
      (∃ existing, store.save event idempotencyKey = (.ok existing, store) ∧
        store.tables.precheck event idempotencyKey = .ok (some existing)) ∨
      ∃ absent : store.tables.byId.get? event.record.eventId = none,
        store.save event idempotencyKey = (.ok event, store.insert event idempotencyKey absent) ∧
          store.tables.precheck event idempotencyKey = .ok none := by
  unfold save
  split
  · rename_i raised found
    exact Or.inl ⟨raised, rfl, found⟩
  · rename_i existing found
    exact Or.inr (Or.inl ⟨existing, rfl, found⟩)
  · rename_i found
    exact Or.inr (Or.inr ⟨(EventTables.precheck_eq_none found).1, rfl, found⟩)

/-- Everything stored before is stored after, under the same keys. -/
structure Extends (before after : EventStore) : Prop where
  byId : ∀ {eventId event}, before.tables.byId.get? eventId = some event →
    after.tables.byId.get? eventId = some event
  byIdempotency : ∀ {key event}, before.tables.byIdempotency.get? key = some event →
    after.tables.byIdempotency.get? key = some event

theorem Extends.refl (store : EventStore) : Extends store store := ⟨id, id⟩

theorem Extends.trans {first second third : EventStore} (left : Extends first second)
    (right : Extends second third) : Extends first third :=
  ⟨fun found => right.byId (left.byId found), fun found => right.byIdempotency (left.byIdempotency found)⟩

theorem Extends.ofExecution {before after : EventStore} (extended : Extends before after)
    (member : event ∈ before.tables.ofExecution executionId) : event ∈ after.tables.ofExecution executionId := by
  rw [before.coherent.listed] at member
  rw [after.coherent.listed]
  exact ⟨extended.byId member.1, member.2⟩

/-- Storing an event under a free identifier and a free key overwrites nothing. -/
theorem extends_insert (nothing : store.tables.precheck event idempotencyKey = .ok none) :
    Extends store (store.insert event idempotencyKey (EventTables.precheck_eq_none nothing).1) := by
  obtain ⟨absent, free⟩ := EventTables.precheck_eq_none nothing
  refine ⟨fun found => Dict.get?_set_of_some absent found, ?_⟩
  intro key stored found
  cases idempotencyKey with
  | none => exact found
  | some newKey => exact Dict.get?_set_of_some (free newKey rfl) found

theorem extends_save : Extends store (store.save event idempotencyKey).2 := by
  rcases store.save_cases event idempotencyKey with ⟨_, saved, -⟩ | ⟨_, saved, -⟩ | ⟨_, saved, nothing⟩
  · rw [saved]
    exact Extends.refl store
  · rw [saved]
    exact Extends.refl store
  · rw [saved]
    exact extends_insert nothing

/-- `save` changes nothing when the key is already taken. -/
theorem save_of_taken {existing : AgentExecutionEvent} {key : String}
    (taken : store.tables.byIdempotency.get? (key, event.record.executionId) = some existing) :
    (store.save event (some key)).2 = store := by
  rcases store.save_cases event (some key) with ⟨_, saved, -⟩ | ⟨_, saved, -⟩ | ⟨_, saved, nothing⟩
  · rw [saved]
  · rw [saved]
  · rw [(EventTables.precheck_eq_none nothing).2 key rfl] at taken
    cases taken

end EventStore

end AiGovernance.Repositories
