import AiGovernance.Events.Publisher
import Mathlib.Data.List.TakeWhile

/-!
# In which order an event is delivered

Subscribers are promised their events in ascending order and registration
sequence, whatever classes they subscribed to, up to the first closed failure, and
an outcome of each. Subscriptions are sorted within a class only, and a closed
failure is raised before it is recorded. So the promise is kept exactly where the
classes are subscribed to in the order of their handlers and nothing fails closed;
within a transaction every signature must be readable too.
-/

namespace AiGovernance.Events

open AiGovernance.Std Domain List

variable {system : EventSystem}

/-! ## What is promised -/

/-- The accepted subscriptions, in the order of registration. -/
def registrations (calls : List (SubscribeCall system)) : List (EventSubscription system) :=
  (calls.zipIdx 1).map fun numbered => { numbered.1 with sequence := numbered.2 }

/-- The subscriptions to a supertype of the event's class. -/
def compatible (calls : List (SubscribeCall system)) (event : system.Event) : List (EventSubscription system) :=
  (registrations calls).filter (system.isInstance event ·.eventType)

/-- The promised order. -/
def promised (calls : List (SubscribeCall system)) (event : system.Event) : List (EventSubscription system) :=
  Ranking.ascending position (compatible calls event)

theorem mem_promised {calls : List (SubscribeCall system)} {event : system.Event}
    {subscription : EventSubscription system} :
    subscription ∈ promised calls event ↔ subscription ∈ compatible calls event := Ranking.mem_ascending

section

variable (attempt : Handler system → Attempt system)

/-- A closed failure. -/
def stops (subscription : EventSubscription system) : Bool :=
  subscription.failurePolicy = .failClosed && !(attempt subscription.handler).result.toBool

/-- The subscriptions up to and with the first closed failure. -/
def reached (subscriptions : List (EventSubscription system)) : List (EventSubscription system) :=
  subscriptions.takeWhile (!stops attempt ·) ++ (subscriptions.find? (stops attempt)).toList

/-- The exception of an attempt. -/
def failure (subscription : EventSubscription system) : Option system.Failure :=
  match (attempt subscription.handler).result with
  | .ok () => none
  | .error failure => some failure

/-- The outcomes of subscriptions. -/
def outcomes (event : system.Event) (subscriptions : List (EventSubscription system)) : List Publication :=
  subscriptions.map fun subscription => publication event subscription (attempt subscription.handler).result

end

/-- What is promised of a delivery. -/
structure Promise (calls : List (SubscribeCall system)) (event : system.Event)
    (attempt : Handler system → Attempt system) (delivery : Delivery system) : Prop where
  invoked : delivery.invoked = reached attempt (promised calls event)
  raised : delivery.raised = ((promised calls event).find? (stops attempt)).bind (failure attempt)
  recorded : delivery.recorded = outcomes attempt event delivery.invoked

/-- What is promised of a publisher: `publish` keeps its promise, and within a transaction the same rule
says which handlers are invoked. -/
structure Delivers (calls : List (SubscribeCall system)) (publisher : EventPublisher system) (event : system.Event)
    (transaction : system.Transaction) : Prop where
  published : Promise calls event (plainAttempt event) (publish event publisher).2
  within : (publishInTransaction event publisher transaction).2.invoked =
    reached (transactionAttempt event transaction) (promised calls event)

/-- Handlers of a class that was subscribed to earlier come first, nothing fails closed, and every signature
that is needed can be read. -/
structure InOrder (calls : List (SubscribeCall system)) (event : system.Event) (transaction : system.Transaction) :
    Prop where
  uninverted : ∀ first ∈ compatible calls event, ∀ second ∈ compatible calls event,
    (calls.map (·.eventType)).idxOf first.eventType < (calls.map (·.eventType)).idxOf second.eventType →
      position first < position second
  harmless : ∀ subscription ∈ compatible calls event, stops (plainAttempt event) subscription = false
  readable : ∀ subscription ∈ reached (transactionAttempt event transaction) (promised calls event),
    subscription.handler.parameters.toBool = true

/-! ## One delivery -/

variable {event : system.Event} {attempt : Handler system → Attempt system}

theorem Delivery.andThen_assoc (first second third : Delivery system) :
    (first.andThen second).andThen third = first.andThen (second.andThen third) := by
  obtain ⟨invoked, recorded, raised⟩ := first
  cases raised <;> cases second' : second.raised <;> simp [Delivery.andThen, second']

theorem deliverAll_append (first second : List (EventSubscription system)) :
    deliverAll event attempt (first ++ second) =
      (deliverAll event attempt first).andThen (deliverAll event attempt second) := by
  induction first with
  | nil => rfl
  | cons subscription rest ih =>
    rw [cons_append, deliverAll, ih, ← Delivery.andThen_assoc]
    rfl

theorem deliverOne_eq (subscription : EventSubscription system) : deliverOne event attempt subscription = {
    invoked := [subscription].filter fun subscription => (attempt subscription.handler).invoked
    recorded := if stops attempt subscription then [] else outcomes attempt event [subscription]
    raised := if stops attempt subscription then failure attempt subscription else none } := by
  unfold deliverOne stops outcomes failure
  cases result : (attempt subscription.handler).result with
  | ok => simp [result, Except.toBool, filter_cons]
  | error raised =>
    by_cases closed : subscription.failurePolicy = .failClosed <;>
      simp [result, closed, Except.toBool, filter_cons]

/-- The loop of a class invokes, records and raises up to the first closed failure; of that it records nothing. -/
theorem deliverAll_eq (subscriptions : List (EventSubscription system)) : deliverAll event attempt subscriptions = {
    invoked := (reached attempt subscriptions).filter fun subscription => (attempt subscription.handler).invoked
    recorded := outcomes attempt event (subscriptions.takeWhile (!stops attempt ·))
    raised := (subscriptions.find? (stops attempt)).bind (failure attempt) } := by
  induction subscriptions with
  | nil => rfl
  | cons subscription rest ih =>
    unfold deliverAll reached Delivery.andThen
    rw [ih, deliverOne_eq, find?_cons, takeWhile_cons]
    cases ended : stops attempt subscription with
    | true =>
      have raised : (failure attempt subscription).isSome = true := by
        unfold stops at ended
        unfold failure
        cases result : (attempt subscription.handler).result <;> simp [result, Except.toBool] at ended ⊢
      simp [raised, outcomes]
    | false => simp [outcomes, reached, ← filter_append]

/-- Class by class, the handlers of the compatible classes are delivered to as one list. -/
theorem deliverClasses_eq (entries : List (system.Class × List (EventSubscription system))) :
    deliverClasses event attempt entries =
      deliverAll event attempt ((entries.filter (system.isInstance event ·.1)).flatMap (·.2)) := by
  induction entries with
  | nil => rfl
  | cons entry rest ih =>
    obtain ⟨eventType, subscriptions⟩ := entry
    unfold deliverClasses
    rw [ih]
    by_cases instance? : system.isInstance event eventType = true
    · simp [instance?, deliverAll_append]
    · simp [instance?]

/-! ## The subscriptions a publisher holds -/

/-- What a publisher holds after its accepted subscriptions. -/
structure Registered (calls : List (SubscribeCall system)) (publisher : EventPublisher system) : Prop where
  sequence : publisher.sequence = calls.length
  held : ∀ eventType, (publisher.subscriptions.get? eventType).getD [] =
    Ranking.ascending position ((registrations calls).filter (·.eventType = eventType))
  known : ∀ {eventType}, eventType ∈ publisher.subscriptions.entries.map Prod.fst ↔
    eventType ∈ calls.map (·.eventType)
  ordered : (publisher.subscriptions.entries.map Prod.fst).Pairwise fun earlier later =>
    (calls.map (·.eventType)).idxOf earlier < (calls.map (·.eventType)).idxOf later

variable {calls : List (SubscribeCall system)} {publisher next : EventPublisher system}

theorem registrations_append (call : SubscribeCall system) : registrations (calls ++ [call]) =
    registrations calls ++ [{ call with sequence := 1 + calls.length }] := by
  simp [registrations, zipIdx_append]

theorem distinct_positions (keep : EventSubscription system → Bool) :
    (((registrations calls).filter keep).map position).Nodup := by
  apply List.Nodup.of_map fun key : Int ×ₗ Nat => (ofLex key).2
  have sequences : (registrations calls).map (·.sequence) = List.range' 1 calls.length := by
    rw [← zipIdx_map_snd, registrations, map_map]
    rfl
  have distinct : ((registrations calls).map (·.sequence)).Nodup := sequences ▸ nodup_range'
  rw [map_map]
  exact distinct.sublist (List.filter_sublist.map _)

theorem Registered.subscribe (registered : Registered calls publisher) {call : SubscribeCall system}
    (accepted : Events.subscribe publisher call = .ok next) : Registered (calls ++ [call]) next := by
  unfold Events.subscribe at accepted
  dsimp only at accepted
  split_ifs at accepted with taken
  cases accepted
  obtain ⟨sequence, held, known, ordered⟩ := registered
  have types : (calls ++ [call]).map (·.eventType) = calls.map (·.eventType) ++ [call.eventType] := map_append
  refine ⟨by simp [sequence], fun eventType => ?_, fun {eventType} => ?_, ?_⟩
  · rw [registrations_append, filter_append, Dict.get?_set]
    by_cases same : eventType = call.eventType
    · subst same
      have own : [({ call with sequence := 1 + calls.length } : EventSubscription system)].filter
          (·.eventType = call.eventType) = [{ call with sequence := 1 + calls.length }] := by simp
      rw [if_pos rfl, Option.getD_some, held, sequence, Nat.add_comm, own]
      refine (Ranking.ascending_of_perm ?_ (Ranking.perm_ascending.symm.append_right _)).symm
      rw [← own, ← filter_append, ← registrations_append]
      exact distinct_positions _
    · rw [if_neg same, held, filter_cons_of_neg (by simpa using Ne.symm same), filter_nil, append_nil]
  · rw [types, mem_append, mem_singleton, ← known]
    exact Dict.mem_keys_write.trans or_comm
  · rw [types]
    have kept : (publisher.subscriptions.entries.map Prod.fst).Pairwise fun earlier later =>
        (calls.map (·.eventType) ++ [call.eventType]).idxOf earlier <
          (calls.map (·.eventType) ++ [call.eventType]).idxOf later := by
      refine ordered.imp_of_mem fun earlier later before => ?_
      rw [idxOf_append_of_mem (known.mp earlier), idxOf_append_of_mem (known.mp later)]
      exact before
    cases found : publisher.subscriptions.get? call.eventType with
    | some old => rwa [Dict.keys_set_of_present found]
    | none =>
      have absent : call.eventType ∉ calls.map (·.eventType) := by
        rw [← known]
        exact Dict.not_mem_keys_of_get? found
      rw [Dict.keys_set_of_absent found, pairwise_append]
      refine ⟨kept, pairwise_singleton _ _, fun earlier member later own => ?_⟩
      rw [mem_singleton.mp own, idxOf_append_of_notMem absent,
        idxOf_append_of_mem (known.mp member)]
      exact Nat.lt_add_right _ (idxOf_lt_length_of_mem (known.mp member))

theorem registered_of_accepted (accepted : subscribeAll calls = .ok publisher) : Registered calls publisher := by
  induction calls using List.reverseRecOn generalizing publisher with
  | nil =>
    cases accepted
    exact ⟨rfl, fun _ => rfl, Iff.rfl, .nil⟩
  | append_singleton calls call ih =>
    unfold subscribeAll at accepted ih
    rw [foldlM_append] at accepted
    obtain ⟨before, earlier, last⟩ := bind_ok accepted
    obtain ⟨after, subscribed, same⟩ := bind_ok last
    cases same
    exact (ih earlier).subscribe subscribed

/-! ## Every publication -/

/-- The subscriptions in the order they are delivered in. -/
def delivered (publisher : EventPublisher system) (event : system.Event) : List (EventSubscription system) :=
  (publisher.subscriptions.entries.filter (system.isInstance event ·.1)).flatMap (·.2)

namespace Registered

variable (registered : Registered calls publisher)

include registered

theorem value_eq {entry : system.Class × List (EventSubscription system)}
    (member : entry ∈ publisher.subscriptions.entries) :
    entry.2 = Ranking.ascending position ((registrations calls).filter (·.eventType = entry.1)) := by
  rw [← registered.held, Dict.get?_of_mem member, Option.getD_some]

theorem mem_value {entry : system.Class × List (EventSubscription system)}
    (member : entry ∈ publisher.subscriptions.entries) {subscription : EventSubscription system} :
    subscription ∈ entry.2 ↔ subscription ∈ registrations calls ∧ subscription.eventType = entry.1 := by
  rw [registered.value_eq member, Ranking.mem_ascending, mem_filter, decide_eq_true_eq]

/-- The entries are in the order in which their classes were first subscribed to. -/
theorem ordered_entries : publisher.subscriptions.entries.Pairwise fun earlier later =>
    (calls.map (·.eventType)).idxOf earlier.1 < (calls.map (·.eventType)).idxOf later.1 :=
  (pairwise_map (f := Prod.fst)).mp registered.ordered

theorem exists_entry {subscription : EventSubscription system} (member : subscription ∈ compatible calls event) :
    ∃ entry ∈ publisher.subscriptions.entries.filter (system.isInstance event ·.1),
      entry.1 = subscription.eventType ∧ subscription ∈ entry.2 := by
  obtain ⟨known, fits⟩ := mem_filter.mp member
  have subscribed : subscription.eventType ∈ calls.map (·.eventType) := by
    obtain ⟨⟨call, index⟩, numbered, rfl⟩ := mem_map.mp known
    exact mem_map_of_mem (fst_mem_of_mem_zipIdx numbered)
  obtain ⟨entry, held, same⟩ := mem_map.mp (registered.known.mpr subscribed)
  exact ⟨entry, mem_filter.mpr ⟨held, by rwa [same]⟩, same, (registered.mem_value held).mpr ⟨known, same.symm⟩⟩

/-- Exactly the compatible subscriptions are delivered to, each once. -/
theorem perm_delivered : (delivered publisher event).Perm (compatible calls event) := by
  have distinct : (compatible calls event).Nodup := (distinct_positions _).of_map
  refine (perm_ext_iff_of_nodup ?_ distinct).mpr fun subscription => ?_
  · refine nodup_flatMap.mpr ⟨fun entry member => ?_, ?_⟩
    · rw [registered.value_eq (mem_of_mem_filter member)]
      exact Ranking.perm_ascending.nodup_iff.mpr (distinct_positions _).of_map
    · refine (registered.ordered_entries.sublist filter_sublist).imp_of_mem ?_
      intro earlier later before after less subscription first second
      have own := ((registered.mem_value (mem_of_mem_filter before)).mp first).2
      rw [← own, ((registered.mem_value (mem_of_mem_filter after)).mp second).2] at less
      exact Nat.lt_irrefl _ less
  · constructor
    · intro member
      obtain ⟨entry, held, own⟩ := mem_flatMap.mp member
      obtain ⟨stored, fits⟩ := mem_filter.mp held
      obtain ⟨known, same⟩ := (registered.mem_value stored).mp own
      exact mem_filter.mpr ⟨known, by rwa [same]⟩
    · intro member
      obtain ⟨entry, held, -, own⟩ := registered.exists_entry member
      exact mem_flatMap.mpr ⟨entry, held, own⟩

/-- The order of delivery is the promised one exactly when the classes do not invert it. -/
theorem delivered_eq_iff : delivered publisher event = promised calls event ↔
    ∀ first ∈ compatible calls event, ∀ second ∈ compatible calls event,
      (calls.map (·.eventType)).idxOf first.eventType < (calls.map (·.eventType)).idxOf second.eventType →
        position first < position second := by
  have entries := registered.ordered_entries.sublist (filter_sublist (p := (system.isInstance event ·.1)))
  constructor
  · intro same first firstMember second secondMember less
    have strict : (delivered publisher event).Pairwise fun left right => position left < position right := by
      rw [same]
      exact Ranking.strict_ascending (distinct_positions _)
    have across := entries.and (pairwise_flatMap.mp strict).2
    have every := List.Pairwise.forall_of_forall_of_flip (l := publisher.subscriptions.entries.filter _)
      (R := fun one two => (calls.map (·.eventType)).idxOf one.1 < (calls.map (·.eventType)).idxOf two.1 →
        ∀ first ∈ one.2, ∀ second ∈ two.2, position first < position second)
      (fun _ _ less => absurd less (Nat.lt_irrefl _)) (across.imp fun both _ => both.2)
      (across.imp fun both less => absurd less both.1.asymm)
    obtain ⟨one, oneHeld, oneType, firstOwn⟩ := registered.exists_entry firstMember
    obtain ⟨two, twoHeld, twoType, secondOwn⟩ := registered.exists_entry secondMember
    exact every oneHeld twoHeld (by rwa [oneType, twoType]) first firstOwn second secondOwn
  · intro uninverted
    refine Ranking.eq_ascending registered.perm_delivered (pairwise_flatMap.mpr ⟨fun entry member => ?_, ?_⟩)
    · rw [registered.value_eq (mem_of_mem_filter member)]
      exact Ranking.strict_ascending (distinct_positions _)
    · refine entries.imp_of_mem ?_
      intro earlier later before after less first firstOwn second secondOwn
      obtain ⟨stored, fits⟩ := mem_filter.mp before
      obtain ⟨otherStored, otherFits⟩ := mem_filter.mp after
      obtain ⟨known, same⟩ := (registered.mem_value stored).mp firstOwn
      obtain ⟨otherKnown, otherSame⟩ := (registered.mem_value otherStored).mp secondOwn
      refine uninverted first (mem_filter.mpr ⟨known, by rwa [same]⟩) second
        (mem_filter.mpr ⟨otherKnown, by rwa [otherSame]⟩) ?_
      rwa [same, otherSame]

end Registered

/-! ## The promise -/

theorem reached_of_harmless {subscriptions : List (EventSubscription system)}
    (harmless : ∀ subscription ∈ subscriptions, stops attempt subscription = false) :
    subscriptions.takeWhile (!stops attempt ·) = subscriptions ∧ subscriptions.find? (stops attempt) = none ∧
      reached attempt subscriptions = subscriptions := by
  have all : subscriptions.takeWhile (!stops attempt ·) = subscriptions := by
    simpa [takeWhile_eq_self_iff] using harmless
  have none : subscriptions.find? (stops attempt) = none := by simpa using harmless
  refine ⟨all, none, ?_⟩
  unfold reached
  rw [all, none]
  exact append_nil _

/-- The promise of a delivery that invokes whatever it comes to. -/
theorem promise_iff (registered : Registered calls publisher)
    (always : ∀ handler, (attempt handler).invoked = true) :
    Promise calls event attempt (deliverClasses event attempt publisher.subscriptions.entries) ↔
      delivered publisher event = promised calls event ∧
        ∀ subscription ∈ compatible calls event, stops attempt subscription = false := by
  have run : deliverClasses event attempt publisher.subscriptions.entries =
      deliverAll event attempt (delivered publisher event) := deliverClasses_eq _
  have whole (subscriptions : List (EventSubscription system)) :
      subscriptions.filter (fun subscription => (attempt subscription.handler).invoked) = subscriptions :=
    filter_eq_self.mpr fun subscription _ => always subscription.handler
  rw [run, deliverAll_eq, whole]
  constructor
  · rintro ⟨invoked, -, recorded⟩
    dsimp only at invoked recorded
    -- The outcome of a closed failure would be missing.
    have none : (delivered publisher event).find? (stops attempt) = none := by
      have count := congrArg List.length recorded
      unfold outcomes reached at count
      rw [length_map, length_map, length_append] at count
      exact Option.toList_eq_nil_iff.mp (length_eq_zero_iff.mp (by omega))
    have harmless : ∀ subscription ∈ compatible calls event, stops attempt subscription = false := by
      intro subscription member
      have passed := find?_eq_none.mp none subscription (registered.perm_delivered.mem_iff.mpr member)
      simpa using passed
    refine ⟨?_, harmless⟩
    rw [(reached_of_harmless fun subscription member => harmless _ (registered.perm_delivered.mem_iff.mp member)).2.2,
      (reached_of_harmless fun subscription member => harmless _ (mem_promised.mp member)).2.2] at invoked
    exact invoked
  · rintro ⟨same, harmless⟩
    obtain ⟨all, none, whole⟩ :=
      reached_of_harmless fun subscription member => harmless _ (mem_promised.mp member)
    rw [same]
    refine ⟨rfl, rfl, ?_⟩
    dsimp only
    rw [all, whole]

theorem invoked_transactionAttempt {transaction : system.Transaction} (handler : Handler system) :
    (transactionAttempt event transaction handler).invoked = handler.parameters.toBool := by
  unfold transactionAttempt
  cases handler.parameters <;> rfl

/-- After accepted subscriptions a publisher delivers an event as promised exactly when the classes do not
invert the order, nothing fails closed, and the signatures needed are readable. -/
theorem delivery_in_order_iff {transaction : system.Transaction} (accepted : subscribeAll calls = .ok publisher) :
    Delivers calls publisher event transaction ↔ InOrder calls event transaction := by
  have registered := registered_of_accepted accepted
  have published : Promise calls event (plainAttempt event) (publish event publisher).2 ↔ _ :=
    promise_iff registered fun _ => rfl
  rw [registered.delivered_eq_iff] at published
  have within (same : delivered publisher event = promised calls event) :
      (publishInTransaction event publisher transaction).2.invoked =
          reached (transactionAttempt event transaction) (promised calls event) ↔
        ∀ subscription ∈ reached (transactionAttempt event transaction) (promised calls event),
          subscription.handler.parameters.toBool = true := by
    have run : (publishInTransaction event publisher transaction).2 =
        deliverAll event (transactionAttempt event transaction) (delivered publisher event) := deliverClasses_eq _
    rw [run, deliverAll_eq, same, filter_eq_self]
    simp only [invoked_transactionAttempt]
  constructor
  · intro delivers
    obtain ⟨uninverted, harmless⟩ := published.mp delivers.published
    exact ⟨uninverted, harmless, (within (registered.delivered_eq_iff.mpr uninverted)).mp delivers.within⟩
  · intro inOrder
    exact ⟨published.mpr ⟨inOrder.uninverted, inOrder.harmless⟩,
      (within (registered.delivered_eq_iff.mpr inOrder.uninverted)).mpr inOrder.readable⟩

/-! ### A base class and a class of it -/

/-- `DomainEvent` and `EvaluationCompleted`, and an event of the latter. -/
def evaluationEvents : EventSystem where
  Class := Bool
  Event := Unit
  Transaction := Unit
  Failure := String
  classes := inferInstance
  typeOf _ := false
  isSubclass lower upper := lower == upper || upper
  name base := if base then "DomainEvent" else "EvaluationCompleted"
  str := id

/-- A plugin whose handler succeeds. -/
def quietPlugin (base : Bool) (pluginName : String) (order : Int) : SubscribeCall evaluationEvents where
  eventType := base
  handler := ⟨.ok 1, fun _ => .ok (), fun _ _ => .ok ()⟩
  pluginName
  order

/-- Subscriptions in the order of their handlers. -/
theorem delivery_in_order_iff_ordered : ∃ publisher,
    subscribeAll [quietPlugin true "audit" 1, quietPlugin false "metering" 100] = .ok publisher ∧
      Delivers [quietPlugin true "audit" 1, quietPlugin false "metering" 100] publisher () () :=
  ⟨_, rfl, (delivery_in_order_iff rfl).mpr ⟨by decide, by decide, by decide⟩⟩

/-- The handler of the base class is invoked first though it is ordered last. -/
theorem base_class_delivered_first : ∃ publisher,
    subscribeAll [quietPlugin true "audit" 100, quietPlugin false "metering" 1] = .ok publisher ∧
      ¬ Delivers [quietPlugin true "audit" 100, quietPlugin false "metering" 1] publisher () () := by
  refine ⟨_, rfl, fun delivers => ?_⟩
  have names := congrArg (List.map (·.pluginName)) delivers.published.invoked
  revert names
  decide

/-! ## Whatever the order -/

/-- What a delivery keeps to in every order of the classes. -/
structure Accounted (calls : List (SubscribeCall system)) (event : system.Event)
    (attempt : Handler system → Attempt system) (delivery : Delivery system) : Prop where
  once : delivery.invoked.Nodup
  fits : ∀ subscription ∈ delivery.invoked, subscription ∈ compatible calls event
  ordered : delivery.invoked.Pairwise fun first second =>
    first.eventType = second.eventType → position first < position second
  raises : delivery.raised.isSome = true ↔ ∃ subscription ∈ compatible calls event, stops attempt subscription = true
  /-- Without a closed failure every compatible handler is invoked, and has its outcome. -/
  whole : delivery.raised = none → delivery.invoked.Perm (compatible calls event) ∧
    delivery.recorded = outcomes attempt event delivery.invoked
  /-- A closed failure is the last to be invoked, and the only one without an outcome. -/
  stopped : ∀ raised, delivery.raised = some raised → ∃ earlier last, delivery.invoked = earlier ++ [last] ∧
    stops attempt last = true ∧ failure attempt last = some raised ∧ delivery.recorded = outcomes attempt event earlier

theorem failure_isSome {subscription : EventSubscription system} (closed : stops attempt subscription = true) :
    (failure attempt subscription).isSome = true := by
  unfold stops at closed
  unfold failure
  cases result : (attempt subscription.handler).result <;> simp [result, Except.toBool] at closed ⊢

theorem prefix_reached (subscriptions : List (EventSubscription system)) :
    reached attempt subscriptions <+: subscriptions := by
  unfold reached
  induction subscriptions with
  | nil => exact prefix_rfl
  | cons subscription rest ih =>
    rw [takeWhile_cons, find?_cons]
    cases stops attempt subscription with
    | true => exact ⟨rest, rfl⟩
    | false => exact (prefix_cons_inj _).mpr ih

/-- Handlers of one class are delivered to in order. -/
theorem Registered.ordered_delivered (registered : Registered calls publisher) :
    (delivered publisher event).Pairwise fun first second =>
      first.eventType = second.eventType → position first < position second := by
  refine pairwise_flatMap.mpr ⟨fun entry member => ?_, ?_⟩
  · rw [registered.value_eq (mem_of_mem_filter member)]
    refine (Ranking.strict_ascending (distinct_positions _)).imp ?_
    intro first second before _
    exact before
  · refine (registered.ordered_entries.sublist filter_sublist).imp_of_mem ?_
    intro earlier later before after less first firstOwn second secondOwn same
    rw [((registered.mem_value (mem_of_mem_filter before)).mp firstOwn).2,
      ((registered.mem_value (mem_of_mem_filter after)).mp secondOwn).2] at same
    rw [same] at less
    exact absurd less (Nat.lt_irrefl _)

/-- A delivery that invokes whatever it comes to is accounted for. -/
theorem accounted_of_registered (registered : Registered calls publisher)
    (always : ∀ subscription ∈ compatible calls event, (attempt subscription.handler).invoked = true) :
    Accounted calls event attempt (deliverClasses event attempt publisher.subscriptions.entries) := by
  have run : deliverClasses event attempt publisher.subscriptions.entries =
      deliverAll event attempt (delivered publisher event) := deliverClasses_eq _
  have perm : (delivered publisher event).Perm (compatible calls event) := registered.perm_delivered
  have part : reached attempt (delivered publisher event) <+: delivered publisher event := prefix_reached _
  have distinct : (compatible calls event).Nodup := (distinct_positions _).of_map
  have whole : (reached attempt (delivered publisher event)).filter
      (fun subscription => (attempt subscription.handler).invoked) = reached attempt (delivered publisher event) :=
    filter_eq_self.mpr fun subscription member => always subscription (perm.mem_iff.mp (part.subset member))
  rw [run, deliverAll_eq, whole]
  refine ⟨(perm.nodup_iff.mpr distinct).sublist part.sublist, fun subscription member =>
    perm.mem_iff.mp (part.subset member), registered.ordered_delivered.sublist part.sublist, ?_, ?_, ?_⟩
  · dsimp only
    constructor
    · intro raised
      obtain ⟨raised, shape⟩ := Option.isSome_iff_exists.mp raised
      obtain ⟨last, found, -⟩ := Option.bind_eq_some_iff.mp shape
      exact ⟨last, perm.mem_iff.mp (mem_of_find?_eq_some found), find?_some found⟩
    · rintro ⟨subscription, member, closed⟩
      obtain ⟨last, found⟩ := Option.isSome_iff_exists.mp
        (find?_isSome.mpr ⟨subscription, perm.mem_iff.mpr member, closed⟩)
      rw [found]
      exact failure_isSome (find?_some found)
  · intro quiet
    have harmless : ∀ subscription ∈ delivered publisher event, stops attempt subscription = false := by
      intro subscription member
      by_contra closed
      obtain ⟨last, found⟩ := Option.isSome_iff_exists.mp
        (find?_isSome.mpr ⟨subscription, member, Bool.of_not_eq_false closed⟩)
      have raised := failure_isSome (find?_some found)
      dsimp only at quiet
      rw [found] at quiet
      change failure attempt last = none at quiet
      rw [quiet] at raised
      cases raised
    obtain ⟨all, -, same⟩ := reached_of_harmless harmless
    dsimp only
    rw [all, same]
    exact ⟨perm, rfl⟩
  · intro raised shape
    obtain ⟨last, found, failed⟩ := Option.bind_eq_some_iff.mp shape
    refine ⟨_, last, ?_, find?_some found, failed, rfl⟩
    dsimp only
    unfold reached
    rw [found]
    rfl

/-- After accepted subscriptions every delivery is accounted for; within a transaction, where the compatible
signatures are readable. -/
theorem deliveries_accounted (accepted : subscribeAll calls = .ok publisher) :
    Accounted calls event (plainAttempt event) (publish event publisher).2 ∧
      ((∀ subscription ∈ compatible calls event, subscription.handler.parameters.toBool = true) → ∀ transaction,
        Accounted calls event (transactionAttempt event transaction)
          (publishInTransaction event publisher transaction).2) := by
  have registered := registered_of_accepted accepted
  refine ⟨accounted_of_registered registered fun _ _ => rfl, fun readable transaction => ?_⟩
  refine accounted_of_registered registered fun subscription member => ?_
  rw [invoked_transactionAttempt]
  exact readable subscription member

/-- Subscriptions against the order of their handlers. -/
theorem deliveries_accounted_inverted : ∃ publisher,
    subscribeAll [quietPlugin true "audit" 100, quietPlugin false "metering" 1] = .ok publisher ∧
      Accounted [quietPlugin true "audit" 100, quietPlugin false "metering" 1] () (transactionAttempt () ())
        (publishInTransaction () publisher ()).2 := by
  refine ⟨_, rfl, (@deliveries_accounted evaluationEvents () _ _ rfl).2 ?_ ()⟩
  decide

end AiGovernance.Events
