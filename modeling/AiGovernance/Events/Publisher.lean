import AiGovernance.Domain.Errors
import AiGovernance.Std.Dict
import AiGovernance.Std.Ranking
import Mathlib.Data.Prod.Lex

/-!
# The event publisher

Ordered, in-process subscriptions of plugins to event classes
(`events/publisher.py`). Subscriptions are kept and sorted class by class, in the
order the classes were first subscribed to, and delivered in that order too.
The durations of the diagnostics are left out.
-/

namespace AiGovernance.Events

open AiGovernance.Std Domain

/-- The event classes and their subtyping, and what Python knows of events and exceptions. -/
structure EventSystem where
  Class : Type
  Event : Type
  Transaction : Type
  Failure : Type
  classes : DecidableEq Class
  typeOf : Event → Class
  isSubclass : Class → Class → Bool
  name : Class → String
  str : Failure → String

instance (system : EventSystem) : DecidableEq system.Class := system.classes

/-- `FailurePolicy`. -/
inductive FailurePolicy where
  | failClosed
  | failOpen
  | isolateAndContinue
  | retry
  | deadLetter
deriving DecidableEq

variable (system : EventSystem)

/-- `isinstance(event, event_type)`. -/
def EventSystem.isInstance (event : system.Event) (eventType : system.Class) : Bool :=
  system.isSubclass (system.typeOf event) eventType

/-- A subscribed callable: the parameters `inspect.signature` reads, unless it raises, and how a call with
the event, and one with the transaction too, end when awaited. -/
structure Handler where
  parameters : Except system.Failure Nat
  call : system.Event → Except system.Failure Unit
  callWithin : system.Event → system.Transaction → Except system.Failure Unit

/-- The arguments of `subscribe`. -/
structure SubscribeCall where
  eventType : system.Class
  handler : Handler system
  pluginName : String
  order : Int := 100
  failurePolicy : FailurePolicy := .isolateAndContinue

/-- `EventSubscription`. -/
structure EventSubscription extends SubscribeCall system where
  sequence : Nat

/-- One entry of the recent publications. -/
structure Publication where
  event : String
  plugin : String
  order : Int
  succeeded : Bool
  failureReason : Option String
deriving DecidableEq

/-- `EventPublisher`. -/
structure EventPublisher where
  subscriptions : Dict system.Class (List (EventSubscription system)) := .empty
  sequence : Nat := 0
  recent : List Publication := []

variable {system}

/-- The key subscriptions are sorted by. -/
def position (subscription : EventSubscription system) : Int ×ₗ Nat := toLex (subscription.order, subscription.sequence)

/-- `subscribe`. -/
def subscribe (publisher : EventPublisher system) (call : SubscribeCall system) :
    Except Raised (EventPublisher system) :=
  let held := (publisher.subscriptions.get? call.eventType).getD []
  if held.any (·.pluginName = call.pluginName) then
    .error ⟨.valueError,
      "Plugin '" ++ call.pluginName ++ "' already subscribes to " ++ system.name call.eventType ++ "."⟩
  else
    let sequence := publisher.sequence + 1
    .ok { publisher with
      subscriptions := publisher.subscriptions.set call.eventType
        (Ranking.ascending position (held ++ [{ call with sequence }]))
      sequence }

/-- Calls of `subscribe` on a new publisher, all of them accepted. -/
def subscribeAll (calls : List (SubscribeCall system)) : Except Raised (EventPublisher system) :=
  calls.foldlM subscribe {}

/-! ## Delivery -/

/-- How the attempt to run a handler went: whether it was invoked, and the result. -/
structure Attempt (system : EventSystem) where
  invoked : Bool
  result : Except system.Failure Unit

/-- The attempt of `publish`. -/
def plainAttempt (event : system.Event) (handler : Handler system) : Attempt system := ⟨true, handler.call event⟩

/-- The attempt of `publish_in_transaction`. -/
def transactionAttempt (event : system.Event) (transaction : system.Transaction) (handler : Handler system) :
    Attempt system :=
  match handler.parameters with
  | .error failure => ⟨false, .error failure⟩
  | .ok count => ⟨true, if 2 ≤ count then handler.callWithin event transaction else handler.call event⟩

/-- What a delivery did: the handlers it invoked, the outcomes it recorded, and what it raised. -/
structure Delivery (system : EventSystem) where
  invoked : List (EventSubscription system) := []
  recorded : List Publication := []
  raised : Option system.Failure := none

/-- One delivery after another, unless the first raised. -/
def Delivery.andThen (first second : Delivery system) : Delivery system :=
  if first.raised.isSome then first
  else ⟨first.invoked ++ second.invoked, first.recorded ++ second.recorded, second.raised⟩

/-- The outcome recorded of a handler. -/
def publication (event : system.Event) (subscription : EventSubscription system)
    (result : Except system.Failure Unit) : Publication where
  event := system.name (system.typeOf event)
  plugin := subscription.pluginName
  order := subscription.order
  succeeded := result.toBool
  failureReason := match result with
    | .ok () => none
    | .error failure => some (system.str failure)

variable (event : system.Event) (attempt : Handler system → Attempt system)

/-- The attempt of one subscription; a closed failure is raised before its outcome is recorded. -/
def deliverOne (subscription : EventSubscription system) : Delivery system :=
  let tried := attempt subscription.handler
  let invoked := if tried.invoked then [subscription] else []
  match tried.result with
  | .ok () => { invoked, recorded := [publication event subscription (.ok ())] }
  | .error failure =>
    if subscription.failurePolicy = .failClosed then { invoked, raised := some failure }
    else { invoked, recorded := [publication event subscription (.error failure)] }

/-- The loop over the subscriptions of one class. -/
def deliverAll : List (EventSubscription system) → Delivery system
  | [] => {}
  | subscription :: rest => (deliverOne event attempt subscription).andThen (deliverAll rest)

/-- The loop over the subscribed classes. -/
def deliverClasses : List (system.Class × List (EventSubscription system)) → Delivery system
  | [] => {}
  | (eventType, subscriptions) :: rest =>
    if !system.isInstance event eventType then deliverClasses rest
    else (deliverAll event attempt subscriptions).andThen (deliverClasses rest)

/-- The publisher after a delivery. -/
def EventPublisher.record (publisher : EventPublisher system) (delivery : Delivery system) : EventPublisher system :=
  { publisher with recent := publisher.recent ++ delivery.recorded }

/-- `publish`. -/
def publish (publisher : EventPublisher system) : EventPublisher system × Delivery system :=
  let delivery := deliverClasses event (plainAttempt event) publisher.subscriptions.entries
  (publisher.record delivery, delivery)

/-- `publish_in_transaction`. -/
def publishInTransaction (publisher : EventPublisher system) (transaction : system.Transaction) :
    EventPublisher system × Delivery system :=
  let delivery := deliverClasses event (transactionAttempt event transaction) publisher.subscriptions.entries
  (publisher.record delivery, delivery)

end AiGovernance.Events
