import AiGovernance.Domain.Errors
import AiGovernance.Semantics.Pool
import AiGovernance.Std.Dict
import AiGovernance.Std.Instant
import AiGovernance.Std.Json

/-!
# Synchronization events

Durable requests to reconcile the ontology graph, their in-memory repository
(`repositories/in_memory_ontology_sync_event_repository.py`), one turn of a worker
and the requests of an operator (`ontology/synchronization/events.py`). Every
write is a whole record that was read earlier. What a reconciliation reports is
part of a worker's call; log lines are left out.
-/

namespace AiGovernance.Synchronization

open AiGovernance.Std Domain Semantics

/-- Processing lifecycle of an event. -/
inductive OntologySyncEventStatus where
  | pending
  | processing
  | completed
  | failed
  | deadLetter
  | cancelled
deriving DecidableEq

/-- The fields of `OntologySyncEvent`. -/
structure OntologySyncEventRecord where
  eventType : String
  entityType : String
  correlationId : String
  eventId : String
  entityId : Option String := none
  scopeIdentifier : Option String := none
  payload : List (String × Json) := []
  status : OntologySyncEventStatus := .pending
  retryCount : Nat := 0
  createdAt : Instant
  updatedAt : Instant
  completedAt : Option Instant := none
  errorMessage : Option String := none
  nextRetryAt : Option Instant := none
  lastError : Option String := none
  failedAt : Option Instant := none
  reconciliationReport : Option (List (String × Json)) := none
  lockedBy : Option String := none
  lockExpiresAt : Option Instant := none
  organizationId : String := "org_default"
  projectId : String := "project_default"
deriving DecidableEq

/-- `OntologySyncEvent.__post_init__`. -/
def OntologySyncEventRecord.violation (record : OntologySyncEventRecord) : Option Raised :=
  firstViolation [
    rejectIf (record.eventId = "") .valueError "event_id is required.",
    rejectIf (record.eventType = "") .valueError "event_type is required.",
    rejectIf (record.entityType = "") .valueError "entity_type is required.",
    rejectIf (record.correlationId = "") .valueError "correlation_id is required.",
    rejectIf (record.entityId = none && record.scopeIdentifier = none) .valueError
      "Either entity_id or scope_identifier is required."]

/-- Durable request to reconcile ontology projection state. -/
abbrev OntologySyncEvent := Checked OntologySyncEventRecord.violation

/-! ## Repository -/

/-- `InMemoryOntologySyncEventRepository`. -/
structure SyncEventStore where
  byId : Dict String OntologySyncEvent
  keyed : ∀ {eventId event}, byId.get? eventId = some event → event.record.eventId = eventId

namespace SyncEventStore

/-- The empty repository. -/
def empty : SyncEventStore := ⟨.empty, by simp⟩

/-- `save`. -/
def save (store : SyncEventStore) (event : OntologySyncEvent) : SyncEventStore where
  byId := store.byId.set event.record.eventId event
  keyed := store.byId.keyed_set store.keyed rfl

theorem get?_save (store : SyncEventStore) (event : OntologySyncEvent) (eventId : String) :
    (store.save event).byId.get? eventId =
      if eventId = event.record.eventId then some event else store.byId.get? eventId :=
  Dict.get?_set store.byId

/-- The order of `(created_at, event_id)`. -/
def sortsBefore (left right : OntologySyncEvent) : Prop :=
  left.record.createdAt < right.record.createdAt ∨
    (left.record.createdAt = right.record.createdAt ∧ left.record.eventId ≤ right.record.eventId)

instance (left right : OntologySyncEvent) : Decidable (sortsBefore left right) :=
  inferInstanceAs (Decidable (_ ∨ _))

/-- `_is_due_for_processing`. -/
def isDueForProcessing (now : Instant) (event : OntologySyncEvent) : Bool :=
  match event.record.status with
  | .pending => true
  | .failed => event.record.nextRetryAt.all (· ≤ now)
  | .processing => event.record.lockExpiresAt.any (· ≤ now)
  | _ => false

/-- An event a worker has locked. -/
def acquired (workerId : String) (leaseSeconds : Nat) (now : Instant) (event : OntologySyncEvent) :
    OntologySyncEvent :=
  ⟨{ event.record with
      status := .processing
      updatedAt := now
      lockedBy := some workerId
      lockExpiresAt := some (now.add (leaseSeconds * Instant.second)) }, event.valid⟩

theorem get?_save_acquired (store : SyncEventStore) (workerId : String) (leaseSeconds : Nat) (now : Instant)
    (event : OntologySyncEvent) (eventId : String) :
    (store.save (acquired workerId leaseSeconds now event)).byId.get? eventId =
      if eventId = event.record.eventId then some (acquired workerId leaseSeconds now event)
      else store.byId.get? eventId :=
  get?_save store (acquired workerId leaseSeconds now event) eventId

/-- The event an acquisition takes. -/
def nextDue (store : SyncEventStore) (now : Instant) : Option OntologySyncEvent :=
  ((store.byId.values.insertionSort sortsBefore).filter (isDueForProcessing now)).head?

/-- `acquire_next`. -/
def acquireNext (store : SyncEventStore) (workerId : String) (leaseSeconds : Nat) (now : Instant) :
    Option OntologySyncEvent × SyncEventStore :=
  match store.nextDue now with
  | none => (none, store)
  | some event =>
    let locked := acquired workerId leaseSeconds now event
    (some locked, store.save locked)

end SyncEventStore

/-- The calls of the repository. -/
inductive SyncCommand where
  | save (event : OntologySyncEvent)
  | findById (eventId : String)
  | acquireNext (workerId : String) (leaseSeconds : Nat) (now : Instant)

/-- What each call answers. -/
def SyncCommand.Answer : SyncCommand → Type
  | save _ => Unit
  | findById _ => Option OntologySyncEvent
  | acquireNext _ _ _ => Option OntologySyncEvent

/-- The repository as workers and operators see it. -/
abbrev syncRepository : Interface := ⟨SyncCommand, SyncCommand.Answer, Raised⟩

/-- How the repository answers. -/
def syncStores : Handler syncRepository SyncEventStore
  | .save event, store => (.ok (), store.save event)
  | .findById eventId, store => (.ok (store.byId.get? eventId), store)
  | .acquireNext workerId leaseSeconds now, store =>
    let outcome := store.acquireNext workerId leaseSeconds now
    (.ok outcome.1, outcome.2)

/-- A computation over the repository. -/
abbrev SyncOperation := Program syncRepository

/-- Issue a call of the repository. -/
abbrev request (command : SyncCommand) : SyncOperation command.Answer :=
  Program.call (I := syncRepository) command

/-! ## Workers -/

/-- `OntologySyncRetryPolicy`. -/
structure OntologySyncRetryPolicy where
  maxRetries : Nat := 3
  baseDelaySeconds : Nat := 30
  maxDelaySeconds : Nat := 900
deriving DecidableEq

/-- `OntologySyncRetryPolicy.next_retry_at`. -/
def OntologySyncRetryPolicy.nextRetryAt (policy : OntologySyncRetryPolicy) (retryCount : Nat)
    (now : Instant) : Instant :=
  now.add (min (policy.baseDelaySeconds * 2 ^ (retryCount - 1)) policy.maxDelaySeconds * Instant.second)

/-- What a reconciliation reports. -/
structure ReconciliationReport where
  metrics : List (String × Json)
  repairFailures : Nat
deriving DecidableEq

/-- An exception of a reconciliation, and whether another attempt may help. -/
structure ProcessingError where
  message : String
  retryable : Bool := true
deriving DecidableEq

/-- The reconciler a worker calls. -/
structure Reconciler where
  reconcileEntity : String → String → Except ProcessingError ReconciliationReport
  reconcileScope : String → Except ProcessingError ReconciliationReport

/-- `_run_reconciliation`. -/
def runReconciliation (reconciler : Reconciler) (event : OntologySyncEvent) :
    Except ProcessingError ReconciliationReport :=
  match event.record.entityId, event.record.scopeIdentifier with
  | some entityId, _ => reconciler.reconcileEntity event.record.entityType entityId
  | none, some scope => reconciler.reconcileScope scope
  | none, none => .error ⟨"Event has neither entity_id nor scope_identifier.", false⟩

/-- How a worker is set up, and the clock readings of one turn. -/
structure SyncWorker where
  workerId : String := "ontology-sync-worker"
  retryPolicy : OntologySyncRetryPolicy := {}
  leaseSeconds : Nat := 60
  reconciler : Reconciler
  acquiredAt : Instant
  updatedAt : Instant
  finishedAt : Instant

/-- The record `_mark_failed` writes. -/
def failedEvent (policy : OntologySyncRetryPolicy) (event : OntologySyncEvent) (error : ProcessingError)
    (now : Instant) : OntologySyncEvent :=
  let retryCount := event.record.retryCount + 1
  let shouldRetry := error.retryable && decide (retryCount ≤ policy.maxRetries)
  ⟨{ event.record with
      status := if shouldRetry then .failed else .deadLetter
      retryCount := retryCount
      updatedAt := now
      completedAt := if shouldRetry then none else some now
      errorMessage := some error.message
      lastError := some error.message
      failedAt := some now
      nextRetryAt := if shouldRetry then some (policy.nextRetryAt retryCount now) else none
      lockedBy := none
      lockExpiresAt := none }, event.valid⟩

/-- The record of a completed event. -/
def completedEvent (event : OntologySyncEvent) (metrics : List (String × Json)) (updatedAt now : Instant) :
    OntologySyncEvent :=
  ⟨{ event.record with
      status := .completed
      updatedAt := updatedAt
      completedAt := some now
      errorMessage := none
      lastError := none
      failedAt := none
      nextRetryAt := none
      reconciliationReport := some metrics
      lockedBy := none
      lockExpiresAt := none }, event.valid⟩

/-- What a worker writes for an event it has processed. -/
def processedEvent (worker : SyncWorker) (event : OntologySyncEvent) : OntologySyncEvent :=
  match runReconciliation worker.reconciler event with
  | .error error => failedEvent worker.retryPolicy event error worker.finishedAt
  | .ok report =>
    if report.repairFailures ≠ 0 then
      failedEvent worker.retryPolicy event
        ⟨"Reconciliation completed with " ++ toString report.repairFailures ++ " repair failure(s).", true⟩
        worker.finishedAt
    else completedEvent event report.metrics worker.updatedAt worker.finishedAt

/-- `OntologySynchronizationWorker.process_next`. -/
def processNext (worker : SyncWorker) : SyncOperation (Option OntologySyncEvent) := do
  match ← request (.acquireNext worker.workerId worker.leaseSeconds worker.acquiredAt) with
  | none => return none
  | some event => do
      let processed := processedEvent worker event
      request (.save processed)
      return some processed

/-! ## Operators -/

/-- `OntologySyncEventService.get_event`. -/
def getEvent (eventId : String) (organizationId projectId : Option String) :
    SyncOperation OntologySyncEvent := do
  match ← request (.findById eventId) with
  | some event =>
    if organizationId.all (event.record.organizationId = ·) ∧ projectId.all (event.record.projectId = ·) then
      return event
    else .raise ⟨.keyError, "Ontology sync event '" ++ eventId ++ "' was not found."⟩
  | none => .raise ⟨.keyError, "Ontology sync event '" ++ eventId ++ "' was not found."⟩

/-- The record `retry_event` writes. -/
def retriedEvent (event : OntologySyncEvent) (now : Instant) : OntologySyncEvent :=
  ⟨{ event.record with
      status := .pending
      updatedAt := now
      completedAt := none
      errorMessage := none
      nextRetryAt := none
      lockedBy := none
      lockExpiresAt := none }, event.valid⟩

/-- `retry_event`. -/
def retryEvent (eventId : String) (organizationId projectId : Option String) (now : Instant) :
    SyncOperation OntologySyncEvent := do
  let event ← getEvent eventId organizationId projectId
  if event.record.status = .failed ∨ event.record.status = .deadLetter then do
    let retried := retriedEvent event now
    request (.save retried)
    return retried
  else .raise ⟨.valueError, "Only failed or dead-letter events can be retried."⟩

/-- The record `cancel_event` writes. -/
def cancelledEvent (event : OntologySyncEvent) (now : Instant) : OntologySyncEvent :=
  ⟨{ event.record with
      status := .cancelled
      updatedAt := now
      completedAt := some now
      errorMessage := some "Cancelled by operator."
      lockedBy := none
      lockExpiresAt := none }, event.valid⟩

/-- `cancel_event`. -/
def cancelEvent (eventId : String) (organizationId projectId : Option String) (now : Instant) :
    SyncOperation OntologySyncEvent := do
  let event ← getEvent eventId organizationId projectId
  if event.record.status ≠ .pending then .raise ⟨.valueError, "Only pending events can be cancelled."⟩
  else do
    let cancelled := cancelledEvent event now
    request (.save cancelled)
    return cancelled

/-! ## Calls -/

/-- One call. -/
inductive SyncCall where
  | process (worker : SyncWorker)
  | retry (eventId : String) (organizationId projectId : Option String) (now : Instant)
  | cancel (eventId : String) (organizationId projectId : Option String) (now : Instant)

/-- The steps of a call, and the event it returns. -/
def SyncCall.body : SyncCall → SyncOperation (Option OntologySyncEvent)
  | process worker => processNext worker
  | retry eventId organizationId projectId now => do
      let event ← retryEvent eventId organizationId projectId now
      return some event
  | cancel eventId organizationId projectId now => do
      let event ← cancelEvent eventId organizationId projectId now
      return some event

end AiGovernance.Synchronization
