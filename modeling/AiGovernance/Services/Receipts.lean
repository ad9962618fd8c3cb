import AiGovernance.Services.AgentExecution

/-!
# Receipt ingestion

`ingest_runtime_action_execution_receipt` and its validators
(`services/agent_execution_service.py`): one attestation of an authorized
attempt, stored as an event whose identifier is derived from what it attests.
-/

namespace AiGovernance.Services

open AiGovernance.Std Domain Repositories Semantics

/-- The arguments of `ingest_runtime_action_execution_receipt`. -/
structure ReceiptSubmission where
  executionId : String
  decisionId : String
  requestFingerprint : String
  actionId : String
  runtimeToolCallId : String
  toolArgumentsDigest : String
  receiptStatus : String
  reasonCode : String
  idempotencyKey : String
  resultReference : Option String := none
  resultDigest : Option String := none
  supersedesReceiptId : Option String := none
deriving DecidableEq

/-- The identity the submission's receipt is stored under. -/
def ReceiptSubmission.receiptId (primitives : Primitives) (submission : ReceiptSubmission) : String :=
  receiptEventId primitives submission.decisionId submission.runtimeToolCallId
    submission.supersedesReceiptId

/-- The bindings two receipts of one attempt share. -/
def bindingsMatch (receipt : RuntimeActionExecutionReceipt) (submission : ReceiptSubmission) : Bool :=
  receipt.record.decisionId = submission.decisionId &&
    receipt.record.requestFingerprint = submission.requestFingerprint &&
    receipt.record.actionId = submission.actionId &&
    receipt.record.runtimeToolCallId = submission.runtimeToolCallId &&
    receipt.record.toolArgumentsDigest = submission.toolArgumentsDigest

/-- The rejection of a receipt that differs from the stored one. -/
def conflictingReceipt : Raised :=
  ⟨.agentExecutionIdempotencyConflict, "Conflicting runtime action execution receipt submission."⟩

/-- `_match_existing_receipt_submission`. The submitted status is read only once the
bindings are equal. -/
def matchExistingReceiptSubmission (primitives : Primitives) (submission : ReceiptSubmission)
    (actorId : String) (event : AgentExecutionEvent) : Except Raised AgentExecutionEvent :=
  if event.record.eventType ≠ .runtimeActionExecutionReceipt then
    .error ⟨.agentExecutionIdempotencyConflict,
      "Receipt identity conflicts with a different execution event."⟩
  else do
    let receipt ← receiptFromEvent primitives event
    if receipt.record.attestedBy ≠ actorId then
      .error (invalidTransition "Authenticated runtime identity does not match the existing receipt.")
    else if !bindingsMatch receipt submission then .error conflictingReceipt
    else
      let status ← RuntimeActionExecutionReceiptStatus.ofValue submission.receiptStatus
      if receipt.record.status ≠ status || receipt.record.reasonCode ≠ submission.reasonCode ||
          receipt.record.resultReference ≠ submission.resultReference ||
          receipt.record.resultDigest ≠ submission.resultDigest ||
          receipt.record.supersedesReceiptId ≠ submission.supersedesReceiptId then
        .error conflictingReceipt
      else .ok event

/-- An attribute equals a text: `attributes.get(key) == text`. -/
def attributeIs (event : AgentExecutionEvent) (key text : String) : Bool :=
  Json.field event.record.attributes key = some (.str text)

/-- `_validate_receipt_decision_link`. -/
def validateReceiptDecisionLink (submission : ReceiptSubmission) (actorId : String)
    (decisionEvent : Option AgentExecutionEvent) : Except Raised AgentExecutionEvent :=
  match decisionEvent with
  | none => .error (invalidTransition
      "Receipt must reference an authorization decision in the same execution scope.")
  | some event =>
    if event.record.eventType ≠ .runtimeActionAuthorization then
      .error (invalidTransition
        "Receipt must reference an authorization decision in the same execution scope.")
    else if !attributeIs event "authorization_outcome" "ALLOW" then
      .error (invalidTransition
        "Receipt must reference an authorization decision with outcome ALLOW.")
    else if !attributeIs event "request_fingerprint" submission.requestFingerprint ||
        !attributeIs event "action_id" submission.actionId ||
        !attributeIs event "tool_arguments_digest" submission.toolArgumentsDigest then
      .error (invalidTransition "Receipt does not match the authorization decision bindings.")
    else if !attributeIs event "actor_id" actorId then
      .error (invalidTransition
        "Authenticated runtime identity does not match the authorization decision.")
    else .ok event

/-- The loop of `_validate_receipt_supersession` over the listed events. -/
def rejectSuperseded (primitives : Primitives) (supersedesReceiptId : String) :
    List AgentExecutionEvent → Except Raised Unit
  | [] => .ok ()
  | event :: rest =>
    if event.record.eventType ≠ .runtimeActionExecutionReceipt then
      rejectSuperseded primitives supersedesReceiptId rest
    else
      match receiptFromEvent primitives event with
      | .error raised => .error raised
      | .ok existing =>
        if existing.record.supersedesReceiptId = some supersedesReceiptId then
          .error ⟨.agentExecutionIdempotencyConflict,
            "An UNKNOWN receipt may be superseded only once."⟩
        else rejectSuperseded primitives supersedesReceiptId rest

/-- The checks of `_validate_receipt_supersession` on the superseded receipt. -/
def checkPredecessor (primitives : Primitives) (submission : ReceiptSubmission) (actorId : String)
    (predecessorEvent : Option AgentExecutionEvent) : Except Raised Unit :=
  match predecessorEvent with
  | none => .error (invalidTransition
      "Superseded receipt was not found in the current execution scope.")
  | some event => do
      let predecessor ← receiptFromEvent primitives event
      if predecessor.record.status ≠ .unknown then
        .error (invalidTransition "Only an UNKNOWN receipt may be reconciled.")
      else if predecessor.record.attestedBy ≠ actorId || !bindingsMatch predecessor submission then
        .error (invalidTransition
          "Superseding receipt does not match the uncertain receipt bindings.")
      else .ok ()

/-- `_validate_receipt_supersession`. -/
def validateReceiptSupersession (primitives : Primitives) (submission : ReceiptSubmission)
    (supersedesReceiptId : String) (status : RuntimeActionExecutionReceiptStatus)
    (context : TenantContext) : Operation Unit :=
  if status = .unknown then
    .raise (invalidTransition "An UNKNOWN receipt cannot supersede a prior receipt.")
  else do
    let predecessorEvent ← issue
      (.getEventById supersedesReceiptId submission.executionId context.scope)
    Program.ofExcept (checkPredecessor primitives submission context.actorId predecessorEvent)
    let events ← issue (.listEventsByExecution submission.executionId context.scope none)
    Program.ofExcept (rejectSuperseded primitives supersedesReceiptId events)
    if submission.receiptId primitives = supersedesReceiptId then
      .raise (invalidTransition "A receipt cannot supersede itself.")
    else .done ()

/-- The supersession check, made only for a submission that supersedes. -/
def validateSupersessionIfAny (primitives : Primitives) (submission : ReceiptSubmission)
    (status : RuntimeActionExecutionReceiptStatus) (context : TenantContext) : Operation Unit :=
  match submission.supersedesReceiptId with
  | none => .done ()
  | some supersedesReceiptId =>
    validateReceiptSupersession primitives submission supersedesReceiptId status context

/-- The receipt a submission attests. -/
def submittedReceipt (primitives : Primitives) (submission : ReceiptSubmission)
    (status : RuntimeActionExecutionReceiptStatus) (actorId : String) (now : Instant) :
    RuntimeActionExecutionReceiptRecord :=
  { receiptId := submission.receiptId primitives
    decisionId := submission.decisionId
    requestFingerprint := submission.requestFingerprint
    actionId := submission.actionId
    runtimeToolCallId := submission.runtimeToolCallId
    toolArgumentsDigest := submission.toolArgumentsDigest
    status
    reasonCode := submission.reasonCode
    attestedBy := actorId
    attestedAt := now
    resultReference := submission.resultReference
    resultDigest := submission.resultDigest
    supersedesReceiptId := submission.supersedesReceiptId
    schemaVersion := runtimeActionExecutionReceiptSchemaVersion }

/-- The event a receipt is stored as. -/
def receiptEvent (submission : ReceiptSubmission) (receipt : RuntimeActionExecutionReceipt)
    (decisionEvent : AgentExecutionEvent) (context : TenantContext) (now : Instant)
    (sequenceNumber : Nat) : AgentExecutionEventRecord :=
  { eventId := receipt.record.receiptId
    executionId := submission.executionId
    organizationId := context.scope.organizationId
    projectId := context.scope.projectId
    eventType := .runtimeActionExecutionReceipt
    sequenceNumber
    occurredAt := now
    receivedAt := now
    correlationId := decisionEvent.record.correlationId
    causationId := some submission.decisionId
    actorId := some context.actorId
    actorType := some .agent
    evidenceReferences := (submission.resultReference.filter (· ≠ "")).toList
    attributes := [(receiptAttribute, .obj receipt.toPayload),
      ("receipt_submission_idempotency_key", .str submission.idempotencyKey)] }

/-- Store a receipt event; whatever `save` raises, an event found under its identity decides. -/
def storeReceipt (primitives : Primitives) (submission : ReceiptSubmission)
    (context : TenantContext) (event : AgentExecutionEvent) : Operation AgentExecutionEvent := do
  let saved ← tryIssue (.saveEvent event none)
  match saved with
  | .ok saved => .done saved
  | .error raised =>
    let existing ← issue (.getEventById (submission.receiptId primitives) submission.executionId
      context.scope)
    match existing with
    | some existing =>
      Program.ofExcept (matchExistingReceiptSubmission primitives submission context.actorId existing)
    | none => .raise raised

/-- The part of receipt ingestion after no receipt was found under the identity. -/
def attestReceipt (primitives : Primitives) (submission : ReceiptSubmission)
    (context : TenantContext) (ambient : Ambient) : Operation AgentExecutionEvent := do
  let decisionEvent ← issue (.getEventById submission.decisionId submission.executionId context.scope)
  let decisionEvent ← Program.ofExcept
    (validateReceiptDecisionLink submission context.actorId decisionEvent)
  let status ← Program.ofExcept (RuntimeActionExecutionReceiptStatus.ofValue submission.receiptStatus)
  validateSupersessionIfAny primitives submission status context
  let receipt : RuntimeActionExecutionReceipt ← Program.ofExcept (Checked.create
    (submittedReceipt primitives submission status context.actorId ambient.now))
  let highest ← issue (.maxSequenceNumber submission.executionId context.scope)
  let event : AgentExecutionEvent ← Program.ofExcept (Checked.create
    (receiptEvent submission receipt decisionEvent context ambient.now (highest + 1)))
  storeReceipt primitives submission context event

/-- `ingest_runtime_action_execution_receipt`. -/
def ingestRuntimeActionExecutionReceipt (primitives : Primitives) (submission : ReceiptSubmission)
    (context : TenantContext) (ambient : Ambient) : Operation AgentExecutionEvent := do
  enforce ambient
  if Text.isBlank submission.idempotencyKey then
    .raise ⟨.valueError, "Receipt idempotency_key is required."⟩
  else
    let execution ← issue (.getExecution submission.executionId context.scope)
    match execution with
    | none => .raise ⟨.agentExecutionNotFound,
        "Execution '" ++ submission.executionId ++ "' not found in tenant scope."⟩
    | some _ =>
      let existing ← issue
        (.getEventById (submission.receiptId primitives) submission.executionId context.scope)
      match existing with
      | some existing =>
        Program.ofExcept
          (matchExistingReceiptSubmission primitives submission context.actorId existing)
      | none => attestReceipt primitives submission context ambient

end AiGovernance.Services
