import AiGovernance.Domain.AgentExecutionEvent
import AiGovernance.Domain.RuntimeAuthorization

/-!
# Runtime action execution receipts

What an authenticated runtime reports about an already-authorized attempt
(`runtime_authorization/receipts.py`), its persisted shape, and the event
identity derived from it (`_receipt_event_id`, `_receipt_from_event`).
-/

namespace AiGovernance.Domain

open AiGovernance.Std

/-- `RUNTIME_ACTION_EXECUTION_RECEIPT_SCHEMA_VERSION`. -/
def runtimeActionExecutionReceiptSchemaVersion : String := "runtime-action-execution-receipt/v1"

/-- A runtime-reported terminal outcome for an already-authorized attempt. -/
inductive RuntimeActionExecutionReceiptStatus where
  | notExecuted
  | succeeded
  | failed
  | unknown
deriving DecidableEq

namespace RuntimeActionExecutionReceiptStatus

/-- The stored text of a status. -/
def value : RuntimeActionExecutionReceiptStatus → String
  | notExecuted => "NOT_EXECUTED"
  | succeeded => "SUCCEEDED"
  | failed => "FAILED"
  | unknown => "UNKNOWN"

/-- The enumeration constructor. -/
def ofValue (text : String) : Except Raised RuntimeActionExecutionReceiptStatus :=
  if text = "NOT_EXECUTED" then .ok notExecuted
  else if text = "SUCCEEDED" then .ok succeeded
  else if text = "FAILED" then .ok failed
  else if text = "UNKNOWN" then .ok unknown
  else .error ⟨.valueError, "'" ++ text ++ "' is not a valid RuntimeActionExecutionReceiptStatus"⟩

end RuntimeActionExecutionReceiptStatus

/-- The fields of `RuntimeActionExecutionReceipt`. -/
structure RuntimeActionExecutionReceiptRecord where
  receiptId : String
  decisionId : String
  requestFingerprint : String
  actionId : String
  runtimeToolCallId : String
  toolArgumentsDigest : String
  status : RuntimeActionExecutionReceiptStatus
  reasonCode : String
  attestedBy : String
  attestedAt : Instant
  resultReference : Option String
  resultDigest : Option String
  supersedesReceiptId : Option String
  schemaVersion : String
deriving DecidableEq

/-- `_require_identifier` of the receipt contract. -/
def requireReceiptIdentifier (name value : String) : Option Raised :=
  rejectIf (!Text.isIdentifier 255 value) .valueError (name ++ " must be a bounded identifier.")

/-- `RuntimeActionExecutionReceipt.__post_init__`. -/
def RuntimeActionExecutionReceiptRecord.violation
    (record : RuntimeActionExecutionReceiptRecord) : Option Raised :=
  firstViolation [
    rejectIf (record.schemaVersion ≠ runtimeActionExecutionReceiptSchemaVersion) .valueError
      "Unsupported runtime action execution receipt schema version.",
    requireReceiptIdentifier "receipt_id" record.receiptId,
    requireReceiptIdentifier "decision_id" record.decisionId,
    requireReceiptIdentifier "action_id" record.actionId,
    requireReceiptIdentifier "runtime_tool_call_id" record.runtimeToolCallId,
    requireReceiptIdentifier "reason_code" record.reasonCode,
    requireReceiptIdentifier "attested_by" record.attestedBy,
    rejectIf (!Text.isHexDigest record.requestFingerprint) .valueError
      "request_fingerprint must be a lowercase SHA-256 hex digest.",
    requireDigest "tool_arguments_digest" record.toolArgumentsDigest,
    rejectIf (record.resultReference.any fun reference =>
        Text.isBlank reference || 512 < reference.length) .valueError
      "result_reference must be non-blank and bounded.",
    requireOptionalDigest "result_digest" record.resultDigest,
    rejectIf (record.resultReference.isNone ≠ record.resultDigest.isNone) .valueError
      "result_reference and result_digest are required together.",
    record.supersedesReceiptId.elim none (requireReceiptIdentifier "supersedes_receipt_id"),
    rejectIf (record.status = .succeeded &&
        (record.resultReference.isNone || record.resultDigest.isNone)) .valueError
      "SUCCEEDED receipts require a result reference and digest.",
    rejectIf ((record.status = .notExecuted || record.status = .unknown) &&
        record.resultReference.isSome) .valueError
      (record.status.value ++ " receipts must not contain a result."),
    rejectIf (record.status = .unknown && record.supersedesReceiptId.any (· ≠ "")) .valueError
      "UNKNOWN receipts cannot supersede a prior receipt."]

/-- Immutable attestation submitted by the authenticated runtime. -/
abbrev RuntimeActionExecutionReceipt := Checked RuntimeActionExecutionReceiptRecord.violation

namespace RuntimeActionExecutionReceipt

/-- `to_payload`: the persisted shape of a receipt. -/
def toPayload (receipt : RuntimeActionExecutionReceipt) : List (String × Json) :=
  let r := receipt.record
  [("schema_version", .str r.schemaVersion),
    ("receipt_id", .str r.receiptId),
    ("decision_id", .str r.decisionId),
    ("request_fingerprint", .str r.requestFingerprint),
    ("action_id", .str r.actionId),
    ("runtime_tool_call_id", .str r.runtimeToolCallId),
    ("tool_arguments_digest", .str r.toolArgumentsDigest),
    ("status", .str r.status.value),
    ("reason_code", .str r.reasonCode),
    ("attested_by", .str r.attestedBy),
    ("attested_at", .str r.attestedAt.isoformat),
    ("result_reference", optionalText r.resultReference),
    ("result_digest", optionalText r.resultDigest),
    ("supersedes_receipt_id", optionalText r.supersedesReceiptId)]

/-- `_optional_string` of the receipt contract: any text, even an empty one. -/
def optionalString : Option Json → Option String
  | some (.str text) => some text
  | _ => none

/-- The `ValueError` every malformed payload is turned into. -/
def malformed : Raised := ⟨.valueError, "Stored runtime action execution receipt is malformed."⟩

/-- The fields `from_payload` hands to the constructor. -/
def recordOfPayload (primitives : Primitives) (fields : List (String × Json)) :
    Option RuntimeActionExecutionReceiptRecord := do
  let receiptId ← primitives.textField fields "receipt_id"
  let decisionId ← primitives.textField fields "decision_id"
  let requestFingerprint ← primitives.textField fields "request_fingerprint"
  let actionId ← primitives.textField fields "action_id"
  let runtimeToolCallId ← primitives.textField fields "runtime_tool_call_id"
  let toolArgumentsDigest ← primitives.textField fields "tool_arguments_digest"
  let status ← primitives.textField fields "status"
  let status ← (RuntimeActionExecutionReceiptStatus.ofValue status).toOption
  let reasonCode ← primitives.textField fields "reason_code"
  let attestedBy ← primitives.textField fields "attested_by"
  let attestedAt ← primitives.textField fields "attested_at"
  let attestedAt ← Instant.fromisoformat attestedAt
  let schemaVersion ← primitives.textField fields "schema_version"
  return {
    receiptId, decisionId, requestFingerprint, actionId, runtimeToolCallId, toolArgumentsDigest,
    status, reasonCode, attestedBy, attestedAt, schemaVersion
    resultReference := optionalString (Json.field fields "result_reference")
    resultDigest := optionalString (Json.field fields "result_digest")
    supersedesReceiptId := optionalString (Json.field fields "supersedes_receipt_id") }

/-- `from_payload`. -/
def fromPayload (primitives : Primitives) : Option Json → Except Raised RuntimeActionExecutionReceipt
  | some (.obj fields) =>
    match recordOfPayload primitives fields with
    | none => .error malformed
    | some record =>
      match Checked.create record with
      | .ok receipt => .ok receipt
      | .error _ => .error malformed
  | _ => .error ⟨.typeError, "Execution receipt payload must be a mapping."⟩

end RuntimeActionExecutionReceipt

/-! ## Receipts as events -/

/-- The text `_receipt_event_id` hashes. -/
def receiptIdentityText (decisionId runtimeToolCallId : String)
    (supersedesReceiptId : Option String) : String :=
  "runtime-action-receipt:" ++ decisionId ++ ":" ++ runtimeToolCallId ++ ":" ++
    (Text.orElse supersedesReceiptId (some "initial")).getD "initial"

/-- `_receipt_event_id`: the identity of a receipt, derived from what it attests. -/
def receiptEventId (primitives : Primitives) (decisionId runtimeToolCallId : String)
    (supersedesReceiptId : Option String) : String :=
  "receipt:" ++ primitives.sha256 (receiptIdentityText decisionId runtimeToolCallId supersedesReceiptId)

/-- The attribute a receipt event carries its payload under. -/
def receiptAttribute : String := "runtime_action_execution_receipt"

/-- `_receipt_from_event`. -/
def receiptFromEvent (primitives : Primitives) (event : AgentExecutionEvent) :
    Except Raised RuntimeActionExecutionReceipt :=
  match RuntimeActionExecutionReceipt.fromPayload primitives
      (Json.field event.record.attributes receiptAttribute) with
  | .error _ =>
    .error ⟨.agentExecutionInvalidTransition,
      "Stored runtime action execution receipt is malformed."⟩
  | .ok receipt =>
    if receipt.record.receiptId ≠ event.record.eventId then
      .error ⟨.agentExecutionInvalidTransition,
        "Stored runtime action execution receipt identity does not match its event."⟩
    else .ok receipt

end AiGovernance.Domain
