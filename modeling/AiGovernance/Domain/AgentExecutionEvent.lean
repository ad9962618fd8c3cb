import AiGovernance.Domain.AgentExecution

/-!
# Agent execution events

Append-only records of runtime activity
(`domain/agent_execution/agent_execution_event.py`): the typed evidence they
carry, the privacy check on free-form attributes, and the equality a store
uses to tell a redelivery from a conflict.
-/

namespace AiGovernance.Domain

open AiGovernance.Std

/-- The event vocabulary. -/
inductive EventType where
  | executionStarted
  | modelCall
  | toolCall
  | runtimeActionAuthorization
  | runtimeActionExecutionReceipt
  | workflowStep
  | governanceDecision
  | evaluation
  | error
  | executionCompleted
deriving DecidableEq

/-- Who or what triggered an event. -/
inductive ActorType where
  | agent
  | model
  | tool
  | governance
  | evaluator
  | system
deriving DecidableEq

/-- Lifecycle of one logical unit of orchestrated execution. -/
inductive WorkflowStepLifecycle where
  | started
  | completed
  | failed
deriving DecidableEq

/-! ## Workflow steps -/

/-- The fields of `WorkflowStep`. -/
structure WorkflowStepRecord where
  stepId : String
  stepName : String
  lifecycle : WorkflowStepLifecycle
  parentStepId : Option String
  sourceKind : Option String
deriving DecidableEq

/-- One segment `[a-z][a-z0-9_-]*` of a source kind. -/
def isSourceSegment (segment : List Char) : Bool :=
  let lower := fun c : Char => 97 ≤ c.toNat && c.toNat ≤ 122
  match segment with
  | [] => false
  | head :: tail =>
    lower head && tail.all (fun c => lower c || (48 ≤ c.toNat && c.toNat ≤ 57) || c == '_' || c == '-')

/-- A full match of `_SOURCE_KIND_PATTERN`: at least two dotted segments. -/
def isSourceKind (text : String) : Bool :=
  let segments := Text.splitChars '.' text.toList
  2 ≤ segments.length && segments.all isSourceSegment

/-- A bounded, non-blank field of a workflow step. -/
def requireStepField (name value : String) : Option Raised :=
  firstViolation [
    rejectIf (Text.isBlank value) .valueError (name ++ " must not be empty."),
    rejectIf (256 < value.length) .valueError (name ++ " must not exceed 256 characters.")]

/-- `WorkflowStep.__post_init__`. -/
def WorkflowStepRecord.violation (record : WorkflowStepRecord) : Option Raised :=
  firstViolation [
    requireStepField "step_id" record.stepId,
    requireStepField "step_name" record.stepName,
    rejectIf (record.parentStepId.any Text.isBlank) .valueError "parent_step_id must not be blank.",
    rejectIf (record.parentStepId.any (256 < ·.length)) .valueError
      "parent_step_id must not exceed 256 characters.",
    rejectIf (record.parentStepId = some record.stepId) .valueError
      "parent_step_id must not equal step_id.",
    rejectIf (record.sourceKind.any (fun kind => 256 < kind.length || !isSourceKind kind)) .valueError
      ("source_kind must be a bounded lowercase namespaced identifier, " ++
        "for example 'langgraph.node'.")]

/-- Provider-neutral structure carried by a `WORKFLOW_STEP` event. -/
abbrev WorkflowStep := Checked WorkflowStepRecord.violation

/-! ## Tool calls -/

/-- The fields of `ToolCallContext`. -/
structure ToolCallContextRecord where
  schemaVersion : String
  runtimeToolCallId : String
  toolCallGroupId : String
  dependsOnToolCallIds : List String
deriving DecidableEq

/-- A bounded, non-blank identifier of a tool call. -/
def requireToolCallField (name value : String) : Option Raised :=
  firstViolation [
    rejectIf (Text.isBlank value) .valueError (name ++ " must not be blank."),
    rejectIf (256 < value.length) .valueError (name ++ " must not exceed 256 characters.")]

/-- One dependency of a tool call: non-blank, bounded, and not the call itself. -/
def requireDependency (runtimeToolCallId dependencyId : String) : Option Raised :=
  firstViolation [
    rejectIf (Text.isBlank dependencyId) .valueError
      "depends_on_tool_call_ids must not contain blank values.",
    rejectIf (256 < dependencyId.length) .valueError
      "depends_on_tool_call_ids values must not exceed 256 characters.",
    rejectIf (dependencyId = runtimeToolCallId) .valueError
      "runtime_tool_call_id must not depend on itself."]

/-- `ToolCallContext.__post_init__`. -/
def ToolCallContextRecord.violation (record : ToolCallContextRecord) : Option Raised :=
  firstViolation ([
    rejectIf (record.schemaVersion ≠ "1") .valueError
      ("Unsupported tool-call context schema version '" ++ record.schemaVersion ++
        "'; supported versions: ['1']."),
    requireToolCallField "runtime_tool_call_id" record.runtimeToolCallId,
    requireToolCallField "tool_call_group_id" record.toolCallGroupId,
    rejectIf (64 < record.dependsOnToolCallIds.length) .valueError
      "depends_on_tool_call_ids must not contain more than 64 items.",
    rejectIf (¬ record.dependsOnToolCallIds.Nodup) .valueError
      "depends_on_tool_call_ids must be unique."] ++
    record.dependsOnToolCallIds.map (requireDependency record.runtimeToolCallId))

/-- Provider-neutral execution structure observed for a tool invocation. -/
abbrev ToolCallContext := Checked ToolCallContextRecord.violation

/-! ## Privacy of attributes -/

/-- `_PROHIBITED_KEYS`: fields that must never be persisted in event attributes. -/
def prohibitedKeys : List String :=
  ["prompt", "system_prompt", "response", "messages", "conversation", "chain_of_thought",
    "chain_of_thoughts", "reasoning", "credentials", "authorization", "authorization_header",
    "authorization_headers", "api_key", "apikey", "token", "password", "secret", "tool_payload",
    "tool_output", "tool_arguments", "tool_result", "external_tool_call_id"]

/-- `key.lower().replace("-", "_").replace(" ", "_")` on one character. Among characters
outside ASCII only the Kelvin sign lowers to an ASCII letter, so no other can
complete a prohibited key. -/
def normalizeChar (c : Char) : Char :=
  if c = '-' ∨ c = ' ' then '_'
  else if 65 ≤ c.toNat ∧ c.toNat ≤ 90 then Char.ofNat (c.toNat + 32)
  else if c.toNat = 0x212A then 'k'
  else c

/-- The normal form a key is compared to `prohibitedKeys` in. -/
def normalizeKey (key : String) : String := String.ofList (key.toList.map normalizeChar)

mutual

/-- `_find_prohibited_key_in_value`: the dotted path of the first prohibited key. -/
def findProhibitedKeyInValue : Json → String → Option String
  | .obj fields, path => findProhibitedKeyInFields fields path
  | .arr items, path => findProhibitedKeyInItems items path 0
  | .null, _ | .bool _, _ | .int _, _ | .float _, _ | .str _, _ => none

/-- The loop over the fields of an object. -/
def findProhibitedKeyInFields : List (String × Json) → String → Option String
  | [], _ => none
  | (key, value) :: rest, path =>
    let current := if path = "" then key else path ++ "." ++ key
    if normalizeKey key ∈ prohibitedKeys then some current
    else
      match findProhibitedKeyInValue value current with
      | some found => some found
      | none => findProhibitedKeyInFields rest path

/-- The loop over the items of an array, from index `index`. -/
def findProhibitedKeyInItems : List Json → String → Nat → Option String
  | [], _, _ => none
  | item :: rest, path, index =>
    match findProhibitedKeyInValue item (path ++ "[" ++ toString index ++ "]") with
    | some found => some found
    | none => findProhibitedKeyInItems rest path (index + 1)

end

/-- The rejection of an attribute path. -/
def prohibitedKeyError (path : String) : Raised :=
  ⟨.valueError, "Event attributes must not contain prohibited key '" ++ path ++
    "'; raw prompts, responses, credentials, and reasoning traces are not persisted."⟩

/-- The check of one top-level attribute. -/
def rejectAttribute (entry : String × Json) : Option Raised :=
  if normalizeKey entry.1 ∈ prohibitedKeys then some (prohibitedKeyError entry.1)
  else (findProhibitedKeyInValue entry.2 "").map prohibitedKeyError

/-! ## Events -/

/-- The fields of `AgentExecutionEvent`. -/
structure AgentExecutionEventRecord where
  eventId : String
  executionId : String
  organizationId : String
  projectId : Option String
  eventType : EventType
  sequenceNumber : Nat
  occurredAt : Instant
  receivedAt : Instant
  correlationId : Option String
  causationId : Option String
  actorId : Option String
  actorType : Option ActorType
  workflowStep : Option WorkflowStep := none
  toolCallContext : Option ToolCallContext := none
  lateForRuntimeFindings : Bool := false
  runtimeFindingsFinalizationCutoffAt : Option Instant := none
  runtimeFindingsLatenessPolicyHours : Option Int := none
  resourceReferences : List String := []
  evidenceReferences : List String := []
  attributes : List (String × Json) := []
  eventSchemaVersion : String := "1"
deriving DecidableEq

/-- `AgentExecutionEvent.__post_init__`. -/
def AgentExecutionEventRecord.violation (record : AgentExecutionEventRecord) : Option Raised :=
  firstViolation ([
    requireText "event_id" record.eventId,
    requireText "execution_id" record.executionId,
    requireText "organization_id" record.organizationId,
    requireProject record.projectId,
    rejectIf (record.eventSchemaVersion ≠ "1") .valueError
      ("Unsupported event schema version '" ++ record.eventSchemaVersion ++
        "'; Phase 1 supports: ['1']."),
    rejectIf (record.receivedAt < record.occurredAt) .valueError
      "received_at must not precede occurred_at.",
    rejectIf (record.eventType = .workflowStep && record.workflowStep.isNone) .valueError
      "WORKFLOW_STEP events require typed workflow_step evidence.",
    rejectIf (record.eventType ≠ .workflowStep && record.workflowStep.isSome) .valueError
      "workflow_step evidence is valid only for WORKFLOW_STEP events.",
    rejectIf (record.eventType ≠ .toolCall && record.toolCallContext.isSome) .valueError
      "tool_call_context is valid only for TOOL_CALL events.",
    rejectIf (record.resourceReferences.any Text.isBlank) .valueError
      "resource_references must not contain empty strings.",
    rejectIf (record.evidenceReferences.any Text.isBlank) .valueError
      "evidence_references must not contain empty strings."] ++
    record.attributes.map rejectAttribute)

theorem AgentExecutionEventRecord.violation_kind {record : AgentExecutionEventRecord} {raised : Raised}
    (violated : record.violation = some raised) : raised.kind = .valueError := by
  refine firstViolation_kind (fun test member raised found => ?_) violated
  rcases List.mem_append.mp member with scalar | entered
  · simp only [List.mem_cons, List.not_mem_nil, or_false] at scalar
    rcases scalar with rfl | rfl | rfl | rfl | rfl | rfl | rfl | rfl | rfl | rfl | rfl <;>
      exact rejectIf_kind found
  · obtain ⟨entry, -, rfl⟩ := List.mem_map.mp entered
    unfold rejectAttribute at found
    split at found
    · cases found
      rfl
    · obtain ⟨path, -, rfl⟩ := Option.map_eq_some_iff.mp found
      rfl

/-- An immutable, append-only record of one agent runtime activity. -/
abbrev AgentExecutionEvent := Checked AgentExecutionEventRecord.violation

namespace AgentExecutionEvent

/-- The dataclass `==`: attributes compare as dictionaries, everything else as it is. -/
def sameEvent (left right : AgentExecutionEvent) : Bool :=
  { left.record with attributes := [] } = { right.record with attributes := [] } &&
    Json.sameFields left.record.attributes right.record.attributes

/-- The comparison of a redelivered payload with the stored one: type, attributes,
workflow step and tool-call context. -/
def samePayload (existing : AgentExecutionEvent) (eventType : EventType)
    (attributes : List (String × Json)) (workflowStep : Option WorkflowStep)
    (toolCallContext : Option ToolCallContext) : Bool :=
  existing.record.eventType = eventType && Json.sameFields existing.record.attributes attributes &&
    existing.record.workflowStep = workflowStep &&
    existing.record.toolCallContext = toolCallContext

/-- Equal events share their identifier and every other field but the attribute order. -/
theorem sameEvent_fields {left right : AgentExecutionEvent} (same : sameEvent left right = true) :
    { left.record with attributes := [] } = { right.record with attributes := [] } ∧
      Json.sameFields left.record.attributes right.record.attributes = true := by
  simpa [sameEvent] using same

end AgentExecutionEvent

end AiGovernance.Domain
