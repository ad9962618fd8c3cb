import AiGovernance.Domain.AgentExecutionEvent
import AiGovernance.Domain.Job
import AiGovernance.Domain.RuntimeFinding
import AiGovernance.Repositories.CausalAudits

/-!
# Causal audits of executions

`start` and `execute` of `CausalAuditService`
(`services/causal_audit_service.py`). The services it is built with are fields
of the service; what they read and write is the `World`. Every call that
generates a counterfactual, prepares a replay source, creates or submits a
replay, saves a finding or submits a job is recorded as an effect.
-/

namespace AiGovernance.Audits

open AiGovernance.Std Domain Findings

/-! ## Exceptions -/

/-- The built-in classes that a handler tells apart. -/
inductive ExceptionFamily where
  | keyError
  | typeError
  | valueError
  | other
deriving DecidableEq

/-- An exception: the name of its class, what it derives from, its `code` and its text. -/
structure AuditException where
  className : String
  family : ExceptionFamily := .valueError
  code : Option String := none
  message : String
deriving DecidableEq

/-- What a call of the service or of one of its services returns or raises. -/
abbrev Answer (α : Type) := Except AuditException α

/-- The check of a record, or a refused save, raises a `ValueError`. -/
def lift {α : Type} (result : Except Raised α) : Answer α :=
  result.mapError fun raised => { className := "ValueError", message := raised.message }

/-- `CausalAuditNotEligible`. -/
def notEligible (message : String) : AuditException := { className := "CausalAuditNotEligible", message }

/-- `InsufficientCounterfactualEvidence`. -/
def insufficient (message : String) : AuditException :=
  { className := "InsufficientCounterfactualEvidence", message }

/-- `ControlledReplayTerminalFailure`. -/
def controlledReplayTerminalFailure (replay : Replay) : AuditException :=
  let failed := "Controlled Replay '" ++ replay.replayId ++ "' "
  if replay.status = .cancelled then
    { className := "ControlledReplayTerminalFailure", code := some "CONTROLLED_REPLAY_CANCELLED"
      message := failed ++ "Controlled Replay was cancelled." }
  else
    { className := "ControlledReplayTerminalFailure", code := some "CONTROLLED_REPLAY_FAILED"
      message := failed ++
        match replay.failure with
        | some failure => failure.record.code ++ ": " ++ failure.record.message
        | none => "Controlled Replay failed without a persisted failure detail." }

/-! ## The services it is built with -/

/-- Who a call is made for. -/
structure AuditCaller where
  organizationId : String
  projectId : Option String
  actorId : String
  requestId : String
  correlationId : Option String
deriving DecidableEq

/-- What the service reads of a `ReplayManifest`: the messages of its reasons. -/
structure ReplayManifest where
  reasons : List String
deriving DecidableEq

/-- `is_eligible`. -/
def ReplayManifest.isEligible (manifest : ReplayManifest) : Bool := manifest.reasons.isEmpty

/-- What the service reads of an `AgentRuntimeReplayCapability`. -/
structure AgentRuntimeReplayCapability where
  adapterId : String
  supportedInterventions : List ControlledEvidenceStrategy
deriving DecidableEq

/-- What the service reads of a `PreparedAgentRuntimeReplay`. -/
structure PreparedAgentRuntimeReplay where
  sourceExecutionId : String
  capability : AgentRuntimeReplayCapability
deriving DecidableEq

/-- `CounterfactualEvidence`. -/
structure CounterfactualEvidence where
  counterfactualEvidenceRef : String
  policyId : String
  policyVersion : Int
  providerId : String
  providerVersion : String
  originalEvidenceDigest : String
  counterfactualEvidenceDigest : String
deriving DecidableEq

/-- What the service reads of an `EvidenceInterventionPolicy`. -/
structure EvidenceInterventionPolicy where
  toolName : String
  schemaId : String
  schemaVersion : String
deriving DecidableEq

/-- `AgentRuntimeReplaySourceBridge`; `prepare` saves a replay source. -/
structure ReplaySourceBridge (World : Type) where
  manifest : AgentExecution → List AgentExecutionEvent → AuditCaller → ReplayManifest
  validate : AgentExecution → List AgentExecutionEvent → AuditCaller → Answer AgentRuntimeReplayCapability
  prepare : AgentExecution → List AgentExecutionEvent → AuditCaller → World → Answer PreparedAgentRuntimeReplay × World

/-- `GovernedCounterfactualGenerator`. -/
structure CounterfactualGenerator (World : Type) where
  validate : AgentExecutionEvent → ControlledEvidenceStrategy → Option String → Option Int → AuditCaller → World →
    Answer Unit
  generate : AgentExecutionEvent → ControlledEvidenceStrategy → Option String → Option Int → Int → AuditCaller →
    World → Answer CounterfactualEvidence × World

/-- The arguments of `ReplayApplicationService.create`. -/
structure ReplayCreation where
  sourceExecutionId : String
  idempotencyKey : String
  metadata : Diagnostics
  controlledEvidenceIntervention : ControlledEvidenceIntervention
deriving DecidableEq

/-- `ReplayApplicationService`; both calls return the identifier of the replay. -/
structure ReplayApplication (World : Type) where
  create : ReplayCreation → AuditCaller → World → Answer String × World
  submit : String → AuditCaller → World → Answer String × World

/-- `CausalAuditSettings`. -/
structure CausalAuditSettings where
  influenceThreshold : Rat := 1 / 100
  saturationThreshold : Rat := 95 / 100
  defaultCounterfactualSamples : Int := 3
  maxCounterfactualSamples : Int := 10
  maxToolCalls : Nat := 20
deriving DecidableEq

/-- `score_baseline` of an `OutcomeScorer`. -/
abbrev OutcomeScorer := String → AgentExecutionEvent → Answer OutcomeScore

/-- The constructor arguments of `CausalAuditService`, the digests it computes, and the text and the digest that the
language and the records of other modules give a value. -/
structure CausalAuditService (World : Type) where
  executions : World → String → AuditCaller → Answer (Option AgentExecution)
  events : World → String → AuditCaller → Answer (List AgentExecutionEvent)
  jobs : Option (JobSubmission → World → Answer Unit × World)
  scorers : List (String × OutcomeScorer)
  settings : CausalAuditSettings
  findingRepository : Option (RuntimeFinding → World → Answer Unit × World)
  replayApplication : Option (ReplayApplication World)
  replays : Option (World → String → AuditCaller → Answer (Option Replay))
  replaySourceBridge : Option (ReplaySourceBridge World)
  replayExecutionStore : Option (World → String → AuditCaller → Answer (Option Diagnostics))
  counterfactualGenerator : Option (CounterfactualGenerator World)
  interventionPolicies : Option (World → String → Int → AuditCaller → Answer EvidenceInterventionPolicy)
  fingerprint : AuditCaller → String → String → InterventionConfiguration → String
  resultDigest : OutcomeScore → List ToolEvidenceInfluence → String
  interventionSeed : CausalAudit → String → Nat → Int
  sealed : ControlledEvidenceIntervention → Answer ControlledEvidenceIntervention
  textOf : Json → String

/-- What a call does besides writing the audit. -/
inductive AuditEffect where
  | jobSubmitted
  | sourcePrepared (executionId : String)
  | generated (eventId : String) (sampleIndex : Nat)
  | replayCreated (idempotencyKey : String)
  | replaySubmitted (replayId : String)
  | findingSaved (findingId : String)
deriving DecidableEq

/-- The audit repository, what the other services hold, and the effects so far. -/
structure AuditState (World : Type) where
  audits : CausalAuditStore
  world : World
  effects : List AuditEffect

/-- A call that has ended, with the state it leaves. -/
abbrev AuditOutcome (World α : Type) := Answer α × AuditState World

/-- Go on where a call has returned. -/
def AuditOutcome.andThen {World α β : Type} (outcome : AuditOutcome World α)
    (next : α → AuditState World → AuditOutcome World β) : AuditOutcome World β :=
  match outcome with
  | (.ok value, state) => next value state
  | (.error exception, state) => (.error exception, state)

/-- A call of another service, recorded as an effect. -/
def AuditState.perform {World α : Type} (state : AuditState World) (effect : AuditEffect)
    (act : World → Answer α × World) : AuditOutcome World α :=
  ((act state.world).1, { state with world := (act state.world).2, effects := state.effects ++ [effect] })

/-- `save` of the audit repository. -/
def AuditState.save {World : Type} (state : AuditState World) (audit : CausalAudit) (expectedVersion : Option Nat) :
    AuditOutcome World CausalAudit :=
  match state.audits.save audit expectedVersion with
  | .ok audits => (.ok audit, { state with audits })
  | .error raised => (lift (.error raised), state)

/-! ## Eligibility -/

/-- `isinstance(value, (int, float))`, with the number; a boolean is one. -/
def numberOf : Option Json → Option Rat
  | some (.int value) => some value
  | some (.float value) => some value
  | some (.bool value) => some (if value then 1 else 0)
  | _ => none

/-- An evaluation with a numeric score. -/
def isScored (event : AgentExecutionEvent) : Bool :=
  event.record.eventType = .evaluation && (numberOf (Json.field event.record.attributes "score")).isSome

/-- `RecordedOutcomeScorer.score_baseline`. -/
def recordedOutcomeScorer : OutcomeScorer := fun executionId event =>
  match numberOf (Json.field event.record.attributes "score") with
  | none =>
    .error { className := "EvaluatorUnavailable"
             message := "The selected evaluator has no recorded baseline score." }
  | some value =>
    lift (Checked.create ⟨value, "recorded_numeric", "runtime", "v1", [("execution_id", .str executionId)]⟩)

/-- The truth value of a JSON value. -/
def truthy : Json → Bool
  | .null => false
  | .bool value => value
  | .int value => value ≠ 0
  | .float value => value ≠ 0
  | .str value => value ≠ ""
  | .arr items => !items.isEmpty
  | .obj fields => !fields.isEmpty

/-- `first or second`. -/
def orElse (first second : Option Json) : Option Json :=
  if first.any truthy then first else second

/-- `_policy_matches_tool_evidence`. -/
def policyMatchesToolEvidence (policy : EvidenceInterventionPolicy) (event : AgentExecutionEvent) : Bool :=
  match Json.field event.record.attributes "causal_replay" with
  | some (.obj raw) =>
    match Json.field raw "evidence_descriptor" with
    | some (.obj descriptor) =>
      let toolName := orElse (orElse (Json.field descriptor "tool_name")
        (Json.field event.record.attributes "tool")) (event.record.actorId.map Json.str)
      toolName = some (.str policy.toolName) &&
        Json.field descriptor "schema_id" = some (.str policy.schemaId) &&
        Json.field descriptor "schema_version" = some (.str policy.schemaVersion)
    | _ => false
  | _ => false

/-- The members of `CausalAuditEligibilityCode`. -/
def eligibilityCodes : List CausalAuditEligibilityCode :=
  [.eligible, .notReplayable, .missingToolEvidence, .missingScorer, .unsupportedTool, .unsupportedProvider,
    .incompleteExecution, .interventionPolicyNotConfigured, .interventionPolicyInactive,
    .ambiguousInterventionPolicy, .interventionProviderNotAvailable, .evidenceSchemaUnavailable,
    .unsupportedEvidenceType, .unsupportedIntervention]

/-- `_eligibility_code`. -/
def eligibilityCode (exception : AuditException) : CausalAuditEligibilityCode :=
  (exception.code.bind fun code => eligibilityCodes.find? (·.value = code)).getD .unsupportedIntervention

namespace CausalAuditService

variable {World : Type} (service : CausalAuditService World)

/-- The calls that an explicitly selected policy governs. -/
def selectedToolCalls (world : World) (calls : List AgentExecutionEvent) (policyId : Option String)
    (policyVersion : Option Int) (caller : AuditCaller) : Answer (List AgentExecutionEvent) :=
  match policyId, policyVersion with
  | none, _ => .ok calls
  | some _, none =>
    .error { className := "ValueError", message := "An explicit intervention policy requires a version." }
  | some policyId, some policyVersion =>
    match service.interventionPolicies with
    | none =>
      .error { className := "AttributeError", family := .other
               message := "'NoneType' object has no attribute 'get'" }
    | some policies => do
        let policy ← policies world policyId policyVersion caller
        .ok (calls.filter (policyMatchesToolEvidence policy))

/-- `_audited_tool_calls`. -/
def auditedToolCalls (world : World) (calls : List AgentExecutionEvent) (strategy : ControlledEvidenceStrategy)
    (policyId : Option String) (policyVersion : Option Int) (caller : AuditCaller) :
    Answer (List AgentExecutionEvent) :=
  match service.counterfactualGenerator with
  | none => .error { className := "AssertionError", family := .other, message := "" }
  | some generator => do
      let selected ← service.selectedToolCalls world calls policyId policyVersion caller
      selected.forM fun event => generator.validate event strategy policyId policyVersion caller world
      .ok selected

/-- `_controlled_replay_available`. -/
def controlledReplayAvailable (execution : AgentExecution) (events : List AgentExecutionEvent) (caller : AuditCaller)
    (strategy : ControlledEvidenceStrategy) : Answer Bool :=
  match service.replaySourceBridge with
  | none => .ok false
  | some bridge =>
    if service.replayApplication.isNone || service.replays.isNone || service.replayExecutionStore.isNone then
      .ok false
    else
      match bridge.validate execution events caller with
      | .ok capability => .ok (capability.supportedInterventions.contains strategy)
      | .error exception =>
        if exception.family = .typeError || exception.family = .valueError then .ok false
        else .error exception

/-- The manifest, or without a bridge the status, of an execution that cannot be replayed. -/
def replayRefusal (execution : AgentExecution) (events : List AgentExecutionEvent) (caller : AuditCaller) :
    Option CausalAuditEligibility :=
  match service.replaySourceBridge with
  | some bridge =>
    let manifest := bridge.manifest execution events caller
    if manifest.isEligible then none else some { code := .notReplayable, reason := manifest.reasons.headD "" }
  | none =>
    if execution.record.status ≠ .succeeded then
      some { code := .incompleteExecution
             reason := "Only successfully completed executions can be causally audited." }
    else none

/-- `eligibility` of an execution that has tool calls. -/
def toolCallEligibility (world : World) (execution : AgentExecution) (events calls : List AgentExecutionEvent)
    (caller : AuditCaller) (strategy : ControlledEvidenceStrategy) (policyId : Option String)
    (policyVersion : Option Int) : Answer CausalAuditEligibility :=
  if service.counterfactualGenerator.isNone || service.interventionPolicies.isNone then
    .ok { code := .interventionProviderNotAvailable
          reason := "No authorized evidence intervention provider is configured."
          auditableToolCallCount := calls.length }
  else
    match service.controlledReplayAvailable execution events caller strategy with
    | .error exception => .error exception
    | .ok false =>
      .ok { code := .unsupportedTool
            reason := "Execution has no supported, isolated controlled Replay capability."
            auditableToolCallCount := calls.length }
    | .ok true =>
      match service.auditedToolCalls world calls strategy policyId policyVersion caller with
      | .error exception =>
        .ok { code := eligibilityCode exception, reason := exception.message
              auditableToolCallCount := calls.length }
      | .ok [] =>
        .ok { code := .unsupportedIntervention
              reason := "The selected intervention policy does not authorize any tool calls in this execution."
              auditableToolCallCount := calls.length }
      | .ok (_ :: _) =>
        .ok { code := .eligible
              reason := "Execution has bounded evidence references and isolated replay capability."
              auditableToolCallCount := calls.length }

/-- `eligibility`. -/
def eligibility (world : World) (executionId : String) (caller : AuditCaller) (evaluatorRef : String)
    (strategy : ControlledEvidenceStrategy) (policyId : Option String) (policyVersion : Option Int) :
    Answer CausalAuditEligibility := do
  let some execution ← service.executions world executionId caller
    | .ok { code := .notReplayable, reason := "Execution was not found in the current tenant scope." }
  if (service.scorers.lookup evaluatorRef).isNone then
    .ok { code := .missingScorer, reason := "The requested outcome scorer is unavailable." }
  else do
    let events ← service.events world executionId caller
    match service.replayRefusal execution events caller with
    | some refusal => .ok refusal
    | none =>
      let calls := events.filter (·.record.eventType = .toolCall)
      if !events.any isScored then
        .ok { code := .missingScorer
              reason := "Execution has no durable outcome score for the selected evaluator." }
      else if calls.length > service.settings.maxToolCalls then
        .ok { code := .unsupportedTool
              reason := "Execution exceeds the configured causal-audit tool-call limit."
              auditableToolCallCount := calls.length }
      else if calls.isEmpty then
        .ok { code := .eligible
              reason := "Execution has bounded evidence references and isolated replay capability." }
      else service.toolCallEligibility world execution events calls caller strategy policyId policyVersion

end CausalAuditService

/-! ## Replays planned and their outcomes -/

/-- `fields[key]`. -/
def required (fields : Diagnostics) (key : String) : Answer Json :=
  match Json.field fields key with
  | some value => .ok value
  | none => .error { className := "KeyError", family := .keyError, message := "'" ++ key ++ "'" }

/-- `int(value)`. -/
def intOf : Json → Answer Int
  | .int value => .ok value
  | .bool value => .ok (if value then 1 else 0)
  | .float value => .ok (value.num.tdiv value.den)
  | .str text =>
    match Text.parseInt text with
    | some value => .ok value
    | none =>
      .error { className := "ValueError", message := "invalid literal for int() with base 10: '" ++ text ++ "'" }
  | _ =>
    .error { className := "TypeError", family := .typeError
             message := "int() argument must be a string, a bytes-like object or a real number" }

/-- A call on a service that is not there. -/
def missingService {α : Type} (method : String) : Answer α :=
  .error { className := "AttributeError", family := .other
           message := "'NoneType' object has no attribute '" ++ method ++ "'" }

/-- `_planned_replays`. -/
def plannedReplays (audit : CausalAudit) : Answer (List Diagnostics) :=
  match Json.field audit.record.diagnostics "counterfactual_replays" with
  | some (.arr items) => items.mapM fun item =>
    match item with
    | .obj fields =>
      if ["tool_call_id", "sample_index", "replay_id"].all fun key => (Json.field fields key).isSome then .ok fields
      else .error (insufficient "Causal Audit replay plan is malformed.")
    | _ => .error (insufficient "Causal Audit replay plan is malformed.")
  | _ => .ok []

/-- `_planned_provenance`. -/
def plannedProvenance (toolCallId : String) (planned : List Diagnostics) : Diagnostics :=
  match planned.find? fun item => Json.field item "tool_call_id" = some (.str toolCallId) with
  | none => []
  | some first =>
    ["policy_id", "policy_version", "provider_id", "provider_version", "original_evidence_digest",
      "counterfactual_evidence_reference", "counterfactual_evidence_digest", "intervention_digest"].filterMap
        fun key => (Json.field first key).bind fun value => if value = .null then none else some (key, value)

/-- One controlled replay with its score. -/
structure ReplayOutcome where
  score : OutcomeScore
  replayId : String
  executionId : String
  lineage : CounterfactualReplayLineage

/-- The statuses of a replay that has an execution to score. -/
def hasCompleted (status : ReplayStatus) : Bool :=
  status = .executionCompleted || status = .evaluating || status = .comparing || status = .completed

namespace CausalAuditService

variable {World : Type} (service : CausalAuditService World)

/-- `_controlled_replays_completed`. -/
def controlledReplaysCompleted (world : World) (caller : AuditCaller) : List Diagnostics → Answer Bool
  | [] => .ok true
  | item :: rest => do
      let replayId ← required item "replay_id"
      let some replays := service.replays | missingService "get"
      let some replay ← replays world (service.textOf replayId) caller
        | .error (insufficient "A controlled Replay disappeared.")
      if replay.status = .failed || replay.status = .cancelled then .error (controlledReplayTerminalFailure replay)
      else if hasCompleted replay.status then controlledReplaysCompleted world caller rest
      else .ok false

/-- The lineage of one outcome; what is missing or malformed in the plan makes it incomplete. -/
def lineageOf (item : Diagnostics) (replayId executionId digest : String) (status : ReplayStatus)
    (score : OutcomeScore) : Answer CounterfactualReplayLineage :=
  let built : Answer CounterfactualReplayLineage := do
    let policyId ← required item "policy_id"
    let policyVersion ← required item "policy_version"
    let policyVersion ← intOf policyVersion
    let providerId ← required item "provider_id"
    let providerVersion ← required item "provider_version"
    let originalEvidenceDigest ← required item "original_evidence_digest"
    let reference ← required item "counterfactual_evidence_reference"
    let interventionDigest ← required item "intervention_digest"
    lift (Checked.create {
      replayId
      replayExecutionId := executionId
      replayStatus := status.value
      policyId := service.textOf policyId
      policyVersion
      providerId := service.textOf providerId
      providerVersion := service.textOf providerVersion
      originalEvidenceDigest := service.textOf originalEvidenceDigest
      counterfactualEvidenceReference := service.textOf reference
      counterfactualEvidenceDigest := digest
      interventionDigest := service.textOf interventionDigest
      evaluatorScore := score })
  built.mapError fun _ => insufficient "Controlled Replay has incomplete governed intervention lineage."

/-- The body of the loop of `_replay_outcomes`. -/
def replayOutcome (world : World) (caller : AuditCaller) (item : Diagnostics) : Answer ReplayOutcome := do
  let replayId ← required item "replay_id"
  let replayId := service.textOf replayId
  let some replays := service.replays | missingService "get"
  let some replay ← replays world replayId caller
    | .error (insufficient "Controlled Replay execution lineage is unavailable.")
  let some executionId := replay.replayExecutionId
    | .error (insufficient "Controlled Replay execution lineage is unavailable.")
  let some store := service.replayExecutionStore | missingService "get_execution"
  let output ← store world executionId caller
  let digest ← match output.bind fun state => Json.field state "counterfactual_evidence_digest" with
    | some (.str digest) => .ok digest
    | _ => (required item "counterfactual_evidence_digest").map service.textOf
  let some value := numberOf (output.bind fun state => Json.field state "causal_audit_outcome_score")
    | .error (insufficient "Controlled Replay produced no evaluable outcome score.")
  let score : OutcomeScore ← lift (Checked.create {
    value
    method := "controlled_replay_outcome"
    provider := "agent-runtime-replay"
    evaluatorVersion := "v1"
    metadata := [("replay_id", .str replayId), ("replay_execution_id", .str executionId)] })
  let lineage ← service.lineageOf item replayId executionId digest replay.status score
  .ok ⟨score, replayId, executionId, lineage⟩

/-- `_replay_outcomes`. -/
def replayOutcomes (world : World) (caller : AuditCaller) (toolCallId : String) (planned : List Diagnostics) :
    Answer (List ReplayOutcome) := do
  let selected := planned.filter fun item => Json.field item "tool_call_id" = some (.str toolCallId)
  let numbered ← selected.mapM fun item => do
    let index ← required item "sample_index"
    let index ← intOf index
    .ok (index, item)
  ((numbered.insertionSort fun left right => left.1 ≤ right.1).map Prod.snd).mapM (service.replayOutcome world caller)

/-! ## Results -/

/-- The loop of `execute` over the audited tool calls. -/
def influences (world : World) (caller : AuditCaller) (audit : CausalAudit) (baseline : OutcomeScore)
    (planned : List Diagnostics) : Nat → Bool → List AgentExecutionEvent → Answer (List ToolEvidenceInfluence)
  | _, _, [] => .ok []
  | position, saturated, event :: rest => do
      let outcomes ← service.replayOutcomes world caller event.record.eventId planned
      let some first := outcomes.head?
        | .error (insufficient "No valid counterfactual Replay outcome was available.")
      let aggregate : Rat := (outcomes.map (·.score.record.value)).sum / outcomes.length
      let counterfactual : OutcomeScore ← lift (Checked.create {
        first.score.record with
        value := aggregate
        metadata := [("aggregation", .str "mean"), ("sample_count", .int outcomes.length)] })
      let influence := baseline.record.value - aggregate
      let toolName := orElse (orElse (Json.field event.record.attributes "tool") (event.record.actorId.map Json.str))
        (some (.str "tool"))
      let useful : Bool := service.settings.influenceThreshold ≤ influence
      let harmful : Bool := !useful && influence ≤ -service.settings.influenceThreshold
      let result : ToolEvidenceInfluence ← lift (Checked.create {
        toolCallId := event.record.eventId
        toolName := (toolName.map service.textOf).getD ""
        position
        intervention := audit.record.intervention
        counterfactualCount := outcomes.length
        baselineScore := baseline
        counterfactualScore := counterfactual
        influenceScore := influence
        useful
        harmful
        postSaturation := saturated && 0 < position
        counterfactualReplayIds := outcomes.map (·.replayId)
        counterfactualExecutionIds := outcomes.map (·.executionId)
        evidenceReferences := event.record.evidenceReferences
        diagnostics := [("counterfactual_aggregation", .str "mean"), ("replay_count", .int outcomes.length),
          ("intervention_provenance", .obj (plannedProvenance event.record.eventId planned))]
        counterfactualLineage := outcomes.map (·.lineage) })
      let results ← influences world caller audit baseline planned (position + 1) (saturated || useful) rest
      .ok (result :: results)

end CausalAuditService

/-- `_classify`. -/
def classify (results : List ToolEvidenceInfluence) (callCount : Nat) (settings : CausalAuditSettings) :
    CausalAuditClassification × String :=
  if callCount = 0 then (.noToolEvidence, "No tool call was available for causal evidence analysis.")
  else if !results.any (·.record.useful) then
    (.evidenceIgnored, "No returned tool evidence materially changed the evaluated outcome.")
  else if results.any (·.record.postSaturation) then
    (.overExtended, "The execution continued after useful evidence reached saturation.")
  else if settings.maxToolCalls ≤ callCount then
    (.overExtended, "The execution exhausted the configured tool-call budget after useful evidence.")
  else
    (.evidenceAligned, "Returned evidence materially changed the evaluated outcome and the execution stopped " ++
      "without post-saturation calls.")

/-- A list of texts as JSON. -/
def texts (values : List String) : Json := .arr (values.map Json.str)

/-- The `diagnostics` of a succeeded audit. -/
def resultDiagnostics {World : Type} (service : CausalAuditService World) (audit : CausalAudit) (reason : String)
    (baseline : OutcomeScore) (results : List ToolEvidenceInfluence) : Diagnostics :=
  let postSaturation := results.filter (·.record.postSaturation)
  let material := results.find? (·.record.useful)
  let reached : Option ToolEvidenceInfluence := if postSaturation.isEmpty then none else material
  assign "tool_use_analysis" (.obj [
      ("saturation_reached_after_tool_call_id", (reached.map fun result => Json.str result.record.toolCallId).getD .null),
      ("post_saturation_tool_call_ids", texts (postSaturation.map (·.record.toolCallId)))])
    (assign "baseline_score" (.float baseline.record.value)
      (assign "result_digest" (.str (service.resultDigest baseline results))
        (assign "thresholds" (.obj [
            ("influence_threshold", .float service.settings.influenceThreshold),
            ("saturation_threshold", .float service.settings.saturationThreshold),
            ("max_tool_calls", .int service.settings.maxToolCalls)])
          (assign "classification_reason" (.str reason) audit.record.diagnostics))))

end AiGovernance.Audits
