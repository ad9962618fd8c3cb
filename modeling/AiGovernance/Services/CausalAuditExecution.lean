import AiGovernance.Services.CausalAudit

/-!
# Starting and executing an audit

`start`, `execute` and what they call: the queueing of the controlled replays,
the results of the completed ones, and the findings. Readings of the clock and
new identifiers are arguments.
-/

namespace AiGovernance.Audits

open AiGovernance.Std Domain Findings

/-- `METHODOLOGY_VERSION`. -/
def methodologyVersion : String := "causal-audit/v1"

/-- A text, or null. -/
def optionalText (value : Option String) : Json := (value.map Json.str).getD .null

/-- What `execute` has read when it decides how to go on. -/
structure Examination where
  events : List AgentExecutionEvent
  baseline : OutcomeScore
  calls : List AgentExecutionEvent
  planned : List Diagnostics

/-- The digests generated for one tool call, and the replays queued for all. -/
structure QueueProgress where
  generatedDigests : List String := []
  planned : List Diagnostics := []

namespace CausalAuditService

variable {World : Type} (service : CausalAuditService World)

/-! ## Examination -/

/-- The score of the last scored evaluation. -/
def baseline (audit : CausalAudit) (events : List AgentExecutionEvent) : Answer OutcomeScore :=
  match service.scorers.lookup audit.record.evaluatorRef with
  | none => .error { className := "KeyError", family := .keyError, message := "'" ++ audit.record.evaluatorRef ++ "'" }
  | some scorer =>
    match events.reverse.find? isScored with
    | none => .error { className := "StopIteration", family := .other, message := "" }
    | some baselineEvent => scorer audit.record.executionId baselineEvent

/-- `eligibility` of the execution of an audit. -/
def auditEligibility (world : World) (audit : CausalAudit) (caller : AuditCaller) : Answer CausalAuditEligibility :=
  let intervention := audit.record.intervention.record
  service.eligibility world audit.record.executionId caller audit.record.evaluatorRef intervention.strategy
    intervention.interventionPolicyId intervention.interventionPolicyVersion

/-- `_audited_tool_calls` of the events of an audit. -/
def auditCalls (world : World) (audit : CausalAudit) (events : List AgentExecutionEvent) (caller : AuditCaller) :
    Answer (List AgentExecutionEvent) :=
  let intervention := audit.record.intervention.record
  service.auditedToolCalls world (events.filter (·.record.eventType = .toolCall)) intervention.strategy
    intervention.interventionPolicyId intervention.interventionPolicyVersion caller

/-- The reads of `execute` behind an eligible execution. -/
def examineEligible (world : World) (audit : CausalAudit) (caller : AuditCaller) : Answer Examination := do
  let events ← service.events world audit.record.executionId caller
  let baseline ← service.baseline audit events
  let calls ← service.auditCalls world audit events caller
  let planned ← plannedReplays audit
  .ok ⟨events, baseline, calls, planned⟩

/-- The reads of `execute`: eligibility, events, baseline, audited calls, and the replays already planned. -/
def examine (world : World) (audit : CausalAudit) (caller : AuditCaller) : Answer Examination :=
  match service.auditEligibility world audit caller with
  | .error exception => .error exception
  | .ok eligibility =>
    if eligibility.code ≠ .eligible then .error (notEligible (eligibility.code.value ++ ": " ++ eligibility.reason))
    else service.examineEligible world audit caller

/-! ## Queueing -/

/-- The intervention of one sample, with what was generated for it. -/
def intervention (audit : CausalAudit) (event : AgentExecutionEvent) (sourceReference : String) (sampleIndex : Nat)
    (seed : Int) (generated : CounterfactualEvidence) : Answer ControlledEvidenceIntervention :=
  service.sealed {
    strategy := audit.record.intervention.record.strategy
    strategyVersion := audit.record.intervention.record.strategyVersion
    sourceEvidenceReference := sourceReference
    targetEventId := some event.record.eventId
    counterfactualEvidenceReference := some generated.counterfactualEvidenceRef
    seed := some seed
    configuration := assign "sample_index" (.int sampleIndex) audit.record.intervention.record.configuration
    policyId := some generated.policyId
    policyVersion := some generated.policyVersion
    providerId := some generated.providerId
    providerVersion := some generated.providerVersion
    originalEvidenceDigest := some generated.originalEvidenceDigest
    counterfactualEvidenceDigest := some generated.counterfactualEvidenceDigest
    interventionDigest := "" }

/-- The arguments with which the replay of one sample is created. -/
def replayCreation (audit : CausalAudit) (event : AgentExecutionEvent) (sourceExecutionId : String) (sampleIndex : Nat)
    (generated : CounterfactualEvidence) (intervention : ControlledEvidenceIntervention) : ReplayCreation where
  sourceExecutionId
  idempotencyKey :=
    "causal-audit:" ++ audit.record.auditId ++ ":" ++ event.record.eventId ++ ":" ++ toString sampleIndex
  metadata := [
    ("causal_audit_id", .str audit.record.auditId),
    ("tool_call_id", .str event.record.eventId),
    ("sample_index", .int sampleIndex),
    ("controlled_replay", .bool true),
    ("intervention_policy_id", .str generated.policyId),
    ("intervention_policy_version", .int generated.policyVersion)]
  controlledEvidenceIntervention := intervention

/-- The entry of the plan for one queued replay. -/
def plannedReplay (event : AgentExecutionEvent) (sampleIndex : Nat) (replayId : String)
    (intervention : ControlledEvidenceIntervention) : Diagnostics := [
  ("tool_call_id", .str event.record.eventId),
  ("sample_index", .int sampleIndex),
  ("replay_id", .str replayId),
  ("policy_id", optionalText intervention.policyId),
  ("policy_version", (intervention.policyVersion.map Json.int).getD .null),
  ("provider_id", optionalText intervention.providerId),
  ("provider_version", optionalText intervention.providerVersion),
  ("original_evidence_digest", optionalText intervention.originalEvidenceDigest),
  ("counterfactual_evidence_reference", optionalText intervention.counterfactualEvidenceReference),
  ("counterfactual_evidence_digest", optionalText intervention.counterfactualEvidenceDigest),
  ("intervention_digest", .str intervention.interventionDigest)]

/-- Create and submit the replay of one generated sample. -/
def queueGenerated (application : ReplayApplication World) (audit : CausalAudit) (caller : AuditCaller)
    (sourceExecutionId sourceReference : String) (event : AgentExecutionEvent) (sampleIndex : Nat) (seed : Int)
    (generated : CounterfactualEvidence) (progress : QueueProgress) (state : AuditState World) :
    AuditOutcome World QueueProgress :=
  match service.intervention audit event sourceReference sampleIndex seed generated with
  | .error exception => (.error exception, state)
  | .ok intervention =>
    let creation := replayCreation audit event sourceExecutionId sampleIndex generated intervention
    (state.perform (.replayCreated creation.idempotencyKey) (application.create creation caller)).andThen
      fun replayId state =>
        (state.perform (.replaySubmitted replayId) (application.submit replayId caller)).andThen
          fun queuedId state =>
            (.ok {
              generatedDigests := generated.counterfactualEvidenceDigest :: progress.generatedDigests
              planned := progress.planned ++ [plannedReplay event sampleIndex queuedId intervention] }, state)

/-- The body of the inner loop of `_queue_controlled_replays`: one sample of one tool call. -/
def queueSample (generator : CounterfactualGenerator World) (application : ReplayApplication World)
    (audit : CausalAudit) (caller : AuditCaller) (sourceExecutionId : String) (event : AgentExecutionEvent)
    (sampleIndex : Nat) (progress : QueueProgress) (state : AuditState World) : AuditOutcome World QueueProgress :=
  match event.record.evidenceReferences.head? with
  | none => (.error { className := "IndexError", family := .other, message := "list index out of range" }, state)
  | some sourceReference =>
    let configured := audit.record.intervention.record
    let seed := service.interventionSeed audit event.record.eventId sampleIndex
    (state.perform (.generated event.record.eventId sampleIndex)
      (generator.generate event configured.strategy configured.interventionPolicyId
        configured.interventionPolicyVersion seed caller)).andThen fun generated state =>
      if progress.generatedDigests.contains generated.counterfactualEvidenceDigest then (.ok progress, state)
      else service.queueGenerated application audit caller sourceExecutionId sourceReference event sampleIndex seed
        generated progress state

/-- The inner loop. -/
def queueSamples (generator : CounterfactualGenerator World) (application : ReplayApplication World)
    (audit : CausalAudit) (caller : AuditCaller) (sourceExecutionId : String) (event : AgentExecutionEvent) :
    List Nat → QueueProgress → AuditState World → AuditOutcome World QueueProgress
  | [], progress, state => (.ok progress, state)
  | sampleIndex :: rest, progress, state =>
    (service.queueSample generator application audit caller sourceExecutionId event sampleIndex progress
      state).andThen (queueSamples generator application audit caller sourceExecutionId event rest)

/-- The outer loop; every tool call starts with no generated digest. -/
def queueCalls (generator : CounterfactualGenerator World) (application : ReplayApplication World)
    (audit : CausalAudit) (caller : AuditCaller) (sourceExecutionId : String) :
    List AgentExecutionEvent → List Diagnostics → AuditState World → AuditOutcome World (List Diagnostics)
  | [], planned, state => (.ok planned, state)
  | event :: rest, planned, state =>
    let samples := List.range audit.record.intervention.record.counterfactualSamples.toNat
    (service.queueSamples generator application audit caller sourceExecutionId event samples { planned } state).andThen
      fun progress state =>
        queueCalls generator application audit caller sourceExecutionId rest progress.planned state

/-- The diagnostics of an audit that waits for its replays. -/
def waitingDiagnostics (audit : CausalAudit) (prepared : PreparedAgentRuntimeReplay) (planned : List Diagnostics) :
    Diagnostics :=
  assign "controlled_replay_adapter" (.str prepared.capability.adapterId)
    (assign "counterfactual_replay_source_execution_id" (.str prepared.sourceExecutionId)
      (assign "counterfactual_replays" (.arr (planned.map Json.obj)) audit.record.diagnostics))

/-- `_queue_controlled_replays` once the replay source is prepared. -/
def queuePrepared (generator : CounterfactualGenerator World) (application : ReplayApplication World)
    (audit : CausalAudit) (calls : List AgentExecutionEvent) (caller : AuditCaller) (waiting : Instant)
    (prepared : PreparedAgentRuntimeReplay) (state : AuditState World) : AuditOutcome World CausalAudit :=
  let strategy := audit.record.intervention.record.strategy
  if !prepared.capability.supportedInterventions.contains strategy then
    (.error (notEligible (strategy.value ++ " is unsupported by the execution Replay capability.")), state)
  else
    (service.queueCalls generator application audit caller prepared.sourceExecutionId calls [] state).andThen
      fun planned state =>
        match lift (audit.markWaitingForReplays (waitingDiagnostics audit prepared planned) waiting) with
        | .error exception => (.error exception, state)
        | .ok waitingAudit => state.save waitingAudit (some audit.record.version)

/-- `_queue_controlled_replays`; an eligible execution with tool calls is only found with every service present. -/
def queueControlledReplays (audit : CausalAudit) (events calls : List AgentExecutionEvent) (caller : AuditCaller)
    (waiting : Instant) (state : AuditState World) : AuditOutcome World CausalAudit :=
  match service.counterfactualGenerator with
  | none =>
    (.error {
      className := "InterventionUnavailable"
      code := some "INTERVENTION_PROVIDER_NOT_AVAILABLE"
      message := "INTERVENTION_PROVIDER_NOT_AVAILABLE: no authorized evidence " ++
        "resolver is configured for this runtime adapter." }, state)
  | some generator =>
    match service.executions state.world audit.record.executionId caller with
    | .error exception => (.error exception, state)
    | .ok none => (.error (notEligible "Execution was not found in the current tenant scope."), state)
    | .ok (some execution) =>
      match service.replaySourceBridge, service.replayApplication with
      | some bridge, some application =>
        (state.perform (.sourcePrepared execution.record.executionId)
          (bridge.prepare execution events caller)).andThen
            (service.queuePrepared generator application audit calls caller waiting)
      | none, _ => (missingService "prepare", state)
      | some _, none => (missingService "create", state)

/-! ## Findings -/

/-- The types of finding of an audit with what they are about. -/
def findingTypes (audit : CausalAudit) : List (String × FindingSeverity × List String) :=
  let results := audit.record.toolCallResults
  let ignored := if audit.record.classification = some .evidenceIgnored then
    [("EVIDENCE_IGNORED", .medium, results.map (·.record.toolCallId))] else []
  let extended := if audit.record.classification = some .overExtended then
    [("OVER_EXTENDED", .medium, (results.filter (·.record.postSaturation)).map (·.record.toolCallId))] else []
  ignored ++ extended ++ results.filterMap fun result =>
    if result.record.harmful then some ("HARMFUL_EVIDENCE", .high, [result.record.toolCallId])
    else if !result.record.useful then some ("REDUNDANT_TOOL_CALL", .low, [result.record.toolCallId])
    else none

/-- The finding of one type. -/
def findingOf (audit : CausalAudit) (now : Instant) (findingType : String) (severity : FindingSeverity)
    (toolCallIds : List String) : RuntimeFindingRecord where
  findingId := "causal-audit:" ++ audit.record.auditId ++ ":" ++ findingType ++ ":" ++
    (if "-".intercalate toolCallIds = "" then "execution" else "-".intercalate toolCallIds)
  organizationId := audit.record.organizationId
  projectId := audit.record.projectId
  findingType
  subjectType := "agent_execution"
  subjectId := audit.record.executionId
  severity
  lifecycle := .caseReview
  observationCount := max 1 toolCallIds.length
  observedMetrics := [{
    name := "max_evidence_influence"
    value := match audit.record.toolCallResults.map (·.record.influenceScore) with
      | [] => 0
      | first :: rest => rest.foldl max first
    sampleSize := audit.record.toolCallResults.length }]
  evidenceReferences := [⟨"causal_audit_id", audit.record.auditId⟩, ⟨"execution_id", audit.record.executionId⟩,
    ⟨"methodology_version", audit.record.methodologyVersion⟩] ++ toolCallIds.map (⟨"tool_call_id", ·⟩)
  relatedExecutionIds := [audit.record.executionId]
  detectorId := "causal_audit"
  detectorVersion := audit.record.methodologyVersion
  firstDetectedAt := audit.record.completedAt
  lastDetectedAt := audit.record.completedAt
  createdAt := audit.record.completedAt.getD now
  updatedAt := audit.record.completedAt.getD now

/-- The loop of `_emit_findings`. -/
def saveFindings (save : RuntimeFinding → World → Answer Unit × World) (audit : CausalAudit) (now : Instant) :
    List (String × FindingSeverity × List String) → AuditState World → AuditOutcome World Unit
  | [], state => (.ok (), state)
  | (findingType, severity, toolCallIds) :: rest, state =>
    match lift (RuntimeFinding.create (findingOf audit now findingType severity toolCallIds)) with
    | .error exception => (.error exception, state)
    | .ok finding =>
      (state.perform (.findingSaved finding.record.findingId) (save finding)).andThen fun _ state =>
        saveFindings save audit now rest state

/-- `_emit_findings`. -/
def emitFindings (audit : CausalAudit) (now : Instant) (state : AuditState World) : AuditOutcome World Unit :=
  match service.findingRepository with
  | none => (.ok (), state)
  | some save =>
    if audit.record.classification = some .evidenceAligned then (.ok (), state)
    else saveFindings save audit now (findingTypes audit) state

/-! ## Execution -/

/-- `execute` once every controlled replay has completed. -/
def complete (audit : CausalAudit) (examination : Examination) (caller : AuditCaller) (ending : Instant)
    (state : AuditState World) : AuditOutcome World CausalAudit :=
  let saturated : Bool := service.settings.saturationThreshold ≤ examination.baseline.record.value
  match service.influences state.world caller audit examination.baseline examination.planned 0 saturated
    examination.calls with
  | .error exception => (.error exception, state)
  | .ok results =>
    let classified := classify results examination.calls.length service.settings
    let diagnostics := resultDiagnostics service audit classified.2 examination.baseline results
    match lift (audit.markSucceeded classified.1 results diagnostics ending) with
    | .error exception => (.error exception, state)
    | .ok succeeded =>
      (state.save succeeded (some audit.record.version)).andThen fun completed state =>
        (service.emitFindings completed ending state).andThen fun _ state => (.ok completed, state)

/-- The `try` block of `execute`. -/
def attempt (audit : CausalAudit) (caller : AuditCaller) (ending : Instant) (state : AuditState World) :
    AuditOutcome World CausalAudit :=
  match service.examine state.world audit caller with
  | .error exception => (.error exception, state)
  | .ok examination =>
    if examination.calls.isEmpty then service.complete audit examination caller ending state
    else if examination.planned.isEmpty then
      service.queueControlledReplays audit examination.events examination.calls caller ending state
    else
      match service.controlledReplaysCompleted state.world caller examination.planned with
      | .error exception => (.error exception, state)
      | .ok false => (.ok audit, state)
      | .ok true => service.complete audit examination caller ending state

end CausalAuditService

/-- `CausalAuditNotFound`. -/
def notFound (auditId : String) : AuditException :=
  { className := "CausalAuditNotFound", message := "Causal audit '" ++ auditId ++ "' was not found." }

/-- The failure code of an exception. -/
def failureCode (exception : AuditException) : String :=
  exception.code.getD <|
    if exception.className = "InsufficientCounterfactualEvidence" then "INSUFFICIENT_COUNTERFACTUAL_EVIDENCE"
    else exception.className.toUpper

/-- The handler of `execute`. -/
def recordFailure {World : Type} (auditId : String) (caller : AuditCaller) (failing : Instant)
    (exception : AuditException) (state : AuditState World) : AuditOutcome World CausalAudit :=
  match state.audits.get auditId caller.organizationId caller.projectId with
  | none => (.error (notFound auditId), state)
  | some current =>
    if current.isTerminal then (.ok current, state)
    else
      match lift (current.markFailed (failureCode exception) exception.message failing) with
      | .error exception => (.error exception, state)
      | .ok failed => state.save failed (some current.record.version)

/-- A queued audit is marked running; any other goes on as it is. -/
def begin {World : Type} (audit : CausalAudit) (running : Instant) (state : AuditState World) :
    AuditOutcome World CausalAudit :=
  if audit.record.status = .queued then
    match lift (audit.markRunning running) with
    | .error exception => (.error exception, state)
    | .ok started => state.save started (some audit.record.version)
  else (.ok audit, state)

/-- The readings of the clock of one `execute`. -/
structure AuditClock where
  running : Instant
  ending : Instant
  failing : Instant

namespace CausalAuditService

variable {World : Type} (service : CausalAuditService World)

/-- `execute`. -/
def execute (auditId : String) (caller : AuditCaller) (clock : AuditClock) (state : AuditState World) :
    AuditOutcome World CausalAudit :=
  match state.audits.get auditId caller.organizationId caller.projectId with
  | none => (.error (notFound auditId), state)
  | some audit =>
    if audit.record.status = .succeeded || audit.record.status = .cancelled then (.ok audit, state)
    else (begin audit clock.running state).andThen fun audit state =>
      match service.attempt audit caller clock.ending state with
      | (.ok audit, state) => (.ok audit, state)
      | (.error exception, state) => recordFailure auditId caller clock.failing exception state

/-! ## Start -/

/-- The arguments of `start`. -/
structure AuditRequest where
  executionId : String
  evaluatorRef : String
  intervention : InterventionConfiguration

/-- The reads of `start`: the execution that may be audited. -/
def admissible (world : World) (request : AuditRequest) (caller : AuditCaller) : Answer AgentExecution := do
  let intervention := request.intervention.record
  let eligibility ← service.eligibility world request.executionId caller request.evaluatorRef intervention.strategy
    intervention.interventionPolicyId intervention.interventionPolicyVersion
  if eligibility.code ≠ .eligible then .error (notEligible (eligibility.code.value ++ ": " ++ eligibility.reason))
  else if intervention.counterfactualSamples > service.settings.maxCounterfactualSamples then
    .error { className := "ValueError", message := "counterfactual_samples exceeds the configured maximum." }
  else do
    let some execution ← service.executions world request.executionId caller
      | .error { className := "AssertionError", family := .other, message := "" }
    .ok execution

/-- The audit that `start` saves. -/
def queuedAudit (request : AuditRequest) (caller : AuditCaller) (execution : AgentExecution) (fingerprint : String)
    (auditId : String) (now : Instant) : CausalAuditRecord where
  auditId
  organizationId := caller.organizationId
  projectId := caller.projectId
  executionId := request.executionId
  agentId := execution.record.agentId
  status := .queued
  methodologyVersion
  evaluatorRef := request.evaluatorRef
  intervention := request.intervention
  requestFingerprint := fingerprint
  createdBy := caller.actorId
  createdAt := now
  updatedAt := now

/-- The job that `start` submits for an audit. -/
def jobSubmission (audit : CausalAudit) (caller : AuditCaller) : JobSubmission where
  jobType := .causalAudit
  inputRefs := [("audit_id", .str audit.record.auditId)]
  idempotencyKey := "causal-audit:" ++ audit.record.requestFingerprint
  submittedBy := caller.actorId
  executionContext := some {
    organizationId := caller.organizationId
    projectId := caller.projectId.getD ""
    actorId := caller.actorId
    submittedRequestId := caller.requestId
    correlationId := caller.correlationId }

/-- The submission of the job, where a job service is there. -/
def submitJob (audit : CausalAudit) (caller : AuditCaller) (state : AuditState World) :
    AuditOutcome World CausalAudit :=
  match service.jobs with
  | none => (.ok audit, state)
  | some submit =>
    (state.perform .jobSubmitted (submit (jobSubmission audit caller))).andThen fun _ state => (.ok audit, state)

/-- `start`. -/
def start (request : AuditRequest) (caller : AuditCaller) (auditId : String) (now : Instant)
    (state : AuditState World) : AuditOutcome World CausalAudit :=
  match service.admissible state.world request caller with
  | .error exception => (.error exception, state)
  | .ok execution =>
    let fingerprint := service.fingerprint caller request.executionId request.evaluatorRef request.intervention
    match state.audits.findByFingerprint fingerprint caller.organizationId caller.projectId with
    | some existing => (.ok existing, state)
    | none =>
      match lift (Checked.create (queuedAudit request caller execution fingerprint auditId now)) with
      | .error exception => (.error exception, state)
      | .ok audit =>
        (state.save audit none).andThen fun audit state => service.submitJob audit caller state

end CausalAuditService

end AiGovernance.Audits
