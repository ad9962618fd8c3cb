import AiGovernance.Domain.Replay

/-!
# Causal audits

The contracts of `domain/causal_audit/causal_audit.py` with their construction
checks, and the transitions of an audit. Floats are taken at their rational
value.
-/

namespace AiGovernance.Audits

open AiGovernance.Std Domain

/-- `CausalAuditStatus`. -/
inductive CausalAuditStatus where
  | queued
  | running
  | succeeded
  | failed
  | cancelled
deriving DecidableEq

/-- `CausalAuditStatus.value`. -/
def CausalAuditStatus.value : CausalAuditStatus → String
  | .queued => "QUEUED"
  | .running => "RUNNING"
  | .succeeded => "SUCCEEDED"
  | .failed => "FAILED"
  | .cancelled => "CANCELLED"

/-- `CausalAuditEligibilityCode`. -/
inductive CausalAuditEligibilityCode where
  | eligible
  | notReplayable
  | missingToolEvidence
  | missingScorer
  | unsupportedTool
  | unsupportedProvider
  | incompleteExecution
  | interventionPolicyNotConfigured
  | interventionPolicyInactive
  | ambiguousInterventionPolicy
  | interventionProviderNotAvailable
  | evidenceSchemaUnavailable
  | unsupportedEvidenceType
  | unsupportedIntervention
deriving DecidableEq

/-- `CausalAuditEligibilityCode.value`. -/
def CausalAuditEligibilityCode.value : CausalAuditEligibilityCode → String
  | .eligible => "ELIGIBLE"
  | .notReplayable => "NOT_REPLAYABLE"
  | .missingToolEvidence => "MISSING_TOOL_EVIDENCE"
  | .missingScorer => "MISSING_SCORER"
  | .unsupportedTool => "UNSUPPORTED_TOOL"
  | .unsupportedProvider => "UNSUPPORTED_PROVIDER"
  | .incompleteExecution => "INCOMPLETE_EXECUTION"
  | .interventionPolicyNotConfigured => "INTERVENTION_POLICY_NOT_CONFIGURED"
  | .interventionPolicyInactive => "INTERVENTION_POLICY_INACTIVE"
  | .ambiguousInterventionPolicy => "AMBIGUOUS_INTERVENTION_POLICY"
  | .interventionProviderNotAvailable => "INTERVENTION_PROVIDER_NOT_AVAILABLE"
  | .evidenceSchemaUnavailable => "EVIDENCE_SCHEMA_UNAVAILABLE"
  | .unsupportedEvidenceType => "UNSUPPORTED_EVIDENCE_TYPE"
  | .unsupportedIntervention => "UNSUPPORTED_INTERVENTION"

/-- `CausalAuditClassification`. -/
inductive CausalAuditClassification where
  | noToolEvidence
  | evidenceIgnored
  | overExtended
  | evidenceAligned
deriving DecidableEq

/-- `CausalAuditEligibility`. -/
structure CausalAuditEligibility where
  code : CausalAuditEligibilityCode
  reason : String
  auditableToolCallCount : Nat := 0
deriving DecidableEq

/-- A dictionary of JSON values. -/
abbrev Diagnostics := List (String × Json)

/-- `{**fields, key: value}`: a present key keeps its place. -/
def assign (key : String) (value : Json) : Diagnostics → Diagnostics
  | [] => [(key, value)]
  | (other, kept) :: rest => if other = key then (key, value) :: rest else (other, kept) :: assign key value rest

/-! ## Interventions and scores -/

/-- The fields of `InterventionConfiguration`. -/
structure InterventionConfigurationRecord where
  strategy : ControlledEvidenceStrategy
  counterfactualSamples : Int
  strategyVersion : String := "v1"
  seed : Option Int := none
  configuration : Diagnostics := []
  interventionPolicyId : Option String := none
  interventionPolicyVersion : Option Int := none
deriving DecidableEq

/-- `InterventionConfiguration.__post_init__`. -/
def InterventionConfigurationRecord.violation (record : InterventionConfigurationRecord) : Option Raised :=
  firstViolation [
    rejectIf (record.counterfactualSamples < 1) .valueError "counterfactual_samples must be at least one.",
    rejectIf (Text.isBlank record.strategyVersion) .valueError "strategy_version must not be empty.",
    rejectIf (record.interventionPolicyId.any Text.isBlank) .valueError
      "intervention_policy_id must not be blank.",
    rejectIf (record.interventionPolicyVersion.any (· < 1)) .valueError
      "intervention_policy_version must be positive.",
    rejectIf (record.interventionPolicyId.isNone ≠ record.interventionPolicyVersion.isNone) .valueError
      "intervention policy ID and version must be supplied together."]

/-- What an audit changes in the evidence. -/
abbrev InterventionConfiguration := Checked InterventionConfigurationRecord.violation

/-- The fields of `OutcomeScore`. -/
structure OutcomeScoreRecord where
  value : Rat
  method : String
  provider : String
  evaluatorVersion : String
  metadata : Diagnostics := []
deriving DecidableEq

/-- `OutcomeScore.__post_init__`. -/
def OutcomeScoreRecord.violation (record : OutcomeScoreRecord) : Option Raised :=
  rejectIf (Text.isBlank record.method || Text.isBlank record.provider || Text.isBlank record.evaluatorVersion)
    .valueError "OutcomeScore method, provider, and evaluator_version are required."

/-- The score of an outcome. -/
abbrev OutcomeScore := Checked OutcomeScoreRecord.violation

/-- The fields of `CounterfactualReplayLineage`. -/
structure CounterfactualReplayLineageRecord where
  replayId : String
  replayExecutionId : String
  replayStatus : String
  policyId : String
  policyVersion : Int
  providerId : String
  providerVersion : String
  originalEvidenceDigest : String
  counterfactualEvidenceReference : String
  counterfactualEvidenceDigest : String
  interventionDigest : String
  evaluatorScore : OutcomeScore
deriving DecidableEq

/-- A text of the lineage that must not be blank. -/
def requireLineage (name value : String) : Option Raised :=
  rejectIf (Text.isBlank value) .valueError ("Counterfactual replay lineage " ++ name ++ " is required.")

/-- `CounterfactualReplayLineage.__post_init__`. -/
def CounterfactualReplayLineageRecord.violation (record : CounterfactualReplayLineageRecord) : Option Raised :=
  firstViolation [
    requireLineage "replay_id" record.replayId,
    requireLineage "replay_execution_id" record.replayExecutionId,
    requireLineage "policy_id" record.policyId,
    requireLineage "provider_id" record.providerId,
    requireLineage "provider_version" record.providerVersion,
    requireLineage "original_evidence_digest" record.originalEvidenceDigest,
    requireLineage "counterfactual_evidence_reference" record.counterfactualEvidenceReference,
    requireLineage "counterfactual_evidence_digest" record.counterfactualEvidenceDigest,
    requireLineage "intervention_digest" record.interventionDigest,
    rejectIf (record.policyVersion < 1) .valueError
      "Counterfactual replay lineage policy version is required.",
    rejectIf (!(["EXECUTION_COMPLETED", "EVALUATING", "COMPARING", "COMPLETED"].contains record.replayStatus))
      .valueError "Counterfactual replay lineage requires a successful replay status."]

/-- One complete, successful counterfactual chain. -/
abbrev CounterfactualReplayLineage := Checked CounterfactualReplayLineageRecord.violation

/-! ## Influence of one tool call -/

/-- The fields of `ToolEvidenceInfluence`. -/
structure ToolEvidenceInfluenceRecord where
  toolCallId : String
  toolName : String
  position : Nat
  intervention : InterventionConfiguration
  counterfactualCount : Nat
  baselineScore : OutcomeScore
  counterfactualScore : OutcomeScore
  influenceScore : Rat
  useful : Bool
  harmful : Bool
  postSaturation : Bool
  counterfactualReplayIds : List String
  counterfactualExecutionIds : List String
  evidenceReferences : List String
  diagnostics : Diagnostics
  counterfactualLineage : List CounterfactualReplayLineage
deriving DecidableEq

/-- `ToolEvidenceInfluence.__post_init__`; positions and counts are natural numbers. -/
def ToolEvidenceInfluenceRecord.violation (record : ToolEvidenceInfluenceRecord) : Option Raised :=
  let counted := record.counterfactualCount ≠ 0
  firstViolation [
    rejectIf (Text.isBlank record.toolCallId || Text.isBlank record.toolName) .valueError
      "tool_call_id and tool_name are required.",
    rejectIf (record.harmful && record.useful) .valueError "A tool call cannot be both useful and harmful.",
    rejectIf (counted && (record.counterfactualReplayIds.length ≠ record.counterfactualCount ||
        record.counterfactualExecutionIds.length ≠ record.counterfactualCount)) .valueError
      "Counterfactual influence requires one Replay and execution lineage ID per sample.",
    rejectIf (!counted && (!record.counterfactualReplayIds.isEmpty || !record.counterfactualExecutionIds.isEmpty))
      .valueError "Counterfactual lineage requires counterfactual samples.",
    rejectIf (counted && record.counterfactualLineage.length ≠ record.counterfactualCount) .valueError
      "Evidence influence requires complete counterfactual lineage per sample.",
    rejectIf (!counted && !record.counterfactualLineage.isEmpty) .valueError
      "Counterfactual provenance requires counterfactual samples.",
    rejectIf (counted && (record.counterfactualLineage.map (·.record.replayId) ≠ record.counterfactualReplayIds ||
        record.counterfactualLineage.map (·.record.replayExecutionId) ≠ record.counterfactualExecutionIds))
      .valueError "Counterfactual replay lineage must match the recorded Replay IDs.",
    rejectIf (counted && record.intervention.record.interventionPolicyId.any fun policyId =>
        record.counterfactualLineage.any fun lineage => lineage.record.policyId ≠ policyId ||
          some lineage.record.policyVersion ≠ record.intervention.record.interventionPolicyVersion) .valueError
      "Evidence influence lineage must match the governed policy version."]

/-- How the evidence of one tool call influenced the outcome. -/
abbrev ToolEvidenceInfluence := Checked ToolEvidenceInfluenceRecord.violation

/-! ## Audits -/

/-- The fields of `CausalAudit`. -/
structure CausalAuditRecord where
  auditId : String
  organizationId : String
  projectId : Option String
  executionId : String
  agentId : String
  status : CausalAuditStatus
  methodologyVersion : String
  evaluatorRef : String
  intervention : InterventionConfiguration
  requestFingerprint : String
  createdBy : String
  createdAt : Instant
  updatedAt : Instant
  startedAt : Option Instant := none
  completedAt : Option Instant := none
  failureCode : Option String := none
  failureReason : Option String := none
  classification : Option CausalAuditClassification := none
  toolCallResults : List ToolEvidenceInfluence := []
  diagnostics : Diagnostics := []
  version : Nat := 0
deriving DecidableEq

/-- Membership in the terminal statuses. -/
def CausalAuditStatus.isTerminal : CausalAuditStatus → Bool
  | .succeeded | .failed | .cancelled => true
  | .queued | .running => false

/-- A text of an audit that must not be blank. -/
def requireAudit (name value : String) : Option Raised :=
  rejectIf (Text.isBlank value) .valueError (name ++ " must not be empty.")

/-- `CausalAudit.__post_init__`. -/
def CausalAuditRecord.violation (record : CausalAuditRecord) : Option Raised :=
  firstViolation [
    requireAudit "audit_id" record.auditId,
    requireAudit "organization_id" record.organizationId,
    requireAudit "execution_id" record.executionId,
    requireAudit "agent_id" record.agentId,
    requireAudit "methodology_version" record.methodologyVersion,
    requireAudit "evaluator_ref" record.evaluatorRef,
    requireAudit "request_fingerprint" record.requestFingerprint,
    requireAudit "created_by" record.createdBy,
    rejectIf (record.projectId.any Text.isBlank) .valueError "project_id must not be blank.",
    rejectIf (record.updatedAt < record.createdAt) .valueError "Invalid audit timestamps or version.",
    rejectIf (record.status = .succeeded && (record.completedAt.isNone || record.classification.isNone)) .valueError
      "Succeeded audits require completed_at and classification.",
    rejectIf (record.status = .failed && record.failureCode.all (· = "")) .valueError
      "Failed audits require a failure_code.",
    rejectIf (record.status.isTerminal && record.completedAt.isNone) .valueError
      "Terminal audits require completed_at."]

/-- An audit of one execution. -/
abbrev CausalAudit := Checked CausalAuditRecord.violation

namespace CausalAudit

/-- `is_terminal`. -/
def isTerminal (audit : CausalAudit) : Bool := audit.record.status.isTerminal

/-- A transition that needs one status. -/
def fromStatus (audit : CausalAudit) (required : CausalAuditStatus) (verb : String)
    (change : CausalAuditRecord → CausalAuditRecord) : Except Raised CausalAudit :=
  if audit.record.status ≠ required then
    .error ⟨.valueError, "Cannot " ++ verb ++ " an audit in " ++ audit.record.status.value ++ "."⟩
  else Checked.create (change { audit.record with version := audit.record.version + 1 })

/-- A transition that needs an audit that has not ended. -/
def whileOpen (audit : CausalAudit) (change : CausalAuditRecord → CausalAuditRecord) : Except Raised CausalAudit :=
  if audit.isTerminal then .error ⟨.valueError, "Terminal causal audits are immutable."⟩
  else Checked.create (change { audit.record with version := audit.record.version + 1 })

/-- `mark_running`. -/
def markRunning (audit : CausalAudit) (now : Instant) : Except Raised CausalAudit :=
  audit.fromStatus .queued "start" fun record =>
    { record with status := .running, startedAt := some now, updatedAt := now }

/-- `mark_succeeded`. -/
def markSucceeded (audit : CausalAudit) (classification : CausalAuditClassification)
    (results : List ToolEvidenceInfluence) (diagnostics : Diagnostics) (now : Instant) : Except Raised CausalAudit :=
  audit.fromStatus .running "complete" fun record =>
    { record with
      status := .succeeded
      classification := some classification
      toolCallResults := results
      diagnostics
      completedAt := some now
      updatedAt := now }

/-- `mark_waiting_for_replays`. -/
def markWaitingForReplays (audit : CausalAudit) (diagnostics : Diagnostics) (now : Instant) :
    Except Raised CausalAudit :=
  audit.fromStatus .running "record replay work for" fun record => { record with diagnostics, updatedAt := now }

/-- `mark_failed`. -/
def markFailed (audit : CausalAudit) (code reason : String) (now : Instant) : Except Raised CausalAudit :=
  audit.whileOpen fun record =>
    { record with
      status := .failed
      failureCode := some code
      failureReason := some reason
      completedAt := some now
      updatedAt := now }

/-- `mark_cancelled`. -/
def markCancelled (audit : CausalAudit) (now : Instant) : Except Raised CausalAudit :=
  audit.whileOpen fun record => { record with status := .cancelled, completedAt := some now, updatedAt := now }

end CausalAudit

end AiGovernance.Audits
