import AiGovernance.Decisions.Policies

/-!
# Governance decisions

The records of `decisions/models.py`, `decisions/explanation.py` and
`decisions/audit.py` with their construction checks. Two records are compared
with `same`, the language's `==`: metadata are dictionaries, so the order of
their keys does not count.
-/

namespace AiGovernance.Decisions

open AiGovernance.Std Domain

/-- `DecisionType`. -/
inductive DecisionType where
  | approve
  | reject
  | block
  | recommend
  | promote
  | archive
  | investigate
deriving DecidableEq

/-- `DecisionStatus`. -/
inductive DecisionStatus where
  | proposed
  | approved
  | rejected
  | blocked
  | superseded
  | archived
deriving DecidableEq

/-- `DecisionProducerType`. -/
inductive DecisionProducerType where
  | system
  | actor
  | mcpAgent
  | policyEngine
deriving DecidableEq

/-- `DecisionConfidenceLevel`. -/
inductive DecisionConfidenceLevel where
  | low
  | medium
  | high
deriving DecidableEq

/-- `DecisionAuditAction`. -/
inductive DecisionAuditAction where
  | created
  | superseded
  | archived
deriving DecidableEq

/-- `require_optional_non_empty`. -/
def requireOptionalNonEmpty (name : String) (value : Option String) : Option Raised :=
  value.bind (requireNonEmpty name)

theorem requireOptionalNonEmpty_eq_none {name : String} {value : Option String} :
    requireOptionalNonEmpty name value = none ↔ ∀ text, value = some text → Text.isBlank text = false := by
  cases value with
  | none => simp [requireOptionalNonEmpty]
  | some text => simp [requireOptionalNonEmpty, requireNonEmpty_eq_none]

/-- A dictionary of JSON values. -/
abbrev Metadata := List (String × Json)

/-! ## Parts of a decision -/

/-- The fields of `DecisionTarget`. -/
structure DecisionTargetRecord where
  targetType : DecisionTargetType
  targetId : String
deriving DecidableEq

/-- `DecisionTarget.__post_init__`. -/
def DecisionTargetRecord.violation (record : DecisionTargetRecord) : Option Raised :=
  requireNonEmpty "target_id" record.targetId

/-- What a decision applies to. -/
abbrev DecisionTarget := Checked DecisionTargetRecord.violation

/-- The fields of `DecisionEvidenceReference`. -/
structure DecisionEvidenceReferenceRecord where
  evidenceType : String
  evidenceId : String
  relationshipType : Option String
  source : Option String
  metadata : Metadata
deriving DecidableEq

/-- `DecisionEvidenceReference.__post_init__`. -/
def DecisionEvidenceReferenceRecord.violation (record : DecisionEvidenceReferenceRecord) : Option Raised :=
  firstViolation [
    requireNonEmpty "evidence_type" record.evidenceType,
    requireNonEmpty "evidence_id" record.evidenceId,
    requireOptionalNonEmpty "relationship_type" record.relationshipType,
    requireOptionalNonEmpty "source" record.source]

/-- Evidence a decision used. -/
abbrev DecisionEvidenceReference := Checked DecisionEvidenceReferenceRecord.violation

/-- The fields of `DecisionPolicyReference`. -/
structure DecisionPolicyReferenceRecord where
  policyId : String
  policyVersion : String
  policyName : Option String
  metadata : Metadata
deriving DecidableEq

/-- `DecisionPolicyReference.__post_init__`. -/
def DecisionPolicyReferenceRecord.violation (record : DecisionPolicyReferenceRecord) : Option Raised :=
  firstViolation [
    requireNonEmpty "policy_id" record.policyId,
    requireNonEmpty "policy_version" record.policyVersion,
    requireOptionalNonEmpty "policy_name" record.policyName]

/-- A policy a decision considered. -/
abbrev DecisionPolicyReference := Checked DecisionPolicyReferenceRecord.violation

/-- The fields of `DecisionProvenance`. -/
structure DecisionProvenanceRecord where
  producerType : DecisionProducerType
  producerId : String
  actorId : Option String
  correlationId : Option String
  requestId : Option String
  createdAt : Instant
deriving DecidableEq

/-- `DecisionProvenance.__post_init__`. -/
def DecisionProvenanceRecord.violation (record : DecisionProvenanceRecord) : Option Raised :=
  firstViolation [
    requireNonEmpty "producer_id" record.producerId,
    requireOptionalNonEmpty "actor_id" record.actorId,
    requireOptionalNonEmpty "correlation_id" record.correlationId,
    requireOptionalNonEmpty "request_id" record.requestId]

/-- Where, when and by whom a decision was produced. -/
abbrev DecisionProvenance := Checked DecisionProvenanceRecord.violation

/-- The fields of `DecisionSupersession`. -/
structure DecisionSupersessionRecord where
  supersedesDecisionId : Option String
  supersededByDecisionId : Option String
  supersessionReason : Option String
deriving DecidableEq

/-- `DecisionSupersession.__post_init__`. -/
def DecisionSupersessionRecord.violation (record : DecisionSupersessionRecord) : Option Raised :=
  firstViolation [
    requireOptionalNonEmpty "supersedes_decision_id" record.supersedesDecisionId,
    requireOptionalNonEmpty "superseded_by_decision_id" record.supersededByDecisionId,
    requireOptionalNonEmpty "supersession_reason" record.supersessionReason,
    rejectIf (record.supersedesDecisionId.isSome && record.supersedesDecisionId = record.supersededByDecisionId)
      .decisionValidationError "Decision cannot supersede and be superseded by the same decision."]

/-- The links of a decision to those it replaces or that replace it. -/
abbrev DecisionSupersession := Checked DecisionSupersessionRecord.violation

/-- `DecisionSupersession()`. -/
def DecisionSupersession.empty : DecisionSupersession := ⟨⟨none, none, none⟩, rfl⟩

/-! ## Decisions -/

/-- The fields of `GovernanceDecision`. -/
structure GovernanceDecisionRecord where
  decisionId : String
  decisionType : DecisionType
  status : DecisionStatus
  target : DecisionTarget
  reason : String
  confidence : DecisionConfidenceLevel
  evidence : List DecisionEvidenceReference
  policies : List DecisionPolicyReference
  provenance : DecisionProvenance
  supersession : DecisionSupersession
  metadata : Metadata
  finalizedAt : Option Instant
  archivedAt : Option Instant
deriving DecidableEq

/-- `GovernanceDecision.__post_init__`; the types of the fields exclude its other tests. -/
def GovernanceDecisionRecord.violation (record : GovernanceDecisionRecord) : Option Raised :=
  firstViolation [
    requireNonEmpty "decision_id" record.decisionId,
    requireNonEmpty "reason" record.reason,
    rejectIf record.evidence.isEmpty .decisionValidationError
      "Decision evidence must contain at least one reference.",
    rejectIf (record.supersession.record.supersedesDecisionId = some record.decisionId) .decisionValidationError
      "Decision cannot supersede itself.",
    rejectIf (record.supersession.record.supersededByDecisionId = some record.decisionId) .decisionValidationError
      "Decision cannot be superseded by itself."]

/-- A governed outcome. -/
abbrev GovernanceDecision := Checked GovernanceDecisionRecord.violation

/-- The statuses `is_finalized` lists. -/
def DecisionStatus.isFinal : DecisionStatus → Bool
  | .proposed => false
  | .approved | .rejected | .blocked | .superseded | .archived => true

/-- `is_finalized`. -/
def GovernanceDecision.isFinalized (decision : GovernanceDecision) : Bool := decision.record.status.isFinal

/-- The identifier of the decision that replaces this one. -/
def GovernanceDecision.supersededBy (decision : GovernanceDecision) : Option String :=
  decision.record.supersession.record.supersededByDecisionId

/-- The identifier of the decision that this one replaces. -/
def GovernanceDecision.supersedes (decision : GovernanceDecision) : Option String :=
  decision.record.supersession.record.supersedesDecisionId

/-! ## Explanations -/

/-- The fields of `MissingEvidence`. -/
structure MissingEvidenceRecord where
  evidenceType : String
  reason : String
  severity : String
  metadata : Metadata
deriving DecidableEq

/-- `MissingEvidence.__post_init__`. -/
def MissingEvidenceRecord.violation (record : MissingEvidenceRecord) : Option Raised :=
  firstViolation [
    requireNonEmpty "missing evidence evidence_type" record.evidenceType,
    requireNonEmpty "missing evidence reason" record.reason,
    rejectIf (!(["INFO", "WARNING", "CRITICAL"].contains record.severity)) .decisionValidationError
      ("Unknown missing evidence severity: '" ++ record.severity ++ "'.")]

/-- A report of evidence that is missing. -/
abbrev MissingEvidence := Checked MissingEvidenceRecord.violation

/-- The fields of `DecisionExplanation`. -/
structure DecisionExplanationRecord where
  decisionId : String
  summary : String
  reasons : List String
  evidenceReferences : List DecisionEvidenceReference
  policyReferences : List DecisionPolicyReference
  missingEvidence : List MissingEvidence
  metadata : Metadata
deriving DecidableEq

/-- `DecisionExplanation.__post_init__`. -/
def DecisionExplanationRecord.violation (record : DecisionExplanationRecord) : Option Raised :=
  firstViolation [
    requireNonEmpty "explanation decision_id" record.decisionId,
    requireNonEmpty "explanation summary" record.summary]

/-- The explanation of a decision. -/
abbrev DecisionExplanation := Checked DecisionExplanationRecord.violation

/-! ## Audit records -/

/-- The fields of `DecisionAuditRecord`. -/
structure DecisionAuditFields where
  decisionId : String
  action : DecisionAuditAction
  producerId : String
  reason : String
  auditId : String
  actorId : Option String
  correlationId : Option String
  requestId : Option String
  createdAt : Instant
  metadata : Metadata
deriving DecidableEq

/-- `DecisionAuditRecord.__post_init__`. -/
def DecisionAuditFields.violation (record : DecisionAuditFields) : Option Raised :=
  firstViolation [
    requireNonEmpty "decision audit audit_id" record.auditId,
    requireNonEmpty "decision audit decision_id" record.decisionId,
    requireNonEmpty "decision audit producer_id" record.producerId,
    requireNonEmpty "decision audit reason" record.reason,
    requireOptionalNonEmpty "decision audit actor_id" record.actorId,
    requireOptionalNonEmpty "decision audit correlation_id" record.correlationId,
    requireOptionalNonEmpty "decision audit request_id" record.requestId]

/-- A step in the life of a decision. -/
abbrev DecisionAuditRecord := Checked DecisionAuditFields.violation

/-! ## Equality -/

/-- `==` on evidence references. -/
def sameEvidence (left right : DecisionEvidenceReference) : Bool :=
  { left.record with metadata := [] } = { right.record with metadata := [] } &&
    Json.sameFields left.record.metadata right.record.metadata

/-- `==` on policy references. -/
def samePolicy (left right : DecisionPolicyReference) : Bool :=
  { left.record with metadata := [] } = { right.record with metadata := [] } &&
    Json.sameFields left.record.metadata right.record.metadata

/-- `==` on missing evidence. -/
def sameMissing (left right : MissingEvidence) : Bool :=
  { left.record with metadata := [] } = { right.record with metadata := [] } &&
    Json.sameFields left.record.metadata right.record.metadata

/-- `==` on tuples. -/
def sameItems {Item : Type} (same : Item → Item → Bool) : List Item → List Item → Bool
  | [], [] => true
  | left :: lefts, right :: rights => same left right && sameItems same lefts rights
  | _, _ => false

/-- `==` on decisions. -/
def GovernanceDecision.same (left right : GovernanceDecision) : Bool :=
  { left.record with evidence := [], policies := [], metadata := [] } =
      { right.record with evidence := [], policies := [], metadata := [] } &&
    sameItems sameEvidence left.record.evidence right.record.evidence &&
    sameItems samePolicy left.record.policies right.record.policies &&
    Json.sameFields left.record.metadata right.record.metadata

/-- `==` on explanations. -/
def DecisionExplanation.same (left right : DecisionExplanation) : Bool :=
  { left.record with evidenceReferences := [], policyReferences := [], missingEvidence := [], metadata := [] } =
      { right.record with
        evidenceReferences := [], policyReferences := [], missingEvidence := [], metadata := [] } &&
    sameItems sameEvidence left.record.evidenceReferences right.record.evidenceReferences &&
    sameItems samePolicy left.record.policyReferences right.record.policyReferences &&
    sameItems sameMissing left.record.missingEvidence right.record.missingEvidence &&
    Json.sameFields left.record.metadata right.record.metadata

end AiGovernance.Decisions
