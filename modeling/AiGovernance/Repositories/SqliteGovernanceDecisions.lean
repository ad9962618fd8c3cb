import AiGovernance.Repositories.GovernanceDecisions
import AiGovernance.Std.Offset

/-!
# The SQLite decision repository

`SQLiteGovernanceDecisionRepository` over `governance_decision` and
`governance_decision_audit`. A row has the columns of the table: a JSON column is
the payload it was written from, the keys of its dictionaries sorted, and
`created_at` is ordered as text, written at the offset of the table. A decision
and its explanation share one row, which `INSERT OR REPLACE` writes as a whole.
-/

namespace AiGovernance.Decisions

open AiGovernance.Std Domain

/-! ## Rows -/

/-- What `_explanation_to_dict` writes. -/
structure ExplanationPayload where
  decisionId : String
  summary : String
  reasons : List String
  evidenceReferences : List DecisionEvidenceReferenceRecord
  policyReferences : List DecisionPolicyReferenceRecord
  missingEvidence : List MissingEvidenceRecord
  metadata : Metadata
deriving DecidableEq

/-- A row of `governance_decision`. -/
structure DecisionRow where
  decisionId : String
  decisionType : DecisionType
  status : DecisionStatus
  targetType : DecisionTargetType
  targetId : String
  reason : String
  confidence : DecisionConfidenceLevel
  evidenceJson : List DecisionEvidenceReferenceRecord
  policiesJson : List DecisionPolicyReferenceRecord
  provenanceJson : DecisionProvenanceRecord
  supersessionJson : DecisionSupersessionRecord
  explanationJson : Option ExplanationPayload
  metadataJson : Metadata
  createdAt : Instant
  finalizedAt : Option Instant
  archivedAt : Option Instant
deriving DecidableEq

namespace GovernanceDecisionPersistenceMapper

/-- `_evidence_reference_to_dict`, as `canonical_json` writes it. -/
def evidenceReferenceToDict (reference : DecisionEvidenceReference) : DecisionEvidenceReferenceRecord :=
  { reference.record with metadata := Json.sortFields reference.record.metadata }

/-- `_policy_reference_to_dict`, as `canonical_json` writes it. -/
def policyReferenceToDict (reference : DecisionPolicyReference) : DecisionPolicyReferenceRecord :=
  { reference.record with metadata := Json.sortFields reference.record.metadata }

/-- `_missing_evidence_to_dict`, as `canonical_json` writes it. -/
def missingEvidenceToDict (missing : MissingEvidence) : MissingEvidenceRecord :=
  { missing.record with metadata := Json.sortFields missing.record.metadata }

/-- `_explanation_to_dict`, as `canonical_json` writes it. -/
def explanationToDict (explanation : DecisionExplanation) : ExplanationPayload where
  decisionId := explanation.record.decisionId
  summary := explanation.record.summary
  reasons := explanation.record.reasons
  evidenceReferences := explanation.record.evidenceReferences.map evidenceReferenceToDict
  policyReferences := explanation.record.policyReferences.map policyReferenceToDict
  missingEvidence := explanation.record.missingEvidence.map missingEvidenceToDict
  metadata := Json.sortFields explanation.record.metadata

/-- `to_persistence_record`. -/
def toPersistenceRecord (decision : GovernanceDecision) (explanation : Option DecisionExplanation) : DecisionRow where
  decisionId := decision.record.decisionId
  decisionType := decision.record.decisionType
  status := decision.record.status
  targetType := decision.record.target.record.targetType
  targetId := decision.record.target.record.targetId
  reason := decision.record.reason
  confidence := decision.record.confidence
  evidenceJson := decision.record.evidence.map evidenceReferenceToDict
  policiesJson := decision.record.policies.map policyReferenceToDict
  provenanceJson := decision.record.provenance.record
  supersessionJson := decision.record.supersession.record
  explanationJson := explanation.map explanationToDict
  metadataJson := Json.sortFields decision.record.metadata
  createdAt := decision.record.provenance.record.createdAt
  finalizedAt := decision.record.finalizedAt
  archivedAt := decision.record.archivedAt

/-- `from_persistence_record`. -/
def fromPersistenceRecord (row : DecisionRow) : Except Raised GovernanceDecision := do
  let target : DecisionTarget ← Checked.create ⟨row.targetType, row.targetId⟩
  let evidence : List DecisionEvidenceReference ← row.evidenceJson.mapM Checked.create
  let policies : List DecisionPolicyReference ← row.policiesJson.mapM Checked.create
  let provenance : DecisionProvenance ← Checked.create row.provenanceJson
  let supersession : DecisionSupersession ← Checked.create row.supersessionJson
  Checked.create {
    decisionId := row.decisionId
    decisionType := row.decisionType
    status := row.status
    target
    reason := row.reason
    confidence := row.confidence
    evidence
    policies
    provenance
    supersession
    metadata := row.metadataJson
    finalizedAt := row.finalizedAt
    archivedAt := row.archivedAt }

/-- `_explanation_from_dict`. -/
def explanationFromDict (payload : ExplanationPayload) : Except Raised DecisionExplanation := do
  let evidenceReferences : List DecisionEvidenceReference ← payload.evidenceReferences.mapM Checked.create
  let policyReferences : List DecisionPolicyReference ← payload.policyReferences.mapM Checked.create
  let missingEvidence : List MissingEvidence ← payload.missingEvidence.mapM Checked.create
  Checked.create {
    decisionId := payload.decisionId
    summary := payload.summary
    reasons := payload.reasons
    evidenceReferences
    policyReferences
    missingEvidence
    metadata := payload.metadata }

/-- `explanation_from_persistence_record`. -/
def explanationFromPersistenceRecord (row : DecisionRow) : Except Raised (Option DecisionExplanation) :=
  match row.explanationJson with
  | none => .ok none
  | some payload => (explanationFromDict payload).map some

end GovernanceDecisionPersistenceMapper

open GovernanceDecisionPersistenceMapper

/-! ## Tables -/

/-- The two tables, each under its primary key, and the offset of the `created_at` texts. -/
structure DecisionTables where
  rows : Dict String DecisionRow
  audits : Dict String DecisionAuditFields
  offset : Instant.Offset

namespace DecisionTables

/-- A new database. -/
def empty (offset : Instant.Offset) : DecisionTables := ⟨.empty, .empty, offset⟩

/-- `get`. -/
def get (tables : DecisionTables) (decisionId : String) : Except Raised (Option GovernanceDecision) :=
  match tables.rows.get? decisionId with
  | none => .ok none
  | some row => (fromPersistenceRecord row).map some

/-- `get_explanation`. -/
def getExplanation (tables : DecisionTables) (decisionId : String) : Except Raised (Option DecisionExplanation) :=
  match tables.rows.get? decisionId with
  | none => .ok none
  | some row => explanationFromPersistenceRecord row

/-- `_UPSERT_DECISION_SQL`. -/
def insertOrReplace (tables : DecisionTables) (row : DecisionRow) : DecisionTables :=
  { tables with rows := tables.rows.set row.decisionId row }

/-- `_INSERT_AUDIT_SQL`. -/
def saveAudit (tables : DecisionTables) (record : DecisionAuditRecord) : DecisionTables :=
  { tables with
    audits := tables.audits.set record.record.auditId
      { record.record with metadata := Json.sortFields record.record.metadata } }

/-- `_publish`. -/
def publish (tables : DecisionTables) (ambient : DecisionAmbient) (event : DecisionEvent) :
    Outcome DecisionTables Unit :=
  match ambient.publishing event with
  | some raised => (.error raised, tables)
  | none => (.ok (), tables)

/-- `_save`. -/
def saveDecision (tables : DecisionTables) (ambient : DecisionAmbient) (decision : GovernanceDecision)
    (explanation : Option DecisionExplanation) (publishCreated enforceFinalized : Bool) :
    Outcome DecisionTables GovernanceDecision :=
  match tables.get decision.record.decisionId with
  | .error raised => (.error raised, tables)
  | .ok existing =>
    match (if existing.isSome && explanation.isSome then tables.getExplanation decision.record.decisionId
        else .ok none) with
    | .error raised => (.error raised, tables)
    | .ok existingExplanation =>
      match existing with
      | some existing =>
        if enforceFinalized && existing.isFinalized then
          if existing.same decision && (explanation.isNone || explanation.any fun given =>
              existingExplanation.any (·.same given)) then (.ok decision, tables)
          else (.error ⟨.decisionValidationError, "Finalized governance decision cannot be mutated."⟩, tables)
        else (.ok decision, tables.insertOrReplace (toPersistenceRecord decision explanation))
      | none =>
        if publishCreated then
          ((tables.insertOrReplace (toPersistenceRecord decision explanation)).publish ambient .created).andThen
            fun _ tables => (.ok decision, tables)
        else (.ok decision, tables.insertOrReplace (toPersistenceRecord decision explanation))

/-- `save`. -/
def save (tables : DecisionTables) (ambient : DecisionAmbient) (decision : GovernanceDecision) :
    Outcome DecisionTables GovernanceDecision :=
  tables.saveDecision ambient decision none true true

/-- `save_with_explanation`. -/
def saveWithExplanation (tables : DecisionTables) (ambient : DecisionAmbient) (decision : GovernanceDecision)
    (explanation : DecisionExplanation) : Outcome DecisionTables GovernanceDecision :=
  tables.saveDecision ambient decision (some explanation) true true

/-- Save the audit record of a change, once it is built. -/
def recordAudit (tables : DecisionTables) (ambient : DecisionAmbient) (action : DecisionAuditAction)
    (decisionId reason : String) (provenance : DecisionProvenance) (metadata : Metadata) :
    Outcome DecisionTables Unit :=
  match auditRecord ambient action decisionId reason provenance metadata with
  | .ok record => (.ok (), tables.saveAudit record)
  | .error raised => (.error raised, tables)

/-- The writes of `supersede`. -/
def writeSupersession (tables : DecisionTables) (ambient : DecisionAmbient) (reason : String)
    (supersededOld replacement : GovernanceDecision) : Outcome DecisionTables GovernanceDecision :=
  (tables.saveDecision ambient supersededOld none false false).andThen fun _ tables =>
  (tables.saveDecision ambient replacement none true true).andThen fun saved tables =>
  (tables.recordAudit ambient .superseded supersededOld.record.decisionId reason replacement.record.provenance
    [("superseded_by_decision_id", .str replacement.record.decisionId)]).andThen fun _ tables =>
  (tables.publish ambient .superseded).andThen fun _ tables => (.ok saved, tables)

section Repr

variable (repr : String → String)

/-- `supersede`; `repr` is the representation of a string in the messages. -/
def supersede (tables : DecisionTables) (ambient : DecisionAmbient) (oldDecisionId : String)
    (newDecision : GovernanceDecision) (reason : String) : Outcome DecisionTables GovernanceDecision :=
  match tables.get oldDecisionId with
  | .error raised => (.error raised, tables)
  | .ok none =>
    (.error ⟨.decisionValidationError, "Governance decision " ++ repr oldDecisionId ++ " does not exist."⟩, tables)
  | .ok (some old) =>
    if old.supersededBy.isSome then
      (.error ⟨.decisionValidationError,
        "Governance decision " ++ repr oldDecisionId ++ " is already superseded."⟩, tables)
    else
      match DecisionStore.supersession old newDecision reason with
      | .error raised => (.error raised, tables)
      | .ok (supersededOld, replacement) => tables.writeSupersession ambient reason supersededOld replacement

/-- `archive`. -/
def archive (tables : DecisionTables) (ambient : DecisionAmbient) (decisionId reason : String) :
    Outcome DecisionTables GovernanceDecision :=
  match tables.get decisionId with
  | .error raised => (.error raised, tables)
  | .ok none =>
    (.error ⟨.decisionValidationError, "Governance decision " ++ repr decisionId ++ " does not exist."⟩, tables)
  | .ok (some decision) =>
    if decision.record.status = .archived then (.ok decision, tables)
    else
      (tables.saveDecision ambient (DecisionStore.archivedFrom decision ambient.now) none false false).andThen
        fun saved tables =>
      (tables.recordAudit ambient .archived decisionId reason decision.record.provenance []).andThen fun _ tables =>
      (tables.publish ambient .archived).andThen fun _ tables => (.ok saved, tables)

end Repr

end DecisionTables

/-! ## Listings -/

/-- The `WHERE` clause of a listing. -/
def DecisionQuery.selectsRow (query : DecisionQuery) (row : DecisionRow) : Bool :=
  match query with
  | .target targetType targetId => row.targetType = targetType && row.targetId = targetId
  | .status wanted => row.status = wanted
  | .correlationId wanted => row.provenanceJson.correlationId = some wanted
  | .requestId wanted => row.provenanceJson.requestId = some wanted
  | .all => true

/-- `ORDER BY created_at DESC, decision_id`. -/
def DecisionRow.orderedBefore (offset : Instant.Offset) (left right : DecisionRow) : Prop :=
  offset.isoformat right.createdAt < offset.isoformat left.createdAt ∨
    offset.isoformat right.createdAt = offset.isoformat left.createdAt ∧ left.decisionId ≤ right.decisionId

instance (offset : Instant.Offset) (left right : DecisionRow) : Decidable (left.orderedBefore offset right) :=
  inferInstanceAs (Decidable (_ ∨ _))

/-- `LIMIT ?`; a negative limit is none. -/
def limitRows {Row : Type} (limit : Int) (rows : List Row) : List Row :=
  if 0 ≤ limit then rows.take limit.toNat else rows

namespace DecisionTables

/-- The rows selected, ordered, limited and read back. -/
def listing (tables : DecisionTables) (query : DecisionQuery) (limit : Int) :
    Except Raised (List GovernanceDecision) :=
  (limitRows limit ((tables.rows.values.filter query.selectsRow).insertionSort
    (DecisionRow.orderedBefore tables.offset))).mapM fromPersistenceRecord

/-- `find_by_target`. -/
def findByTarget (tables : DecisionTables) (targetType : DecisionTargetType) (targetId : String) (limit : Int) :
    Except Raised (List GovernanceDecision) :=
  tables.listing (.target targetType targetId) limit

/-- `find_by_status`. -/
def findByStatus (tables : DecisionTables) (status : DecisionStatus) (limit : Int) :
    Except Raised (List GovernanceDecision) :=
  tables.listing (.status status) limit

/-- `find_by_correlation_id`. -/
def findByCorrelationId (tables : DecisionTables) (correlationId : String) (limit : Int) :
    Except Raised (List GovernanceDecision) :=
  tables.listing (.correlationId correlationId) limit

/-- `find_by_request_id`. -/
def findByRequestId (tables : DecisionTables) (requestId : String) (limit : Int) :
    Except Raised (List GovernanceDecision) :=
  tables.listing (.requestId requestId) limit

/-- `list`. -/
def list (tables : DecisionTables) (limit : Int) : Except Raised (List GovernanceDecision) :=
  tables.listing .all limit

end DecisionTables

/-- What a writing call does to the tables. -/
def DecisionCall.runTables (repr : String → String) (call : DecisionCall) (ambient : DecisionAmbient)
    (tables : DecisionTables) : Outcome DecisionTables GovernanceDecision :=
  match call with
  | .save decision => tables.save ambient decision
  | .saveWithExplanation decision explanation => tables.saveWithExplanation ambient decision explanation
  | .supersede oldDecisionId newDecision reason => tables.supersede repr ambient oldDecisionId newDecision reason
  | .archive decisionId reason => tables.archive repr ambient decisionId reason

end AiGovernance.Decisions
