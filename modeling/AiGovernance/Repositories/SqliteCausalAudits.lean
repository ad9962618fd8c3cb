import AiGovernance.Repositories.CausalAudits
import AiGovernance.Semantics.Program

/-!
# The SQLite audit repository

`SQLiteCausalAuditRepository.save` as the two statements it executes: the select
of the version and the status, and the upsert. Outside a transaction each
statement stands alone.
-/

namespace AiGovernance.Audits

open AiGovernance.Std Domain Semantics

/-- The primary key of `causal_audit`: organization, project and audit. -/
abbrev AuditKey := String × String × String

/-- The key of an audit; a missing project is stored as the empty text. -/
def CausalAuditRecord.key (record : CausalAuditRecord) : AuditKey :=
  (record.organizationId, record.projectId.getD "", record.auditId)

/-- A row: the fingerprint of its first insertion, and the audit of its payload with the columns read from it. -/
structure CausalAuditRow where
  requestFingerprint : String
  audit : CausalAudit

/-- The table `causal_audit`. -/
structure CausalAuditTable where
  rows : Dict AuditKey CausalAuditRow
  keyed : ∀ {key row}, rows.get? key = some row → row.audit.record.key = key

namespace CausalAuditTable

/-- A new table. -/
def empty : CausalAuditTable := ⟨.empty, by simp⟩

/-- Another row of the tenant has the fingerprint. -/
def fingerprintTaken (table : CausalAuditTable) (audit : CausalAudit) : Bool :=
  table.rows.entries.any fun entry =>
    entry.1.1 = audit.record.key.1 && entry.1.2.1 = audit.record.key.2.1 &&
      entry.2.requestFingerprint = audit.record.requestFingerprint

/-- Write a row under its key. -/
def put (table : CausalAuditTable) (row : CausalAuditRow) : CausalAuditTable where
  rows := table.rows.set row.audit.record.key row
  keyed := table.rows.keyed_set table.keyed rfl

/-- Insert the row of an audit, or update the columns of the one that stands there. -/
def upsert (table : CausalAuditTable) (audit : CausalAudit) : Except Raised CausalAuditTable :=
  match table.rows.get? audit.record.key with
  | some row => .ok (table.put { row with audit })
  | none =>
    if table.fingerprintTaken audit then
      .error ⟨.backend, "UNIQUE constraint failed: causal_audit.organization_id, causal_audit.project_id, " ++
        "causal_audit.request_fingerprint"⟩
    else .ok (table.put ⟨audit.record.requestFingerprint, audit⟩)

end CausalAuditTable

/-! ## Statements -/

/-- The statements of `save`. -/
inductive AuditStatement where
  | select (key : AuditKey)
  | upsert (audit : CausalAudit)

/-- What each statement answers: the version and the status, or nothing. -/
def AuditStatement.Answer : AuditStatement → Type
  | select _ => Option (Nat × CausalAuditStatus)
  | upsert _ => Unit

/-- The database as `save` sees it. -/
abbrev auditDatabase : Interface := ⟨AuditStatement, AuditStatement.Answer, Raised⟩

/-- How the table answers. -/
def auditTables : Handler auditDatabase CausalAuditTable
  | .select key, table =>
    (.ok ((table.rows.get? key).map fun row => (row.audit.record.version, row.audit.record.status)), table)
  | .upsert audit, table =>
    match table.upsert audit with
    | .ok after => (.ok (), after)
    | .error raised => (.error raised, table)

/-- One call of `save`. -/
structure AuditSave where
  audit : CausalAudit
  expectedVersion : Option Nat

/-- The checks of `save` on what it has selected. -/
def AuditSave.refused (save : AuditSave) (existing : Option (Nat × CausalAuditStatus)) : Option Raised :=
  if save.expectedVersion.isSome && existing.map Prod.fst ≠ save.expectedVersion then
    some ⟨.valueError, "Causal audit version conflict."⟩
  else if existing.any fun row => row.2.isTerminal then
    some ⟨.valueError, "Completed causal audits are immutable."⟩
  else none

/-- `save`. -/
def AuditSave.body (save : AuditSave) : Program auditDatabase CausalAudit := do
  let existing ← Program.call (I := auditDatabase) (.select save.audit.record.key)
  match save.refused existing with
  | some raised => .raise raised
  | none => do
      Program.call (I := auditDatabase) (.upsert save.audit)
      return save.audit

end AiGovernance.Audits
