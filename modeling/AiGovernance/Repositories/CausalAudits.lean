import AiGovernance.Domain.CausalAudit
import AiGovernance.Std.Dict

/-!
# The in-memory audit repository

`InMemoryCausalAuditRepository`: a save compares the stored version with the one
its caller read, and refuses to change an audit that has ended.
-/

namespace AiGovernance.Audits

open AiGovernance.Std Domain

/-- The dictionary, every audit under its own identifier. -/
structure CausalAuditStore where
  audits : Dict String CausalAudit
  keyed : ∀ {auditId audit}, audits.get? auditId = some audit → audit.record.auditId = auditId

namespace CausalAuditStore

/-- A new repository. -/
def empty : CausalAuditStore := ⟨.empty, by simp⟩

/-- `get`. -/
def get (store : CausalAuditStore) (auditId organizationId : String) (projectId : Option String) :
    Option CausalAudit :=
  (store.audits.get? auditId).filter fun audit =>
    audit.record.organizationId = organizationId && audit.record.projectId = projectId

/-- `find_by_fingerprint`. -/
def findByFingerprint (store : CausalAuditStore) (fingerprint organizationId : String) (projectId : Option String) :
    Option CausalAudit :=
  store.audits.values.find? fun audit =>
    audit.record.requestFingerprint = fingerprint && audit.record.organizationId = organizationId &&
      audit.record.projectId = projectId

/-- The write of `save`. -/
def put (store : CausalAuditStore) (audit : CausalAudit) : CausalAuditStore where
  audits := store.audits.set audit.record.auditId audit
  keyed := store.audits.keyed_set store.keyed rfl

/-- `save`. -/
def save (store : CausalAuditStore) (audit : CausalAudit) (expectedVersion : Option Nat) :
    Except Raised CausalAuditStore :=
  let previous := store.audits.get? audit.record.auditId
  if expectedVersion.isSome && previous.map (·.record.version) ≠ expectedVersion then
    .error ⟨.valueError, "Causal audit version conflict."⟩
  else if previous.any fun previous => previous.isTerminal && previous ≠ audit then
    .error ⟨.valueError, "Completed causal audits are immutable."⟩
  else if (store.findByFingerprint audit.record.requestFingerprint audit.record.organizationId
      audit.record.projectId).any fun duplicate => duplicate.record.auditId ≠ audit.record.auditId then
    .error ⟨.valueError, "Causal audit request fingerprint already exists."⟩
  else .ok (store.put audit)

/-- An audit that has ended is what every later save finds and leaves. -/
theorem save_keeps_terminal {store after : CausalAuditStore} {audit : CausalAudit} {expectedVersion : Option Nat}
    (saved : store.save audit expectedVersion = .ok after) {auditId : String} {ended : CausalAudit}
    (stored : store.audits.get? auditId = some ended) (terminal : ended.isTerminal = true) :
    after.audits.get? auditId = some ended := by
  unfold save at saved
  dsimp only at saved
  split at saved
  · cases saved
  · split at saved
    · cases saved
    · rename_i mutable
      split at saved
      · cases saved
      · cases saved
        change (store.audits.set audit.record.auditId audit).get? auditId = some ended
        rw [Dict.get?_set]
        split
        · rename_i here
          subst here
          rw [stored] at mutable
          have same : ended = audit := by simpa [terminal] using mutable
          rw [same]
        · exact stored

end CausalAuditStore

end AiGovernance.Audits
