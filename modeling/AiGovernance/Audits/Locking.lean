import AiGovernance.Repositories.SqliteCausalAudits
import AiGovernance.Semantics.Trace

/-!
# Optimistic locking between statements

`save` checks the version on a row it has selected and then writes without a
condition. Along a run the stored versions increase, no terminal row is
overwritten and no expected version is used twice exactly when the checks of
every save still pass at its upsert.
-/

namespace AiGovernance.Audits

open AiGovernance.Std Domain Semantics

variable {audit : CausalAudit} {after : CausalAuditTable}

/-- Any number of saves; an audit that is saved over an expected version is the next one, as every transition makes
it, and an audit that is saved without one is new. -/
def auditSaves : Pool auditDatabase CausalAuditTable AuditSave CausalAudit where
  handler := auditTables
  body := AuditSave.body
  offered save := save.audit.record.version = (save.expectedVersion.map (· + 1)).getD 0
  environment _ _ := False
  admits _ _ _ := True

/-- A command of a trace. -/
abbrev AuditEntry := AuditSave × CausalAuditTable × AuditStatement

/-- The row that an upsert finds. -/
def AuditEntry.found (entry : AuditEntry) : Option CausalAudit :=
  (entry.2.1.rows.get? entry.1.audit.record.key).map (·.audit)

/-- The upsert of a save that takes effect. -/
def AuditEntry.TakesEffect (entry : AuditEntry) : Prop :=
  ∃ after, entry.2.2 = .upsert entry.1.audit ∧ entry.2.1.upsert entry.1.audit = .ok after

/-- The checks of the save pass on the row that its upsert finds. -/
def AuditEntry.StillAdmissible (entry : AuditEntry) : Prop :=
  match entry.1.expectedVersion with
  | none => entry.found = none
  | some version => ∃ audit, entry.found = some audit ∧ audit.record.version = version ∧ audit.isTerminal = false

/-- What optimistic locking promises of the saves of a trace. -/
structure Locked (trace : List AuditEntry) : Prop where
  increases : ∀ entry ∈ trace, entry.TakesEffect → ∀ audit, entry.found = some audit →
    audit.record.version < entry.1.audit.record.version
  immutable : ∀ entry ∈ trace, entry.TakesEffect → ∀ audit, entry.found = some audit → audit.isTerminal = false
  once : trace.Pairwise fun earlier later => earlier.TakesEffect → later.TakesEffect →
    earlier.1.audit.record.key = later.1.audit.record.key → earlier.1.expectedVersion ≠ later.1.expectedVersion

/-! ## Versions along a run -/

/-- Rows stay, with versions that do not decrease. -/
def Ascends (table after : CausalAuditTable) : Prop :=
  ∀ key row, table.rows.get? key = some row → ∃ later, after.rows.get? key = some later ∧
    row.audit.record.version ≤ later.audit.record.version

theorem Ascends.refl (table : CausalAuditTable) : Ascends table table := fun _ row stored => ⟨row, stored, le_rfl⟩

theorem Ascends.trans {first second third : CausalAuditTable} (before : Ascends first second)
    (after : Ascends second third) : Ascends first third := by
  intro key row stored
  obtain ⟨middle, kept, smaller⟩ := before key row stored
  obtain ⟨later, keptAgain, smallerAgain⟩ := after key middle kept
  exact ⟨later, keptAgain, smaller.trans smallerAgain⟩

theorem upsert_ok {table : CausalAuditTable} (written : table.upsert audit = .ok after) :
    (∃ row, after.rows.get? audit.record.key = some row ∧ row.audit = audit) ∧
      ∀ key, key ≠ audit.record.key → after.rows.get? key = table.rows.get? key := by
  unfold CausalAuditTable.upsert at written
  split at written
  · cases written
    exact ⟨⟨_, Dict.get?_set_self _, rfl⟩, fun key elsewhere => Dict.get?_set_of_ne _ elsewhere⟩
  · split at written
    · cases written
    · cases written
      exact ⟨⟨_, Dict.get?_set_self _, rfl⟩, fun key elsewhere => Dict.get?_set_of_ne _ elsewhere⟩

theorem upsert_ascends {table : CausalAuditTable} (written : table.upsert audit = .ok after)
    (smaller : ∀ row, table.rows.get? audit.record.key = some row → row.audit.record.version ≤ audit.record.version) :
    Ascends table after := by
  obtain ⟨⟨own, stands, same⟩, elsewhere⟩ := upsert_ok written
  intro key row stored
  by_cases here : key = audit.record.key
  · subst here
    exact ⟨own, stands, same ▸ smaller row stored⟩
  · exact ⟨row, (elsewhere key here).trans stored, le_rfl⟩

/-! ## What a save issues -/

/-- What a save has selected when it upserts. -/
def SaveRule (save : AuditSave) (log : CommandLog auditDatabase CausalAuditTable) : AuditStatement → Prop
  | .select _ => True
  | .upsert audit => audit = save.audit ∧ ∀ version, save.expectedVersion = some version →
      ∃ table row, (table, .select save.audit.record.key) ∈ log ∧
        table.rows.get? save.audit.record.key = some row ∧ row.audit.record.version = version

theorem body_obeys (save : AuditSave) : Obeys auditTables (SaveRule save) save.body [] := by
  unfold AuditSave.body
  apply obeys_call_bind trivial
  intro table existing answered
  cases answered
  cases refused : save.refused ((table.rows.get? save.audit.record.key).map fun row =>
      (row.audit.record.version, row.audit.record.status)) with
  | some raised => trivial
  | none =>
    apply obeys_call_bind
    · refine ⟨rfl, ?_⟩
      intro version expected
      unfold AuditSave.refused at refused
      split at refused
      · cases refused
      · rename_i agrees
        cases stored : table.rows.get? save.audit.record.key with
        | none => simp [expected, stored] at agrees
        | some row =>
          refine ⟨table, row, by simp, stored, ?_⟩
          simpa [expected, stored] using agrees
    · intro later answer upserted
      trivial

section Runs

variable {start : CausalAuditTable} {final : Config auditDatabase CausalAuditTable AuditSave CausalAudit}
  {trace : List AuditEntry}

/-- Every entry is of an offered save, and an upsert writes the audit of its save. -/
theorem explained (runs : auditSaves.Runs ⟨start, []⟩ trace final) (along : auditSaves.Along trace Ascends) :
    ∀ entry ∈ trace, auditSaves.offered entry.1 ∧ ∃ log, SaveRule entry.1 log entry.2.2 ∧
      ∀ logged ∈ log, (entry.1, logged.1, logged.2) ∈ trace ∧
        Ascends (auditSaves.left (entry.1, logged.1, logged.2)) entry.2.1 :=
  runs.explained along SaveRule (fun save _ => body_obeys save) rfl

variable {entry : AuditEntry}

theorem upsert_own (runs : auditSaves.Runs ⟨start, []⟩ trace final) (member : entry ∈ trace)
    (upserts : entry.2.2 = .upsert audit) : audit = entry.1.audit := by
  have free : auditSaves.Along trace fun _ _ => True :=
    ⟨fun _ => trivial, fun _ _ => trivial, nofun, fun _ _ => trivial⟩
  obtain ⟨-, log, allowed, -⟩ := runs.explained free SaveRule (fun save _ => body_obeys save) rfl entry member
  rw [upserts] at allowed
  exact allowed.1

/-- Where no upsert lowers a version, the tables ascend. -/
theorem along_of (runs : auditSaves.Runs ⟨start, []⟩ trace final)
    (smaller : ∀ entry ∈ trace, entry.TakesEffect → ∀ audit, entry.found = some audit →
      audit.record.version ≤ entry.1.audit.record.version) : auditSaves.Along trace Ascends := by
  refine ⟨Ascends.refl, Ascends.trans, nofun, ?_⟩
  intro entry member
  cases statement : entry.2.2 with
  | select key =>
    unfold Pool.left
    rw [statement]
    exact .refl _
  | upsert audit =>
    have own := upsert_own runs member statement
    subst own
    unfold Pool.left
    rw [statement]
    change Ascends entry.2.1 (auditTables (.upsert entry.1.audit) entry.2.1).2
    cases written : entry.2.1.upsert entry.1.audit with
    | error raised =>
      simp only [auditTables, written]
      exact .refl _
    | ok after =>
      simp only [auditTables, written]
      apply upsert_ascends written
      intro row stored
      exact smaller entry member ⟨after, statement, written⟩ row.audit (by
        unfold AuditEntry.found
        rw [stored]
        rfl)

theorem left_of_effect (statement : entry.2.2 = .upsert entry.1.audit)
    (written : entry.2.1.upsert entry.1.audit = .ok after) : auditSaves.left entry = after := by
  unfold Pool.left
  rw [statement]
  change (auditTables (.upsert entry.1.audit) entry.2.1).2 = after
  simp only [auditTables, written]

/-- An admissible upsert raises the version. -/
theorem AuditEntry.StillAdmissible.smaller (admissible : entry.StillAdmissible) (offered : auditSaves.offered entry.1)
    (found : entry.found = some audit) : audit.record.version < entry.1.audit.record.version := by
  unfold AuditEntry.StillAdmissible at admissible
  cases expected : entry.1.expectedVersion with
  | none =>
    simp only [expected] at admissible
    rw [admissible] at found
    cases found
  | some version =>
    simp only [expected] at admissible
    obtain ⟨stored, same, current, -⟩ := admissible
    rw [found] at same
    cases same
    have next : entry.1.audit.record.version = version + 1 := by
      rw [show entry.1.audit.record.version = _ from offered, expected]
      rfl
    omega

/-- Where the checks still pass at every upsert, locking holds. -/
theorem locked_of_admissible (runs : auditSaves.Runs ⟨start, []⟩ trace final)
    (admissible : ∀ entry ∈ trace, entry.TakesEffect → entry.StillAdmissible) : Locked trace := by
  have free : auditSaves.Along trace fun _ _ => True :=
    ⟨fun _ => trivial, fun _ _ => trivial, nofun, fun _ _ => trivial⟩
  have offers := runs.explained free SaveRule (fun save _ => body_obeys save) rfl
  have increases : ∀ entry ∈ trace, entry.TakesEffect → ∀ audit, entry.found = some audit →
      audit.record.version < entry.1.audit.record.version := fun entry member effect audit found =>
    (admissible entry member effect).smaller (offers entry member).1 found
  have along := along_of runs fun entry member effect audit found => (increases entry member effect audit found).le
  obtain ⟨-, pairs, -⟩ := runs.ordered along
  refine ⟨increases, ?_, ?_⟩
  · intro entry member effect audit found
    have current := admissible entry member effect
    unfold AuditEntry.StillAdmissible at current
    split at current
    · rw [current] at found
      cases found
    · obtain ⟨stored, same, -, alive⟩ := current
      rw [found] at same
      cases same
      exact alive
  · refine pairs.imp_of_mem ?_
    intro earlier later earlierMember laterMember ascends earlierEffect laterEffect key expected
    obtain ⟨after, statement, written⟩ := earlierEffect
    rw [left_of_effect statement written] at ascends
    obtain ⟨⟨row, stands, same⟩, -⟩ := upsert_ok written
    obtain ⟨kept, stored, grown⟩ := ascends _ row stands
    have found : AuditEntry.found later = some kept.audit := by
      unfold AuditEntry.found
      rw [← key, stored]
      rfl
    have current := admissible later laterMember laterEffect
    unfold AuditEntry.StillAdmissible at current
    cases version : later.1.expectedVersion with
    | none =>
      simp only [version] at current
      rw [current] at found
      cases found
    | some number =>
      simp only [version] at current
      obtain ⟨audit, same', numbered, -⟩ := current
      rw [found] at same'
      cases same'
      have next : earlier.1.audit.record.version = number + 1 := by
        rw [show earlier.1.audit.record.version = _ from (offers earlier earlierMember).1, expected, version]
        rfl
      rw [same] at grown
      omega

/-- Where locking holds, the checks still passed at every upsert. -/
theorem admissible_of_locked (runs : auditSaves.Runs ⟨start, []⟩ trace final) (locked : Locked trace) :
    ∀ entry ∈ trace, entry.TakesEffect → entry.StillAdmissible := by
  have along := along_of runs fun entry member effect audit found =>
    (locked.increases entry member effect audit found).le
  intro entry member effect
  obtain ⟨offered, log, allowed, logged⟩ := explained runs along entry member
  have increases := locked.increases entry member effect
  have immutable := locked.immutable entry member effect
  obtain ⟨after, statement, written⟩ := effect
  rw [statement] at allowed
  obtain ⟨-, selected⟩ := allowed
  unfold AuditEntry.StillAdmissible
  cases expected : entry.1.expectedVersion with
  | none =>
    cases found : entry.found with
    | none => rfl
    | some audit =>
      have smaller := increases audit found
      rw [show entry.1.audit.record.version = _ from offered, expected] at smaller
      exact absurd smaller (Nat.not_lt_zero _)
  | some version =>
    obtain ⟨table, row, read, stored, numbered⟩ := selected version expected
    obtain ⟨kept, keptStored, grown⟩ := (logged _ read).2 _ row stored
    have found : entry.found = some kept.audit := by
      unfold AuditEntry.found
      rw [keptStored]
      rfl
    have smaller := increases _ found
    rw [show entry.1.audit.record.version = _ from offered, expected] at smaller
    simp only [Option.map_some, Option.getD_some] at smaller
    exact ⟨kept.audit, found, by omega, immutable _ found⟩

end Runs

/-- A new audit. -/
def newAudit : CausalAudit :=
  ⟨{ auditId := "audit-1", organizationId := "org-1", projectId := none, executionId := "execution-1"
     agentId := "agent-1", status := .queued, methodologyVersion := "causal-audit/v1"
     evaluatorRef := "recorded-outcome/v1"
     intervention := ⟨⟨.nullify, 1, "v1", none, [], none, none⟩, by decide +kernel⟩
     requestFingerprint := "fingerprint-1", createdBy := "actor-1", createdAt := ⟨1⟩, updatedAt := ⟨1⟩ },
    by decide +kernel⟩

/-- The audit once it is started. -/
def startedAudit : CausalAudit :=
  ⟨{ newAudit.record with status := .running, startedAt := some ⟨2⟩, updatedAt := ⟨2⟩, version := 1 }, by decide +kernel⟩

/-- The audit once it is cancelled. -/
def cancelledAudit : CausalAudit :=
  ⟨{ newAudit.record with status := .cancelled, completedAt := some ⟨2⟩, updatedAt := ⟨2⟩, version := 1 },
    by decide +kernel⟩

theorem saves_run (moves : List (Pool.Move AuditSave)) (legal : auditSaves.Legal moves ⟨.empty, []⟩) :
    auditSaves.Runs ⟨.empty, []⟩ (auditSaves.traced moves ⟨.empty, []⟩) (auditSaves.play moves ⟨.empty, []⟩) :=
  Pool.Runs.play .refl legal

/-- The audit is created and then started. -/
def inTurn : List (Pool.Move AuditSave) :=
  [.enter ⟨newAudit, none⟩, .issue 0, .issue 0, .enter ⟨startedAudit, some 0⟩, .issue 1, .issue 1]

/-- Both saves have selected the queued audit; the one that starts it is written over the one that cancels it. -/
def crossed : List (Pool.Move AuditSave) :=
  [.enter ⟨newAudit, none⟩, .issue 0, .issue 0, .enter ⟨startedAudit, some 0⟩, .enter ⟨cancelledAudit, some 0⟩,
    .issue 1, .issue 2, .issue 2, .issue 1]

end AiGovernance.Audits
