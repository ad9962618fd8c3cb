import AiGovernance.Repositories.Delegations
import AiGovernance.Repositories.SqliteRuntimeFindings
import AiGovernance.Semantics.Program

/-!
# The SQLite delegation store

`SQLiteRuntimeActionDelegationRepository` over the table
`runtime_action_delegation`, as the statements its operations execute. A row has
the columns of the table: times are ISO text, the status its value, and the
permissions the payload they were written from. Every operation opens its own
connection and commits right after it has written, so a statement stands alone.
-/

namespace AiGovernance.Repositories

open AiGovernance.Std Domain Semantics
open Findings (memberOf readInstant readInstant_isoformat mapM_roundTrip)

/-- `RuntimeActionDelegationStatus.value`. -/
def RuntimeActionDelegationStatus.value : RuntimeActionDelegationStatus → String
  | .active => "ACTIVE"
  | .revoked => "REVOKED"

/-- `RuntimeActionDelegationStatus(text)`. -/
def RuntimeActionDelegationStatus.parse : String → Except Raised RuntimeActionDelegationStatus :=
  memberOf "RuntimeActionDelegationStatus" [.active, .revoked] RuntimeActionDelegationStatus.value

@[simp] theorem RuntimeActionDelegationStatus.parse_value (status : RuntimeActionDelegationStatus) :
    RuntimeActionDelegationStatus.parse (RuntimeActionDelegationStatus.value status) = .ok status := by
  cases status <;> rfl

/-! ## Rows -/

/-- A row of `runtime_action_delegation`. -/
structure DelegationRow where
  delegationId : String
  organizationId : String
  projectId : String
  version : String
  executionId : String
  issuerId : String
  runtimeActorId : String
  permissionsJson : List RuntimeActionDelegationPermissionRecord
  issuedAt : String
  expiresAt : String
  contractDigest : String
  idempotencyKey : String
  status : String
  revokedAt : Option String
  revokedBy : Option String
  revocationReference : Option String
  schemaVersion : String

/-- The primary key of a row. -/
def DelegationRow.identity (row : DelegationRow) : String × String × String :=
  (row.organizationId, row.projectId, row.delegationId)

/-- The second unique key of a row. -/
def DelegationRow.idempotency (row : DelegationRow) : String × String × String :=
  (row.organizationId, row.projectId, row.idempotencyKey)

/-- `_row_values`. -/
def rowValues (delegation : RuntimeActionDelegation) : DelegationRow where
  delegationId := delegation.delegationId
  organizationId := delegation.organizationId
  projectId := delegation.projectId
  version := delegation.version
  executionId := delegation.executionId
  issuerId := delegation.issuerId
  runtimeActorId := delegation.runtimeActorId
  permissionsJson := delegation.permissions.map Checked.record
  issuedAt := delegation.issuedAt.isoformat
  expiresAt := delegation.expiresAt.isoformat
  contractDigest := delegation.contractDigest
  idempotencyKey := delegation.idempotencyKey
  status := RuntimeActionDelegationStatus.value delegation.status
  revokedAt := delegation.revokedAt.map Instant.isoformat
  revokedBy := delegation.revokedBy
  revocationReference := delegation.revocationReference
  schemaVersion := delegation.schemaVersion

/-- The column `revoked_at`: a time unless it is null. -/
def readRevokedAt : Option String → Except Raised (Option Instant)
  | none => .ok none
  | some text => (readInstant text).map some

@[simp] theorem readRevokedAt_isoformat (instant : Option Instant) :
    readRevokedAt (instant.map Instant.isoformat) = .ok instant := by
  cases instant with
  | none => rfl
  | some instant =>
    simp only [readRevokedAt, Option.map_some, readInstant_isoformat]
    rfl

/-- `RuntimeActionDelegationPermission(…)`. -/
def readPermission (record : RuntimeActionDelegationPermissionRecord) :
    Except Raised RuntimeActionDelegationPermission := Checked.create record

/-- `_from_row`. -/
def fromRow (primitives : Primitives) (row : DelegationRow) : Except Raised RuntimeActionDelegation := do
  let permissions ← row.permissionsJson.mapM readPermission
  let issuedAt ← readInstant row.issuedAt
  let expiresAt ← readInstant row.expiresAt
  let revokedAt ← readRevokedAt row.revokedAt
  -- The constructor reads the status after its other checks; only a malformed row can tell.
  let status ← RuntimeActionDelegationStatus.parse row.status
  RuntimeActionDelegation.checked primitives {
    delegationId := row.delegationId
    version := row.version
    organizationId := row.organizationId
    projectId := row.projectId
    executionId := row.executionId
    issuerId := row.issuerId
    runtimeActorId := row.runtimeActorId
    permissions, issuedAt, expiresAt
    contractDigest := row.contractDigest
    idempotencyKey := row.idempotencyKey
    status, revokedAt
    revokedBy := row.revokedBy
    revocationReference := row.revocationReference
    schemaVersion := row.schemaVersion }

theorem fromRow_rowValues {primitives : Primitives} {delegation : RuntimeActionDelegation}
    (valid : delegation.violation primitives = none) :
    fromRow primitives (rowValues delegation) = .ok delegation := by
  have permissions : (delegation.permissions.map Checked.record).mapM readPermission = .ok delegation.permissions :=
    mapM_roundTrip (fun permission => Checked.create_of_valid permission.valid) _
  unfold fromRow rowValues
  simp only [permissions, readInstant_isoformat, readRevokedAt_isoformat, RuntimeActionDelegationStatus.parse_value]
  change RuntimeActionDelegation.checked primitives delegation = _
  unfold RuntimeActionDelegation.checked
  rw [valid]

theorem isoformat_injective : Function.Injective Instant.isoformat := by
  intro left right same
  have read := Instant.fromisoformat_isoformat left
  rw [same, Instant.fromisoformat_isoformat right] at read
  exact (Option.some.inj read).symm

theorem RuntimeActionDelegationStatus.value_injective : Function.Injective RuntimeActionDelegationStatus.value := by
  intro left right same
  cases left <;> cases right <;> first | rfl | exact absurd same (by decide)

theorem rowValues_injective : Function.Injective rowValues := by
  intro left right same
  cases left
  cases right
  simp only [rowValues, DelegationRow.mk.injEq] at same
  obtain ⟨rfl, rfl, rfl, rfl, rfl, rfl, rfl, permissions, issued, expires, rfl, rfl, status, revoked, rfl, rfl, rfl⟩ :=
    same
  have records : Function.Injective fun permission : RuntimeActionDelegationPermission => permission.record :=
    fun _ _ => Checked.ext
  rw [records.list_map permissions, isoformat_injective issued, isoformat_injective expires,
    RuntimeActionDelegationStatus.value_injective status, Option.map_injective isoformat_injective revoked]

/-- `_from_row(dict(row)) if row is not None else None`. -/
def readRow (primitives : Primitives) : Option DelegationRow → Except Raised (Option RuntimeActionDelegation)
  | none => .ok none
  | some row => (fromRow primitives row).map some

/-! ## The table -/

/-- The rows by primary key. -/
abbrev DelegationTable := Dict (String × String × String) DelegationRow

/-- The statements of the repository. -/
inductive DelegationStatement where
  | insert (row : DelegationRow)
  | selectById (delegationId organizationId projectId : String)
  | selectByKey (idempotencyKey organizationId projectId : String)
  | selectIdentityOrIdempotency (organizationId projectId delegationId idempotencyKey : String)
  | revoke (status revokedAt : String) (revokedBy revocationReference : Option String)
      (delegationId organizationId projectId : String)

/-- What each statement answers: nothing, a row if there is one, or the number of updated rows. -/
def DelegationStatement.Answer : DelegationStatement → Type
  | insert _ => Unit
  | selectById _ _ _ => Option DelegationRow
  | selectByKey _ _ _ => Option DelegationRow
  | selectIdentityOrIdempotency _ _ _ _ => Option DelegationRow
  | revoke _ _ _ _ _ _ _ => Nat

/-- The database as the repository sees it. -/
abbrev delegationDatabase : Interface := ⟨DelegationStatement, DelegationStatement.Answer, Raised⟩

/-- The row that has the idempotency key. -/
def DelegationTable.findByKey (table : DelegationTable) (key : String × String × String) : Option DelegationRow :=
  table.values.find? fun row => row.idempotency = key

/-- A row of the tenant with the identity or the idempotency key. -/
def DelegationTable.findEither (table : DelegationTable)
    (organizationId projectId delegationId idempotencyKey : String) : Option DelegationRow :=
  table.values.find? fun row => row.organizationId = organizationId && row.projectId = projectId &&
    (row.delegationId = delegationId || row.idempotencyKey = idempotencyKey)

/-- The insert under both unique keys. -/
def DelegationTable.insert (table : DelegationTable) (row : DelegationRow) : Except Raised DelegationTable :=
  if (table.get? row.identity).isSome then
    .error ⟨.backend, "UNIQUE constraint failed: runtime_action_delegation.organization_id, " ++
      "runtime_action_delegation.project_id, runtime_action_delegation.delegation_id"⟩
  else if (DelegationTable.findByKey table row.idempotency).isSome then
    .error ⟨.backend, "UNIQUE constraint failed: runtime_action_delegation.organization_id, " ++
      "runtime_action_delegation.project_id, runtime_action_delegation.idempotency_key"⟩
  else .ok (table.set row.identity row)

/-- The update of an active row, with the number of rows it has changed. -/
def DelegationTable.update (table : DelegationTable) (status revokedAt : String)
    (revokedBy revocationReference : Option String) (key : String × String × String) : Nat × DelegationTable :=
  match table.get? key with
  | some row =>
    if row.status = "ACTIVE" then
      (1, table.set key { row with status, revokedAt := some revokedAt, revokedBy, revocationReference })
    else (0, table)
  | none => (0, table)

/-- How the table answers each statement. -/
def delegationTables : Handler delegationDatabase DelegationTable
  | .insert row, table =>
    match DelegationTable.insert table row with
    | .ok after => (.ok (), after)
    | .error raised => (.error raised, table)
  | .selectById delegationId organizationId projectId, table =>
    (.ok (table.get? (organizationId, projectId, delegationId)), table)
  | .selectByKey idempotencyKey organizationId projectId, table =>
    (.ok (DelegationTable.findByKey table (organizationId, projectId, idempotencyKey)), table)
  | .selectIdentityOrIdempotency organizationId projectId delegationId idempotencyKey, table =>
    (.ok (DelegationTable.findEither table organizationId projectId delegationId idempotencyKey), table)
  | .revoke status revokedAt revokedBy revocationReference delegationId organizationId projectId, table =>
    let updated := DelegationTable.update table status revokedAt revokedBy revocationReference
      (organizationId, projectId, delegationId)
    (.ok updated.1, updated.2)

/-! ## The operations -/

/-- `get`. -/
def DelegationTable.get (primitives : Primitives) (delegationId : String) (scope : Scope) :
    Program delegationDatabase (Option RuntimeActionDelegation) := do
  let row ← Program.call (I := delegationDatabase)
    (.selectById delegationId scope.organizationId scope.projectKey)
  Program.ofExcept (readRow primitives row)

/-- `find_by_idempotency_key`. -/
def DelegationTable.findByIdempotencyKey (primitives : Primitives) (idempotencyKey : String) (scope : Scope) :
    Program delegationDatabase (Option RuntimeActionDelegation) := do
  let row ← Program.call (I := delegationDatabase)
    (.selectByKey idempotencyKey scope.organizationId scope.projectKey)
  Program.ofExcept (readRow primitives row)

/-- What `save` raises when the stored delegation is another one. -/
def delegationReused : Raised :=
  ⟨.runtimeActionDelegationRepositoryConflictError,
    "Delegation identity or idempotency key was reused with different content."⟩

/-- What `revoke` raises when there is nothing to revoke. -/
def delegationMissing : Raised := ⟨.keyError, "Delegation does not exist in the resolved tenant scope."⟩

/-- The integrity errors of `save` are told by their text. -/
def namesUnique (raised : Raised) : Bool := decide ("unique".toList <:+: raised.message.toLower.toList)

/-- The fallback of `save`: whatever is stored has to be the delegation itself. -/
def DelegationTable.saved (primitives : Primitives) (delegation : RuntimeActionDelegation) :
    Program delegationDatabase (Option RuntimeActionDelegation) := do
  let row ← Program.call (I := delegationDatabase) (.selectIdentityOrIdempotency delegation.organizationId
    delegation.projectId delegation.delegationId delegation.idempotencyKey)
  let existing ← Program.ofExcept (readRow primitives row)
  if existing = some delegation then return existing
  else .raise delegationReused

/-- `save`. -/
def DelegationTable.save (primitives : Primitives) (delegation : RuntimeActionDelegation) :
    Program delegationDatabase (Option RuntimeActionDelegation) := do
  match ← Program.attempt (I := delegationDatabase) (.insert (rowValues delegation)) with
  | .ok () => return some delegation
  | .error raised =>
    if namesUnique raised then DelegationTable.saved primitives delegation
    else .raise raised

/-- `revoke` once the update has found no active row. -/
def DelegationTable.revoked (primitives : Primitives) (delegationId : String) (scope : Scope) :
    Program delegationDatabase (Option RuntimeActionDelegation) := do
  match ← DelegationTable.get primitives delegationId scope with
  | some current =>
    if current.status = .revoked then return some current
    else .raise delegationMissing
  | none => .raise delegationMissing

/-- `revoke` of a delegation that was read active: the checked copy, written where the row is still active. -/
def DelegationTable.revokeActive (primitives : Primitives) (delegationId : String) (scope : Scope)
    (revoked : RuntimeActionDelegation) (revokedAt : Instant) :
    Program delegationDatabase (Option RuntimeActionDelegation) := do
  let rowcount : Nat ← Program.call (I := delegationDatabase) (.revoke
    (RuntimeActionDelegationStatus.value revoked.status) revokedAt.isoformat revoked.revokedBy
    revoked.revocationReference delegationId scope.organizationId scope.projectKey)
  if rowcount = 0 then DelegationTable.revoked primitives delegationId scope
  else return some revoked

/-- `revoke` of what was read. -/
def DelegationTable.revokeRead (primitives : Primitives) (delegationId : String) (scope : Scope)
    (revokedAt : Instant) (revokedBy : String) (revocationReference : Option String) :
    Option RuntimeActionDelegation → Program delegationDatabase (Option RuntimeActionDelegation)
  | none => .raise delegationMissing
  | some existing =>
    if existing.status = .revoked then .done (some existing)
    else do
      let revoked ← Program.ofExcept
        ((existing.revoke revokedAt revokedBy revocationReference).checked primitives)
      DelegationTable.revokeActive primitives delegationId scope revoked revokedAt

/-- `revoke`. -/
def DelegationTable.revoke (primitives : Primitives) (delegationId : String) (scope : Scope) (revokedAt : Instant)
    (revokedBy : String) (revocationReference : Option String) :
    Program delegationDatabase (Option RuntimeActionDelegation) := do
  let existing ← DelegationTable.get primitives delegationId scope
  DelegationTable.revokeRead primitives delegationId scope revokedAt revokedBy revocationReference existing

end AiGovernance.Repositories
