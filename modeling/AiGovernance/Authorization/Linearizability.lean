import AiGovernance.Repositories.SqliteDelegations
import AiGovernance.Semantics.Linearization

/-!
# The SQLite delegation store is linearizable

The statements of concurrent `save`, `get`, `find_by_idempotency_key` and
`revoke` calls interleave. A save happens at its insert, or at the select after
an integrity error; a read at its select; a revocation at its update, or at the
select that found nothing to update. What the table holds in between is the
in-memory store after the operations that have happened.
-/

namespace AiGovernance.Authorization

open AiGovernance.Std Domain Repositories Semantics DelegationStore

variable {key : String × String × String}

/-! ## What a table stands for -/

/-- The table holds the rows of the delegations in the store, and these are ones that can be built. -/
structure Stands (primitives : Primitives) (table : DelegationTable) (store : DelegationStore) : Prop where
  rows : ∀ key, table.get? key = (store.items.get? key).map rowValues
  agreed : store.Agreed
  valid : ∀ {key delegation}, store.items.get? key = some delegation → delegation.violation primitives = none

/-- Every row stays, and the delegation in it at most gets revoked. -/
def RowsEvolve (before after : DelegationTable) : Prop :=
  ∀ key delegation, before.get? key = some (rowValues delegation) →
    ∃ later, after.get? key = some (rowValues later) ∧ RuntimeActionDelegation.Evolves delegation later

theorem RowsEvolve.refl (table : DelegationTable) : RowsEvolve table table :=
  fun _ delegation found => ⟨delegation, found, .refl delegation⟩

theorem RowsEvolve.trans {first second third : DelegationTable} (left : RowsEvolve first second)
    (right : RowsEvolve second third) : RowsEvolve first third := by
  intro key delegation found
  obtain ⟨middle, foundMiddle, early⟩ := left key delegation found
  obtain ⟨last, foundLast, late⟩ := right key middle foundMiddle
  exact ⟨last, foundLast, early.trans late⟩

section Table

variable {primitives : Primitives} {table : DelegationTable} {store : DelegationStore}
  {delegation : RuntimeActionDelegation}

theorem Stands.empty : Stands primitives Dict.empty .empty :=
  ⟨fun _ => rfl, agreed_empty, fun found => by cases found⟩

theorem Stands.stored (stands : Stands primitives table store) {row : DelegationRow}
    (found : table.get? key = some row) : ∃ delegation, row = rowValues delegation ∧
      store.items.get? key = some delegation ∧ DelegationStore.identity delegation = key := by
  rw [stands.rows key, Option.map_eq_some_iff] at found
  obtain ⟨delegation, stored, rfl⟩ := found
  exact ⟨delegation, rfl, stored, stands.agreed.keyed stored⟩

/-- What has become of a delegation whose row was there before. -/
theorem Stands.evolved (stands : Stands primitives table store) {before : DelegationTable}
    (evolve : RowsEvolve before table) (held : before.get? key = some (rowValues delegation)) :
    ∃ present, store.items.get? key = some present ∧ RuntimeActionDelegation.Evolves delegation present := by
  obtain ⟨later, found, evolves⟩ := evolve key delegation held
  obtain ⟨present, same, stored, -⟩ := stands.stored found
  obtain rfl := rowValues_injective same
  exact ⟨later, stored, evolves⟩

/-- What a select by primary key returns is read back as the stored delegation. -/
theorem Stands.read (stands : Stands primitives table store) (key : String × String × String) :
    readRow primitives (table.get? key) = .ok (store.items.get? key) := by
  rw [stands.rows key]
  cases found : store.items.get? key with
  | none => rfl
  | some delegation =>
    simp only [Option.map_some, readRow, fromRow_rowValues (stands.valid found)]
    rfl

/-- The select by idempotency key finds what the second table of the store holds. -/
theorem Stands.findByKey (stands : Stands primitives table store) :
    DelegationTable.findByKey table key = (store.byIdempotency.get? key).map rowValues := by
  cases found : DelegationTable.findByKey table key with
  | none =>
    cases held : store.byIdempotency.get? key with
    | none => rfl
    | some delegation =>
      have same := stands.agreed.indexed held
      have stored := stands.agreed.same.mpr (same ▸ held)
      have listed : rowValues delegation ∈ table.values := by
        rw [Dict.mem_values_iff]
        exact ⟨_, by rw [stands.rows, stored]; rfl⟩
      have absent := List.find?_eq_none.mp found _ listed
      exact absurd (decide_eq_true same) absent
  | some row =>
    have listed := List.mem_of_find?_eq_some found
    have named : row.idempotency = key := by simpa using List.find?_some found
    obtain ⟨identity, held⟩ := (Dict.mem_values_iff _ _).mp listed
    obtain ⟨delegation, rfl, stored, keyed⟩ := stands.stored held
    have filed := stands.agreed.same.mp (keyed ▸ stored)
    rw [show DelegationStore.idempotency delegation = key from named] at filed
    rw [filed]
    rfl

theorem Stands.readByKey (stands : Stands primitives table store) :
    readRow primitives (DelegationTable.findByKey table key) = .ok (store.byIdempotency.get? key) := by
  rw [stands.findByKey]
  cases held : store.byIdempotency.get? key with
  | none => rfl
  | some delegation =>
    have stored := stands.agreed.same.mpr (stands.agreed.indexed held ▸ held)
    simp only [Option.map_some, readRow, fromRow_rowValues (stands.valid stored)]
    rfl

/-- The delegation shares the tenant, and the identifier or the idempotency key. -/
def Collides (existing delegation : RuntimeActionDelegation) : Prop :=
  DelegationStore.identity existing = DelegationStore.identity delegation ∨
    DelegationStore.idempotency existing = DelegationStore.idempotency delegation

/-- The select of the fallback finds a colliding delegation when there is one. -/
theorem Stands.findEither (stands : Stands primitives table store) {held : RuntimeActionDelegation}
    (present : store.items.get? (DelegationStore.identity held) = some held) (collides : Collides held delegation) :
    ∃ existing, DelegationTable.findEither table delegation.organizationId delegation.projectId
        delegation.delegationId delegation.idempotencyKey = some (rowValues existing) ∧
      store.items.get? (DelegationStore.identity existing) = some existing ∧ Collides existing delegation := by
  have either : ∀ other : RuntimeActionDelegation, Collides other delegation ↔
      ((rowValues other).organizationId = delegation.organizationId ∧
        (rowValues other).projectId = delegation.projectId) ∧
        ((rowValues other).delegationId = delegation.delegationId ∨
          (rowValues other).idempotencyKey = delegation.idempotencyKey) := by
    intro other
    simp only [Collides, DelegationStore.identity, DelegationStore.idempotency, Prod.mk.injEq, rowValues]
    tauto
  cases found : DelegationTable.findEither table delegation.organizationId delegation.projectId
      delegation.delegationId delegation.idempotencyKey with
  | none =>
    have listed : rowValues held ∈ table.values := by
      rw [Dict.mem_values_iff]
      exact ⟨_, by rw [stands.rows, present]; rfl⟩
    have absent := List.find?_eq_none.mp found _ listed
    simp only [Bool.and_eq_true, Bool.or_eq_true, decide_eq_true_eq] at absent
    exact absurd ((either held).mp collides) absent
  | some row =>
    have listed := List.mem_of_find?_eq_some found
    have named := List.find?_some found
    simp only [Bool.and_eq_true, Bool.or_eq_true, decide_eq_true_eq] at named
    obtain ⟨key, inTable⟩ := (Dict.mem_values_iff _ _).mp listed
    obtain ⟨existing, rfl, stored, keyed⟩ := stands.stored inTable
    exact ⟨existing, rfl, keyed ▸ stored, (either existing).mpr named⟩

/-- What the store makes of a delegation that collides with a stored one. -/
theorem save_of_collides (agreed : store.Agreed) {existing : RuntimeActionDelegation}
    (stored : store.items.get? (DelegationStore.identity existing) = some existing)
    (collides : Collides existing delegation) :
    store.save delegation = (if existing = delegation then .ok delegation else .error delegationReused, store) := by
  have filed := agreed.same.mp stored
  by_cases same : existing = delegation
  · subst same
    simp [DelegationStore.save, stored]
  · rw [if_neg same]
    unfold DelegationStore.save
    split
    · rename_i other found
      rw [if_neg]
      · rfl
      · rintro rfl
        -- The delegation itself stands under both of its keys, so it is what it collides with.
        have present : store.items.get? (DelegationStore.identity other) = some other := by
          rcases Option.or_eq_some_iff.mp found with byId | ⟨-, byKey⟩
          · exact byId
          · exact agreed.same.mpr byKey
        have presentKey := agreed.same.mp present
        rcases collides with identity | idempotency
        · rw [identity, present] at stored
          exact same (Option.some.inj stored).symm
        · rw [idempotency, presentKey] at filed
          exact same (Option.some.inj filed).symm
    · rename_i absent
      rw [Option.or_eq_none_iff] at absent
      rcases collides with identity | idempotency
      · rw [identity, absent.1] at stored
        cases stored
      · rw [idempotency, absent.2] at filed
        cases filed

end Table

/-! ## The statements -/

section Statements

variable {primitives : Primitives} {table : DelegationTable} {store : DelegationStore}
  {delegation : RuntimeActionDelegation}

/-- The insert: the delegation is stored in both worlds, or an integrity error shows that it collides. -/
theorem Stands.insert (stands : Stands primitives table store) (valid : delegation.violation primitives = none) :
    (∃ after, DelegationTable.insert table (rowValues delegation) = .ok after ∧ RowsEvolve table after ∧
        store.save delegation = (.ok delegation, store.insert delegation) ∧
        Stands primitives after (store.insert delegation)) ∨
      ∃ raised existing, DelegationTable.insert table (rowValues delegation) = .error raised ∧
        namesUnique raised = true ∧ Collides existing delegation ∧
        store.items.get? (DelegationStore.identity existing) = some existing := by
  unfold DelegationTable.insert
  cases held : table.get? (rowValues delegation).identity with
  | some row =>
    obtain ⟨existing, -, stored, keyed⟩ := stands.stored held
    right
    refine ⟨_, existing, if_pos rfl, ?_, Or.inl keyed, ?_⟩
    · decide +kernel
    · rw [keyed]
      exact stored
  | none =>
    simp only [Option.isSome_none, Bool.false_eq_true, if_false, stands.findByKey]
    cases filed : store.byIdempotency.get? (rowValues delegation).idempotency with
    | some existing =>
      right
      refine ⟨_, existing, if_pos rfl, ?_, Or.inr (stands.agreed.indexed filed), ?_⟩
      · decide +kernel
      · exact stands.agreed.same.mpr (stands.agreed.indexed filed ▸ filed)
    | none =>
      have free : store.items.get? (DelegationStore.identity delegation) = none := by
        have absent := stands.rows (DelegationStore.identity delegation)
        rw [show table.get? (DelegationStore.identity delegation) = none from held] at absent
        exact Option.map_eq_none_iff.mp absent.symm
      left
      refine ⟨table.set (rowValues delegation).identity (rowValues delegation), rfl, ?_, ?_, ?_, ?_, ?_⟩
      · intro key other found
        exact ⟨other, Dict.get?_set_of_some held found, .refl other⟩
      · simp only [DelegationStore.save, free, Option.none_or]
        rw [show store.byIdempotency.get? (DelegationStore.idempotency delegation) = none from filed]
      · intro key
        rw [DelegationStore.insert, Dict.get?_set, Dict.get?_set]
        split
        · rename_i here
          rw [if_pos (show key = DelegationStore.identity delegation from here)]
          rfl
        · rename_i elsewhere
          rw [if_neg (show ¬ key = DelegationStore.identity delegation from elsewhere)]
          exact stands.rows key
      · exact stands.agreed.insert free filed
      · intro key other found
        rw [DelegationStore.insert, Dict.get?_set] at found
        split at found
        · cases found
          exact valid
        · exact stands.valid found

/-- A row is active when the delegation in it is. -/
theorem rowValues_status : (rowValues delegation).status = "ACTIVE" ↔ delegation.status = .active := by
  cases status : delegation.status <;> simp [rowValues, status, RuntimeActionDelegationStatus.value]

variable {delegationId : String} {scope : Scope} {revokedAt : Instant} {revokedBy : String}
  {revocationReference : Option String}

theorem revoke_of_active
    (stored : store.items.get? (scopedKey scope delegationId) = some delegation)
    (active : delegation.status = .active)
    (built : (delegation.revoke revokedAt revokedBy revocationReference).violation primitives = none) :
    store.revoke primitives delegationId scope revokedAt revokedBy revocationReference =
      (.ok (delegation.revoke revokedAt revokedBy revocationReference),
        ⟨store.items.set (scopedKey scope delegationId)
            (delegation.revoke revokedAt revokedBy revocationReference),
          store.byIdempotency.set (scopedKey scope delegation.idempotencyKey)
            (delegation.revoke revokedAt revokedBy revocationReference)⟩) := by
  simp [DelegationStore.revoke, stored, active, RuntimeActionDelegation.checked, built]

/-- The update finds nothing where the row is revoked. -/
theorem update_of_revoked (held : table.get? key = some (rowValues delegation))
    (status : delegation.status = .revoked) :
    DelegationTable.update table "REVOKED" revokedAt.isoformat (some revokedBy) revocationReference key =
      (0, table) := by
  unfold DelegationTable.update
  rw [held]
  refine if_neg ?_
  rw [rowValues_status, status]
  nofun

/-- The update of an active row revokes the delegation in both worlds. -/
theorem Stands.update (stands : Stands primitives table store)
    (stored : store.items.get? (scopedKey scope delegationId) = some delegation)
    (active : delegation.status = .active)
    (built : (delegation.revoke revokedAt revokedBy revocationReference).violation primitives = none) :
    ∃ after, DelegationTable.update table "REVOKED" revokedAt.isoformat (some revokedBy) revocationReference
        (scopedKey scope delegationId) = (1, after) ∧ RowsEvolve table after ∧
      Stands primitives after
        (store.revoke primitives delegationId scope revokedAt revokedBy revocationReference).2 := by
  have row : table.get? (scopedKey scope delegationId) = some (rowValues delegation) := by
    rw [stands.rows, stored]
    rfl
  unfold DelegationTable.update
  rw [row]
  refine ⟨table.set (scopedKey scope delegationId)
    (rowValues (delegation.revoke revokedAt revokedBy revocationReference)), ?_, ?_, ?_, ?_, ?_⟩
  · exact if_pos (rowValues_status.mpr active)
  · intro key before found
    by_cases here : key = scopedKey scope delegationId
    · subst here
      obtain rfl := rowValues_injective (Option.some.inj (row.symm.trans found))
      exact ⟨_, Dict.get?_set_self _, RuntimeActionDelegation.evolves_revoke active _ _ _⟩
    · exact ⟨before, (Dict.get?_set_of_ne _ here).trans found, .refl before⟩
  · intro key
    rw [revoke_of_active stored active built, Dict.get?_set, Dict.get?_set]
    split
    · rfl
    · exact stands.rows key
  · exact stands.agreed.revoke primitives delegationId scope revokedAt revokedBy revocationReference
  · intro key before found
    rw [revoke_of_active stored active built, Dict.get?_set] at found
    split at found
    · cases found
      exact built
    · exact stands.valid found

end Statements

/-! ## The operations and the programs -/

/-- A call of the repository. -/
inductive DelegationCall where
  | save (delegation : RuntimeActionDelegation)
  | get (delegationId : String) (scope : Scope)
  | findByIdempotencyKey (idempotencyKey : String) (scope : Scope)
  | revoke (delegationId : String) (scope : Scope) (revokedAt : Instant) (revokedBy : String)
      (revocationReference : Option String)

namespace DelegationCall

/-- The call on the in-memory store, which is atomic. -/
def atomic (primitives : Primitives) : DelegationCall → DelegationStore →
    Except Raised (Option RuntimeActionDelegation) × DelegationStore
  | save delegation, store => ((store.save delegation).1.map some, (store.save delegation).2)
  | get delegationId scope, store => (.ok (store.get delegationId scope), store)
  | findByIdempotencyKey idempotencyKey scope, store => (.ok (store.findByIdempotencyKey idempotencyKey scope), store)
  | revoke delegationId scope revokedAt revokedBy revocationReference, store =>
    ((store.revoke primitives delegationId scope revokedAt revokedBy revocationReference).1.map some,
      (store.revoke primitives delegationId scope revokedAt revokedBy revocationReference).2)

/-- The call on the table. -/
def body (primitives : Primitives) : DelegationCall → Program delegationDatabase (Option RuntimeActionDelegation)
  | save delegation => DelegationTable.save primitives delegation
  | get delegationId scope => DelegationTable.get primitives delegationId scope
  | findByIdempotencyKey idempotencyKey scope => DelegationTable.findByIdempotencyKey primitives idempotencyKey scope
  | revoke delegationId scope revokedAt revokedBy revocationReference =>
    DelegationTable.revoke primitives delegationId scope revokedAt revokedBy revocationReference

/-- A delegation can only be saved once its constructor has let it pass. -/
def Offered (primitives : Primitives) : DelegationCall → Prop
  | save delegation => delegation.violation primitives = none
  | _ => True

end DelegationCall

/-- Any number of calls, statement by statement. -/
def delegationCalls (primitives : Primitives) :
    Pool delegationDatabase DelegationTable DelegationCall (Option RuntimeActionDelegation) where
  handler := delegationTables
  body := DelegationCall.body primitives
  offered := DelegationCall.Offered primitives
  environment := fun _ _ => False
  admits := fun _ _ _ => True

/-- The table as the in-memory store. -/
def delegationSimulation (primitives : Primitives) :
    Simulation delegationDatabase DelegationTable DelegationCall (Option RuntimeActionDelegation) DelegationStore where
  handler := delegationTables
  atomic := DelegationCall.atomic primitives
  refines := Stands primitives
  rely := RowsEvolve
  refl := RowsEvolve.refl
  trans := RowsEvolve.trans

section Programs

variable {primitives : Primitives} {table : DelegationTable} {delegation : RuntimeActionDelegation}

theorem undecided_get (delegationId : String) (scope : Scope) :
    (delegationSimulation primitives).Undecided (.get delegationId scope)
      (DelegationTable.get primitives delegationId scope) table := by
  refine Simulation.undecided_perform fun later abstract _ stands => ?_
  refine ⟨_, later, rfl, RowsEvolve.refl later, Or.inr ⟨stands, ?_⟩⟩
  change (delegationSimulation primitives).Decided _ (Program.ofExcept (readRow primitives
    (later.get? (scopedKey scope delegationId)))) later
  rw [stands.read]
  rfl

theorem undecided_findByIdempotencyKey (idempotencyKey : String) (scope : Scope) :
    (delegationSimulation primitives).Undecided (.findByIdempotencyKey idempotencyKey scope)
      (DelegationTable.findByIdempotencyKey primitives idempotencyKey scope) table := by
  refine Simulation.undecided_perform fun later abstract _ stands => ?_
  refine ⟨_, later, rfl, RowsEvolve.refl later, Or.inr ⟨stands, ?_⟩⟩
  change (delegationSimulation primitives).Decided _ (Program.ofExcept (readRow primitives
    (DelegationTable.findByKey later (scopedKey scope idempotencyKey)))) later
  rw [stands.readByKey]
  rfl

/-- The fallback of a save decides at its select, since what it collides with stays. -/
theorem undecided_saved {existing : RuntimeActionDelegation}
    (held : table.get? (DelegationStore.identity existing) = some (rowValues existing))
    (collides : Collides existing delegation) :
    (delegationSimulation primitives).Undecided (.save delegation)
      (DelegationTable.saved primitives delegation) table := by
  refine Simulation.undecided_perform fun later abstract evolve stands => ?_
  refine ⟨_, later, rfl, RowsEvolve.refl later, Or.inr ?_⟩
  obtain ⟨present, stored, same, -⟩ := stands.evolved evolve held
  have collidesStill : Collides present delegation := by
    simp only [Collides, DelegationStore.identity, DelegationStore.idempotency] at collides ⊢
    rw [← same.organizationId, ← same.projectId, ← same.delegationId, ← same.idempotencyKey]
    exact collides
  obtain ⟨found, either, storedFound, collidesFound⟩ := stands.findEither
    (stands.agreed.keyed stored ▸ stored) collidesStill
  have read : readRow primitives (some (rowValues found)) = .ok (some found) := by
    simp only [readRow, fromRow_rowValues (stands.valid storedFound)]
    rfl
  have decision : DelegationCall.atomic primitives (.save delegation) abstract =
      (if found = delegation then .ok (some delegation) else .error delegationReused, abstract) := by
    simp only [DelegationCall.atomic, save_of_collides stands.agreed storedFound collidesFound]
    split <;> rfl
  change Stands primitives later (DelegationCall.atomic primitives (.save delegation) abstract).2 ∧
    (delegationSimulation primitives).Decided (DelegationCall.atomic primitives (.save delegation) abstract).1
      (Program.ofExcept (readRow primitives (DelegationTable.findEither later delegation.organizationId
        delegation.projectId delegation.delegationId delegation.idempotencyKey)) >>= fun existing =>
          if existing = some delegation then .done existing else .raise delegationReused) later
  rw [decision, either, read]
  refine ⟨stands, ?_⟩
  change (delegationSimulation primitives).Decided _
    (if some found = some delegation then .done (some found) else .raise delegationReused) later
  by_cases same : found = delegation
  · subst same
    rw [if_pos rfl, if_pos rfl]
    rfl
  · rw [if_neg same, if_neg fun equal => same (Option.some.inj equal)]
    rfl

theorem undecided_save (valid : delegation.violation primitives = none) :
    (delegationSimulation primitives).Undecided (.save delegation)
      (DelegationTable.save primitives delegation) table := by
  refine Simulation.undecided_perform fun later abstract _ stands => ?_
  rcases stands.insert valid with ⟨after, inserted, evolve, saved, standsAfter⟩ |
    ⟨raised, existing, refused, unique, collides, stored⟩
  · have answer : delegationTables (.insert (rowValues delegation)) later = (.ok (), after) := by
      simp only [delegationTables, inserted]
    have decision : DelegationCall.atomic primitives (.save delegation) abstract =
        (.ok (some delegation), abstract.insert delegation) := by
      simp only [DelegationCall.atomic, saved]
      rfl
    refine ⟨_, after, answer, evolve, Or.inr ?_⟩
    change Stands primitives after (DelegationCall.atomic primitives (.save delegation) abstract).2 ∧
      (delegationSimulation primitives).Decided (DelegationCall.atomic primitives (.save delegation) abstract).1
        (.done (some delegation)) after
    rw [decision]
    exact ⟨standsAfter, rfl⟩
  · have answer : delegationTables (.insert (rowValues delegation)) later = (.error raised, later) := by
      simp only [delegationTables, refused]
    refine ⟨_, later, answer, RowsEvolve.refl later, Or.inl ⟨stands, ?_⟩⟩
    change (delegationSimulation primitives).Undecided _
      (if namesUnique raised then DelegationTable.saved primitives delegation else .raise raised) later
    rw [if_pos unique]
    refine undecided_saved ?_ collides
    rw [stands.rows, stored]
    rfl

/-! A revocation -/

variable {delegationId : String} {scope : Scope} {revokedAt : Instant} {revokedBy : String}
  {revocationReference : Option String}

theorem revoke_of_revoked {store : DelegationStore}
    (stored : store.items.get? (scopedKey scope delegationId) = some delegation)
    (status : delegation.status = .revoked) :
    DelegationCall.atomic primitives (.revoke delegationId scope revokedAt revokedBy revocationReference) store =
      (.ok (some delegation), store) := by
  simp [DelegationCall.atomic, DelegationStore.revoke, stored, status, Except.map]

/-- Once a row is revoked the last select of a revocation decides. -/
theorem undecided_revoked (held : table.get? (scopedKey scope delegationId) =
      some (rowValues delegation)) (status : delegation.status = .revoked) :
    (delegationSimulation primitives).Undecided
      (.revoke delegationId scope revokedAt revokedBy revocationReference)
      (DelegationTable.revoked primitives delegationId scope) table := by
  refine Simulation.undecided_perform fun later abstract evolve stands => ?_
  refine ⟨_, later, rfl, RowsEvolve.refl later, Or.inr ?_⟩
  obtain ⟨present, stored, evolves⟩ := stands.evolved evolve held
  obtain rfl := evolves.revoked status
  change Stands primitives later (DelegationCall.atomic primitives
      (.revoke delegationId scope revokedAt revokedBy revocationReference) abstract).2 ∧
    (delegationSimulation primitives).Decided (DelegationCall.atomic primitives
      (.revoke delegationId scope revokedAt revokedBy revocationReference) abstract).1
      (Program.ofExcept (readRow primitives (later.get? (scopedKey scope delegationId))) >>= _) later
  rw [revoke_of_revoked stored status, stands.read, stored]
  refine ⟨stands, ?_⟩
  change (delegationSimulation primitives).Decided _
    (if present.status = .revoked then .done (some present) else .raise delegationMissing) later
  rw [if_pos status]
  rfl

/-- The update of a revocation decides, unless another revocation has come before it. -/
theorem undecided_revokeActive (held : table.get? (scopedKey scope delegationId) =
      some (rowValues delegation)) (active : delegation.status = .active)
    (built : (delegation.revoke revokedAt revokedBy revocationReference).violation primitives = none) :
    (delegationSimulation primitives).Undecided
      (.revoke delegationId scope revokedAt revokedBy revocationReference)
      (DelegationTable.revokeActive primitives delegationId scope
        (delegation.revoke revokedAt revokedBy revocationReference) revokedAt) table := by
  refine Simulation.undecided_perform fun later abstract evolve stands => ?_
  obtain ⟨present, stored, evolves⟩ := stands.evolved evolve held
  rcases evolves.2 with rfl | ⟨-, revoked⟩
  · obtain ⟨after, updated, rows, standsAfter⟩ := stands.update stored active built
    refine ⟨.ok (1 : Nat), after, ?_, rows, Or.inr ⟨standsAfter, ?_⟩⟩
    · exact congrArg (fun result : Nat × DelegationTable => (Except.ok result.1, result.2)) updated
    · change (delegationSimulation primitives).Decided (DelegationCall.atomic primitives
        (.revoke delegationId scope revokedAt revokedBy revocationReference) abstract).1
        (.done (some (present.revoke revokedAt revokedBy revocationReference))) after
      simp only [DelegationCall.atomic, revoke_of_active stored active built]
      rfl
  · have row : later.get? (scopedKey scope delegationId) = some (rowValues present) := by
      rw [stands.rows, stored]
      rfl
    refine ⟨.ok (0 : Nat), later, ?_, RowsEvolve.refl later, Or.inl ⟨stands, ?_⟩⟩
    · exact congrArg (fun result : Nat × DelegationTable => (Except.ok result.1, result.2))
        (update_of_revoked row revoked)
    · exact undecided_revoked row revoked

theorem undecided_revoke :
    (delegationSimulation primitives).Undecided
      (.revoke delegationId scope revokedAt revokedBy revocationReference)
      (DelegationTable.revoke primitives delegationId scope revokedAt revokedBy revocationReference) table := by
  refine Simulation.undecided_perform fun later abstract evolve stands => ?_
  refine ⟨_, later, rfl, RowsEvolve.refl later, ?_⟩
  have rest : (Program.ofExcept (readRow primitives (later.get? (scopedKey scope delegationId))) >>=
      DelegationTable.revokeRead primitives delegationId scope revokedAt revokedBy revocationReference) =
        DelegationTable.revokeRead primitives delegationId scope revokedAt revokedBy revocationReference
          (abstract.items.get? (scopedKey scope delegationId)) := by
    rw [stands.read]
    rfl
  change Stands primitives later abstract ∧ (delegationSimulation primitives).Undecided _
      (Program.ofExcept (readRow primitives (later.get? (scopedKey scope delegationId))) >>= _) later ∨
    Stands primitives later (DelegationCall.atomic primitives
        (.revoke delegationId scope revokedAt revokedBy revocationReference) abstract).2 ∧
      (delegationSimulation primitives).Decided (DelegationCall.atomic primitives _ abstract).1
      (Program.ofExcept (readRow primitives (later.get? (scopedKey scope delegationId))) >>= _) later
  rw [rest]
  cases stored : abstract.items.get? (scopedKey scope delegationId) with
  | none =>
    have decision : DelegationCall.atomic primitives
        (.revoke delegationId scope revokedAt revokedBy revocationReference) abstract =
          (.error delegationMissing, abstract) := by
      simp only [DelegationCall.atomic, DelegationStore.revoke, stored]
      rfl
    rw [decision]
    exact Or.inr ⟨stands, rfl⟩
  | some delegation =>
    by_cases status : delegation.status = .revoked
    · rw [revoke_of_revoked stored status, DelegationTable.revokeRead, if_pos status]
      exact Or.inr ⟨stands, rfl⟩
    · rw [DelegationTable.revokeRead, if_neg status]
      cases built : (delegation.revoke revokedAt revokedBy revocationReference).violation primitives with
      | some raised =>
        have decision : DelegationCall.atomic primitives
            (.revoke delegationId scope revokedAt revokedBy revocationReference) abstract =
              (.error raised, abstract) := by
          simp only [DelegationCall.atomic, DelegationStore.revoke, stored, if_neg status,
            RuntimeActionDelegation.checked, built]
          rfl
        rw [decision, RuntimeActionDelegation.checked, built]
        exact Or.inr ⟨stands, rfl⟩
      | none =>
        have active : delegation.status = .active := by
          cases known : delegation.status with
          | active => rfl
          | revoked => exact absurd known status
        rw [RuntimeActionDelegation.checked, built]
        refine Or.inl ⟨stands, undecided_revokeActive ?_ active built⟩
        rw [stands.rows, stored]
        rfl

end Programs

/-- The programs simulate the atomic operations. -/
theorem delegationCalls_simulate (primitives : Primitives) :
    (delegationCalls primitives).Simulates (delegationSimulation primitives) where
  sameHandler := rfl
  closed := fun _ _ => id
  entering := by
    intro call state offered
    cases call with
    | save delegation => exact undecided_save offered
    | get delegationId scope => exact undecided_get delegationId scope
    | findByIdempotencyKey idempotencyKey scope => exact undecided_findByIdempotencyKey idempotencyKey scope
    | revoke delegationId scope revokedAt revokedBy revocationReference => exact undecided_revoke

/-! ## Revocations in a history -/

section Histories

variable {primitives : Primitives} {store : DelegationStore} {delegation : RuntimeActionDelegation}

theorem agreed_atomic (agreed : store.Agreed) (call : DelegationCall) :
    (call.atomic primitives store).2.Agreed := by
  cases call with
  | save delegation =>
    rcases store.save_cases delegation with ⟨raised, saved, -⟩ | ⟨saved, -⟩ | ⟨saved, free, freeKey⟩
    · simp only [DelegationCall.atomic, saved]
      exact agreed
    · simp only [DelegationCall.atomic, saved]
      exact agreed
    · simp only [DelegationCall.atomic, saved]
      exact agreed.insert free freeKey
  | get delegationId scope => exact agreed
  | findByIdempotencyKey idempotencyKey scope => exact agreed
  | revoke delegationId scope revokedAt revokedBy revocationReference => exact agreed.revoke primitives _ _ _ _ _

theorem succeeds_atomic (call : DelegationCall) :
    DelegationStore.Succeeds store (call.atomic primitives store).2 := by
  cases call with
  | save delegation =>
    rcases store.save_cases delegation with ⟨raised, saved, -⟩ | ⟨saved, -⟩ | ⟨saved, free, -⟩
    · simp only [DelegationCall.atomic, saved]
      exact .refl store
    · simp only [DelegationCall.atomic, saved]
      exact .refl store
    · simp only [DelegationCall.atomic, saved]
      exact succeeds_insert free
  | get delegationId scope => exact .refl store
  | findByIdempotencyKey idempotencyKey scope => exact .refl store
  | revoke delegationId scope revokedAt revokedBy revocationReference =>
    exact succeeds_revoke

/-- The delegation that a call returns is the stored one. -/
theorem stored_of_answer (agreed : store.Agreed) {call : DelegationCall}
    (answer : (call.atomic primitives store).1 = .ok (some delegation)) :
    (call.atomic primitives store).2.items.get? (DelegationStore.identity delegation) = some delegation := by
  cases call with
  | save saved =>
    rcases store.save_cases saved with ⟨raised, outcome, -⟩ | ⟨outcome, held⟩ | ⟨outcome, -, -⟩
    · simp only [DelegationCall.atomic, outcome] at answer
      cases answer
    · simp only [DelegationCall.atomic, outcome] at answer ⊢
      cases answer
      exact held.elim id agreed.same.mpr
    · simp only [DelegationCall.atomic, outcome] at answer ⊢
      cases answer
      exact Dict.get?_set_self _
  | get delegationId scope =>
    have found : store.items.get? (scopedKey scope delegationId) = some delegation :=
      Except.ok.inj answer
    exact agreed.keyed found ▸ found
  | findByIdempotencyKey idempotencyKey scope =>
    have found : store.byIdempotency.get? (scopedKey scope idempotencyKey) = some delegation :=
      Except.ok.inj answer
    exact agreed.same.mpr (agreed.indexed found ▸ found)
  | revoke delegationId scope revokedAt revokedBy revocationReference =>
    rcases store.revoke_cases primitives delegationId scope revokedAt revokedBy revocationReference with
      ⟨raised, outcome⟩ | ⟨existing, outcome, found, -⟩ | ⟨existing, found, -, outcome⟩
    · simp only [DelegationCall.atomic, outcome] at answer
      cases answer
    · simp only [DelegationCall.atomic, outcome] at answer ⊢
      cases answer
      exact agreed.keyed found ▸ found
    · simp only [DelegationCall.atomic, outcome] at answer ⊢
      cases answer
      have key : DelegationStore.identity existing = scopedKey scope delegationId :=
        agreed.keyed found
      rw [← key]
      exact Dict.get?_set_self _

/-- The call reads the delegation, or tries to revoke it. -/
def DelegationCall.Concerns (delegation : RuntimeActionDelegation) : DelegationCall → Prop
  | save _ => False
  | get delegationId scope => DelegationStore.scopedKey scope delegationId = DelegationStore.identity delegation
  | findByIdempotencyKey idempotencyKey scope =>
    DelegationStore.scopedKey scope idempotencyKey = DelegationStore.idempotency delegation
  | revoke delegationId scope _ _ _ =>
    DelegationStore.scopedKey scope delegationId = DelegationStore.identity delegation

theorem answer_of_revoked (agreed : store.Agreed)
    (stored : store.items.get? (DelegationStore.identity delegation) = some delegation)
    (revoked : delegation.status = .revoked) {call : DelegationCall} (concerns : call.Concerns delegation) :
    (call.atomic primitives store).1 = .ok (some delegation) := by
  cases call with
  | save other => exact concerns.elim
  | get delegationId scope =>
    simp only [DelegationCall.atomic, DelegationStore.get]
    rw [show scopedKey scope delegationId = _ from concerns, stored]
  | findByIdempotencyKey idempotencyKey scope =>
    simp only [DelegationCall.atomic, DelegationStore.findByIdempotencyKey]
    rw [show scopedKey scope idempotencyKey = _ from concerns, agreed.same.mp stored]
  | revoke delegationId scope revokedAt revokedBy revocationReference =>
    rw [revoke_of_revoked ((show scopedKey scope delegationId = _ from concerns) ▸ stored) revoked]

/-- Once a call has returned a revoked delegation, every later call that concerns it returns the same. -/
def RevocationsFinal (history : History delegationDatabase DelegationCall (Option RuntimeActionDelegation)) : Prop :=
  ∀ past entry rest revoked, history = past ++ entry :: rest → entry.2.2 = .ok (some revoked) →
    revoked.status = .revoked → ∀ later ∈ rest, later.2.1.Concerns revoked → later.2.2 = .ok (some revoked)

theorem revocationsFinal_of_replays {final : DelegationStore}
    {history : History delegationDatabase DelegationCall (Option RuntimeActionDelegation)} (agreed : store.Agreed)
    (replays : Replays (DelegationCall.atomic primitives) store history final) : RevocationsFinal history := by
  rintro past entry rest revoked rfl answer status later member concerns
  obtain ⟨state, early, returned, late⟩ := replays.at
  have agreedThen : state.Agreed := early.keeps _ (fun call _ holds => agreed_atomic holds call) agreed
  have stored := stored_of_answer agreedThen (returned.symm.trans answer)
  obtain ⟨between, after, rfl⟩ := List.append_of_mem member
  obtain ⟨found, until', returnedLater, -⟩ := late.at
  have agreedLater : found.Agreed :=
    until'.keeps _ (fun call _ holds => agreed_atomic holds call) (agreed_atomic agreedThen _)
  have succeeds := until'.keeps (DelegationStore.Succeeds (DelegationCall.atomic primitives entry.2.1 state).2)
    (fun call _ holds => holds.trans (succeeds_atomic call)) (.refl _)
  obtain ⟨kept, storedLater, evolves⟩ := succeeds _ _ stored
  obtain rfl := evolves.revoked status
  rw [returnedLater]
  exact answer_of_revoked agreedLater storedLater status concerns

end Histories

/-! ## Linearizability -/

/-- Every interleaving of the statements of any calls is one order of the atomic operations, which respects real time;
no row is lost, no contract changes, and the first revocation is the one that stays and is read. -/
theorem sqlite_delegations_linearizable (primitives : Primitives)
    (configs : Nat → Config delegationDatabase DelegationTable DelegationCall (Option RuntimeActionDelegation))
    (count : Nat) (store : DelegationStore)
    (steps : ∀ time < count, (delegationCalls primitives).Step (configs time) (configs (time + 1)))
    (unstarted : (configs 0).threads = []) (stands : Stands primitives (configs 0).state store) :
    (∃ history, Pool.Linearization (DelegationCall.atomic primitives) store configs count history ∧
        RevocationsFinal history) ∧
      ∀ earlier later, earlier ≤ later → later ≤ count → ∀ key delegation,
        (configs earlier).state.get? key = some (rowValues delegation) →
        ∃ kept, (configs later).state.get? key = some (rowValues kept) ∧
          RuntimeActionDelegation.SameContract delegation kept ∧ (delegation.status = .revoked → kept = delegation) := by
  have initially : (delegationSimulation primitives).Linearizes store (configs 0) [] :=
    Simulation.linearizes_start unstarted stands
  obtain ⟨⟨history, linearization⟩, related⟩ :=
    Pool.exists_linearization (delegationCalls_simulate primitives) steps initially
  refine ⟨⟨history, linearization, ?_⟩, ?_⟩
  · obtain ⟨final, replays⟩ := linearization.replayed
    exact revocationsFinal_of_replays stands.agreed replays
  · intro earlier later order inside key delegation found
    obtain ⟨kept, foundKept, evolves⟩ := related earlier later order inside key delegation found
    exact ⟨kept, foundKept, evolves.1, evolves.revoked⟩

/-- A grant to read one file. -/
def reportDelegation : RuntimeActionDelegation where
  delegationId := "delegation-1"
  version := "1"
  organizationId := "org-1"
  projectId := "project-1"
  executionId := "execution-1"
  issuerId := "issuer-1"
  runtimeActorId := "agent-1"
  permissions := [⟨⟨"read", "file", ["report"]⟩, by decide +kernel⟩]
  issuedAt := ⟨63839664000000000⟩
  expiresAt := ⟨63839750400000000⟩
  contractDigest := "sha256:89f100267d321a4e4bf48f3a418c82e050d9c60f66d4ca3a6fdd4f29b6d9f754"
  idempotencyKey := "key-1"

/-- SHA-256 of the content of the grant. -/
def reportPrimitives : Primitives :=
  .tabulated [] [(Json.sortKeys (.obj [("schema_version", .str "runtime-action-delegation/v1"),
      ("delegation_id", .str "delegation-1"), ("version", .str "1"), ("organization_id", .str "org-1"),
      ("project_id", .str "project-1"), ("execution_id", .str "execution-1"), ("issuer_id", .str "issuer-1"),
      ("runtime_actor_id", .str "agent-1"),
      ("permissions", .arr [.obj [("action_id", .str "read"), ("resource_type", .str "file"),
        ("resource_references", .arr [.str "report"])]]),
      ("issued_at", .str "2024-01-01T00:00:00+00:00"), ("expires_at", .str "2024-01-02T00:00:00+00:00"),
      ("idempotency_key", .str "key-1")]),
      "89f100267d321a4e4bf48f3a418c82e050d9c60f66d4ca3a6fdd4f29b6d9f754")] Primitives.noTexts (by decide +kernel)

/-- Two saves and two revocations of the grant; both revocations have read it active when the first one updates. -/
def reportRace : List (Pool.Move DelegationCall) :=
  [.enter (.save reportDelegation), .enter (.save reportDelegation), .issue 0, .issue 1, .issue 1,
    .enter (.revoke "delegation-1" ⟨"org-1", some "project-1"⟩ ⟨63839707200000000⟩ "issuer-1" (some "first")),
    .enter (.revoke "delegation-1" ⟨"org-1", some "project-1"⟩ ⟨63839710800000000⟩ "issuer-2" none),
    .issue 2, .issue 3, .issue 2, .issue 3, .issue 3]

/-- What the race offers can be built. -/
def reportOffers : DelegationCall → Bool
  | .save delegation => delegation.violation reportPrimitives == none
  | _ => true

/-- The race is linearizable. -/
theorem sqlite_delegations_linearizable_race : ∃ history,
    Pool.Linearization (DelegationCall.atomic reportPrimitives) .empty
      (fun time => (delegationCalls reportPrimitives).play (reportRace.take time) ⟨Dict.empty, []⟩) 12 history ∧
    RevocationsFinal history := by
  have offered : ∀ call, reportOffers call = true → (delegationCalls reportPrimitives).offered call := by
    intro call offers
    cases call with
    | save delegation => exact eq_of_beq offers
    | get delegationId scope => trivial
    | findByIdempotencyKey idempotencyKey scope => trivial
    | revoke delegationId scope revokedAt revokedBy revocationReference => trivial
  have tested : (delegationCalls reportPrimitives).tested reportOffers (fun _ _ _ => true) reportRace
      ⟨Dict.empty, []⟩ = true := by decide +kernel
  have legal := Pool.legal_of_tested offered (fun _ _ _ _ => trivial) tested
  have acts : (delegationCalls reportPrimitives).acting reportRace ⟨Dict.empty, []⟩ = true := by decide +kernel
  exact (sqlite_delegations_linearizable reportPrimitives _ 12 .empty (Pool.steps_play legal acts) rfl
    Stands.empty).1

end AiGovernance.Authorization
