import AiGovernance.Domain.Delegation
import AiGovernance.Std.Dict

/-!
# The in-memory delegation store

`InMemoryRuntimeActionDelegationRepository`: delegations by identity and by
idempotency key, each keyed by organization and project.
-/

namespace AiGovernance.Repositories

open AiGovernance.Std Domain

/-- The two tables of the store. -/
structure DelegationStore where
  items : Dict (String × String × String) RuntimeActionDelegation
  byIdempotency : Dict (String × String × String) RuntimeActionDelegation

namespace DelegationStore

/-- A new store. -/
def empty : DelegationStore := ⟨Dict.empty, Dict.empty⟩

/-- `(organization_id, project_id, delegation_id)`. -/
def identity (delegation : RuntimeActionDelegation) : String × String × String :=
  (delegation.organizationId, delegation.projectId, delegation.delegationId)

/-- `(organization_id, project_id, idempotency_key)`. -/
def idempotency (delegation : RuntimeActionDelegation) : String × String × String :=
  (delegation.organizationId, delegation.projectId, delegation.idempotencyKey)

/-- The key of a caller's lookup. -/
def scopedKey (scope : Scope) (identifier : String) : String × String × String :=
  (scope.organizationId, scope.projectKey, identifier)

/-- Both tables under the keys of `delegation`. -/
def insert (store : DelegationStore) (delegation : RuntimeActionDelegation) : DelegationStore :=
  ⟨store.items.set (identity delegation) delegation,
    store.byIdempotency.set (idempotency delegation) delegation⟩

/-- `save`. -/
def save (store : DelegationStore) (delegation : RuntimeActionDelegation) :
    Except Raised RuntimeActionDelegation × DelegationStore :=
  match (store.items.get? (identity delegation)).or
      (store.byIdempotency.get? (idempotency delegation)) with
  | some existing =>
    if existing = delegation then (.ok existing, store)
    else (.error ⟨.runtimeActionDelegationRepositoryConflictError,
      "Delegation identity or idempotency key was reused with different content."⟩, store)
  | none => (.ok delegation, store.insert delegation)

/-- `get`. -/
def get (store : DelegationStore) (delegationId : String) (scope : Scope) :
    Option RuntimeActionDelegation :=
  store.items.get? (scopedKey scope delegationId)

/-- `find_by_idempotency_key`. -/
def findByIdempotencyKey (store : DelegationStore) (idempotencyKey : String) (scope : Scope) :
    Option RuntimeActionDelegation :=
  store.byIdempotency.get? (scopedKey scope idempotencyKey)

/-- `revoke`: the first revocation is kept, and `replace` runs the construction check. -/
def revoke (primitives : Primitives) (store : DelegationStore) (delegationId : String)
    (scope : Scope) (revokedAt : Instant) (revokedBy : String)
    (revocationReference : Option String) :
    Except Raised RuntimeActionDelegation × DelegationStore :=
  match store.items.get? (scopedKey scope delegationId) with
  | none =>
    (.error ⟨.keyError, "Delegation does not exist in the resolved tenant scope."⟩, store)
  | some existing =>
    if existing.status = .revoked then (.ok existing, store)
    else
      match (existing.revoke revokedAt revokedBy revocationReference).checked primitives with
      | .error raised => (.error raised, store)
      | .ok revoked =>
        (.ok revoked,
          ⟨store.items.set (scopedKey scope delegationId) revoked,
            store.byIdempotency.set (scopedKey scope existing.idempotencyKey) revoked⟩)

/-- What one `save` can do: refuse, return the equal record, or store under free keys. -/
theorem save_cases (store : DelegationStore) (delegation : RuntimeActionDelegation) :
    (∃ raised, store.save delegation = (.error raised, store) ∧
        raised.kind = .runtimeActionDelegationRepositoryConflictError) ∨
      (store.save delegation = (.ok delegation, store) ∧
        (store.items.get? (identity delegation) = some delegation ∨
          store.byIdempotency.get? (idempotency delegation) = some delegation)) ∨
      (store.save delegation = (.ok delegation, store.insert delegation) ∧
        store.items.get? (identity delegation) = none ∧
        store.byIdempotency.get? (idempotency delegation) = none) := by
  unfold save
  split
  · rename_i existing found
    split
    · rename_i same
      subst same
      refine Or.inr (Or.inl ⟨rfl, ?_⟩)
      rcases Option.or_eq_some_iff.mp found with byId | ⟨-, byKey⟩
      · exact Or.inl byId
      · exact Or.inr byKey
    · exact Or.inl ⟨_, rfl, rfl⟩
  · rename_i absent
    rw [Option.or_eq_none_iff] at absent
    exact Or.inr (Or.inr ⟨rfl, absent.1, absent.2⟩)

/-- What one `revoke` can do: refuse, return the revoked record, or revoke an active one. -/
theorem revoke_cases (primitives : Primitives) (store : DelegationStore) (delegationId : String)
    (scope : Scope) (revokedAt : Instant) (revokedBy : String)
    (revocationReference : Option String) :
    (∃ raised, store.revoke primitives delegationId scope revokedAt revokedBy revocationReference =
        (.error raised, store)) ∨
      (∃ existing, store.revoke primitives delegationId scope revokedAt revokedBy
          revocationReference = (.ok existing, store) ∧
        store.items.get? (scopedKey scope delegationId) = some existing ∧
        existing.status = .revoked) ∨
      ∃ existing, store.items.get? (scopedKey scope delegationId) = some existing ∧
        existing.status = .active ∧
        store.revoke primitives delegationId scope revokedAt revokedBy revocationReference =
          (.ok (existing.revoke revokedAt revokedBy revocationReference),
            ⟨store.items.set (scopedKey scope delegationId)
                (existing.revoke revokedAt revokedBy revocationReference),
              store.byIdempotency.set (scopedKey scope existing.idempotencyKey)
                (existing.revoke revokedAt revokedBy revocationReference)⟩) := by
  unfold revoke
  split
  · exact Or.inl ⟨_, rfl⟩
  · rename_i existing found
    split
    · rename_i revoked
      exact Or.inr (Or.inl ⟨existing, rfl, found, revoked⟩)
    · rename_i notRevoked
      split
      · exact Or.inl ⟨_, rfl⟩
      · rename_i revoked built
        obtain rfl := RuntimeActionDelegation.checked_eq_ok built
        refine Or.inr (Or.inr ⟨existing, found, ?_, rfl⟩)
        cases status : existing.status with
        | active => rfl
        | revoked => exact absurd status notRevoked

/-! ## The two tables agree -/

/-- Every record is filed under its own keys, and both tables hold the same records. -/
structure Agreed (store : DelegationStore) : Prop where
  keyed : ∀ {key delegation}, store.items.get? key = some delegation → identity delegation = key
  indexed : ∀ {key delegation}, store.byIdempotency.get? key = some delegation →
    idempotency delegation = key
  same : ∀ {delegation}, store.items.get? (identity delegation) = some delegation ↔
    store.byIdempotency.get? (idempotency delegation) = some delegation

theorem agreed_empty : Agreed empty := by
  constructor
  · intro key delegation found
    cases found
  · intro key delegation found
    cases found
  · intro delegation
    simp [empty]

variable {store : DelegationStore} {scope : Scope} {delegationId revokedBy : String} {revokedAt : Instant}
  {revocationReference : Option String} {primitives : Primitives}

theorem Agreed.file (agreed : store.Agreed) (delegation : RuntimeActionDelegation)
    (held : store.items.get? (identity delegation) = none ∧
        store.byIdempotency.get? (idempotency delegation) = none ∨
      ∃ existing, store.items.get? (identity delegation) = some existing ∧
        store.byIdempotency.get? (idempotency delegation) = some existing) : (store.insert delegation).Agreed := by
  constructor
  · exact Dict.keyed_set _ agreed.keyed rfl
  · exact Dict.keyed_set _ agreed.indexed rfl
  · intro other
    simp only [insert, Dict.get?_set]
    by_cases equal : other = delegation
    · subst equal
      simp
    · -- A record stored before shares both keys with the new one, or neither.
      have together : store.items.get? (identity other) = some other →
          (identity other = identity delegation ↔ idempotency other = idempotency delegation) := by
        intro stored
        have filed := agreed.same.mp stored
        constructor
        · intro here
          rw [here] at stored
          rcases held with ⟨free, -⟩ | ⟨existing, found, foundKey⟩
          · cases free.symm.trans stored
          · obtain rfl := Option.some.inj (found.symm.trans stored)
            exact agreed.indexed foundKey
        · intro here
          rw [here] at filed
          rcases held with ⟨-, free⟩ | ⟨existing, found, foundKey⟩
          · cases free.symm.trans filed
          · obtain rfl := Option.some.inj (foundKey.symm.trans filed)
            exact agreed.keyed found
      constructor
      · intro found
        split at found
        · exact absurd (Option.some.inj found).symm equal
        · rename_i elsewhere
          rw [if_neg (fun here => elsewhere ((together found).mpr here))]
          exact agreed.same.mp found
      · intro found
        split at found
        · exact absurd (Option.some.inj found).symm equal
        · rename_i elsewhere
          have stored := agreed.same.mpr found
          rw [if_neg (fun here => elsewhere ((together stored).mp here))]
          exact stored

theorem Agreed.insert (agreed : store.Agreed) {delegation : RuntimeActionDelegation}
    (free : store.items.get? (identity delegation) = none)
    (freeKey : store.byIdempotency.get? (idempotency delegation) = none) : (store.insert delegation).Agreed :=
  agreed.file delegation (Or.inl ⟨free, freeKey⟩)

theorem Agreed.revoke (agreed : store.Agreed) (primitives : Primitives) (delegationId : String) (scope : Scope)
    (revokedAt : Instant) (revokedBy : String) (revocationReference : Option String) :
    (store.revoke primitives delegationId scope revokedAt revokedBy revocationReference).2.Agreed := by
  rcases store.revoke_cases primitives delegationId scope revokedAt revokedBy revocationReference with
    ⟨_, outcome⟩ | ⟨_, outcome, -⟩ | ⟨existing, found, -, outcome⟩
  · rw [outcome]
    exact agreed
  · rw [outcome]
    exact agreed
  · rw [outcome]
    have here := agreed.keyed found
    -- The store writes under the keys of the lookup; they are the record's own.
    have sameKey : scopedKey scope existing.idempotencyKey = idempotency existing := by
      obtain ⟨organization, rest⟩ := Prod.mk.inj here
      obtain ⟨project, -⟩ := Prod.mk.inj rest
      simp [scopedKey, idempotency, organization, project]
    have filed := agreed.same.mp (here ▸ found)
    rw [← here, sameKey]
    exact agreed.file (existing.revoke revokedAt revokedBy revocationReference)
      (Or.inr ⟨existing, here ▸ found, filed⟩)

/-! ## Stored delegations evolve -/

/-- Every stored delegation is still stored, with the same contract, and revoked at most once. -/
def Succeeds (before after : DelegationStore) : Prop :=
  ∀ key delegation, before.items.get? key = some delegation →
    ∃ later, after.items.get? key = some later ∧ RuntimeActionDelegation.Evolves delegation later

theorem Succeeds.refl (store : DelegationStore) : Succeeds store store :=
  fun _ delegation found => ⟨delegation, found, .refl delegation⟩

theorem Succeeds.trans {first second third : DelegationStore} (left : Succeeds first second)
    (right : Succeeds second third) : Succeeds first third := by
  intro key delegation found
  obtain ⟨middle, foundMiddle, early⟩ := left key delegation found
  obtain ⟨last, foundLast, late⟩ := right key middle foundMiddle
  exact ⟨last, foundLast, early.trans late⟩

theorem succeeds_insert {delegation : RuntimeActionDelegation} (free : store.items.get? (identity delegation) = none) :
    Succeeds store (store.insert delegation) :=
  fun _ other found => ⟨other, Dict.get?_set_of_some free found, .refl other⟩

theorem succeeds_revoke :
    Succeeds store
      (store.revoke primitives delegationId scope revokedAt revokedBy revocationReference).2 := by
  rcases store.revoke_cases primitives delegationId scope revokedAt revokedBy revocationReference with
    ⟨_, outcome⟩ | ⟨_, outcome, -⟩ | ⟨existing, found, active, outcome⟩
  · rw [outcome]
    exact .refl store
  · rw [outcome]
    exact .refl store
  · rw [outcome]
    intro key delegation stored
    by_cases here : key = scopedKey scope delegationId
    · subst here
      obtain rfl := Option.some.inj (found.symm.trans stored)
      exact ⟨_, Dict.get?_set_self _,
        RuntimeActionDelegation.evolves_revoke active revokedAt revokedBy revocationReference⟩
    · exact ⟨delegation, (Dict.get?_set_of_ne _ here).trans stored, .refl delegation⟩

end DelegationStore

end AiGovernance.Repositories
