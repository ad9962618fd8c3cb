import AiGovernance.Services.PolicyAdministration
import AiGovernance.Std.Decimal

/-!
# The life of a policy version

Requests of the administration service rewrite whole records through a save that
demotes the active version. `VersionMove` lists what a request may make of a
stored version; `Sound` and `Evolves` are carried through every request and every
run: one active version at most, versions numbered without a gap, content fixed
once it has left draft, stamps that are set once, and no active runtime
authorization policy that approves on what an agent claims.
-/

namespace AiGovernance.PolicyAdministration

open AiGovernance.Std Domain Semantics
open Program PolicyStore
open Decisions (DecisionTargetType PolicyRule PolicyStatus)

/-! ## One version -/

/-- What a request may make of a stored version. -/
inductive VersionMove (old : PolicyVersionRecord) : PolicyVersionRecord → Prop where
  | edit (targetTypes : List DecisionTargetType) (rules : List PolicyRule) (metadata : List (String × Json))
      (draft : old.status = .draft) :
      VersionMove old { old with targetTypes := targetTypes, rules := rules, metadata := metadata }
  | activate (now : Instant) (metadata : List (String × Json)) (draft : old.status = .draft) :
      VersionMove old { old with status := .active, activatedAt := some now, metadata := metadata }
  | demote (now : Instant) (active : old.status = .active) :
      VersionMove old { old with status := .deprecated, deprecatedAt := some now }
  | archive (now : Instant) (metadata : List (String × Json)) (alive : old.status ≠ .archived) :
      VersionMove old { old with status := .archived, archivedAt := some now, metadata := metadata }

/-- The stamps say where the version has been. -/
structure VersionSound (record : PolicyVersionRecord) : Prop where
  activated : record.status = .draft → record.activatedAt = none
  deprecated : record.status = .draft ∨ record.status = .active → record.deprecatedAt = none
  archived : record.status ≠ .archived → record.archivedAt = none

theorem VersionMove.sound {old new : PolicyVersionRecord} (move : VersionMove old new)
    (sound : VersionSound old) : VersionSound new := by
  obtain ⟨activated, deprecated, archived⟩ := sound
  cases move with
  | edit targetTypes rules metadata draft => exact ⟨activated, deprecated, archived⟩
  | activate now metadata draft =>
    exact ⟨nofun, fun _ => deprecated (Or.inl draft), fun _ => archived (by simp [draft])⟩
  | demote now active => exact ⟨nofun, by simp, fun _ => archived (by simp [active])⟩
  | archive now metadata alive => exact ⟨nofun, by simp, by simp⟩

/-- The steps a status may take. -/
inductive StatusStep : PolicyStatus → PolicyStatus → Prop where
  | activate : StatusStep .draft .active
  | demote : StatusStep .active .deprecated
  | archive {status : PolicyStatus} (alive : status ≠ .archived) : StatusStep status .archived

/-- What becomes of a version: its identity stays, its status takes allowed steps, what has left
draft is fixed, and a stamp is set once. -/
structure Evolves (old new : PolicyVersionRecord) : Prop where
  policyId : new.policyId = old.policyId
  version : new.version = old.version
  createdBy : new.createdBy = old.createdBy
  createdAt : new.createdAt = old.createdAt
  status : Relation.ReflTransGen StatusStep old.status new.status
  content : old.status ≠ .draft → new.targetTypes = old.targetTypes ∧ new.rules = old.rules
  activatedAt : ∀ stamp, old.activatedAt = some stamp → new.activatedAt = some stamp
  deprecatedAt : ∀ stamp, old.deprecatedAt = some stamp → new.deprecatedAt = some stamp
  archivedAt : ∀ stamp, old.archivedAt = some stamp → new.archivedAt = some stamp

theorem not_draft_of_steps {old new : PolicyStatus} (steps : Relation.ReflTransGen StatusStep old new)
    (left : old ≠ .draft) : new ≠ .draft := by
  cases steps with
  | refl => exact left
  | tail _ last => cases last <;> decide

theorem Evolves.refl (record : PolicyVersionRecord) : Evolves record record :=
  ⟨rfl, rfl, rfl, rfl, .refl, fun _ => ⟨rfl, rfl⟩, fun _ => id, fun _ => id, fun _ => id⟩

theorem Evolves.trans {first second third : PolicyVersionRecord} (left : Evolves first second)
    (right : Evolves second third) : Evolves first third where
  policyId := right.policyId.trans left.policyId
  version := right.version.trans left.version
  createdBy := right.createdBy.trans left.createdBy
  createdAt := right.createdAt.trans left.createdAt
  status := left.status.trans right.status
  content out := by
    obtain ⟨targets, rules⟩ := left.content out
    obtain ⟨targetsAgain, rulesAgain⟩ := right.content (not_draft_of_steps left.status out)
    exact ⟨targetsAgain.trans targets, rulesAgain.trans rules⟩
  activatedAt stamp set := right.activatedAt stamp (left.activatedAt stamp set)
  deprecatedAt stamp set := right.deprecatedAt stamp (left.deprecatedAt stamp set)
  archivedAt stamp set := right.archivedAt stamp (left.archivedAt stamp set)

theorem VersionMove.evolves {old new : PolicyVersionRecord} (move : VersionMove old new)
    (sound : VersionSound old) : Evolves old new := by
  obtain ⟨activated, deprecated, archived⟩ := sound
  cases move with
  | edit targetTypes rules metadata draft =>
    exact ⟨rfl, rfl, rfl, rfl, .refl, fun out => absurd draft out, fun _ => id, fun _ => id, fun _ => id⟩
  | activate now metadata draft =>
    refine ⟨rfl, rfl, rfl, rfl, ?_, fun out => absurd draft out, fun stamp set => ?_, fun _ => id, fun _ => id⟩
    · rw [draft]
      exact .single .activate
    · rw [activated draft] at set
      cases set
  | demote now active =>
    refine ⟨rfl, rfl, rfl, rfl, ?_, fun _ => ⟨rfl, rfl⟩, fun _ => id, fun stamp set => ?_, fun _ => id⟩
    · rw [active]
      exact .single .demote
    · rw [deprecated (Or.inr active)] at set
      cases set
  | archive now metadata alive =>
    refine ⟨rfl, rfl, rfl, rfl, .single (.archive alive), fun _ => ⟨rfl, rfl⟩, fun _ => id, fun _ => id,
      fun stamp set => ?_⟩
    rw [archived alive] at set
    cases set

/-! ## The repository -/

/-- What holds of the repository at every point. -/
structure Sound (store : PolicyStore) : Prop where
  versions : ∀ {key version}, store.versions.get? key = some version → VersionSound version.record
  /-- At most one version of a policy is active. -/
  active : ∀ {left right leftVersion rightVersion}, store.versions.get? left = some leftVersion →
    store.versions.get? right = some rightVersion → left.1 = right.1 →
    leftVersion.record.status = .active → rightVersion.record.status = .active → left = right
  /-- The versions of a policy are numbered from one, without a gap. -/
  numbered : ∀ policyId, ∃ count : Nat, ∀ version, (store.versions.get? (policyId, version)).isSome = true ↔
    ∃ number, 1 ≤ number ∧ number ≤ count ∧ version = toString number
  defined : ∀ {key version}, store.versions.get? key = some version →
    (store.definitions.get? key.1).isSome = true
  /-- No active version of a runtime authorization policy approves on what an agent claims. -/
  guarded : ∀ {policyId definition number version}, store.definitions.get? policyId = some definition →
    registered definition = true → store.versions.get? (policyId, number) = some version →
    version.record.status = .active → version.record.rules.any approvesOnContext = false

/-- Every stored version is kept, or evolves. -/
def Keeps (store next : PolicyStore) : Prop :=
  ∀ key old, store.versions.get? key = some old →
    ∃ new, next.versions.get? key = some new ∧ Evolves old.record new.record

theorem Keeps.refl (store : PolicyStore) : Keeps store store := fun _ old stored => ⟨old, stored, .refl _⟩

theorem Keeps.trans {first second third : PolicyStore} (left : Keeps first second)
    (right : Keeps second third) : Keeps first third := by
  intro key old stored
  obtain ⟨middle, middleStored, evolved⟩ := left key old stored
  obtain ⟨new, newStored, evolvedAgain⟩ := right key middle middleStored
  exact ⟨new, newStored, evolved.trans evolvedAgain⟩

theorem sound_empty : Sound empty where
  versions stored := by cases stored
  active stored := by cases stored
  numbered _ := by
    refine ⟨0, fun version => ⟨fun stored => (by cases stored), ?_⟩⟩
    rintro ⟨number, positive, below, -⟩
    omega
  defined stored := by cases stored
  guarded stored := by cases stored

variable {store : PolicyStore} {version : PolicyVersion} {policyId : String}

theorem mem_listVersions :
    version ∈ store.listVersions policyId ↔
      version.record.policyId = policyId ∧ store.versions.get? (policyId, version.record.version) = some version := by
  unfold listVersions
  rw [List.mem_mergeSort, List.mem_filter, Dict.mem_values_iff, decide_eq_true_eq]
  constructor
  · rintro ⟨⟨key, stored⟩, own⟩
    have keyed := store.versionKeyed stored
    refine ⟨own, ?_⟩
    rw [← own, keyed]
    exact stored
  · rintro ⟨own, stored⟩
    exact ⟨⟨_, stored⟩, own⟩

theorem getActiveVersion_eq_some (found : store.getActiveVersion policyId = some version) :
    version.record.policyId = policyId ∧
      store.versions.get? (policyId, version.record.version) = some version ∧
      version.record.status = .active := by
  obtain ⟨own, stored⟩ := mem_listVersions.mp (List.mem_of_find?_eq_some found)
  exact ⟨own, stored, by simpa using List.find?_some found⟩

theorem getActiveVersion_eq_none (missing : store.getActiveVersion policyId = none) {key : String × String}
    (stored : store.versions.get? key = some version) (own : key.1 = policyId) : version.record.status ≠ .active := by
  unfold getActiveVersion at missing
  rw [List.find?_eq_none] at missing
  have keyed := store.versionKeyed stored
  have member : version ∈ store.listVersions policyId := by
    subst own
    rw [← keyed] at stored
    exact mem_listVersions.mpr ⟨congrArg Prod.fst keyed, by rw [← keyed]; exact stored⟩
  simpa using missing version member

/-! ## Writes -/

/-- The key a version stands under. -/
def keyOf (version : PolicyVersion) : String × String := (version.record.policyId, version.record.version)

theorem get?_putVersion (key : String × String) :
    (store.putVersion version).versions.get? key =
      if key = keyOf version then some version else store.versions.get? key :=
  Dict.get?_set store.versions

theorem VersionMove.key {old new : PolicyVersion} (move : VersionMove old.record new.record) :
    keyOf new = keyOf old := by
  unfold keyOf
  generalize new.record = changed at move ⊢
  cases move <;> rfl

/-- A move of a stored version, alone if it becomes active and then free of claims of agents. -/
theorem Sound.move (sound : Sound store) {old new : PolicyVersion} (stored : store.versions.get? (keyOf old) = some old)
    (move : VersionMove old.record new.record)
    (alone : new.record.status = .active → ∀ key version, store.versions.get? key = some version →
      key.1 = old.record.policyId → version.record.status = .active → key = keyOf old)
    (safe : new.record.status = .active → ∀ definition,
      store.definitions.get? old.record.policyId = some definition → registered definition = true →
      new.record.rules.any approvesOnContext = false) :
    Sound (store.putVersion new) ∧ Keeps store (store.putVersion new) := by
  have sameKey := move.key
  have lookup : ∀ {key version}, (store.putVersion new).versions.get? key = some version →
      (key = keyOf old ∧ version = new) ∨ (key ≠ keyOf old ∧ store.versions.get? key = some version) := by
    intro key version found
    rw [get?_putVersion, sameKey] at found
    split at found
    · cases found
      exact Or.inl ⟨by assumption, rfl⟩
    · exact Or.inr ⟨by assumption, found⟩
  refine ⟨⟨?_, ?_, ?_, ?_, ?_⟩, ?_⟩
  · intro key version found
    rcases lookup found with ⟨-, rfl⟩ | ⟨-, kept⟩
    · exact move.sound (sound.versions stored)
    · exact sound.versions kept
  · intro left right leftVersion rightVersion leftFound rightFound same leftActive rightActive
    rcases lookup leftFound with ⟨rfl, rfl⟩ | ⟨-, leftKept⟩
    · rcases lookup rightFound with ⟨rfl, rfl⟩ | ⟨-, rightKept⟩
      · rfl
      · exact (alone leftActive right rightVersion rightKept same.symm rightActive).symm
    · rcases lookup rightFound with ⟨rfl, rfl⟩ | ⟨-, rightKept⟩
      · exact alone rightActive left leftVersion leftKept same leftActive
      · exact sound.active leftKept rightKept same leftActive rightActive
  · intro policyId
    obtain ⟨count, numbers⟩ := sound.numbered policyId
    refine ⟨count, fun version => ?_⟩
    rw [← numbers version, get?_putVersion, sameKey]
    split
    · rename_i same
      rw [same, stored]
      rfl
    · exact Iff.rfl
  · intro key version found
    rcases lookup found with ⟨rfl, -⟩ | ⟨-, kept⟩
    · exact sound.defined stored
    · exact sound.defined kept
  · intro policyId definition number version defined purpose found active
    rcases lookup found with ⟨same, rfl⟩ | ⟨-, kept⟩
    · obtain ⟨rfl, -⟩ := Prod.mk.inj same
      exact safe active definition defined purpose
    · exact sound.guarded defined purpose kept active
  · intro key version found
    by_cases here : key = keyOf old
    · subst here
      rw [stored] at found
      cases found
      refine ⟨new, ?_, move.evolves (sound.versions stored)⟩
      rw [get?_putVersion, if_pos sameKey.symm]
    · refine ⟨version, ?_, .refl _⟩
      rw [get?_putVersion, sameKey, if_neg here]
      exact found

theorem Sound.create (sound : Sound store) (new : PolicyVersion) (count : Nat)
    (numbers : ∀ version, (store.versions.get? (new.record.policyId, version)).isSome = true ↔
      ∃ number, 1 ≤ number ∧ number ≤ count ∧ version = toString number)
    (next : new.record.version = toString (count + 1)) (draft : new.record.status = .draft)
    (fresh : VersionSound new.record) (defined : (store.definitions.get? new.record.policyId).isSome = true) :
    Sound (store.putVersion new) ∧ Keeps store (store.putVersion new) := by
  have absent : store.versions.get? (keyOf new) = none := by
    by_contra present
    obtain ⟨number, -, below, same⟩ := (numbers new.record.version).mp (Option.isSome_iff_ne_none.mpr present)
    rw [next] at same
    have := Text.toString_injective same
    omega
  have lookup : ∀ {key version}, (store.putVersion new).versions.get? key = some version →
      (key = keyOf new ∧ version = new) ∨ store.versions.get? key = some version := by
    intro key version found
    rw [get?_putVersion] at found
    split at found
    · cases found
      exact Or.inl ⟨by assumption, rfl⟩
    · exact Or.inr found
  have inactive : new.record.status ≠ .active := by simp [draft]
  refine ⟨⟨?_, ?_, ?_, ?_, ?_⟩, ?_⟩
  · intro key version found
    rcases lookup found with ⟨-, rfl⟩ | kept
    · exact fresh
    · exact sound.versions kept
  · intro left right leftVersion rightVersion leftFound rightFound same leftActive rightActive
    rcases lookup leftFound with ⟨-, rfl⟩ | leftKept
    · exact absurd leftActive inactive
    · rcases lookup rightFound with ⟨-, rfl⟩ | rightKept
      · exact absurd rightActive inactive
      · exact sound.active leftKept rightKept same leftActive rightActive
  · intro policyId
    by_cases own : policyId = new.record.policyId
    · subst own
      refine ⟨count + 1, fun version => ?_⟩
      rw [get?_putVersion]
      split
      · rename_i same
        refine ⟨fun _ => ⟨count + 1, by omega, le_rfl, ?_⟩, fun _ => rfl⟩
        rw [← next]
        exact (Prod.mk.inj same).2
      · rename_i other
        rw [numbers version]
        constructor
        · rintro ⟨number, positive, below, same⟩
          exact ⟨number, positive, by omega, same⟩
        · rintro ⟨number, positive, below, rfl⟩
          refine ⟨number, positive, ?_, rfl⟩
          by_contra above
          refine other ?_
          have last : number = count + 1 := by omega
          rw [keyOf, next, last]
    · obtain ⟨kept, numbers⟩ := sound.numbered policyId
      refine ⟨kept, fun version => ?_⟩
      have other : (policyId, version) ≠ keyOf new := fun same => own (congrArg Prod.fst same)
      rw [← numbers version, get?_putVersion, if_neg other]
  · intro key version found
    rcases lookup found with ⟨rfl, -⟩ | kept
    · exact defined
    · exact sound.defined kept
  · intro policyId definition number version defined purpose found active
    rcases lookup found with ⟨-, rfl⟩ | kept
    · exact absurd active inactive
    · exact sound.guarded defined purpose kept active
  · intro key version found
    refine ⟨version, ?_, .refl _⟩
    rw [get?_putVersion, if_neg (fun same => by rw [same, absent] at found; cases found)]
    exact found

/-- A definition is stored that is new, or says the same about runtime authorization. -/
theorem Sound.define (sound : Sound store) (definition : PolicyDefinition)
    (same : ∀ old, store.definitions.get? definition.record.policyId = some old →
      definition.record.metadata = old.record.metadata) :
    Sound (store.putDefinition definition) ∧ Keeps store (store.putDefinition definition) := by
  have lookup : ∀ policyId, (store.putDefinition definition).definitions.get? policyId =
      if policyId = definition.record.policyId then some definition else store.definitions.get? policyId :=
    fun policyId => Dict.get?_set store.definitions
  refine ⟨⟨sound.versions, sound.active, sound.numbered, ?_, ?_⟩, fun key old stored => ⟨old, stored, .refl _⟩⟩
  · intro key version found
    rw [lookup]
    split
    · rfl
    · exact sound.defined found
  · intro policyId found number version defined purpose stored active
    rw [lookup] at defined
    split at defined
    · rename_i own
      cases defined
      -- A policy that has a version was defined before.
      obtain ⟨old, known⟩ := Option.isSome_iff_exists.mp (sound.defined stored)
      dsimp only at known
      subst own
      have registeredBefore : registered old = true := by
        unfold registered at purpose ⊢
        rw [← same old known]
        exact purpose
      exact sound.guarded known registeredBefore stored active
    · exact sound.guarded defined purpose stored active

/-! ## Requests -/

/-- A request leaves a sound repository in which every version is kept or has evolved. -/
def Progress {α : Type} (store : PolicyStore) (_ : Except Raised α) (after : PolicyStore) : Prop :=
  Sound after ∧ Keeps store after

/-- The calls that read. -/
def Reads : PolicyCommand → Prop
  | .saveDefinition _ | .saveVersion _ => False
  | _ => True

variable {α : Type} {current : PolicyStore} {now touchedAt : Instant}

theorem reads_ensures {program : PolicyOperation α} {returns : α → Prop} (within : program.Within Reads returns)
    (sound : Sound current) (kept : Keeps store current) : program.Ensures policyStores current (Progress store) := by
  have unchanged := within.ensures policyStores Eq (fun _ => rfl) (fun left right => left.trans right)
    (by
      intro command state reads
      cases command <;> first | rfl | exact reads.elim)
    current
  refine unchanged.mono fun result after same => ?_
  obtain ⟨rfl, -⟩ := same
  exact ⟨sound, kept⟩

theorem getDefinition_within : (getDefinition policyId).Within Reads fun _ => True := by
  refine within_call_bind trivial fun definition => ?_
  cases definition <;> trivial

theorem getPolicyDetail_within : (getPolicyDetail policyId).Within Reads fun _ => True := by
  refine within_bind.mpr ((getDefinition_within).mono (fun _ reads => reads) fun _ _ => ?_)
  exact within_call_bind trivial fun _ => trivial

theorem getVersion_ensures_bind {version : String} {next : PolicyVersion → PolicyOperation α} (sound : Sound store)
    (rest : ∀ found, store.versions.get? (keyOf found) = some found →
      keyOf found = (policyId, version) → (next found).Ensures policyStores store (Progress store)) :
    (getVersion policyId version >>= next).Ensures policyStores store (Progress store) := by
  unfold getVersion
  rw [bind_assoc]
  refine ensures_read_bind rfl ?_
  cases found : store.versions.get? (policyId, version) with
  | none => exact ⟨sound, .refl store⟩
  | some stored =>
    have keyed : keyOf stored = (policyId, version) := store.versionKeyed found
    exact rest stored (by rw [keyed]; exact found) keyed

theorem getDefinition_ensures_bind {next : PolicyDefinition → PolicyOperation α} (sound : Sound current)
    (kept : Keeps store current)
    (rest : ∀ definition, current.definitions.get? definition.record.policyId = some definition →
      definition.record.policyId = policyId → (next definition).Ensures policyStores current (Progress store)) :
    (getDefinition policyId >>= next).Ensures policyStores current (Progress store) := by
  unfold getDefinition
  rw [bind_assoc]
  refine ensures_read_bind rfl ?_
  cases found : current.definitions.get? policyId with
  | none => exact ⟨sound, kept⟩
  | some definition =>
    have keyed := current.definitionKeyed found
    exact rest definition (by rw [keyed]; exact found) keyed

theorem saveDefinition_cases (store : PolicyStore) (definition : PolicyDefinition) :
    (∃ raised, policyStores (.saveDefinition definition) store = (.error raised, store)) ∨
      policyStores (.saveDefinition definition) store = (.ok (), store.putDefinition definition) := by
  change (∃ raised, store.saveDefinition definition = (.error raised, store)) ∨
    store.saveDefinition definition = (.ok (), store.putDefinition definition)
  unfold saveDefinition
  split
  · exact Or.inl ⟨_, rfl⟩
  · exact Or.inr rfl

variable {definition : PolicyDefinition}

/-- The end of a request that has written a version. -/
theorem touch_ensures (sound : Sound current) (kept : Keeps store current)
    (known : current.definitions.get? definition.record.policyId = some definition) :
    (touchDefinition definition now >>= fun _ => getPolicyDetail policyId).Ensures policyStores current
      (Progress store) := by
  have same : ∀ old, current.definitions.get? definition.record.policyId = some old →
      definition.record.metadata = old.record.metadata := by
    intro old found
    rw [known] at found
    cases found
    rfl
  rcases saveDefinition_cases current (touched definition now) with ⟨raised, refused⟩ | accepted
  · refine ensures_call_bind (fun _ after outcome => ?_) fun _ after outcome => ?_
    · rw [refused] at outcome
      cases outcome
    · rw [refused] at outcome
      cases outcome
      exact ⟨sound, kept⟩
  · obtain ⟨stillSound, stillKept⟩ := sound.define (touched definition now) same
    refine ensures_read_bind accepted ?_
    exact reads_ensures (getPolicyDetail_within) stillSound (kept.trans stillKept)

theorem saveVersion_of_inactive (inactive : version.record.status ≠ .active) :
    store.saveVersion version = store.putVersion version := by
  unfold saveVersion
  rw [if_neg inactive]

theorem saveVersion_of_alone (alone : store.getActiveVersion version.record.policyId = none) :
    store.saveVersion version = store.putVersion version := by
  unfold saveVersion
  rw [alone]
  split <;> rfl

theorem archiveVersion_ensures (sound : Sound store) (version archivedBy : String) :
    (archiveVersion policyId version archivedBy now touchedAt).Ensures policyStores store (Progress store) := by
  refine getVersion_ensures_bind sound fun selected stored _ => ?_
  split
  · exact reads_ensures (getPolicyDetail_within) sound (.refl store)
  · rename_i alive
    have move : VersionMove selected.record (archived selected archivedBy now).record := .archive now _ alive
    obtain ⟨stillSound, kept⟩ := sound.move stored move (fun active => by cases active) fun active => by cases active
    refine ensures_read_bind (show policyStores (.saveVersion (archived selected archivedBy now)) store =
      (.ok (), store.putVersion (archived selected archivedBy now)) from ?_) ?_
    · simp only [policyStores]
      rw [saveVersion_of_inactive (by simp [archived])]
    · exact getDefinition_ensures_bind stillSound kept fun definition known _ =>
        touch_ensures stillSound kept known

theorem updateDraftVersion_ensures (sound : Sound store) (version : String) (content : PolicyContent)
    (updatedBy : String) :
    (updateDraftVersion policyId version content updatedBy touchedAt).Ensures policyStores store
      (Progress store) := by
  have ends : ∀ raised : Raised, Progress (α := PolicyDetail) store (.error raised) store :=
    fun _ => ⟨sound, .refl store⟩
  refine getVersion_ensures_bind sound fun existing stored _ => ?_
  split
  · exact ends _
  · rename_i draft
    have draft := Decidable.not_not.mp draft
    refine ensures_ofExcept_bind (fun updated created => ?_) fun _ _ => ends _
    have record := Checked.create_eq_ok_iff.mp created
    refine ensures_ofExcept_bind (fun _ _ => ?_) fun _ _ => ends _
    have move : VersionMove existing.record updated.record := by
      rw [record]
      exact .edit _ _ _ draft
    have inactive : updated.record.status ≠ .active := by
      rw [record]
      simp [draft]
    obtain ⟨stillSound, kept⟩ := sound.move stored move (fun active => absurd active inactive)
      fun active => absurd active inactive
    refine ensures_read_bind (show policyStores (.saveVersion updated) store =
      (.ok (), store.putVersion updated) from ?_) ?_
    · simp only [policyStores]
      rw [saveVersion_of_inactive inactive]
    · exact getDefinition_ensures_bind stillSound kept fun definition known _ =>
        touch_ensures stillSound kept known

/-- What the activation of a draft needs of the repository it is saved in. -/
theorem activated_ensures {selected : PolicyVersion} (activatedBy : String) (sound : Sound current)
    (kept : Keeps store current) (stored : current.versions.get? (keyOf selected) = some selected)
    (draft : selected.record.status = .draft) (alone : current.getActiveVersion selected.record.policyId = none)
    (known : current.definitions.get? definition.record.policyId = some definition)
    (own : definition.record.policyId = selected.record.policyId)
    (valid : validateRuntimeAuthorizationActivation definition selected = .ok ()) :
    (consult (.saveVersion (activated selected activatedBy now)) >>= fun _ =>
      touchDefinition definition touchedAt >>= fun _ => getPolicyDetail policyId).Ensures policyStores current
      (Progress store) := by
  have move : VersionMove selected.record (activated selected activatedBy now).record := .activate now _ draft
  obtain ⟨stillSound, stillKept⟩ := sound.move stored move (by
      intro _ key version found same active
      exact absurd active (getActiveVersion_eq_none alone found same)) (by
      intro _ other found purpose
      rw [← own, known] at found
      cases found
      unfold validateRuntimeAuthorizationActivation at valid
      rw [purpose, Bool.true_and] at valid
      split at valid
      · cases valid
      · rename_i safe
        exact Bool.not_eq_true _ ▸ safe)
  have saved : current.saveVersion (activated selected activatedBy now) =
      current.putVersion (activated selected activatedBy now) := saveVersion_of_alone alone
  refine ensures_read_bind (show policyStores (.saveVersion (activated selected activatedBy now)) current =
    (.ok (), current.putVersion (activated selected activatedBy now)) from ?_) ?_
  · simp only [policyStores, saved]
  · exact touch_ensures stillSound (kept.trans stillKept) known

/-- Once the active version is demoted, its policy has none. -/
theorem getActiveVersion_demoted (sound : Sound store) {active : PolicyVersion}
    (found : store.getActiveVersion policyId = some active) :
    (store.putVersion (demoted active now)).getActiveVersion policyId = none := by
  obtain ⟨own, stored, status⟩ := getActiveVersion_eq_some found
  cases again : (store.putVersion (demoted active now)).getActiveVersion policyId with
  | none => rfl
  | some other =>
    obtain ⟨-, otherStored, otherStatus⟩ := getActiveVersion_eq_some again
    rw [get?_putVersion] at otherStored
    split at otherStored
    · cases otherStored
      cases otherStatus
    · rename_i different
      have same := sound.active otherStored stored rfl otherStatus status
      refine absurd (same.trans ?_) different
      rw [← own]
      rfl

theorem activateVersion_ensures (sound : Sound store) (version activatedBy : String) :
    (activateVersion policyId version activatedBy now touchedAt).Ensures policyStores store (Progress store) := by
  have ends : ∀ raised : Raised, Progress (α := PolicyDetail) store (.error raised) store :=
    fun _ => ⟨sound, .refl store⟩
  refine getVersion_ensures_bind sound fun selected stored keyed => ?_
  split
  · exact ends _
  · split
    · exact ends _
    · rename_i draft
      have draft := Decidable.not_not.mp draft
      have ofPolicy : selected.record.policyId = policyId := congrArg Prod.fst keyed
      refine getDefinition_ensures_bind sound (.refl store) fun definition known own => ?_
      have same : definition.record.policyId = selected.record.policyId := own.trans ofPolicy.symm
      refine ensures_ofExcept_bind (fun _ valid => ?_) fun _ _ => ends _
      refine ensures_read_bind rfl ?_
      cases found : store.getActiveVersion policyId with
      | none =>
        exact activated_ensures activatedBy sound (.refl store) stored draft
          (by rw [ofPolicy]; exact found) known same valid
      | some active =>
        obtain ⟨activeOwn, activeStored, status⟩ := getActiveVersion_eq_some found
        have held : store.versions.get? (keyOf active) = some active := by
          rw [keyOf, activeOwn]
          exact activeStored
        have move : VersionMove active.record (demoted active now).record := .demote now status
        obtain ⟨stillSound, kept⟩ := sound.move held move (fun isOver => by cases isOver) fun isOver => by cases isOver
        refine ensures_read_bind (show policyStores (.saveVersion (demoted active now))
          store = (.ok (), store.putVersion (demoted active now)) from ?_) ?_
        · simp only [policyStores]
          rw [saveVersion_of_inactive (by simp [demoted])]
        · refine activated_ensures activatedBy stillSound kept ?_ draft ?_ known same valid
          · -- The draft is another version than the active one.
            rw [get?_putVersion, move.key, if_neg]
            · exact stored
            · intro equal
              rw [equal, held] at stored
              cases stored
              rw [status] at draft
              cases draft
          · rw [ofPolicy]
            exact getActiveVersion_demoted sound found

/-! ## New versions -/

theorem nextVersion_eq {count : Nat} (numbers : ∀ version, (store.versions.get? (policyId, version)).isSome = true ↔
      ∃ number, 1 ≤ number ∧ number ≤ count ∧ version = toString number) :
    (((store.listVersions policyId).filterMap fun version =>
      Text.parseInt version.record.version).max?.getD 0 + 1 : Int) = (count + 1 : Nat) := by
  have listed : ∀ value : Int, value ∈ (store.listVersions policyId).filterMap (fun version =>
      Text.parseInt version.record.version) ↔ ∃ number : Nat, 1 ≤ number ∧ number ≤ count ∧ value = number := by
    intro value
    rw [List.mem_filterMap]
    constructor
    · rintro ⟨version, member, parsed⟩
      obtain ⟨-, stored⟩ := mem_listVersions.mp member
      obtain ⟨number, positive, below, same⟩ := (numbers version.record.version).mp (by rw [stored]; rfl)
      rw [same, Text.parseInt_toString] at parsed
      cases parsed
      exact ⟨number, positive, below, rfl⟩
    · rintro ⟨number, positive, below, rfl⟩
      obtain ⟨version, stored⟩ := Option.isSome_iff_exists.mp
        ((numbers (toString number)).mpr ⟨number, positive, below, rfl⟩)
      have keyed := store.versionKeyed stored
      obtain ⟨own, named⟩ := Prod.mk.inj keyed
      refine ⟨version, mem_listVersions.mpr ⟨own, ?_⟩, ?_⟩
      · rw [named]
        exact stored
      · rw [named, Text.parseInt_toString]
  cases count with
  | zero =>
    have none : (store.listVersions policyId).filterMap (fun version =>
        Text.parseInt version.record.version) = [] := by
      rw [List.eq_nil_iff_forall_not_mem]
      intro value member
      obtain ⟨number, positive, below, -⟩ := (listed value).mp member
      omega
    rw [none]
    rfl
  | succ count =>
    have last : ((store.listVersions policyId).filterMap fun version =>
        Text.parseInt version.record.version).max? = some ((count + 1 : Nat) : Int) := by
      rw [List.max?_eq_some_iff]
      refine ⟨(listed _).mpr ⟨count + 1, by omega, le_rfl, rfl⟩, fun value member => ?_⟩
      obtain ⟨number, -, below, rfl⟩ := (listed value).mp member
      exact_mod_cast below
    rw [last]
    push_cast
    rfl

/-- The part of `create_policy_version` after the base version was looked up. -/
theorem createNumbered_ensures (sound : Sound store)
    (known : store.definitions.get? definition.record.policyId = some definition)
    (own : definition.record.policyId = policyId) (content : PolicyContent) (createdBy : String)
    (createdAt : Instant) :
    (nextVersion policyId >>= fun number =>
      Program.ofExcept (Checked.create {
        policyId, version := number, status := .draft, targetTypes := content.targetTypes
        rules := content.rules, createdBy, createdAt, metadata := content.metadata } :
          Except Raised PolicyVersion) >>= fun version =>
      Program.ofExcept (validateVersion version) >>= fun _ =>
      consult (.saveVersion version) >>= fun _ =>
      touchDefinition definition touchedAt >>= fun _ => getPolicyDetail policyId).Ensures policyStores store
      (Progress store) := by
  have ends : ∀ raised : Raised, Progress (α := PolicyDetail) store (.error raised) store :=
    fun _ => ⟨sound, .refl store⟩
  obtain ⟨count, numbers⟩ := sound.numbered policyId
  unfold nextVersion
  rw [bind_assoc]
  refine ensures_read_bind rfl ?_
  rw [pure_bind, nextVersion_eq numbers]
  refine ensures_ofExcept_bind (fun version created => ?_) fun _ _ => ends _
  have record := Checked.create_eq_ok_iff.mp created
  refine ensures_ofExcept_bind (fun _ _ => ?_) fun _ _ => ends _
  have inactive : version.record.status ≠ .active := by simp [record]
  obtain ⟨stillSound, kept⟩ := sound.create version count (by simpa [record] using numbers)
    (by rw [record]; rfl) (by rw [record]) (by rw [record]; exact ⟨fun _ => rfl, fun _ => rfl, fun _ => rfl⟩)
    (by rw [record, ← own]; exact Option.isSome_iff_exists.mpr ⟨definition, known⟩)
  refine ensures_read_bind (show policyStores (.saveVersion version) store =
    (.ok (), store.putVersion version) from ?_) ?_
  · simp only [policyStores]
    rw [saveVersion_of_inactive inactive]
  · exact touch_ensures stillSound kept known

theorem createPolicyVersion_ensures (sound : Sound store) (baseVersion : Option String) (content : PolicyContent)
    (createdBy : String) (createdAt : Instant) :
    (createPolicyVersion policyId baseVersion content createdBy createdAt touchedAt).Ensures policyStores store
      (Progress store) := by
  refine getDefinition_ensures_bind sound (.refl store) fun definition known own => ?_
  cases baseVersion with
  | none => exact createNumbered_ensures sound known own content createdBy createdAt
  | some base =>
    refine getVersion_ensures_bind sound fun _ _ _ => ?_
    exact createNumbered_ensures sound known own content createdBy createdAt

theorem createPolicy_ensures (sound : Sound store) (request : CreatePolicy) :
    (createPolicy request now).Ensures policyStores store (Progress store) := by
  have ends : ∀ raised : Raised, Progress (α := PolicyDetail) store (.error raised) store :=
    fun _ => ⟨sound, .refl store⟩
  unfold createPolicy
  generalize (Text.orElse request.policyId none).getD request.generatedId = policyId
  refine ensures_read_bind rfl ?_
  cases undefined : store.definitions.get? policyId with
  | some _ => exact ends _
  | none =>
    refine ensures_ofExcept_bind (fun definition defined => ?_) fun _ _ => ends _
    refine ensures_ofExcept_bind (fun version created => ?_) fun _ _ => ends _
    refine ensures_ofExcept_bind (fun _ _ => ?_) fun _ _ => ends _
    have definitionRecord := Checked.create_eq_ok_iff.mp defined
    have record := Checked.create_eq_ok_iff.mp created
    have own : definition.record.policyId = policyId := by rw [definitionRecord]
    refine ensures_attempt_bind ?_
    rcases saveDefinition_cases store definition with ⟨raised, refused⟩ | accepted
    · rw [refused]
      exact ends _
    · rw [accepted]
      obtain ⟨definedSound, definedKept⟩ := sound.define definition (by
        rw [own, undefined]
        exact nofun)
      have known : (store.putDefinition definition).definitions.get? policyId = some definition := by
        change (store.definitions.set definition.record.policyId definition).get? policyId = _
        rw [own, Dict.get?_set_self]
      have unnumbered : ∀ number, (store.versions.get? (version.record.policyId, number)).isSome = true ↔
          ∃ count, 1 ≤ count ∧ count ≤ 0 ∧ number = toString count := by
        intro number
        constructor
        · intro present
          obtain ⟨stored, found⟩ := Option.isSome_iff_exists.mp present
          have known := sound.defined found
          rw [record] at known
          dsimp only at known
          rw [undefined] at known
          cases known
        · rintro ⟨count, positive, below, -⟩
          omega
      have inactive : version.record.status ≠ .active := by simp [record]
      obtain ⟨stillSound, kept⟩ := definedSound.create version 0 unnumbered
        (by rw [record]; rfl) (by rw [record])
        (by rw [record]; exact ⟨fun _ => rfl, fun _ => rfl, fun _ => rfl⟩)
        (by rw [record]; exact Option.isSome_iff_exists.mpr ⟨definition, known⟩)
      refine ensures_read_bind (show policyStores (.saveVersion version) (store.putDefinition definition) =
        (.ok (), (store.putDefinition definition).putVersion version) from ?_) ?_
      · simp only [policyStores]
        rw [saveVersion_of_inactive inactive]
      · exact reads_ensures (getPolicyDetail_within) stillSound (definedKept.trans kept)

/-! ## Runs -/

/-- Every request keeps the repository sound, and every version or what it has become. -/
theorem PolicyRequest.progress (request : PolicyRequest) (sound : Sound store) :
    Sound (request.body.run policyStores store).2 ∧ Keeps store (request.body.run policyStores store).2 := by
  cases request with
  | createPolicy request now => exact createPolicy_ensures sound request
  | createPolicyVersion policyId baseVersion content createdBy createdAt touchedAt =>
    exact createPolicyVersion_ensures sound baseVersion content createdBy createdAt
  | updateDraftVersion policyId version content updatedBy touchedAt =>
    exact updateDraftVersion_ensures sound version content updatedBy
  | activateVersion policyId version activatedBy now touchedAt =>
    exact activateVersion_ensures sound version activatedBy
  | archiveVersion policyId version archivedBy now touchedAt =>
    exact archiveVersion_ensures sound version archivedBy

theorem serveAll_progress (requests : List PolicyRequest) (sound : Sound store) :
    Sound (serveAll requests store) ∧ Keeps store (serveAll requests store) := by
  induction requests generalizing store with
  | nil => exact ⟨sound, .refl store⟩
  | cons request rest ih =>
    obtain ⟨once, keptOnce⟩ := request.progress sound
    obtain ⟨always, kept⟩ := ih once
    exact ⟨always, keptOnce.trans kept⟩

/-- In every run of the service and at every point of it: one version of a policy at most is
active, the versions of a policy are `1` to some `n`, no active version of a runtime authorization
policy approves on agent-supplied context, and whatever runs afterwards keeps every version: it
keeps its number and origin, its status takes allowed steps, its content is fixed once it has left
draft, and its stamps are set once. -/
theorem policy_version_lifecycle (before after : List PolicyRequest) :
    Sound (serveAll before .empty) ∧ Keeps (serveAll before .empty) (serveAll (before ++ after) .empty) := by
  obtain ⟨sound, -⟩ := serveAll_progress before sound_empty
  refine ⟨sound, ?_⟩
  unfold serveAll
  rw [List.foldl_append]
  exact (serveAll_progress after sound).2

end AiGovernance.PolicyAdministration
