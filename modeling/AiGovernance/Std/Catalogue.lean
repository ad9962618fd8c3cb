import AiGovernance.Std.Dict
import Mathlib.Logic.Relation

/-!
# Catalogues of versions

A catalogue keeps records under their keys. A record is a version of an asset,
managed or only observed, and has a status; all else about it is its content.
Catalogues change by new records and by new statuses. `Change` is one such step
with the rules that keep a catalogue consistent, and `Change.consistent` and
`Change.preserves` say what it keeps; a run of steps is `Changes`.
-/

namespace AiGovernance.Std

/-- The life of a version. -/
inductive VersionStatus where
  | draft
  | active
  | deprecated
  | archived
deriving DecidableEq

/-- How a record of a catalogue is read, and given another status. -/
structure Described (R K A V C : Type) where
  key : R → K
  asset : R → A
  version : R → V
  managed : R → Bool
  content : R → C
  status : R → VersionStatus
  withStatus : R → VersionStatus → R
  key_withStatus : ∀ record status, key (withStatus record status) = key record
  asset_withStatus : ∀ record status, asset (withStatus record status) = asset record
  version_withStatus : ∀ record status, version (withStatus record status) = version record
  managed_withStatus : ∀ record status, managed (withStatus record status) = managed record
  content_withStatus : ∀ record status, content (withStatus record status) = content record
  status_withStatus : ∀ record given, status (withStatus record given) = given

namespace Described

attribute [simp] key_withStatus asset_withStatus version_withStatus managed_withStatus content_withStatus
  status_withStatus

variable {R K A V C : Type} [DecidableEq K] (described : Described R K A V C)

/-- Every record stands under its key, a version of an asset is recorded once, and at most one managed version of
an asset is active. -/
structure Consistent (store : Dict K R) : Prop where
  keyed : ∀ {key record}, store.get? key = some record → described.key record = key
  single : ∀ {first second left right}, store.get? first = some left → store.get? second = some right →
    described.asset left = described.asset right → described.version left = described.version right → first = second
  sole : ∀ {first second left right}, store.get? first = some left → store.get? second = some right →
    described.asset left = described.asset right → described.managed left = true → described.managed right = true →
      described.status left = .active → described.status right = .active → first = second

/-- A managed version stays, with its content, and stays archived. -/
def Preserves (before after : Dict K R) : Prop :=
  ∀ key record, before.get? key = some record → described.managed record = true →
    ∃ later, after.get? key = some later ∧ described.managed later = true ∧
      described.asset later = described.asset record ∧ described.version later = described.version record ∧
      described.content later = described.content record ∧
      (described.status record = .archived → described.status later = .archived)

/-- One step of a catalogue: a new record of a version not yet recorded, or a new status for a record. -/
inductive Change (store : Dict K R) : Dict K R → Prop where
  | record (record : R)
      (unused : ∀ old, store.get? (described.key record) = some old →
        described.managed old = false ∧ described.managed record = false)
      (unrecorded : ∀ key old, store.get? key = some old → described.asset old = described.asset record →
        described.version old ≠ described.version record)
      (draft : described.managed record = true → described.status record = .draft) :
      Change store (store.set (described.key record) record)
  | restate (record : R) (status : VersionStatus) (present : store.get? (described.key record) = some record)
      (archived : described.managed record = true → described.status record = .archived → status = .archived)
      (sole : described.managed record = true → status = .active → ∀ key other, store.get? key = some other →
        described.managed other = true → described.asset other = described.asset record →
          described.status other = .active → key = described.key record) :
      Change store (store.set (described.key record) (described.withStatus record status))

/-- Any number of steps. -/
def Changes : Dict K R → Dict K R → Prop := Relation.ReflTransGen described.Change

variable {described} {store next : Dict K R}

variable {key : K}

theorem get?_set_cases {other : K} {value found : R} (read : (store.set key value).get? other = some found) :
    (other = key ∧ found = value) ∨ (other ≠ key ∧ store.get? other = some found) := by
  rw [Dict.get?_set] at read
  by_cases same : other = key
  · rw [if_pos same] at read
    exact Or.inl ⟨same, (Option.some.inj read).symm⟩
  · rw [if_neg same] at read
    exact Or.inr ⟨same, read⟩

theorem consistent_empty : described.Consistent (Dict.empty : Dict K R) where
  keyed := nofun
  single := nofun
  sole := nofun

theorem Change.consistent (change : described.Change store next) (consistent : described.Consistent store) :
    described.Consistent next := by
  cases change with
  | record record unused unrecorded draft =>
    refine ⟨?_, ?_, ?_⟩
    · intro key found read
      rcases get?_set_cases read with ⟨rfl, rfl⟩ | ⟨-, old⟩
      · rfl
      · exact consistent.keyed old
    · intro first second left right readLeft readRight asset version
      rcases get?_set_cases readLeft with ⟨rfl, rfl⟩ | ⟨-, oldLeft⟩
      · rcases get?_set_cases readRight with ⟨rfl, -⟩ | ⟨-, oldRight⟩
        · rfl
        · exact absurd version.symm (unrecorded _ _ oldRight asset.symm)
      · rcases get?_set_cases readRight with ⟨rfl, rfl⟩ | ⟨-, oldRight⟩
        · exact absurd version (unrecorded _ _ oldLeft asset)
        · exact consistent.single oldLeft oldRight asset version
    · intro first second left right readLeft readRight asset managedLeft managedRight activeLeft activeRight
      rcases get?_set_cases readLeft with ⟨rfl, rfl⟩ | ⟨-, oldLeft⟩
      · rw [draft managedLeft] at activeLeft
        cases activeLeft
      · rcases get?_set_cases readRight with ⟨rfl, rfl⟩ | ⟨-, oldRight⟩
        · rw [draft managedRight] at activeRight
          cases activeRight
        · exact consistent.sole oldLeft oldRight asset managedLeft managedRight activeLeft activeRight
  | restate record status present archived sole =>
    -- The record is read under its key as before, but for its status.
    have earlier : ∀ {key found}, (store.set (described.key record) (described.withStatus record status)).get? key =
        some found → ∃ old, store.get? key = some old ∧ described.asset found = described.asset old ∧
          described.version found = described.version old ∧ described.managed found = described.managed old ∧
          described.key found = described.key old := by
      intro key found read
      rcases get?_set_cases read with ⟨rfl, rfl⟩ | ⟨-, old⟩
      · exact ⟨record, present, by simp⟩
      · exact ⟨found, old, rfl, rfl, rfl, rfl⟩
    refine ⟨?_, ?_, ?_⟩
    · intro key found read
      obtain ⟨old, stored, -, -, -, same⟩ := earlier read
      rw [same]
      exact consistent.keyed stored
    · intro first second left right readLeft readRight asset version
      obtain ⟨oldLeft, storedLeft, assetLeft, versionLeft, -⟩ := earlier readLeft
      obtain ⟨oldRight, storedRight, assetRight, versionRight, -⟩ := earlier readRight
      exact consistent.single storedLeft storedRight (by rw [← assetLeft, asset, assetRight])
        (by rw [← versionLeft, version, versionRight])
    · intro first second left right readLeft readRight asset managedLeft managedRight activeLeft activeRight
      rcases get?_set_cases readLeft with ⟨rfl, rfl⟩ | ⟨-, oldLeft⟩
      · rcases get?_set_cases readRight with ⟨rfl, -⟩ | ⟨-, oldRight⟩
        · rfl
        · rw [described.managed_withStatus] at managedLeft
          rw [described.status_withStatus] at activeLeft
          rw [described.asset_withStatus] at asset
          exact (sole managedLeft activeLeft _ _ oldRight managedRight asset.symm activeRight).symm
      · rcases get?_set_cases readRight with ⟨rfl, rfl⟩ | ⟨-, oldRight⟩
        · rw [described.managed_withStatus] at managedRight
          rw [described.status_withStatus] at activeRight
          rw [described.asset_withStatus] at asset
          exact sole managedRight activeRight _ _ oldLeft managedLeft asset activeLeft
        · exact consistent.sole oldLeft oldRight asset managedLeft managedRight activeLeft activeRight

theorem Preserves.refl (store : Dict K R) : described.Preserves store store :=
  fun _ record found managed => ⟨record, found, managed, rfl, rfl, rfl, id⟩

theorem Preserves.trans {first second third : Dict K R} (before : described.Preserves first second)
    (after : described.Preserves second third) : described.Preserves first third := by
  intro key record found managed
  obtain ⟨middle, kept, stays, asset, version, content, archived⟩ := before key record found managed
  obtain ⟨last, present, still, sameAsset, sameVersion, sameContent, ever⟩ := after key middle kept stays
  exact ⟨last, present, still, sameAsset.trans asset, sameVersion.trans version, sameContent.trans content,
    fun was => ever (archived was)⟩

theorem Change.preserves (change : described.Change store next) : described.Preserves store next := by
  intro key old found managed
  cases change with
  | record record unused unrecorded draft =>
    by_cases same : key = described.key record
    · subst same
      rw [(unused old found).1] at managed
      cases managed
    · exact ⟨old, by rw [Dict.get?_set_of_ne _ same, found], managed, rfl, rfl, rfl, id⟩
  | restate record status present archived sole =>
    by_cases same : key = described.key record
    · subst same
      rw [present] at found
      obtain rfl := Option.some.inj found
      refine ⟨_, Dict.get?_set_self _, ?_, ?_, ?_, ?_, ?_⟩
      · rw [described.managed_withStatus, managed]
      · exact described.asset_withStatus _ _
      · exact described.version_withStatus _ _
      · exact described.content_withStatus _ _
      · intro was
        rw [described.status_withStatus]
        exact archived managed was
    · exact ⟨old, by rw [Dict.get?_set_of_ne _ same, found], managed, rfl, rfl, rfl, id⟩

theorem Changes.consistent (changes : described.Changes store next) (consistent : described.Consistent store) :
    described.Consistent next := by
  induction changes with
  | refl => exact consistent
  | tail _ change ih => exact change.consistent ih

theorem Changes.preserves (changes : described.Changes store next) : described.Preserves store next := by
  induction changes with
  | refl => exact .refl store
  | tail _ change ih => exact ih.trans change.preserves

/-! ## Deprecating versions -/

variable (described) in
/-- The catalogue after a list of its records has been deprecated. -/
def deprecateAll (records : List R) (store : Dict K R) : Dict K R :=
  records.foldl (fun store record => store.set (described.key record) (described.withStatus record .deprecated)) store

variable {records : List R}

theorem get?_deprecateAll_of_not_mem (other : ∀ record ∈ records, described.key record ≠ key) :
    (described.deprecateAll records store).get? key = store.get? key := by
  induction records generalizing store with
  | nil => rfl
  | cons record rest ih =>
    have outside : ∀ record ∈ rest, described.key record ≠ key :=
      fun record member => other record (List.mem_cons_of_mem _ member)
    change (described.deprecateAll rest _).get? key = _
    rw [ih outside, Dict.get?_set_of_ne _ (other record List.mem_cons_self).symm]

theorem get?_deprecateAll_of_mem (distinct : (records.map described.key).Nodup) {record : R}
    (member : record ∈ records) :
    (described.deprecateAll records store).get? (described.key record) = some (described.withStatus record .deprecated) := by
  induction records generalizing store with
  | nil => cases member
  | cons head rest ih =>
    rw [List.map_cons, List.nodup_cons] at distinct
    change (described.deprecateAll rest _).get? _ = _
    rcases List.mem_cons.mp member with rfl | later
    · rw [get?_deprecateAll_of_not_mem, Dict.get?_set_self]
      rintro other among same
      exact distinct.1 (same ▸ List.mem_map_of_mem among)
    · exact ih distinct.2 later

theorem get?_deprecateAll_cases (distinct : (records.map described.key).Nodup) {found : R}
    (read : (described.deprecateAll records store).get? key = some found) :
    (∃ record ∈ records, described.key record = key ∧ found = described.withStatus record .deprecated) ∨
      (store.get? key = some found ∧ ∀ record ∈ records, described.key record ≠ key) := by
  by_cases among : ∃ record ∈ records, described.key record = key
  · obtain ⟨record, member, rfl⟩ := among
    rw [get?_deprecateAll_of_mem distinct member] at read
    exact Or.inl ⟨record, member, rfl, (Option.some.inj read).symm⟩
  · have other : ∀ record ∈ records, described.key record ≠ key :=
      fun record member same => among ⟨record, member, same⟩
    rw [get?_deprecateAll_of_not_mem other] at read
    exact Or.inr ⟨read, other⟩

/-- Records that stand under their keys have different keys. -/
theorem distinct_of_keyed (keyed : ∀ {key record}, store.get? key = some record → described.key record = key) :
    (store.values.map described.key).Nodup := by
  have keys : store.values.map described.key = store.entries.map Prod.fst := by
    rw [Dict.values, List.map_map]
    exact List.map_congr_left fun entry member => keyed (Dict.get?_of_mem member)
  rw [keys]
  exact store.nodup

theorem changes_deprecateAll (distinct : (records.map described.key).Nodup)
    (present : ∀ record ∈ records, store.get? (described.key record) = some record)
    (active : ∀ record ∈ records, described.status record = .active) :
    described.Changes store (described.deprecateAll records store) := by
  induction records generalizing store with
  | nil => exact .refl
  | cons head rest ih =>
    rw [List.map_cons, List.nodup_cons] at distinct
    have step : described.Change store
        (store.set (described.key head) (described.withStatus head .deprecated)) := by
      apply Change.restate head .deprecated (present head List.mem_cons_self)
      · intro _ was
        rw [active head List.mem_cons_self] at was
        cases was
      · intro _ impossible
        cases impossible
    refine .head step (ih distinct.2 ?_ ?_)
    · intro record member
      rw [Dict.get?_set_of_ne, present record (List.mem_cons_of_mem _ member)]
      intro same
      exact distinct.1 (same ▸ List.mem_map_of_mem member)
    · exact fun record member => active record (List.mem_cons_of_mem _ member)

end Described

end AiGovernance.Std
