import Mathlib.Data.List.Nodup
import Mathlib.Data.List.Sort

/-!
# Insertion-ordered dictionaries

`Dict` is a finite map that keeps its keys in the order they were first
written: overwriting a key keeps its place, a new key goes to the end. Reads
go through `Dict.get?`; enumeration goes through `Dict.values`. The two views
are tied together by `Dict.mem_values_iff`.
-/

namespace AiGovernance.Std

open List

/-- A finite map whose keys are distinct and ordered by first insertion. -/
structure Dict (K V : Type) where
  entries : List (K × V)
  nodup : (entries.map Prod.fst).Nodup

namespace Dict

variable {K V : Type} [DecidableEq K]

/-- Overwrite `key` in place, or append it when it is absent. -/
def write : List (K × V) → K → V → List (K × V)
  | [], key, value => [(key, value)]
  | (other, kept) :: rest, key, value =>
    if other = key then (key, value) :: rest else (other, kept) :: write rest key value

/-- The value of the first entry stored under `key`. -/
def lookup : List (K × V) → K → Option V
  | [], _ => none
  | (other, value) :: rest, key => if other = key then some value else lookup rest key

variable {key other : K} {value : V} {entries : List (K × V)}

theorem mem_keys_write :
    other ∈ (write entries key value).map Prod.fst ↔
      other = key ∨ other ∈ entries.map Prod.fst := by
  induction entries with
  | nil => simp [write]
  | cons entry rest ih =>
    obtain ⟨head, kept⟩ := entry
    by_cases same : head = key
    · subst same
      simp [write]
    · simp only [write, if_neg same, map_cons, mem_cons, ih]
      tauto

theorem nodup_write (distinct : (entries.map Prod.fst).Nodup) : ((write entries key value).map Prod.fst).Nodup := by
  induction entries with
  | nil => simp [write]
  | cons entry rest ih =>
    obtain ⟨head, kept⟩ := entry
    simp only [map_cons, nodup_cons] at distinct
    by_cases same : head = key
    · subst same
      simpa [write] using distinct
    · simp only [write, if_neg same, map_cons, nodup_cons]
      refine ⟨?_, ih distinct.2⟩
      rw [mem_keys_write]
      rintro (equal | member)
      · exact same equal
      · exact distinct.1 member

theorem lookup_write :
    lookup (write entries key value) other =
      if other = key then some value else lookup entries other := by
  induction entries with
  | nil =>
    simp only [write, lookup]
    by_cases same : other = key
    · simp [same]
    · simp [same, Ne.symm same]
  | cons entry rest ih =>
    obtain ⟨head, kept⟩ := entry
    by_cases headKey : head = key
    · subst headKey
      by_cases same : other = head
      · subst same
        simp [write, lookup]
      · simp [write, lookup, same, Ne.symm same]
    · by_cases headOther : head = other
      · subst headOther
        simp [write, lookup, headKey]
      · simp [write, lookup, headKey, headOther, ih]

theorem lookup_eq_some_iff (distinct : (entries.map Prod.fst).Nodup) :
    lookup entries key = some value ↔ (key, value) ∈ entries := by
  induction entries with
  | nil => simp [lookup]
  | cons entry rest ih =>
    obtain ⟨head, kept⟩ := entry
    simp only [map_cons, nodup_cons] at distinct
    by_cases same : head = key
    · subst same
      have absent : (head, value) ∉ rest := fun member =>
        distinct.1 (mem_map_of_mem member)
      simp [lookup, absent, eq_comm]
    · simp [lookup, same, ih distinct.2, Ne.symm same]

/-- The dictionary with no key. -/
def empty : Dict K V := ⟨[], by simp⟩

/-- The value stored under `key`. -/
def get? (dict : Dict K V) (key : K) : Option V := lookup dict.entries key

/-- Store `value` under `key`, replacing what was there. -/
def set (dict : Dict K V) (key : K) (value : V) : Dict K V :=
  ⟨write dict.entries key value, nodup_write dict.nodup⟩

/-- The stored values, in the order their keys were first written. -/
def values (dict : Dict K V) : List V := dict.entries.map Prod.snd

@[simp] theorem get?_empty : (empty : Dict K V).get? key = none := rfl

theorem get?_set (dict : Dict K V) :
    (dict.set key value).get? other = if other = key then some value else dict.get? other :=
  lookup_write

@[simp] theorem get?_set_self (dict : Dict K V) : (dict.set key value).get? key = some value := by
  simp [get?_set]

theorem get?_set_of_ne (dict : Dict K V) (different : other ≠ key) :
    (dict.set key value).get? other = dict.get? other := by
  simp [get?_set, different]

variable {dict : Dict K V}

/-- A key that was absent before a write leaves every stored entry readable. -/
theorem get?_set_of_some {kept : V} (absent : dict.get? key = none) (found : dict.get? other = some kept) :
    (dict.set key value).get? other = some kept := by
  rw [get?_set_of_ne, found]
  rintro rfl
  rw [absent] at found
  cases found

theorem keyed_set (dict : Dict K V) {name : V → K}
    (keyed : ∀ {other stored}, dict.get? other = some stored → name stored = other) (named : name value = key)
    {stored : V} (found : (dict.set key value).get? other = some stored) : name stored = other := by
  rw [get?_set] at found
  split at found
  · rename_i same
    cases found
    rw [named, same]
  · exact keyed found

theorem get?_of_mem {entry : K × V} (member : entry ∈ dict.entries) : dict.get? entry.1 = some entry.2 :=
  (lookup_eq_some_iff dict.nodup).mpr member

theorem mem_of_get? (found : dict.get? key = some value) : (key, value) ∈ dict.entries :=
  (lookup_eq_some_iff dict.nodup).mp found

/-- Enumeration lists exactly the values that some key reads back. -/
theorem mem_values_iff (dict : Dict K V) (value : V) :
    value ∈ dict.values ↔ ∃ key, dict.get? key = some value := by
  unfold values get?
  constructor
  · intro member
    obtain ⟨⟨key, stored⟩, inEntries, rfl⟩ := mem_map.mp member
    exact ⟨key, (lookup_eq_some_iff dict.nodup).mpr inEntries⟩
  · rintro ⟨key, found⟩
    exact mem_map.mpr ⟨(key, value), (lookup_eq_some_iff dict.nodup).mp found, rfl⟩

theorem nodup_values_of_keyed (name : V → K) (keyed : ∀ {key value}, dict.get? key = some value → name value = key) :
    dict.values.Nodup := by
  have keys : dict.values.map name = dict.entries.map Prod.fst := by
    rw [values, map_map]
    exact map_congr_left fun entry member => keyed (get?_of_mem member)
  have distinct := dict.nodup
  rw [← keys] at distinct
  exact distinct.of_map _

theorem write_of_lookup_none (absent : lookup entries key = none) :
    write entries key value = entries ++ [(key, value)] := by
  induction entries with
  | nil => rfl
  | cons entry rest ih =>
    obtain ⟨head, kept⟩ := entry
    by_cases same : head = key
    · simp [lookup, same] at absent
    · simp only [lookup, same, if_false] at absent
      simp [write, same, ih absent]

theorem values_set_of_absent (absent : dict.get? key = none) :
    (dict.set key value).values = dict.values ++ [value] := by
  simp only [values, set, write_of_lookup_none absent, map_append, map_cons, map_nil]

theorem write_of_lookup_some {old : V} (present : lookup entries key = some old) :
    ∃ before after, entries = before ++ (key, old) :: after ∧
      ∀ value, write entries key value = before ++ (key, value) :: after := by
  induction entries with
  | nil => cases present
  | cons entry rest ih =>
    obtain ⟨head, kept⟩ := entry
    by_cases same : head = key
    · simp only [lookup, same, if_true, Option.some.injEq] at present
      refine ⟨[], rest, ?_, fun value => ?_⟩
      · rw [same, present]
        rfl
      · simp [write, same]
    · simp only [lookup, same, if_false] at present
      obtain ⟨before, after, shape, written⟩ := ih present
      refine ⟨(head, kept) :: before, after, ?_, fun value => ?_⟩
      · rw [shape]
        rfl
      · simp [write, same, written]

theorem values_set_of_present {old : V} (present : dict.get? key = some old) :
    ∃ before after, dict.values = before ++ old :: after ∧
      ∀ value, (dict.set key value).values = before ++ value :: after := by
  obtain ⟨before, after, shape, written⟩ := write_of_lookup_some present
  refine ⟨before.map Prod.snd, after.map Prod.snd, ?_, fun value => ?_⟩
  · simp [values, shape]
  · simp [values, set, written value]

theorem keys_set_of_absent (absent : dict.get? key = none) :
    (dict.set key value).entries.map Prod.fst = dict.entries.map Prod.fst ++ [key] := by
  simp only [set, write_of_lookup_none absent, map_append, map_cons, map_nil]

theorem keys_set_of_present {old : V} (present : dict.get? key = some old) :
    (dict.set key value).entries.map Prod.fst = dict.entries.map Prod.fst := by
  obtain ⟨before, after, shape, written⟩ := write_of_lookup_some present
  rw [show (dict.set key value).entries = _ from written value, shape, map_append, map_append]
  rfl

theorem not_mem_keys_of_get? (absent : dict.get? key = none) : key ∉ dict.entries.map Prod.fst := by
  intro member
  obtain ⟨entry, held, rfl⟩ := mem_map.mp member
  rw [get?_of_mem held] at absent
  cases absent

/-- A value written where it reads like the old one, or like nothing where there was none, changes no
reading of the values. -/
theorem filterMap_values_set {T : Type} {read : V → Option T} (same : read value = (dict.get? key).bind read) :
    (dict.set key value).values.filterMap read = dict.values.filterMap read := by
  cases found : dict.get? key with
  | none =>
    rw [found] at same
    rw [values_set_of_absent found, filterMap_append]
    simp only [filterMap_cons, same, Option.bind_none, filterMap_nil, append_nil]
  | some old =>
    rw [found, Option.bind_some] at same
    obtain ⟨before, after, shape, written⟩ := values_set_of_present found
    rw [written, shape]
    simp only [filterMap_append, filterMap_cons, same]

/-- A dictionary that holds the image of every value of another has the images as its values. -/
theorem values_perm_map {W : Type} {image : Dict K W} {f : V → W}
    (pointwise : ∀ key, image.get? key = (dict.get? key).map f) : image.values.Perm (dict.values.map f) := by
  have entries : image.entries.Perm (dict.entries.map fun entry => (entry.1, f entry.2)) := by
    have imageNodup : image.entries.Nodup := List.Nodup.of_map Prod.fst image.nodup
    have mappedNodup : (dict.entries.map fun entry => (entry.1, f entry.2)).Nodup := by
      apply List.Nodup.of_map Prod.fst
      rw [map_map]
      exact dict.nodup
    refine (perm_ext_iff_of_nodup imageNodup mappedNodup).mpr fun ⟨key, value⟩ => ?_
    have written := pointwise key
    constructor
    · intro member
      rw [get?_of_mem member, eq_comm, Option.map_eq_some_iff] at written
      obtain ⟨original, found, rfl⟩ := written
      exact mem_map.mpr ⟨(key, original), mem_of_get? found, rfl⟩
    · intro member
      obtain ⟨⟨other, original⟩, inside, same⟩ := mem_map.mp member
      cases same
      rw [get?_of_mem inside] at written
      exact mem_of_get? written
  have values := entries.map Prod.snd
  rw [map_map] at values
  have images : (dict.entries.map Prod.snd).map f =
      dict.entries.map (Prod.snd ∘ fun entry => (entry.1, f entry.2)) := by
    rw [map_map]
    rfl
  unfold Dict.values
  rw [images]
  exact values

/-! ## Restriction to the entries with a wanted value -/

/-- The entries whose value is wanted, in their order. -/
def restrict (keep : V → Bool) (dict : Dict K V) : Dict K V :=
  ⟨dict.entries.filter fun entry => keep entry.2,
    dict.nodup.sublist (List.filter_sublist.map Prod.fst)⟩

omit [DecidableEq K] in
theorem values_restrict (keep : V → Bool) : (dict.restrict keep).values = dict.values.filter keep := by
  simp only [values, restrict, filter_map]
  rfl

theorem get?_restrict (keep : V → Bool) : (dict.restrict keep).get? key = (dict.get? key).filter keep := by
  refine Option.ext fun value => ?_
  rw [Option.filter_eq_some_iff, get?, get?, lookup_eq_some_iff (dict.restrict keep).nodup,
    lookup_eq_some_iff dict.nodup]
  exact mem_filter

variable {keep : V → Bool}

theorem filter_write_of_keep (kept : keep value = true)
    (replaced : ∀ old, lookup entries key = some old → keep old = true) :
    (write entries key value).filter (fun entry => keep entry.2) =
      write (entries.filter fun entry => keep entry.2) key value := by
  induction entries with
  | nil => simp [write, kept]
  | cons entry rest ih =>
    obtain ⟨head, old⟩ := entry
    by_cases same : head = key
    · subst same
      have wanted := replaced old (by simp [lookup])
      simp [write, kept, wanted]
    · have tail := ih fun other found => replaced other (by simpa [lookup, same] using found)
      by_cases wanted : keep old = true
      · simp [write, same, wanted, tail]
      · simp [write, same, wanted, tail]

theorem filter_write_of_drop (dropped : keep value = false)
    (replaced : ∀ old, lookup entries key = some old → keep old = false) :
    (write entries key value).filter (fun entry => keep entry.2) =
      entries.filter fun entry => keep entry.2 := by
  induction entries with
  | nil => simp [write, dropped]
  | cons entry rest ih =>
    obtain ⟨head, old⟩ := entry
    by_cases same : head = key
    · subst same
      have unwanted := replaced old (by simp [lookup])
      simp [write, dropped, unwanted]
    · have tail := ih fun other found => replaced other (by simpa [lookup, same] using found)
      simp [write, same, filter_cons, tail]

/-- A wanted value written over nothing, or over a wanted value, is written in the restriction. -/
theorem restrict_set_of_keep (kept : keep value = true) (replaced : ∀ old, dict.get? key = some old → keep old = true) :
    (dict.set key value).restrict keep = (dict.restrict keep).set key value := by
  simp only [restrict, set, filter_write_of_keep kept replaced]

/-- An unwanted value written over nothing, or over an unwanted value, leaves the restriction. -/
theorem restrict_set_of_drop (dropped : keep value = false)
    (replaced : ∀ old, dict.get? key = some old → keep old = false) :
    (dict.set key value).restrict keep = dict.restrict keep := by
  simp only [restrict, set, filter_write_of_drop dropped replaced]

/-! ## Removal of a key -/

/-- Remove a key. -/
def erase (dict : Dict K V) (key : K) : Dict K V :=
  ⟨dict.entries.filter fun entry => entry.1 ≠ key, dict.nodup.sublist (List.filter_sublist.map Prod.fst)⟩

theorem get?_erase : (dict.erase key).get? other = if other = key then none else dict.get? other := by
  refine Option.ext fun value => ?_
  rw [get?, lookup_eq_some_iff (dict.erase key).nodup]
  simp only [erase, mem_filter, decide_eq_true_eq]
  by_cases same : other = key
  · simp [same]
  · rw [if_neg same, get?, lookup_eq_some_iff dict.nodup]
    simp [same]

end Dict

end AiGovernance.Std
