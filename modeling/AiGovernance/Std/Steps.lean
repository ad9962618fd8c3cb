import Mathlib.Data.List.Forall2
import Mathlib.Data.List.Perm.Basic

/-!
# Sequences of fallible steps

A list is worked through item by item until a step fails. All results are there
exactly when every step gives its own.
-/

namespace AiGovernance.Std

variable {α β Payload Error : Type} {step : α → Except Error β} {items others : List α} {results : List β}

theorem mapM_eq_ok_iff :
    items.mapM step = .ok results ↔ List.Forall₂ (fun item result => step item = .ok result) items results := by
  induction items generalizing results with
  | nil =>
    rw [List.mapM_nil]
    constructor
    · intro same
      cases same
      exact .nil
    · intro each
      cases each
      rfl
  | cons item rest ih =>
    rw [List.mapM_cons]
    constructor
    · intro collected
      cases first : step item with
      | error raised =>
        rw [first] at collected
        cases collected
      | ok result =>
        cases later : rest.mapM step with
        | error raised =>
          rw [first, later] at collected
          cases collected
        | ok others =>
          rw [first, later] at collected
          cases collected
          exact .cons first (ih.mp later)
    · intro each
      cases each with
      | cons first later =>
        rw [first, ih.mpr later]
        rfl

theorem mapM_succeeds (each : ∀ item ∈ items, ∃ result, step item = .ok result) :
    ∃ results, items.mapM step = .ok results := by
  induction items with
  | nil => exact ⟨[], rfl⟩
  | cons item rest ih =>
    obtain ⟨result, first⟩ := each item List.mem_cons_self
    obtain ⟨others, later⟩ := ih fun other member => each other (List.mem_cons_of_mem _ member)
    exact ⟨result :: others, by rw [List.mapM_cons, first, later]; rfl⟩

theorem mapM_of_perm (perm : items.Perm others) (collected : items.mapM step = .ok results) :
    ∃ rest, others.mapM step = .ok rest ∧ results.Perm rest := by
  obtain ⟨rest, each, same⟩ := List.perm_comp_forall₂ perm.symm (mapM_eq_ok_iff.mp collected)
  exact ⟨rest, mapM_eq_ok_iff.mpr each, same.symm⟩

/-- What each result shows of its item, the results show of the items. -/
theorem map_of_mapM {γ : Type} {image : α → γ} {shown : β → γ}
    (same : ∀ item result, step item = .ok result → shown result = image item)
    (collected : items.mapM step = .ok results) : results.map shown = items.map image := by
  have each := mapM_eq_ok_iff.mp collected
  induction each with
  | nil => rfl
  | cons first later ih =>
    rw [List.map_cons, List.map_cons, same _ _ first, ih (mapM_eq_ok_iff.mpr later)]

theorem mapM_written {write : α → Payload} {read : Payload → Except Error β} {result : α → β}
    (reads : ∀ item ∈ items, read (write item) = .ok (result item)) :
    (items.map write).mapM read = .ok (items.map result) := by
  induction items with
  | nil => rfl
  | cons item rest ih =>
    rw [List.map_cons, List.mapM_cons, reads item List.mem_cons_self,
      ih fun other member => reads other (List.mem_cons_of_mem _ member)]
    rfl

/-- Items that are each read back as written are read back as a list. -/
theorem mapM_readBack {write : α → Payload} {read : Payload → Except Error α}
    (reads : ∀ item ∈ items, read (write item) = .ok item) : (items.map write).mapM read = .ok items := by
  have written : (items.map write).mapM read = .ok (items.map id) := mapM_written reads
  rwa [List.map_id] at written

end AiGovernance.Std
