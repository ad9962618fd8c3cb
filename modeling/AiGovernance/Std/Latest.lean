import Mathlib.Data.List.Basic

/-!
# The last word of a list

A loop that overwrites what it keeps is decided by the last item that has
something to say. `latest` is that word, and a fold whose every step either
overwrites an observation or leaves it alone ends with it.
-/

namespace AiGovernance.Std

variable {α T S Error : Type} {read : α → Option T}

/-- What the last item that reads as something reads as. -/
def latest (read : α → Option T) : List α → Option T
  | [] => none
  | item :: rest => (latest read rest).or (read item)

@[simp] theorem latest_nil : latest read [] = none := rfl

@[simp] theorem latest_cons {item : α} {rest : List α} :
    latest read (item :: rest) = (latest read rest).or (read item) := rfl

variable {items : List α}

theorem latest_eq_none : latest read items = none ↔ ∀ item ∈ items, read item = none := by
  induction items with
  | nil => simp
  | cons item rest ih =>
    rw [latest_cons, Option.or_eq_none_iff, ih, List.forall_mem_cons, and_comm]

theorem mem_of_latest {value : T} (last : latest read items = some value) : ∃ item ∈ items, read item = some value := by
  induction items with
  | nil => cases last
  | cons item rest ih =>
    rcases Option.or_eq_some_iff.mp last with later | ⟨-, here⟩
    · obtain ⟨other, member, reads⟩ := ih later
      exact ⟨other, List.mem_cons_of_mem _ member, reads⟩
    · exact ⟨item, List.mem_cons_self, here⟩

/-- A last word that says something is the last thing said. -/
theorem latest_join {read : α → Option (Option T)} {value : T} (last : latest read items = some (some value)) :
    latest (fun item => (read item).join) items = some value := by
  induction items with
  | nil => cases last
  | cons item rest ih =>
    rw [latest_cons]
    rcases Option.or_eq_some_iff.mp last with later | ⟨silent, here⟩
    · rw [ih later]
      rfl
    · have nothing : latest (fun item => (read item).join) rest = none := by
        rw [latest_eq_none] at silent ⊢
        intro other member
        rw [silent other member]
        rfl
      rw [nothing, here]
      rfl

/-- Reading more of every item reads more of the last word. -/
theorem latest_map {U : Type} (image : T → U) :
    latest (fun item => (read item).map image) items = (latest read items).map image := by
  induction items with
  | nil => rfl
  | cons item rest ih =>
    rw [latest_cons, latest_cons, ih]
    cases latest read rest <;> rfl

section Folds

variable (read : α → Option T) (observe : S → T)

/-- A fold that overwrites an observation ends with the last word about it. -/
theorem foldl_latest {step : S → α → S}
    (each : ∀ state item, observe (step state item) = (read item).getD (observe state))
    (items : List α) (state : S) : observe (items.foldl step state) = (latest read items).getD (observe state) := by
  induction items generalizing state with
  | nil => rfl
  | cons item rest ih =>
    rw [List.foldl_cons, ih, each, latest_cons, Option.getD_or]

theorem foldlM_latest {step : S → α → Except Error S}
    (each : ∀ state item next, step state item = .ok next → observe next = (read item).getD (observe state))
    (items : List α) {state final : S} (ends : items.foldlM step state = .ok final) :
    observe final = (latest read items).getD (observe state) := by
  induction items generalizing state with
  | nil =>
    cases ends
    rfl
  | cons item rest ih =>
    rw [List.foldlM_cons] at ends
    cases first : step state item with
    | error raised =>
      rw [first] at ends
      cases ends
    | ok next =>
      rw [first] at ends
      rw [ih ends, each state item next first, latest_cons, Option.getD_or]

end Folds

/-- A fold succeeds exactly when no step can fail. -/
theorem foldlM_succeeds (step : S → α → Except Error S) (accepts : α → Prop)
    (each : ∀ state item, (∃ next, step state item = .ok next) ↔ accepts item) (state : S) :
    (∃ final, items.foldlM step state = .ok final) ↔ ∀ item ∈ items, accepts item := by
  induction items generalizing state with
  | nil => exact ⟨fun _ _ member => absurd member List.not_mem_nil, fun _ => ⟨state, rfl⟩⟩
  | cons item rest ih =>
    rw [List.foldlM_cons, List.forall_mem_cons, ← each state item]
    cases first : step state item with
    | error raised =>
      constructor
      · rintro ⟨final, ends⟩
        cases ends
      · rintro ⟨⟨next, goes⟩, -⟩
        cases goes
    | ok next =>
      rw [← ih next]
      exact ⟨fun ends => ⟨⟨next, rfl⟩, ends⟩, And.right⟩

end AiGovernance.Std
