import Mathlib.Data.List.Basic
import Mathlib.Data.List.Nodup
import Mathlib.Data.List.Perm.Basic

/-!
# Reading a listing page by page

A call takes the cursor the call before it gave, and gives a page and perhaps
another cursor. `collect` makes the whole chain of calls. `seek` is the common
kind of call: the first items past the cursor, and the key of the last of them.
It reads a listing faithfully exactly when every page ends where the keys past
its last item begin.
-/

namespace AiGovernance.Std.Paging

open List

variable {α C : Type}

/-- A page, and the cursor of the next one. -/
structure Page (α C : Type) where
  items : List α
  next : Option C

/-- What a chain of at most so many calls has listed when it ends; a call may fail. -/
def collect (fetch : Option C → Option (Page α C)) : Nat → Option C → Option (List α)
  | 0, _ => none
  | fuel + 1, cursor => do
      let page ← fetch cursor
      match page.next with
      | none => some page.items
      | some next => (collect fetch fuel (some next)).map (page.items ++ ·)

/-- The chain of calls from a cursor ends, and has listed the items. -/
def Yields (fetch : Option C → Option (Page α C)) (cursor : Option C) (items : List α) : Prop :=
  ∃ fuel, collect fetch fuel cursor = some items

section Chains

variable {fetch : Option C → Option (Page α C)} {cursor : Option C} {items : List α}

theorem yields_of_last {page : Page α C} (fetched : fetch cursor = some page) (last : page.next = none) :
    Yields fetch cursor items ↔ items = page.items := by
  constructor
  · rintro ⟨fuel, collected⟩
    cases fuel with
    | zero => cases collected
    | succ fuel =>
      simp only [collect, fetched, last, Option.bind_eq_bind, Option.bind_some, Option.some.injEq] at collected
      exact collected.symm
  · rintro rfl
    exact ⟨1, by simp only [collect, fetched, last, Option.bind_eq_bind, Option.bind_some]⟩

theorem yields_of_next {page : Page α C} {next : C} (fetched : fetch cursor = some page)
    (more : page.next = some next) :
    Yields fetch cursor items ↔ ∃ rest, Yields fetch (some next) rest ∧ items = page.items ++ rest := by
  constructor
  · rintro ⟨fuel, collected⟩
    cases fuel with
    | zero => cases collected
    | succ fuel =>
      simp only [collect, fetched, more, Option.bind_eq_bind, Option.bind_some, Option.map_eq_some_iff] at collected
      obtain ⟨rest, later, whole⟩ := collected
      exact ⟨rest, ⟨fuel, later⟩, whole.symm⟩
  · rintro ⟨rest, ⟨fuel, later⟩, rfl⟩
    refine ⟨fuel + 1, ?_⟩
    simp only [collect, fetched, more, later, Option.bind_eq_bind, Option.bind_some, Option.map_some]

/-- Calls that always give another cursor never come to an end. -/
theorem not_yields_of_endless (endless : ∀ cursor page, fetch cursor = some page → page.next.isSome = true) :
    ¬ Yields fetch cursor items := by
  rintro ⟨fuel, collected⟩
  induction fuel generalizing cursor items with
  | zero => cases collected
  | succ fuel ih =>
    cases fetched : fetch cursor with
    | none => simp [collect, fetched] at collected
    | some page =>
      obtain ⟨next, more⟩ := Option.isSome_iff_exists.mp (endless cursor page fetched)
      simp only [collect, fetched, more, Option.bind_eq_bind, Option.bind_some, Option.map_eq_some_iff] at collected
      obtain ⟨rest, later, -⟩ := collected
      exact ih later

end Chains

/-! ## Seeking past a key -/

section Seek

variable (limit : Nat) (past : C → α → Bool) (key : α → C)

/-- The items past a cursor. -/
def remaining (items : List α) : Option C → List α
  | none => items
  | some cursor => items.filter (past cursor)

/-- The first items past the cursor; an empty page is the last. -/
def seek (items : List α) (cursor : Option C) : Option (Page α C) :=
  let page := (remaining past items cursor).take limit
  some { items := page, next := page.getLast?.map key }

/-- At the end of every page the items past its last key are the ones that follow. -/
def Aligned (items : List α) : Prop :=
  ∀ start, limit ∣ start → ∀ last ∈ ((items.drop start).take limit).getLast?,
    items.filter (past (key last)) = items.drop (start + limit)

variable {limit past key} {items : List α}

theorem seek_some (cursor : C) : seek limit past key items (some cursor) =
    seek limit past key (items.filter (past cursor)) none := rfl

/-- Past a cursor that is past another one, the other one leaves out nothing. -/
theorem yields_filter (further : ∀ item cursor, past cursor item = true → ∀ other,
      past (key item) other = true → past cursor other = true) {bound cursor : C}
    (within : ∀ item, past cursor item = true → past bound item = true) {listed : List α} :
    Yields (seek limit past key items) (some cursor) listed ↔
      Yields (seek limit past key (items.filter (past bound))) (some cursor) listed := by
  have same : ∀ cursor, (∀ item, past cursor item = true → past bound item = true) →
      seek limit past key items (some cursor) = seek limit past key (items.filter (past bound)) (some cursor) := by
    intro cursor within
    have whole : remaining past items (some cursor) = remaining past (items.filter (past bound)) (some cursor) := by
      change items.filter (past cursor) = (items.filter (past bound)).filter (past cursor)
      rw [filter_filter]
      apply filter_congr
      intro item _
      by_cases beyond : past cursor item = true
      · rw [beyond, within item beyond, Bool.and_self]
      · rw [Bool.not_eq_true] at beyond
        rw [beyond, Bool.false_and]
    unfold seek
    rw [whole]
  unfold Yields
  apply exists_congr
  intro fuel
  induction fuel generalizing cursor listed with
  | zero => rfl
  | succ fuel ih =>
    have unfolded : ∀ fetch : Option C → Option (Page α C), collect fetch (fuel + 1) (some cursor) =
        (fetch (some cursor)).bind fun page =>
          match page.next with
          | none => some page.items
          | some next => (collect fetch fuel (some next)).map (page.items ++ ·) := fun _ => rfl
    rw [unfolded, unfolded, ← same cursor within]
    unfold seek
    rw [Option.bind_some, Option.bind_some]
    cases last : ((remaining past items (some cursor)).take limit).getLast? with
    | none => exact Iff.rfl
    | some item =>
      have beyond : past cursor item = true := by
        have member := mem_of_mem_take (mem_of_getLast? last)
        exact (mem_filter.mp member).2
      dsimp only [Option.map_some]
      rw [Option.map_eq_some_iff, Option.map_eq_some_iff]
      apply exists_congr
      intro rest
      exact and_congr_left' (ih fun other past => within other (further item cursor beyond other past))

theorem mem_of_yields {cursor : Option C} {listed : List α}
    (yields : Yields (seek limit past key items) cursor listed) : ∀ item ∈ listed, item ∈ items := by
  obtain ⟨fuel, collected⟩ := yields
  have inside : ∀ cursor, ∀ item ∈ (remaining past items cursor).take limit, item ∈ items := by
    intro cursor item member
    have kept := mem_of_mem_take member
    cases cursor with
    | none => exact kept
    | some cursor => exact mem_of_mem_filter kept
  induction fuel generalizing cursor listed with
  | zero => cases collected
  | succ fuel ih =>
    unfold collect seek at collected
    rw [Option.bind_eq_bind, Option.bind_some] at collected
    cases last : ((remaining past items cursor).take limit).getLast? with
    | none =>
      rw [last] at collected
      cases collected
      exact inside cursor
    | some item =>
      rw [last] at collected
      dsimp only [Option.map_some] at collected
      rw [Option.map_eq_some_iff] at collected
      obtain ⟨rest, later, rfl⟩ := collected
      intro other member
      rcases mem_append.mp member with first | second
      · exact inside cursor other first
      · exact ih later other second

/-- The first call takes the first page, and the calls after it read what is past its last item. -/
theorem yields_seek (positive : 0 < limit) (further : ∀ item cursor, past cursor item = true → ∀ other,
      past (key item) other = true → past cursor other = true) (nonempty : items ≠ []) {listed : List α} :
    ∃ last, ((items.take limit).getLast? = some last ∧ last ∈ items) ∧
      (Yields (seek limit past key items) none listed ↔
        ∃ rest, Yields (seek limit past key (items.filter (past (key last)))) none rest ∧
          listed = items.take limit ++ rest) := by
  have page : items.take limit ≠ [] := by
    rw [Ne, take_eq_nil_iff, not_or]
    exact ⟨Nat.ne_of_gt positive, nonempty⟩
  obtain ⟨last, isLast⟩ := Option.isSome_iff_exists.mp (getLast?_isSome.mpr page)
  refine ⟨last, ⟨isLast, mem_of_mem_take (mem_of_getLast? isLast)⟩, ?_⟩
  have fetched : seek limit past key items none = some ⟨items.take limit, some (key last)⟩ := by
    change some (Page.mk (items.take limit) ((items.take limit).getLast?.map key)) = _
    rw [isLast]
    rfl
  rw [yields_of_next fetched rfl]
  apply exists_congr
  intro rest
  apply and_congr_left'
  rw [yields_filter further fun _ past => past]
  -- The first call past the bound is the first call of the items past it.
  have first : ∀ fuel, collect (seek limit past key (items.filter (past (key last)))) fuel (some (key last)) =
      collect (seek limit past key (items.filter (past (key last)))) fuel none := by
    intro fuel
    have twice : seek limit past key (items.filter (past (key last))) (some (key last)) =
        seek limit past key (items.filter (past (key last))) none := by
      rw [seek_some, filter_filter]
      simp only [Bool.and_self]
    cases fuel with
    | zero => rfl
    | succ fuel =>
      unfold collect
      rw [twice]
  unfold Yields
  simp only [first]

theorem aligned_iff (further : ∀ item cursor, past cursor item = true → ∀ other,
      past (key item) other = true → past cursor other = true) {last : α}
    (isLast : (items.take limit).getLast? = some last) :
    Aligned limit past key items ↔
      items.filter (past (key last)) = items.drop limit ∧ Aligned limit past key (items.drop limit) := by
  -- Past an item that follows the first page, only what follows the first page is left.
  have within : items.filter (past (key last)) = items.drop limit → ∀ item ∈ items.drop limit,
      (items.drop limit).filter (past (key item)) = items.filter (past (key item)) := by
    intro cut item follows
    rw [← cut] at follows ⊢
    rw [filter_filter]
    apply filter_congr
    intro other _
    by_cases beyond : past (key item) other = true
    · rw [beyond, further item (key last) (mem_filter.mp follows).2 other beyond, Bool.and_self]
    · rw [Bool.not_eq_true] at beyond
      rw [beyond, Bool.false_and]
  constructor
  · intro aligned
    have cut : items.filter (past (key last)) = items.drop limit := by
      have first := aligned 0 (Nat.dvd_zero limit) last (by rw [drop_zero, isLast]; rfl)
      rwa [Nat.zero_add] at first
    refine ⟨cut, ?_⟩
    intro start whole item member
    have follows := mem_of_mem_drop (mem_of_mem_take (mem_of_getLast? member))
    rw [drop_drop] at member ⊢
    rw [within cut item follows, aligned (limit + start) ((Nat.dvd_add_right (Nat.dvd_refl limit)).mpr whole) item member, Nat.add_assoc]
  · rintro ⟨cut, aligned⟩
    intro start whole item member
    obtain ⟨pages, rfl⟩ := whole
    cases pages with
    | zero =>
      rw [Nat.mul_zero, drop_zero, isLast] at member
      cases member
      rw [Nat.mul_zero, Nat.zero_add]
      exact cut
    | succ pages =>
      rw [Nat.mul_succ, Nat.add_comm, ← drop_drop] at member
      have follows := mem_of_mem_drop (mem_of_mem_take (mem_of_getLast? member))
      rw [← within cut item follows, aligned (limit * pages) (Nat.dvd_mul_right limit pages) item member,
        drop_drop]
      congr 1
      rw [Nat.mul_succ]
      omega

/-- A chain that lists the items of a listing, in some order, lists them in its order, and is aligned. -/
theorem yields_perm_iff (positive : 0 < limit) (further : ∀ item cursor, past cursor item = true → ∀ other,
      past (key item) other = true → past cursor other = true) (strict : ∀ item, past (key item) item = false)
    {items listed : List α} (perm : listed.Perm items) (distinct : items.Nodup) :
    Yields (seek limit past key items) none listed ↔ items = listed ∧ Aligned limit past key items := by
  by_cases empty : items = []
  · subst empty
    obtain rfl : listed = [] := perm_nil.mp perm
    have last : seek limit past key [] none = some ⟨[], none⟩ := by
      unfold seek remaining
      rw [take_nil]
      rfl
    rw [yields_of_last last rfl]
    refine iff_of_true rfl ⟨rfl, ?_⟩
    intro start _ last member
    rw [drop_nil, take_nil] at member
    cases member
  · have first : ∃ last, ((items.take limit).getLast? = some last ∧ last ∈ items) ∧
        (Yields (seek limit past key items) none listed ↔
          ∃ rest, Yields (seek limit past key (items.filter (past (key last)))) none rest ∧
            listed = items.take limit ++ rest) := yields_seek positive further empty
    obtain ⟨last, ⟨isLast, member⟩, unfolded⟩ := first
    have shorter : (items.filter (past (key last))).length < items.length := by
      apply length_filter_lt_length_iff_exists.mpr
      exact ⟨last, member, by rw [strict last]; exact Bool.false_ne_true⟩
    have split : items.take limit ++ items.drop limit = items := take_append_drop limit items
    have apart : (items.filter (past (key last))).Nodup := distinct.filter _
    rw [unfolded, aligned_iff further isLast]
    constructor
    · rintro ⟨rest, yields, rfl⟩
      have others : rest.Perm (items.drop limit) := by
        have whole : (items.take limit ++ rest).Perm (items.take limit ++ items.drop limit) := by
          rw [split]
          exact perm
        exact (perm_append_left_iff _).mp whole
      have beyond : (items.drop limit).filter (past (key last)) = items.drop limit := by
        apply filter_eq_self.mpr
        intro item follows
        have seen := mem_of_yields yields item (others.mem_iff.mpr follows)
        exact (mem_filter.mp seen).2
      have parts : items.filter (past (key last)) =
          (items.take limit).filter (past (key last)) ++ items.drop limit := by
        conv_lhs => rw [← split, filter_append, beyond]
      -- Nothing of the first page is past its last item, or it would be listed twice.
      have behind : (items.take limit).filter (past (key last)) = [] := by
        cases ahead : (items.take limit).filter (past (key last)) with
        | nil => rfl
        | cons first others' =>
          have again : items.filter (past (key last)) ≠ [] := by
            rw [parts, ahead]
            exact cons_ne_nil _ _
          obtain ⟨_, -, next⟩ := yields_seek positive further again
          obtain ⟨later, -, relisted⟩ := next.mp yields
          have listedTwice : first ∈ rest := by
            obtain ⟨before, rfl⟩ := Nat.exists_eq_add_of_le' positive
            rw [relisted, parts, ahead, cons_append, take_succ_cons]
            exact mem_append_left _ mem_cons_self
          have early : first ∈ items.take limit := by
            apply mem_of_mem_filter
            rw [ahead]
            exact mem_cons_self
          exact absurd (others.mem_iff.mp listedTwice) (disjoint_take_drop distinct (Nat.le_refl _) early)
      have cut : items.filter (past (key last)) = items.drop limit := by
        rw [parts, behind, nil_append]
      rw [cut] at yields apart shorter
      obtain ⟨same, aligned⟩ := (yields_perm_iff positive further strict others apart).mp yields
      exact ⟨by rw [← same, split], cut, aligned⟩
    · rintro ⟨rfl, cut, aligned⟩
      rw [cut] at apart shorter ⊢
      exact ⟨_, (yields_perm_iff positive further strict (.refl _) apart).mpr ⟨rfl, aligned⟩, split.symm⟩
termination_by items.length

end Seek

end AiGovernance.Std.Paging
