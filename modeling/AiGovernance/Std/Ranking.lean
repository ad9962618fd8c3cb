import Mathlib.Data.List.MinMax
import Mathlib.Data.List.Pairwise
import Mathlib.Data.List.Sort

/-!
# Ranking by a key

`descending` sorts a list with the greatest key first, `ascending` with the
least, and both keep the order of equal keys. Where no two items have one key the order depends on the contents
alone, and two keys give one order exactly when they compare every pair alike.
The first acceptable item of the ascending order is the acceptable one of least key, and
among those of one key the earliest.
-/

namespace AiGovernance.Std.Ranking

open List

variable {α K L : Type} [LinearOrder K] [LinearOrder L]

/-- The items, greatest key first. -/
def descending (key : α → K) (items : List α) : List α :=
  items.insertionSort fun left right => key right ≤ key left

variable {key : α → K} {other : α → L} {items : List α}

theorem perm_descending : (descending key items).Perm items := perm_insertionSort _ items

variable {item : α}

theorem mem_descending : item ∈ descending key items ↔ item ∈ items := perm_descending.mem_iff

instance total_key (key : α → K) : Std.Total fun left right => key right ≤ key left where
  total left right := le_total (key right) (key left)

instance trans_key (key : α → K) : IsTrans α fun left right => key right ≤ key left where
  trans _ _ _ first second := second.trans first

theorem pairwise_descending : (descending key items).Pairwise fun left right => key right ≤ key left :=
  pairwise_insertionSort _ items

theorem strict_descending (distinct : (items.map key).Nodup) :
    (descending key items).Pairwise fun left right => key right < key left := by
  have apart : (descending key items).Pairwise fun left right => key left ≠ key right := by
    rw [← pairwise_map]
    exact (perm_descending.map key).nodup_iff.mpr distinct
  exact apart.imp₂ (fun _ _ different order => lt_of_le_of_ne order different.symm) pairwise_descending

theorem eq_descending {arranged : List α} (perm : arranged.Perm items)
    (strict : arranged.Pairwise fun left right => key right < key left) : arranged = descending key items := by
  have weak : arranged.Pairwise fun left right => key right ≤ key left := strict.imp le_of_lt
  have together : arranged.Perm (descending key items) := perm.trans perm_descending.symm
  have different : arranged.Pairwise fun left right => key left ≠ key right := strict.imp fun order => order.ne'
  have : Std.Symm fun left right => key left ≠ key right := ⟨fun _ _ unequal => unequal.symm⟩
  apply together.eq_of_pairwise _ weak pairwise_descending
  intro left right memberLeft memberRight first second
  have same : key left = key right := le_antisymm second first
  by_contra apart
  exact different.forall memberLeft (together.mem_iff.mpr memberRight) apart same

theorem filter_descending (distinct : (items.map key).Nodup) (keep : α → Bool) :
    (descending key items).filter keep = descending key (items.filter keep) :=
  eq_descending (perm_descending.filter keep) ((strict_descending distinct).sublist filter_sublist)

variable {others : List α}

theorem descending_of_perm (distinct : (items.map key).Nodup) (perm : items.Perm others) :
    descending key items = descending key others :=
  eq_descending (perm_descending.trans perm) (strict_descending distinct)

variable {β : Type}

theorem map_descending {image : α → β} {keyed : β → K} (same : ∀ item ∈ items, keyed (image item) = key item) :
    (descending key items).map image = descending keyed (items.map image) := by
  apply map_insertionSort
  intro left memberLeft right memberRight
  rw [same left memberLeft, same right memberRight]

/-- Two keys give one order exactly when they compare every two items alike. -/
theorem descending_eq_iff (distinct : (items.map key).Nodup) (apart : (items.map other).Nodup) :
    descending key items = descending other items ↔
      ∀ left ∈ items, ∀ right ∈ items, key left < key right ↔ other left < other right := by
  constructor
  · intro same left memberLeft right memberRight
    have first := strict_descending distinct
    have second : (descending key items).Pairwise fun left right => other right < other left :=
      same ▸ strict_descending apart
    have both := first.and second
    by_cases equal : left = right
    · rw [equal]
      exact iff_of_false (lt_irrefl _) (lt_irrefl _)
    · -- Of two different items one comes first, and has the greater of both keys.
      have compared : (key right < key left ∧ other right < other left) ∨
          (key left < key right ∧ other left < other right) := by
        have either : (descending key items).Pairwise fun left right =>
            (key right < key left ∧ other right < other left) ∨ (key left < key right ∧ other left < other right) :=
          both.imp Or.inl
        have : Std.Symm fun left right =>
            (key right < key left ∧ other right < other left) ∨ (key left < key right ∧ other left < other right) :=
          ⟨fun _ _ => Or.symm⟩
        exact either.forall (mem_descending.mpr memberLeft) (mem_descending.mpr memberRight) equal
      rcases compared with ⟨left, right⟩ | ⟨left, right⟩
      · exact iff_of_false left.asymm right.asymm
      · exact iff_of_true left right
  · intro alike
    apply eq_descending perm_descending
    refine (strict_descending distinct).imp_of_mem ?_
    intro left right memberLeft memberRight order
    exact (alike right (mem_descending.mp memberRight) left (mem_descending.mp memberLeft)).mp order

/-! ## Ascending order -/

/-- The items, least key first. -/
def ascending (key : α → K) (items : List α) : List α :=
  items.insertionSort fun left right => key left ≤ key right

theorem perm_ascending : (ascending key items).Perm items := perm_insertionSort _ items

theorem mem_ascending : item ∈ ascending key items ↔ item ∈ items := perm_ascending.mem_iff

theorem pairwise_ascending : (ascending key items).Pairwise fun left right => key left ≤ key right :=
  pairwise_insertionSort _ items

theorem strict_ascending (distinct : (items.map key).Nodup) :
    (ascending key items).Pairwise fun left right => key left < key right := by
  have dual : (items.map fun item => OrderDual.toDual (key item)).Nodup := distinct
  exact strict_descending dual

theorem eq_ascending {arranged : List α} (perm : arranged.Perm items)
    (strict : arranged.Pairwise fun left right => key left < key right) : arranged = ascending key items := by
  have dual : arranged.Pairwise fun left right => OrderDual.toDual (key right) < OrderDual.toDual (key left) := strict
  exact eq_descending perm dual

theorem ascending_of_perm (distinct : (items.map key).Nodup) (perm : items.Perm others) :
    ascending key items = ascending key others :=
  eq_ascending (perm_ascending.trans perm) (strict_ascending distinct)

theorem map_ascending {image : α → β} {keyed : β → K} (same : ∀ item ∈ items, keyed (image item) = key item) :
    (ascending key items).map image = ascending keyed (items.map image) := by
  apply map_insertionSort
  intro left memberLeft right memberRight
  rw [same left memberLeft, same right memberRight]

theorem ascending_eq_iff (distinct : (items.map key).Nodup) (apart : (items.map other).Nodup) :
    ascending key items = ascending other items ↔
      ∀ left ∈ items, ∀ right ∈ items, key left < key right ↔ other left < other right := by
  have dual : (items.map fun item => OrderDual.toDual (key item)).Nodup := distinct
  have otherDual : (items.map fun item => OrderDual.toDual (other item)).Nodup := apart
  have orders := descending_eq_iff dual otherDual
  exact orders.trans ⟨fun alike left memberLeft right memberRight => alike right memberRight left memberLeft,
    fun alike left memberLeft right memberRight => alike right memberRight left memberLeft⟩

/-- The item of the greatest key depends on the contents alone. -/
theorem argmax_of_perm (distinct : (items.map key).Nodup) (perm : items.Perm others) :
    items.argmax key = others.argmax key := by
  cases found : items.argmax key with
  | none =>
    rw [argmax_eq_none] at found
    subst found
    rw [nil_perm.mp perm]
    rfl
  | some best =>
    have member : best ∈ items := argmax_mem found
    cases elsewhere : others.argmax key with
    | none =>
      rw [argmax_eq_none] at elsewhere
      subst elsewhere
      rw [perm_nil.mp perm] at member
      cases member
    | some other =>
      have among : other ∈ items := perm.mem_iff.mpr (argmax_mem elsewhere)
      have same : key best = key other :=
        le_antisymm (le_of_mem_argmax (perm.mem_iff.mp member) elsewhere) (le_of_mem_argmax among found)
      rw [inj_on_of_nodup_map distinct member among same]

/-! ## The first acceptable item -/

theorem find?_insert (accepts : α → Bool) {sorted : List α}
    (order : sorted.Pairwise fun left right => key left ≤ key right) :
    (sorted.orderedInsert (fun left right => key left ≤ key right) item).find? accepts =
      if accepts item then
        match sorted.find? accepts with
        | none => some item
        | some first => if key item ≤ key first then some item else some first
      else sorted.find? accepts := by
  induction sorted with
  | nil => by_cases accepted : accepts item = true <;> simp [accepted]
  | cons head rest ih =>
    obtain ⟨least, order⟩ := pairwise_cons.mp order
    by_cases before : key item ≤ key head
    · have below : ∀ first, (head :: rest).find? accepts = some first → key item ≤ key first := by
        intro first found
        rcases mem_cons.mp (mem_of_find?_eq_some found) with rfl | member
        · exact before
        · exact before.trans (least first member)
      rw [orderedInsert_cons, if_pos before, find?_cons]
      by_cases accepted : accepts item = true
      · cases found : (head :: rest).find? accepts with
        | none => simp [accepted]
        | some first => simp [accepted, below first found]
      · simp [accepted]
    · rw [orderedInsert_cons, if_neg before, find?_cons, find?_cons, ih order]
      by_cases accepted : accepts head = true
      · simp [accepted, before]
      · simp [accepted]

theorem find?_ascending_cons (accepts : α → Bool) (head : α) (rest : List α) :
    (ascending key (head :: rest)).find? accepts =
      if accepts head then
        match (ascending key rest).find? accepts with
        | none => some head
        | some first => if key head ≤ key first then some head else some first
      else (ascending key rest).find? accepts :=
  find?_insert accepts pairwise_ascending

/-- The item is acceptable, every acceptable item before it in the list has a greater key,
and none after it a smaller one. -/
def Leads (key : α → K) (accepts : α → Bool) (items : List α) (item : α) : Prop :=
  ∃ before after, items = before ++ item :: after ∧ accepts item = true ∧
    (∀ earlier ∈ before, accepts earlier = true → key item < key earlier) ∧
    ∀ later ∈ after, accepts later = true → key item ≤ key later

theorem leads_cons {accepts : α → Bool} {head : α} {rest : List α} :
    Leads key accepts (head :: rest) item ↔
      (item = head ∧ accepts head = true ∧ ∀ later ∈ rest, accepts later = true → key head ≤ key later) ∨
        (Leads key accepts rest item ∧ (accepts head = true → key item < key head)) := by
  constructor
  · rintro ⟨before, after, same, accepted, greater, least⟩
    cases before with
    | nil =>
      cases same
      exact .inl ⟨rfl, accepted, least⟩
    | cons first before =>
      cases same
      exact .inr ⟨⟨before, after, rfl, accepted,
        fun earlier member => greater earlier (mem_cons_of_mem _ member), least⟩,
        greater head mem_cons_self⟩
  · rintro (⟨rfl, accepted, least⟩ | ⟨⟨before, after, rfl, accepted, greater, least⟩, above⟩)
    · exact ⟨[], rest, rfl, accepted, by simp, least⟩
    · refine ⟨head :: before, after, rfl, accepted, ?_, least⟩
      intro earlier member acceptable
      rcases mem_cons.mp member with rfl | member
      · exact above acceptable
      · exact greater earlier member acceptable

/-- The first acceptable item in ascending order is the one that leads. -/
theorem find?_ascending {accepts : α → Bool} :
    (ascending key items).find? accepts = some item ↔ Leads key accepts items item := by
  induction items generalizing item with
  | nil => simp [ascending, Leads]
  | cons head rest ih =>
    rw [find?_ascending_cons, leads_cons, ← ih]
    by_cases accepted : accepts head = true
    · cases other : (ascending key rest).find? accepts with
      | none =>
        have refused : ∀ later ∈ rest, ¬ accepts later = true := fun later member =>
          find?_eq_none.mp other later (mem_ascending.mpr member)
        have least : ∀ later ∈ rest, accepts later = true → key head ≤ key later :=
          fun later member acceptable => absurd acceptable (refused later member)
        simp only [accepted, if_true, Option.some.injEq, true_and, reduceCtorEq, false_and, or_false]
        constructor
        · rintro rfl
          exact ⟨rfl, least⟩
        · rintro ⟨rfl, -⟩
          rfl
      | some first =>
        have member : first ∈ rest := mem_ascending.mp (mem_of_find?_eq_some other)
        obtain ⟨before, after, same, acceptable, greater, least⟩ := ih.mp other
        have bound : ∀ later ∈ rest, accepts later = true → key first ≤ key later := by
          intro later member acceptable
          rw [same, mem_append, mem_cons] at member
          rcases member with member | rfl | member
          · exact (greater later member acceptable).le
          · exact le_rfl
          · exact least later member acceptable
        by_cases below : key head ≤ key first
        · have least : ∀ later ∈ rest, accepts later = true → key head ≤ key later :=
            fun later member acceptable => below.trans (bound later member acceptable)
          have none : ¬ (first = item ∧ key item < key head) := by
            rintro ⟨rfl, less⟩
            exact absurd below (not_le.mpr less)
          simp only [accepted, if_true, below, Option.some.injEq, true_and, forall_const]
          constructor
          · rintro rfl
            exact .inl ⟨rfl, least⟩
          · rintro (⟨rfl, -⟩ | less)
            · rfl
            · exact absurd less none
        · have notLeast : ¬ ∀ later ∈ rest, accepts later = true → key head ≤ key later :=
            fun least => below (least first member acceptable)
          simp only [accepted, if_true, below, if_false, Option.some.injEq, true_and, forall_const]
          constructor
          · rintro rfl
            exact .inr ⟨rfl, not_le.mp below⟩
          · rintro (⟨-, least⟩ | ⟨same, -⟩)
            · exact absurd least notLeast
            · exact same
    · simp [accepted]

/-! ## What is seen of a ranking -/

theorem map_key_of_perm (perm : items.Perm others) :
    (ascending key items).map key = (ascending key others).map key := by
  have sorted : ∀ list : List α, ((ascending key list).map key).Pairwise (· ≤ ·) := fun _ =>
    pairwise_map.mpr pairwise_ascending
  have together : ((ascending key items).map key).Perm ((ascending key others).map key) :=
    (perm_ascending.trans (perm.trans perm_ascending.symm)).map key
  exact together.eq_of_pairwise (fun _ _ _ _ => le_antisymm) (sorted items) (sorted others)

theorem ascending_id_of_perm {keys others : List K} (perm : keys.Perm others) :
    ascending id keys = ascending id others := by
  have seen : (ascending id keys).map id = (ascending id others).map id := map_key_of_perm perm
  simpa using seen

omit [LinearOrder K] in
/-- Lists with the same keys look the same if keys decide how items look. -/
theorem map_eq_of_keys {image : α → β} {left right : List α} (keys : left.map key = right.map key)
    (decided : ∀ first ∈ left, ∀ second ∈ right, key first = key second → image first = image second) :
    left.map image = right.map image := by
  induction left generalizing right with
  | nil =>
    obtain rfl := map_eq_nil_iff.mp keys.symm
    rfl
  | cons first rest ih =>
    cases right with
    | nil => cases keys
    | cons second others =>
      obtain ⟨same, later⟩ := List.cons.inj keys
      rw [map_cons, map_cons, decided first mem_cons_self second mem_cons_self same,
        ih later fun one memberOne other memberOther =>
          decided one (mem_cons_of_mem _ memberOne) other (mem_cons_of_mem _ memberOther)]

/-- Two items of one key at the head of a list stand side by side in its ranking. -/
theorem ascending_pair {bound : K} {left right : α} (first : key left = bound) (second : key right = bound)
    (rest : List α) : ascending key (left :: right :: rest) =
      (ascending key rest).takeWhile (fun item => ¬ bound ≤ key item) ++
        left :: right :: (ascending key rest).dropWhile fun item => ¬ bound ≤ key item := by
  have inserted : ascending key (left :: right :: rest) =
      ((ascending key rest).orderedInsert (fun left right => key left ≤ key right) right).orderedInsert
        (fun left right => key left ≤ key right) left := rfl
  have below : ∀ item ∈ (ascending key rest).takeWhile (fun item => decide ¬ bound ≤ key item),
      decide (¬ bound ≤ key item) = true :=
    all_eq_true.mp all_takeWhile
  rw [inserted, orderedInsert_eq_take_drop, orderedInsert_eq_take_drop, first, second,
    takeWhile_append_of_pos below, dropWhile_append_of_pos below]
  simp [second]

omit [LinearOrder K] in
theorem exists_perm_cons (member : item ∈ items) : ∃ rest, items.Perm (item :: rest) := by
  obtain ⟨before, after, rfl⟩ := append_of_mem member
  exact ⟨before ++ after, perm_middle⟩

/-- What is seen of a ranking depends on the contents alone exactly when items of one key look alike. -/
theorem map_ascending_stable_iff {image : α → β} :
    (∀ others, items.Perm others → (ascending key others).map image = (ascending key items).map image) ↔
      ∀ left ∈ items, ∀ right ∈ items, key left = key right → image left = image right := by
  constructor
  · intro stable left memberLeft right memberRight same
    obtain ⟨others, first⟩ := exists_perm_cons memberLeft
    rcases mem_cons.mp (first.mem_iff.mp memberRight) with rfl | member
    · rfl
    · obtain ⟨rest, second⟩ := exists_perm_cons member
      have together := first.trans (second.cons left)
      have seen := (stable _ together).trans (stable _ (together.trans (List.Perm.swap right left rest))).symm
      rw [ascending_pair same rfl, ascending_pair rfl same, map_append, map_append] at seen
      exact (List.cons.inj (append_cancel_left seen)).1
  · intro alike others perm
    refine map_eq_of_keys (map_key_of_perm perm).symm fun left memberLeft right memberRight => ?_
    exact alike left (perm.mem_iff.mpr (mem_ascending.mp memberLeft)) right (mem_ascending.mp memberRight)

end AiGovernance.Std.Ranking
