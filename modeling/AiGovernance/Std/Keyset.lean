import AiGovernance.Std.Ranking

/-!
# Pages of a changing listing

A page holds the first items whose key is below that of its cursor, greatest key
first, and the next cursor names the key of its last item. The listing may have
changed at every call. Read in this way, a listing that stays as it is is read
in full, and one that changes loses nothing that stays and repeats nothing.
-/

namespace AiGovernance.Std.Keyset

open Ranking List

variable {α K C S : Type} [LinearOrder K]

/-- A page, the cursor of the next one, and whether there is one. -/
structure Page (α C : Type) where
  items : List α
  next : Option C
  hasMore : Bool

/-- Cursors that name the key of an item. -/
structure Cursors (key : α → K) (C : Type) where
  encode : α → C
  decode : C → Option K
  decode_encode : ∀ item, decode (encode item) = some (key item)

/-- The items below a bound. -/
def below (key : α → K) (items : List α) : Option K → List α
  | none => items
  | some bound => items.filter (key · < bound)

/-- The page after a cursor. -/
def page {key : α → K} (cursors : Cursors key C) (limit : Nat) (items : List α) (cursor : Option C) : Page α C :=
  let rows := (below key (descending key items) (cursor.bind cursors.decode)).take (limit + 1)
  { items := rows.take limit
    next := if limit < rows.length then (rows.take limit).getLast?.map cursors.encode else none
    hasMore := limit < rows.length }

/-- Pages that are read one after the other, from a cursor to the last, each in a state of its own. -/
inductive Chain (fetch : S → Option C → Page α C) : Option C → List S → List (Page α C) → Prop where
  | last {state : S} {cursor : Option C} (final : (fetch state cursor).next = none) :
    Chain fetch cursor [state] [fetch state cursor]
  | more {state : S} {cursor : Option C} {next : C} {states : List S} {pages : List (Page α C)}
    (found : (fetch state cursor).next = some next) (rest : Chain fetch (some next) states pages) :
    Chain fetch cursor (state :: states) (fetch state cursor :: pages)

/-- What the pages of a chain show. -/
def shown (pages : List (Page α C)) : List α := pages.flatMap (·.items)

/-- Reading page by page ends, shows the listing of a state that stays, says at every page whether anything is still to
come, and shows once whatever is listed throughout. -/
structure Faithful (fetch : S → Option C → Page α C) (listing : S → List α) : Prop where
  ends : ∀ state, ∃ pages, Chain fetch none (List.replicate pages.length state) pages
  whole : ∀ state count pages, Chain fetch none (List.replicate count state) pages → shown pages = listing state
  more : ∀ state count before page after, Chain fetch none (List.replicate count state) (before ++ page :: after) →
    (page.hasMore = true ↔ ∃ item ∈ listing state, item ∉ shown (before ++ [page]))
  changing : ∀ states pages, Chain fetch none states pages →
    (shown pages).Nodup ∧ ∀ item, (∀ state ∈ states, item ∈ listing state) → item ∈ shown pages

section Pages

variable {key : α → K} {limit : Nat}

/-- Below the last item of a page are the items that follow it. -/
theorem filter_last {items : List α} (strict : items.Pairwise fun left right => key right < key left) {last : α}
    (isLast : (items.take limit).getLast? = some last) : items.filter (key · < key last) = items.drop limit := by
  obtain ⟨before, split⟩ := getLast?_eq_some_iff.mp isLast
  have parts : items = before ++ last :: items.drop limit := by
    conv_lhs => rw [← take_append_drop limit items, split, append_assoc]
    rfl
  rw [parts] at strict
  obtain ⟨-, later, earlier⟩ := pairwise_append.mp strict
  rw [pairwise_cons] at later
  conv_lhs => rw [parts]
  rw [filter_append, filter_cons_of_neg (by simp), filter_eq_nil_iff.mpr, nil_append,
    filter_eq_self.mpr]
  · intro item follows
    exact decide_eq_true (later.1 item follows)
  · intro item member lower
    exact lt_asymm (of_decide_eq_true lower) (earlier item member last mem_cons_self)

variable {items : List α}

theorem strict_below (distinct : (items.map key).Nodup) (bound : Option K) :
    (below key (descending key items) bound).Pairwise fun left right => key right < key left := by
  cases bound with
  | none => exact strict_descending distinct
  | some bound => exact (strict_descending distinct).sublist filter_sublist

theorem mem_of_below {bound : Option K} {item : α} (member : item ∈ below key items bound) : item ∈ items := by
  cases bound with
  | none => exact member
  | some bound => exact mem_of_mem_filter member

theorem nodup_of_strict (strict : items.Pairwise fun left right => key right < key left) : items.Nodup := by
  refine strict.imp ?_
  rintro left right order rfl
  exact lt_irrefl _ order

/-- A page is the last one, or there are further items, and these are what is below its last item. -/
theorem page_cases (cursors : Cursors key C) (positive : 1 ≤ limit) (distinct : (items.map key).Nodup)
    (cursor : Option C) :
    ((below key (descending key items) (cursor.bind cursors.decode)).length ≤ limit ∧
        page cursors limit items cursor =
          ⟨below key (descending key items) (cursor.bind cursors.decode), none, false⟩) ∨
      limit < (below key (descending key items) (cursor.bind cursors.decode)).length ∧ ∃ last,
        page cursors limit items cursor =
          ⟨(below key (descending key items) (cursor.bind cursors.decode)).take limit, some (cursors.encode last),
            true⟩ ∧ last ∈ below key (descending key items) (cursor.bind cursors.decode) ∧
        below key (descending key items) ((some (cursors.encode last)).bind cursors.decode) =
          (below key (descending key items) (cursor.bind cursors.decode)).drop limit := by
  have strict := strict_below distinct (cursor.bind cursors.decode)
  have inside : ∀ last ∈ below key (descending key items) (cursor.bind cursors.decode),
      below key (descending key items) (some (key last)) =
        (below key (descending key items) (cursor.bind cursors.decode)).filter (key · < key last) := by
    intro last member
    cases bound : cursor.bind cursors.decode with
    | none => rfl
    | some bound' =>
      rw [bound] at member
      have low : key last < bound' := of_decide_eq_true (mem_filter.mp member).2
      simp only [below, filter_filter]
      apply filter_congr
      intro item _
      by_cases lower : key item < key last
      · simp [lower, lower.trans low]
      · simp [lower]
  unfold page
  generalize below key (descending key items) (cursor.bind cursors.decode) = rest at strict inside ⊢
  by_cases more : limit < rest.length
  · refine Or.inr ⟨more, ?_⟩
    have page : rest.take limit ≠ [] := by
      rw [Ne, take_eq_nil_iff, not_or]
      exact ⟨by omega, ne_nil_of_length_pos (by omega)⟩
    obtain ⟨last, isLast⟩ := Option.isSome_iff_exists.mp (getLast?_isSome.mpr page)
    have longer : limit < (rest.take (limit + 1)).length := by
      rw [length_take]
      omega
    have member := mem_of_mem_take (mem_of_getLast? isLast)
    refine ⟨last, ?_, member, ?_⟩
    · simp only [take_take, Nat.min_eq_left (Nat.le_succ limit), longer, if_true, isLast, Option.map_some,
        decide_true]
    · rw [Option.bind_some, cursors.decode_encode,
        inside last member, filter_last strict isLast]
  · have all : rest.take (limit + 1) = rest := take_of_length_le (by omega)
    refine Or.inl ⟨Nat.not_lt.mp more, ?_⟩
    simp only [all, more, if_false, decide_false, take_of_length_le (Nat.not_lt.mp more)]

/-! ## Chains -/

section Chains

variable {items : S → List α} {fetch : S → Option C → Page α C} (cursors : Cursors key C) (positive : 1 ≤ limit)
  (distinct : ∀ state, ((items state).map key).Nodup)
  (fetches : ∀ state cursor, fetch state cursor = page cursors limit (items state) cursor)

include cursors positive distinct fetches

/-- A chain from any cursor ends. -/
theorem chain_ends (state : S) (cursor : Option C) : ∃ pages, Chain fetch cursor (List.replicate pages.length state) pages := by
  induction size : (below key (descending key (items state)) (cursor.bind cursors.decode)).length using
    Nat.strong_induction_on generalizing cursor with
  | _ size ih =>
    subst size
    rcases page_cases cursors positive (distinct state) cursor with ⟨-, last⟩ | ⟨more, item, first, -, following⟩
    · exact ⟨[fetch state cursor], .last (by rw [fetches, last])⟩
    · obtain ⟨pages, rest⟩ := ih _ (by rw [following, length_drop]; omega)
        (some (cursors.encode item)) rfl
      exact ⟨fetch state cursor :: pages, .more (by rw [fetches, first]) rest⟩

/-- In a state that stays, a chain shows what is below its cursor. -/
theorem shown_chain {state : S} {cursor : Option C} {states : List S} {pages : List (Page α C)} (chain : Chain fetch cursor states pages)
    (stays : ∀ other ∈ states, other = state) :
    shown pages = below key (descending key (items state)) (cursor.bind cursors.decode) := by
  induction chain with
  | @last here cursor final =>
    obtain rfl := stays here mem_cons_self
    rw [fetches] at final ⊢
    rcases page_cases cursors positive (distinct here) cursor with ⟨-, last⟩ | ⟨-, item, first, -⟩
    · rw [last]
      simp [shown]
    · rw [first] at final
      cases final
  | @more here cursor next states pages found rest ih =>
    obtain rfl := stays here mem_cons_self
    have later := ih fun other member => stays other (mem_cons_of_mem _ member)
    rw [fetches] at found ⊢
    rcases page_cases cursors positive (distinct here) cursor with ⟨-, last⟩ | ⟨-, item, first, -, following⟩
    · rw [last] at found
      cases found
    · rw [first] at found ⊢
      cases found
      rw [following] at later
      change _ ++ shown pages = _
      rw [later, take_append_drop]

/-- In a state that stays, a page says whether anything below the cursor of the chain is still to come. -/
theorem hasMore_chain {state : S} {cursor : Option C} {states : List S} {before after : List (Page α C)} {current : Page α C}
    (chain : Chain fetch cursor states (before ++ current :: after)) (stays : ∀ other ∈ states, other = state) :
    current.hasMore = true ↔ ∃ item ∈ below key (descending key (items state)) (cursor.bind cursors.decode),
      item ∉ shown (before ++ [current]) := by
  induction before generalizing cursor states with
  | nil =>
    obtain ⟨here, rest, opens, fetched⟩ : ∃ here rest, states = here :: rest ∧ current = fetch here cursor := by
      cases chain with
      | last final => exact ⟨_, _, rfl, rfl⟩
      | more found rest => exact ⟨_, _, rfl, rfl⟩
    obtain rfl := stays here (opens ▸ mem_cons_self)
    rw [fetched, fetches]
    rcases page_cases cursors positive (distinct here) cursor with ⟨few, last⟩ | ⟨more, item, first, -⟩
    · rw [last]
      simp [shown]
    · rw [first]
      refine iff_of_true rfl ?_
      have split := take_append_drop limit (below key (descending key (items here)) (cursor.bind cursors.decode))
      obtain ⟨other, follows⟩ := exists_mem_of_ne_nil
        ((below key (descending key (items here)) (cursor.bind cursors.decode)).drop limit)
        (ne_nil_of_length_pos (by rw [length_drop]; omega))
      refine ⟨other, mem_of_mem_drop follows, ?_⟩
      have apart := nodup_of_strict (strict_below (distinct here) (cursor.bind cursors.decode))
      simpa [shown] using fun taken => disjoint_take_drop apart (Nat.le_refl limit) taken follows
  | cons opening before ih =>
    generalize shape : opening :: before ++ current :: after = pages at chain
    cases chain with
    | last final => simp at shape
    | @more here cursor next states pages found rest =>
      obtain ⟨rfl, rfl⟩ := List.cons.inj shape
      obtain rfl := stays here mem_cons_self
      rw [ih rest fun other member => stays other (mem_cons_of_mem _ member)]
      rw [fetches] at found ⊢
      rcases page_cases cursors positive (distinct here) cursor with ⟨-, last⟩ | ⟨-, item, first, -, following⟩
      · rw [last] at found
        cases found
      · rw [first] at found ⊢
        cases found
        rw [following]
        have apart := nodup_of_strict (strict_below (distinct here) (cursor.bind cursors.decode))
        generalize below key (descending key (items here)) (cursor.bind cursors.decode) = listed at apart
        change _ ↔ ∃ item ∈ listed, item ∉ listed.take limit ++ shown (before ++ [current])
        constructor
        · rintro ⟨item, follows, unseen⟩
          refine ⟨item, mem_of_mem_drop follows, fun seen => ?_⟩
          rcases mem_append.mp seen with early | late
          · exact disjoint_take_drop apart (Nat.le_refl limit) early follows
          · exact unseen late
        · rintro ⟨item, member, unseen⟩
          rw [mem_append, not_or] at unseen
          rw [← take_append_drop limit listed, mem_append] at member
          exact ⟨item, member.resolve_left unseen.1, unseen.2⟩

/-- Whatever changes, a chain shows ever smaller keys below its cursor, and everything that is listed throughout. -/
theorem shown_changing {cursor : Option C}
    {states : List S} {pages : List (Page α C)} (chain : Chain fetch cursor states pages) :
    ((shown pages).Pairwise fun left right => key right < key left) ∧
      (∀ item ∈ shown pages, ∀ bound, cursor.bind cursors.decode = some bound → key item < bound) ∧
      ∀ item, (∀ state ∈ states, item ∈ below key (descending key (items state)) (cursor.bind cursors.decode)) →
        item ∈ shown pages := by
  have bounded : ∀ state (cursor : Option C) (bound : K), cursor.bind cursors.decode = some bound → ∀ item ∈
      below key (descending key (items state)) (cursor.bind cursors.decode), key item < bound := by
    intro state cursor bound bounded item member
    rw [bounded] at member
    exact of_decide_eq_true (mem_filter.mp member).2
  induction chain with
  | @last here cursor final =>
    rw [fetches] at final ⊢
    rcases page_cases cursors positive (distinct here) cursor with ⟨-, last⟩ | ⟨-, item, first, -⟩
    · rw [last]
      simp only [shown, flatMap_cons, flatMap_nil, append_nil]
      exact ⟨strict_below (distinct here) _, fun item member bound bounds => bounded here cursor bound bounds item member,
        fun item listed => listed here mem_cons_self⟩
    · rw [first] at final
      cases final
  | @more here cursor next states pages found rest ih =>
    rw [fetches] at found ⊢
    rcases page_cases cursors positive (distinct here) cursor with ⟨-, last⟩ | ⟨-, final, first, member, following⟩
    · rw [last] at found
      cases found
    · rw [first] at found ⊢
      cases found
      obtain ⟨strict, lower, complete⟩ := ih
      have shape : ∀ state, below key (descending key (items state)) ((some (cursors.encode final)).bind cursors.decode) =
          (descending key (items state)).filter (key · < key final) := by
        intro state
        rw [Option.bind_some, cursors.decode_encode]
        rfl
      have ordered := strict_below (distinct here) (cursor.bind cursors.decode)
      have lowerThan : ∀ item ∈ shown pages, key item < key final := fun item seen =>
        lower item seen _ (by rw [Option.bind_some, cursors.decode_encode])
      change (_ ++ shown pages).Pairwise _ ∧ (∀ item ∈ _ ++ shown pages, _) ∧ ∀ item, _ → item ∈ _ ++ shown pages
      refine ⟨pairwise_append.mpr ⟨ordered.sublist (take_sublist _ _), strict, ?_⟩, ?_, ?_⟩
      · intro item early other late
        refine lt_of_lt_of_le (lowerThan other late) (not_lt.mp fun beyond => ?_)
        refine disjoint_take_drop (nodup_of_strict ordered) (Nat.le_refl limit) early ?_
        rw [← following, shape, mem_filter]
        exact ⟨mem_of_below (mem_of_mem_take early), decide_eq_true beyond⟩
      · intro item seen bound bounds
        rcases mem_append.mp seen with early | late
        · exact bounded here cursor bound bounds item (mem_of_mem_take early)
        · exact (lowerThan item late).trans (bounded here cursor bound bounds final member)
      · intro item listed
        have found := listed here mem_cons_self
        rw [← take_append_drop limit (below key (descending key (items here)) _), mem_append] at found
        refine mem_append.mpr (found.imp_right fun follows => complete item fun state among => ?_)
        rw [← following, shape] at follows
        rw [shape, mem_filter]
        exact ⟨mem_of_below (listed state (mem_cons_of_mem _ among)), (mem_filter.mp follows).2⟩

/-- Pages by key read a changing listing faithfully. -/
theorem faithful : Faithful fetch fun state => descending key (items state) where
  ends state := chain_ends cursors positive distinct fetches state none
  whole _ _ _ chain :=
    shown_chain cursors positive distinct fetches chain fun _ member => eq_of_mem_replicate member
  more _ _ _ _ _ chain :=
    hasMore_chain cursors positive distinct fetches chain fun _ member => eq_of_mem_replicate member
  changing _ _ chain := by
    obtain ⟨strict, -, complete⟩ := shown_changing cursors positive distinct fetches chain
    exact ⟨nodup_of_strict strict, complete⟩

end Chains

end Pages

end AiGovernance.Std.Keyset
