import AiGovernance.Std.Instant
import Mathlib.Data.String.Basic

/-!
# Instants written at a fixed offset

`isoformat` of an aware `datetime` writes the wall clock of its own offset, then
the offset. At one offset the order of these texts is the order of the instants.
-/

namespace AiGovernance.Std.Instant

/-- A fixed offset from UTC, less than a day either way. -/
structure Offset where
  behind : Bool
  micros : Nat
  within : micros < day

/-- Microseconds from `datetime.min` to past `datetime.max`. -/
def clockRange : Nat := 3652059 * day

/-- The date and time of a wall-clock reading; microseconds are written when nonzero. -/
def clockText (wall : Nat) : List Char :=
  let date := dateOf (wall / day)
  let seconds := wall % day / second
  let micros := wall % second
  padded (yearWidth date.year) date.year ++ '-' :: padded 2 date.month ++
    '-' :: padded 2 date.dayOfMonth ++ 'T' :: padded 2 (seconds / 3600) ++
    ':' :: padded 2 (seconds / 60 % 60) ++ ':' :: padded 2 (seconds % 60) ++
    (if micros = 0 then [] else '.' :: padded 6 micros)

namespace Offset

/-- `timezone.utc`. -/
def utc : Offset := ⟨false, 0, by decide⟩

/-- The wall-clock reading of an instant. -/
def wall (offset : Offset) (instant : Instant) : Int :=
  if offset.behind then (instant.micros : Int) - offset.micros else instant.micros + offset.micros

/-- The offset as `isoformat` writes it; seconds and microseconds when nonzero. -/
def text (offset : Offset) : List Char :=
  (if offset.behind then '-' else '+') :: padded 2 (offset.micros / hour) ++
    ':' :: padded 2 (offset.micros / (60 * second) % 60) ++
    (if offset.micros % (60 * second) = 0 then [] else
      ':' :: padded 2 (offset.micros / second % 60) ++
        if offset.micros % second = 0 then [] else '.' :: padded 6 (offset.micros % second))

/-- A `datetime` of this offset denotes the instant: its wall clock is in years 1 to 9999. -/
def Reads (offset : Offset) (instant : Instant) : Prop :=
  0 ≤ offset.wall instant ∧ offset.wall instant < clockRange

instance (offset : Offset) (instant : Instant) : Decidable (offset.Reads instant) :=
  inferInstanceAs (Decidable (_ ∧ _))

/-- `datetime.isoformat()` of an instant at an offset. -/
def isoformat (offset : Offset) (instant : Instant) : String :=
  String.ofList (clockText (offset.wall instant).toNat ++ offset.text)

end Offset

/-! ## Order of fixed-width fields -/

variable {right left : Nat}

theorem digit_lt (order : left % 10 < right % 10) :
    Char.ofNat (48 + left % 10) < Char.ofNat (48 + right % 10) := by
  have digits : ∀ high < 10, ∀ low < high, Char.ofNat (48 + low) < Char.ofNat (48 + high) := by
    decide
  exact digits _ (Nat.mod_lt _ (by decide)) _ order

theorem padded_lt (width : Nat) (rest other : List Char) (order : left % 10 ^ width < right % 10 ^ width) :
    padded width left ++ rest < padded width right ++ other := by
  induction width with
  | zero => simp [Nat.mod_one] at order
  | succ width ih =>
    simp only [padded, List.cons_append, List.cons_lt_cons_iff]
    rw [Nat.mod_pow_succ, Nat.mod_pow_succ] at order
    have leftBound : left % 10 ^ width < 10 ^ width := Nat.mod_lt _ (Nat.pow_pos (by decide))
    have rightBound : right % 10 ^ width < 10 ^ width := Nat.mod_lt _ (Nat.pow_pos (by decide))
    rcases Nat.lt_trichotomy (left / 10 ^ width % 10) (right / 10 ^ width % 10) with
      less | equal | greater
    · exact Or.inl (digit_lt less)
    · rw [equal] at order ⊢
      exact Or.inr ⟨rfl, ih (by omega)⟩
    · have step := Nat.mul_le_mul_left (10 ^ width) (Nat.succ_le_of_lt greater)
      rw [Nat.mul_succ] at step
      omega

variable {rest other : List Char}

theorem field_lt {width : Nat} (leftFits : left < 10 ^ width) (rightFits : right < 10 ^ width)
    (order : left < right ∨ left = right ∧ rest < other) : padded width left ++ rest < padded width right ++ other := by
  rcases order with less | ⟨rfl, less⟩
  · apply padded_lt
    rwa [Nat.mod_eq_of_lt leftFits, Nat.mod_eq_of_lt rightFits]
  · exact List.append_left_lt less

/-! ## Order of dates -/

theorem div_pred (year period : Nat) (positive : 1 ≤ year):
    year / period = (year - 1) / period + if year % period = 0 then 1 else 0 := by
  obtain ⟨before, rfl⟩ : ∃ before, year = before + 1 := ⟨year - 1, by omega⟩
  simp only [Nat.succ_div, Nat.dvd_iff_mod_eq_zero, Nat.add_sub_cancel]

theorem daysBeforeYear_succ (year : Nat) (positive : 1 ≤ year) :
    daysBeforeYear (year + 1) = daysBeforeYear year + (monthLengths (isLeap year)).sum := by
  have length : (monthLengths (isLeap year)).sum = if isLeap year then 366 else 365 := by
    cases isLeap year <;> rfl
  have hundreds : (year - 1) / 100 ≤ (year - 1) / 4 := by omega
  have hundred : year % 100 = 0 → year % 4 = 0 := by omega
  have fourHundred : year % 400 = 0 → year % 100 = 0 := by omega
  rw [length]
  simp only [daysBeforeYear, isLeap, Bool.and_eq_true, Bool.or_eq_true, beq_iff_eq, bne_iff_ne,
    Nat.add_sub_cancel, div_pred year 4 positive, div_pred year 100 positive,
    div_pred year 400 positive]
  generalize (year - 1) / 4 = quarters at *
  generalize (year - 1) / 100 = centuries at *
  generalize (year - 1) / 400 = eras at *
  by_cases four : year % 4 = 0
  · by_cases century : year % 100 = 0
    · by_cases era : year % 400 = 0 <;> simp [four, century, era] <;> omega
    · have era : year % 400 ≠ 0 := fun same => century (fourHundred same)
      simp [four, century, era]
      omega
  · have century : year % 100 ≠ 0 := fun same => four (hundred same)
    have era : year % 400 ≠ 0 := fun same => century (fourHundred same)
    simp [four, century, era]
    omega

theorem daysBeforeYear_mono : Monotone daysBeforeYear := by
  refine monotone_nat_of_le_succ fun year => ?_
  rcases Nat.eq_zero_or_pos year with rfl | positive
  · decide
  · rw [daysBeforeYear_succ year positive]
    exact Nat.le_add_right _ _

theorem exists?_spec {date : Date} (real : date.exists? = true) :
    1 ≤ date.year ∧ 1 ≤ date.month ∧ 1 ≤ date.dayOfMonth ∧
      ∃ length, (monthLengths (isLeap date.year))[date.month - 1]? = some length ∧
        date.dayOfMonth ≤ length := by
  simp only [Date.exists?, Bool.and_eq_true, decide_eq_true_eq] at real
  obtain ⟨⟨⟨year, month⟩, dayOfMonth⟩, fits⟩ := real
  refine ⟨year, month, dayOfMonth, ?_⟩
  split at fits
  · exact ⟨_, by assumption, by simpa using fits⟩
  · cases fits

theorem sum_take_lt {lengths : List Nat} {first second length : Nat}
    (found : lengths[first]? = some length) (order : first < second) :
    (lengths.take first).sum + length ≤ (lengths.take second).sum := by
  induction lengths generalizing first second with
  | nil => simp at found
  | cons head tail ih =>
    cases second with
    | zero => omega
    | succ second =>
      cases first with
      | zero =>
        simp only [List.getElem?_cons_zero, Option.some.injEq] at found
        simp [found]
      | succ first =>
        simp only [List.getElem?_cons_succ] at found
        have later := ih found (Nat.lt_of_succ_lt_succ order)
        simp only [List.take_succ_cons, List.sum_cons]
        omega

theorem monthLengths_fits {leap : Bool} {index length : Nat}
    (found : (monthLengths leap)[index]? = some length) : index < 12 ∧ length ≤ 31 := by
  have inside : index < 12 := by
    obtain ⟨inside, -⟩ := List.getElem?_eq_some_iff.mp found
    simpa [monthLengths] using inside
  have bounds : ∀ leap, ∀ length ∈ monthLengths leap, length ≤ 31 := by decide
  exact ⟨inside, bounds leap length (List.mem_of_getElem? found)⟩

theorem ordinal_lt {date : Date} (real : date.exists? = true) :
    date.ordinal < daysBeforeYear (date.year + 1) := by
  obtain ⟨year, month, dayOfMonth, length, found, fits⟩ := exists?_spec real
  have total := sum_take_lt found (monthLengths_fits found).1
  have whole : (monthLengths (isLeap date.year)).take 12 = monthLengths (isLeap date.year) := by
    simp [monthLengths]
  rw [whole] at total
  rw [daysBeforeYear_succ date.year year, Date.ordinal]
  omega

/-- Fields compared from the most significant. -/
def Date.Before (left right : Date) : Prop :=
  left.year < right.year ∨ left.year = right.year ∧
    (left.month < right.month ∨ left.month = right.month ∧ left.dayOfMonth < right.dayOfMonth)

theorem ordinal_lt_of_before {left right : Date} (leftReal : left.exists? = true)
    (rightReal : right.exists? = true) (before : left.Before right) : left.ordinal < right.ordinal := by
  obtain ⟨-, month, dayOfMonth, length, found, fits⟩ := exists?_spec leftReal
  obtain ⟨-, otherMonth, otherDay, -⟩ := exists?_spec rightReal
  rcases before with less | ⟨sameYear, less | ⟨sameMonth, less⟩⟩
  · calc
      left.ordinal < daysBeforeYear (left.year + 1) := ordinal_lt leftReal
      _ ≤ daysBeforeYear right.year := daysBeforeYear_mono less
      _ ≤ right.ordinal := by rw [Date.ordinal]; omega
  · have earlier : left.month - 1 < right.month - 1 := by omega
    have total := sum_take_lt found earlier
    simp only [Date.ordinal, ← sameYear]
    omega
  · simp only [Date.ordinal, sameYear, sameMonth]
    omega

theorem dateOf_before (order : left < right) : (dateOf left).Before (dateOf right) := by
  by_contra notBefore
  have reversed : (dateOf right).Before (dateOf left) ∨ dateOf right = dateOf left := by
    simp only [Date.Before] at notBefore ⊢
    rw [Date.mk.injEq]
    omega
  rcases reversed with before | same
  · have wrong := ordinal_lt_of_before (exists?_dateOf right) (exists?_dateOf left) before
    rw [ordinal_dateOf, ordinal_dateOf] at wrong
    omega
  · have wrong := congrArg Date.ordinal same
    rw [ordinal_dateOf, ordinal_dateOf] at wrong
    omega

/-! ## Order of the texts -/

theorem year_lt {days : Nat} (bounded : days < 3652059) : (dateOf days).year < 10000 := by
  by_contra late
  have before : daysBeforeYear 10000 ≤ daysBeforeYear (dateOf days).year :=
    daysBeforeYear_mono (Nat.not_lt.mp late)
  have ordinal : daysBeforeYear (dateOf days).year ≤ days := by
    conv_rhs => rw [← ordinal_dateOf days, Date.ordinal]
    omega
  have millennia : daysBeforeYear 10000 = 3652059 := by decide
  omega

theorem date_bounds {days : Nat} (bounded : days < 3652059) :
    (dateOf days).year < 10000 ∧ (dateOf days).month < 10 ^ 2 ∧ (dateOf days).dayOfMonth < 10 ^ 2 := by
  obtain ⟨-, month, -, length, found, fits⟩ := exists?_spec (exists?_dateOf days)
  obtain ⟨months, lengths⟩ := monthLengths_fits found
  exact ⟨year_lt bounded, by omega, by omega⟩

theorem cons_lt {left right : List Char} (c : Char) (order : left < right) :
    c :: left < c :: right :=
  List.cons_lt_cons_iff.mpr (Or.inr ⟨rfl, order⟩)

theorem fraction_lt (order : left < right) (bounded : right < second) {sign : Char} (low : sign < '.') :
    (if left = 0 then [] else '.' :: padded 6 left) ++ sign :: rest <
      (if right = 0 then [] else '.' :: padded 6 right) ++ sign :: rest := by
  have positive : right ≠ 0 := by omega
  have small : left < 10 ^ 6 ∧ right < 10 ^ 6 := by
    simp only [second] at bounded
    omega
  rw [if_neg positive]
  split
  · exact List.cons_lt_cons_iff.mpr (Or.inl low)
  · exact cons_lt '.' (field_lt small.1 small.2 (Or.inl order))

theorem timeText_lt (leftBound : left < 86400) (rightBound : right < 86400)
    (order : left < right ∨ left = right ∧ rest < other) :
    padded 2 (left / 3600) ++ ':' :: (padded 2 (left / 60 % 60) ++ ':' :: (padded 2 (left % 60) ++ rest)) <
      padded 2 (right / 3600) ++
        ':' :: (padded 2 (right / 60 % 60) ++ ':' :: (padded 2 (right % 60) ++ other)) := by
  have fields : left / 3600 < right / 3600 ∨ left / 3600 = right / 3600 ∧
      (left / 60 % 60 < right / 60 % 60 ∨ left / 60 % 60 = right / 60 % 60 ∧
        (left % 60 < right % 60 ∨ left % 60 = right % 60 ∧ rest < other)) := by
    rcases order with less | ⟨rfl, less⟩
    · omega
    · exact Or.inr ⟨rfl, Or.inr ⟨rfl, Or.inr ⟨rfl, less⟩⟩⟩
  refine field_lt (by omega) (by omega) (fields.imp id (And.imp id fun minutes => cons_lt ':' ?_))
  refine field_lt (by omega) (by omega) (minutes.imp id (And.imp id fun seconds => cons_lt ':' ?_))
  exact field_lt (by omega) (by omega) seconds

theorem dateText_lt {left right : Date}
    (leftFits : left.year < 10000 ∧ left.month < 10 ^ 2 ∧ left.dayOfMonth < 10 ^ 2)
    (rightFits : right.year < 10000 ∧ right.month < 10 ^ 2 ∧ right.dayOfMonth < 10 ^ 2)
    (order : left.Before right ∨ left = right ∧ rest < other) :
    padded 4 left.year ++ '-' :: (padded 2 left.month ++ '-' :: (padded 2 left.dayOfMonth ++ rest)) <
      padded 4 right.year ++
        '-' :: (padded 2 right.month ++ '-' :: (padded 2 right.dayOfMonth ++ other)) := by
  have fields : left.year < right.year ∨ left.year = right.year ∧
      (left.month < right.month ∨ left.month = right.month ∧
        (left.dayOfMonth < right.dayOfMonth ∨ left.dayOfMonth = right.dayOfMonth ∧ rest < other)) := by
    rcases order with before | ⟨rfl, less⟩
    · exact before.imp id (And.imp id (Or.imp id (And.imp id Or.inl)))
    · exact Or.inr ⟨rfl, Or.inr ⟨rfl, Or.inr ⟨rfl, less⟩⟩⟩
  refine field_lt leftFits.1 rightFits.1 (fields.imp id (And.imp id fun months => cons_lt '-' ?_))
  refine field_lt leftFits.2.1 rightFits.2.1 (months.imp id (And.imp id fun days => cons_lt '-' ?_))
  exact field_lt leftFits.2.2 rightFits.2.2 days

theorem clockText_lt (order : left < right) (bounded : right < clockRange) {sign : Char} (low : sign < '.') :
    clockText left ++ sign :: rest < clockText right ++ sign :: rest := by
  simp only [clockRange, day, hour, second] at bounded
  have leftDays : left / day < 3652059 := by simp only [day, hour, second]; omega
  have rightDays : right / day < 3652059 := by simp only [day, hour, second]; omega
  have leftFits := date_bounds leftDays
  have rightFits := date_bounds rightDays
  have seconds : ∀ wall, wall % day / second < 86400 := by
    intro wall
    simp only [day, hour, second]
    omega
  simp only [clockText, yearWidth]
  rw [if_pos leftFits.1, if_pos rightFits.1]
  simp only [List.append_assoc, List.cons_append]
  -- The fields are compared from the year down; a day, a second or the fraction decides.
  refine dateText_lt leftFits rightFits ?_
  by_cases sameDay : left / day = right / day
  · refine Or.inr ⟨by rw [sameDay], cons_lt 'T' (timeText_lt (seconds left) (seconds right) ?_)⟩
    by_cases sameSecond : left % day / second = right % day / second
    · refine Or.inr ⟨sameSecond, fraction_lt ?_ (Nat.mod_lt _ (by decide)) low⟩
      simp only [day, hour, second] at *
      omega
    · refine Or.inl ?_
      simp only [day, hour, second] at *
      omega
  · refine Or.inl (dateOf_before ?_)
    simp only [day, hour, second] at *
    omega

namespace Offset

variable {right left : Instant} {offset : Offset}

theorem wall_lt (order : left < right) : offset.wall left < offset.wall right := by
  rw [lt_def] at order
  simp only [wall]
  split <;> omega

theorem isoformat_lt (leftReads : offset.Reads left) (rightReads : offset.Reads right) (order : left < right) :
    offset.isoformat left < offset.isoformat right := by
  have low : (if offset.behind then '-' else '+') < '.' := by split <;> decide
  have walls := (wall_lt order : offset.wall left < offset.wall right)
  simp only [Reads] at leftReads rightReads
  refine String.lt_iff_toList_lt.mpr ?_
  simp only [isoformat, String.toList_ofList, text, List.cons_append]
  exact clockText_lt (by omega) (by omega) low

/-- At one offset, texts are ordered as the instants they denote. -/
theorem isoformat_lt_iff (leftReads : offset.Reads left) (rightReads : offset.Reads right) :
    offset.isoformat left < offset.isoformat right ↔ left < right := by
  constructor
  · intro order
    by_contra later
    rcases Nat.lt_or_eq_of_le (Nat.not_lt.mp later) with less | same
    · exact lt_asymm order (isoformat_lt rightReads leftReads less)
    · obtain rfl : right = left := by
        cases left
        cases right
        exact congrArg Instant.mk same
      exact lt_irrefl _ order
  · exact isoformat_lt leftReads rightReads

theorem isoformat_inj (leftReads : offset.Reads left) (rightReads : offset.Reads right) :
    offset.isoformat left = offset.isoformat right ↔ left = right := by
  refine ⟨fun same => ?_, fun same => by rw [same]⟩
  have notLess := mt (isoformat_lt leftReads rightReads) (by rw [same]; exact lt_irrefl _)
  have notGreater := mt (isoformat_lt rightReads leftReads) (by rw [same]; exact lt_irrefl _)
  rw [lt_def] at notLess notGreater
  cases left
  cases right
  exact congrArg Instant.mk (by simp only at notLess notGreater; omega)

end Offset

/-- An aware `datetime`: an instant, and the offset it is given at. -/
structure Stamp where
  instant : Instant
  offset : Offset
  reads : offset.Reads instant

/-- `datetime.isoformat()`. -/
def Stamp.isoformat (stamp : Stamp) : String := stamp.offset.isoformat stamp.instant

/-- An instant as `datetime.now(UTC)` gives it. -/
def Stamp.utc (instant : Instant) (reads : Offset.utc.Reads instant) : Stamp := ⟨instant, .utc, reads⟩

end AiGovernance.Std.Instant
