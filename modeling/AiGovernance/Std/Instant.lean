import Mathlib.Data.Nat.Log
import Mathlib.Tactic.Ring

/-!
# Instants and their ISO 8601 text

A timezone-aware `datetime` is the instant it denotes: microseconds since
`datetime.min` in UTC. Equality and order of aware values are those of the
instants. `isoformat` writes the proleptic Gregorian calendar in UTC and
`fromisoformat` reads the extended format with an offset; naive text has no
instant and is rejected. Years past 9999 continue the calendar where Python
raises `OverflowError`.
-/

namespace AiGovernance.Std

/-- An aware `datetime`, as microseconds since `0001-01-01T00:00:00+00:00`. -/
structure Instant where
  micros : Nat
deriving DecidableEq

namespace Instant

instance : LE Instant := ⟨fun left right => left.micros ≤ right.micros⟩

instance : LT Instant := ⟨fun left right => left.micros < right.micros⟩

instance (left right : Instant) : Decidable (left ≤ right) :=
  inferInstanceAs (Decidable (left.micros ≤ right.micros))

instance (left right : Instant) : Decidable (left < right) :=
  inferInstanceAs (Decidable (left.micros < right.micros))

/-- Shift an instant forward by a duration in microseconds. -/
def add (instant : Instant) (duration : Nat) : Instant := ⟨instant.micros + duration⟩

theorem le_def {left right : Instant} : left ≤ right ↔ left.micros ≤ right.micros := Iff.rfl

theorem lt_def {left right : Instant} : left < right ↔ left.micros < right.micros := Iff.rfl

@[simp] theorem micros_add (instant : Instant) (duration : Nat) :
    (instant.add duration).micros = instant.micros + duration := rfl

/-- Microseconds in one second. -/
def second : Nat := 1000000

/-- Microseconds in one hour. -/
def hour : Nat := 3600 * second

/-- Microseconds in one day. -/
def day : Nat := 24 * hour

/-- Seconds from `datetime.min` to the Unix epoch. -/
def epochSeconds : Nat := 62135596800

/-! ## Calendar -/

/-- The Gregorian leap-year rule. -/
def isLeap (year : Nat) : Bool := year % 4 == 0 && (year % 100 != 0 || year % 400 == 0)

/-- The lengths of the twelve months. -/
def monthLengths (leap : Bool) : List Nat :=
  [31, if leap then 29 else 28, 31, 30, 31, 30, 31, 31, 30, 31, 30, 31]

/-- Locate a zero-based day among consecutive months, as one-based month and day. -/
def monthDay : List Nat → Nat → Nat × Nat
  | [], days => (1, days + 1)
  | length :: rest, days =>
    if days < length then (1, days + 1)
    else ((monthDay rest (days - length)).1 + 1, (monthDay rest (days - length)).2)

/-- A calendar date. -/
structure Date where
  year : Nat
  month : Nat
  dayOfMonth : Nat
deriving DecidableEq

/-- Days in the years before `year`. -/
def daysBeforeYear (year : Nat) : Nat :=
  (year - 1) * 365 + (year - 1) / 4 - (year - 1) / 100 + (year - 1) / 400

/-- The zero-based day number of a date. -/
def Date.ordinal (date : Date) : Nat :=
  daysBeforeYear date.year +
    ((monthLengths (isLeap date.year)).take (date.month - 1)).sum + (date.dayOfMonth - 1)

/-- The month exists and has this day. -/
def Date.exists? (date : Date) : Bool :=
  1 ≤ date.year && 1 ≤ date.month && 1 ≤ date.dayOfMonth &&
    match (monthLengths (isLeap date.year))[date.month - 1]? with
    | some length => date.dayOfMonth ≤ length
    | none => false

/-- The one-based year containing a zero-based day, and the day within it. -/
def yearDay (days : Nat) : Nat × Nat :=
  let cycle := days % 146097
  let century := min (cycle / 36524) 3
  let inCentury := cycle - century * 36524
  let inLeapCycle := inCentury % 1461
  let last := min (inLeapCycle / 365) 3
  (400 * (days / 146097) + 100 * century + 4 * (inCentury / 1461) + last + 1,
    inLeapCycle - last * 365)

/-- The date of a zero-based day number. -/
def dateOf (days : Nat) : Date :=
  let located := monthDay (monthLengths (isLeap (yearDay days).1)) (yearDay days).2
  ⟨(yearDay days).1, located.1, located.2⟩

theorem monthDay_spec (lengths : List Nat) (days : Nat) (bounded : days < lengths.sum) :
    (lengths.take ((monthDay lengths days).1 - 1)).sum + ((monthDay lengths days).2 - 1) = days ∧
      1 ≤ (monthDay lengths days).1 ∧ 1 ≤ (monthDay lengths days).2 ∧
      ∃ length, lengths[(monthDay lengths days).1 - 1]? = some length ∧
        (monthDay lengths days).2 ≤ length := by
  induction lengths generalizing days with
  | nil => simp at bounded
  | cons length rest ih =>
    by_cases within : days < length
    · simp only [monthDay, if_pos within]
      exact ⟨by simp, by simp, by simp, length, by simp, by omega⟩
    · simp only [monthDay, if_neg within]
      simp only [List.sum_cons] at bounded
      obtain ⟨total, month, dayOfMonth, found, located, fits⟩ :=
        ih (days - length) (by omega)
      obtain ⟨index, indexEq⟩ : ∃ index, (monthDay rest (days - length)).1 = index + 1 :=
        ⟨_, (Nat.sub_add_cancel month).symm⟩
      rw [indexEq] at total located ⊢
      simp only [Nat.add_sub_cancel] at total located ⊢
      refine ⟨?_, by omega, dayOfMonth, found, ?_, fits⟩
      · simp only [List.take_succ_cons, List.sum_cons]
        omega
      · simpa using located

theorem yearDay_spec (days : Nat) :
    daysBeforeYear (yearDay days).1 + (yearDay days).2 = days ∧
      (yearDay days).2 < (monthLengths (isLeap (yearDay days).1)).sum := by
  -- Name the quotients once; every later fact is linear in them.
  obtain ⟨era, cycle, eraEq, cycleEq⟩ : ∃ era cycle, days / 146097 = era ∧ days % 146097 = cycle :=
    ⟨_, _, rfl, rfl⟩
  have split : days = 146097 * era + cycle := by omega
  have cycleBound : cycle < 146097 := by omega
  obtain ⟨century, centuryEq⟩ : ∃ century, min (cycle / 36524) 3 = century := ⟨_, rfl⟩
  have centuryBound : century ≤ 3 := by omega
  obtain ⟨inCentury, inCenturyEq⟩ : ∃ inCentury, cycle - century * 36524 = inCentury := ⟨_, rfl⟩
  have cycleSplit : cycle = century * 36524 + inCentury := by omega
  have inCenturyBound : inCentury < 36524 ∨ (century = 3 ∧ inCentury < 36525) := by omega
  obtain ⟨leaps, leapsEq⟩ : ∃ leaps, inCentury / 1461 = leaps := ⟨_, rfl⟩
  obtain ⟨rest, restEq⟩ : ∃ rest, inCentury % 1461 = rest := ⟨_, rfl⟩
  have leapSplit : inCentury = 1461 * leaps + rest := by omega
  have leapsBound : leaps ≤ 24 := by omega
  have restBound : rest < 1461 := by omega
  obtain ⟨last, lastEq⟩ : ∃ last, min (rest / 365) 3 = last := ⟨_, rfl⟩
  have lastBound : last ≤ 3 := by omega
  have dayBound : rest - last * 365 < 365 ∨ (last = 3 ∧ rest = 1460) := by omega
  have located : yearDay days = (400 * era + 100 * century + 4 * leaps + last + 1,
      rest - last * 365) := by
    simp only [yearDay, eraEq, cycleEq, centuryEq, inCenturyEq, leapsEq, restEq, lastEq]
  rw [located]
  have restSplit : rest = last * 365 + (rest - last * 365) := by omega
  constructor
  · simp only [daysBeforeYear, Nat.add_sub_cancel]
    have quarter : (400 * era + 100 * century + 4 * leaps + last) / 4 =
        100 * era + 25 * century + leaps := by omega
    have hundred : (400 * era + 100 * century + 4 * leaps + last) / 100 = 4 * era + century := by
      omega
    have fourHundred : (400 * era + 100 * century + 4 * leaps + last) / 400 = era := by omega
    rw [quarter, hundred, fourHundred]
    omega
  · rcases dayBound with short | ⟨lastEq3, restEq1460⟩
    · simp only [monthLengths]
      split <;> simp <;> omega
    · -- Only the fourth year of a leap cycle has 366 days, and it is a leap year.
      have leap : isLeap (400 * era + 100 * century + 4 * leaps + last + 1) = true := by
        have notCentury : leaps ≠ 24 ∨ century = 3 := by omega
        have four : (400 * era + 100 * century + 4 * leaps + last + 1) % 4 = 0 := by omega
        simp only [isLeap, four, beq_self_eq_true, Bool.true_and, Bool.or_eq_true, bne_iff_ne,
          beq_iff_eq]
        omega
      rw [leap]
      simp [monthLengths]
      omega

/-- The calendar is exact: every day number is the ordinal of an existing date. -/
theorem ordinal_dateOf (days : Nat) : (dateOf days).ordinal = days := by
  obtain ⟨total, bounded⟩ := yearDay_spec days
  obtain ⟨located, -, -, -⟩ := monthDay_spec _ _ bounded
  simp only [Date.ordinal, dateOf]
  omega

theorem exists?_dateOf (days : Nat) : (dateOf days).exists? = true := by
  obtain ⟨-, bounded⟩ := yearDay_spec days
  obtain ⟨-, month, dayOfMonth, length, found, fits⟩ := monthDay_spec _ _ bounded
  have year : 1 ≤ (yearDay days).1 := by simp [yearDay]
  simp only [Date.exists?, dateOf, found]
  simp [year, month, dayOfMonth, fits]

/-! ## Text -/

/-- The decimal digit characters of `value` at `width` places, most significant first. -/
def padded : Nat → Nat → List Char
  | 0, _ => []
  | width + 1, value => Char.ofNat (48 + value / 10 ^ width % 10) :: padded width value

/-- A decimal digit character. -/
def isDigit (c : Char) : Bool := 48 ≤ c.toNat && c.toNat ≤ 57

/-- The number a list of digit characters denotes. -/
def decimal (digits : List Char) : Nat := digits.foldl (fun total c => 10 * total + (c.toNat - 48)) 0

/-- Read exactly `width` digits. -/
def readDigits (width : Nat) (text : List Char) : Option (Nat × List Char) :=
  if (text.take width).length = width ∧ (text.take width).all isDigit then
    some (decimal (text.take width), text.drop width)
  else none

/-- Read a year: four digits, or more past year 9999. -/
def readYear (text : List Char) : Option (Nat × List Char) :=
  if 4 ≤ (text.takeWhile isDigit).length then
    some (decimal (text.takeWhile isDigit), text.dropWhile isDigit)
  else none

/-- Read one fixed character. -/
def readChar (expected : Char) : List Char → Option (List Char)
  | [] => none
  | c :: rest => if c = expected then some rest else none

/-- The places a year is written with. -/
def yearWidth (year : Nat) : Nat := if year < 10000 then 4 else Nat.log 10 year + 1

/-- `datetime.isoformat()` of a UTC instant; microseconds are written when nonzero. -/
def isoformat (instant : Instant) : String :=
  let date := dateOf (instant.micros / day)
  let seconds := instant.micros % day / second
  let micros := instant.micros % second
  String.ofList <|
    padded (yearWidth date.year) date.year ++ '-' :: padded 2 date.month ++
      '-' :: padded 2 date.dayOfMonth ++ 'T' :: padded 2 (seconds / 3600) ++
      ':' :: padded 2 (seconds / 60 % 60) ++ ':' :: padded 2 (seconds % 60) ++
      (if micros = 0 then [] else '.' :: padded 6 micros) ++ ['+', '0', '0', ':', '0', '0']

/-- The seconds field and its fraction, in microseconds; both are optional. -/
def readSeconds (text : List Char) : Option (Nat × List Char) :=
  match readChar ':' text with
  | none => some (0, text)
  | some text => do
      let (seconds, text) ← readDigits 2 text
      guard (seconds < 60)
      match readChar '.' text with
      | none => some (seconds * second, text)
      | some text =>
        let fraction := text.takeWhile isDigit
        guard (fraction ≠ [])
        some (seconds * second + decimal (fraction.take 6) * 10 ^ (6 - (fraction.take 6).length),
          text.dropWhile isDigit)

/-- The UTC offset that makes a text timezone-aware, as sign and microseconds. -/
def readOffset (text : List Char) : Option (Bool × Nat) :=
  match text with
  | ['Z'] => some (true, 0)
  | sign :: text => do
      guard (sign = '+' ∨ sign = '-')
      let (hours, text) ← readDigits 2 text
      let text ← readChar ':' text
      let (minutes, text) ← readDigits 2 text
      let (micros, text) ← readSeconds text
      guard (text = [] ∧ hours < 24 ∧ minutes < 60)
      some (sign = '+', hours * hour + minutes * 60 * second + micros)
  | [] => none

/-- The microseconds of a wall-clock reading. -/
def wallClock (days hours minutes micros : Nat) : Nat :=
  days * day + hours * hour + minutes * 60 * second + micros

/-- The instant of a wall-clock reading at a signed offset from UTC. -/
def resolve (wall : Nat) : Bool × Nat → Option Instant
  | (true, offset) => if offset ≤ wall then some ⟨wall - offset⟩ else none
  | (false, offset) => some ⟨wall + offset⟩

/-- `datetime.fromisoformat` for extended-format text with an offset. -/
def fromisoformat (text : String) : Option Instant := do
  let (year, text) ← readYear text.toList
  let text ← readChar '-' text
  let (month, text) ← readDigits 2 text
  let text ← readChar '-' text
  let (dayOfMonth, text) ← readDigits 2 text
  guard (Date.exists? ⟨year, month, dayOfMonth⟩)
  let (_, text) ← text.head?.map (fun separator => (separator, text.tail))
  let (hours, text) ← readDigits 2 text
  let text ← readChar ':' text
  let (minutes, text) ← readDigits 2 text
  guard (hours < 24 ∧ minutes < 60)
  let (micros, text) ← readSeconds text
  let offset ← readOffset text
  resolve (wallClock (Date.ordinal ⟨year, month, dayOfMonth⟩) hours minutes micros) offset

theorem digit_toNat (n : Nat) : (Char.ofNat (48 + n % 10)).toNat = 48 + n % 10 := by
  have bounded : n % 10 < 10 := Nat.mod_lt _ (by decide)
  have every : ∀ k < 10, (Char.ofNat (48 + k)).toNat = 48 + k := by decide
  exact every _ bounded

@[simp] theorem padded_length (width value : Nat) : (padded width value).length = width := by
  induction width with
  | zero => rfl
  | succ width ih => simp [padded, ih]

theorem padded_digits (width value : Nat) : ∀ c ∈ padded width value, isDigit c = true := by
  induction width with
  | zero => simp [padded]
  | succ width ih =>
    intro c member
    rcases List.mem_cons.mp member with rfl | member
    · simp only [isDigit, digit_toNat]
      simp
      omega
    · exact ih c member

theorem foldl_padded (width value total : Nat) :
    (padded width value).foldl (fun total c => 10 * total + (c.toNat - 48)) total =
      total * 10 ^ width + value % 10 ^ width := by
  induction width generalizing total with
  | zero => simp [padded, Nat.mod_one]
  | succ width ih =>
    have split : value % 10 ^ (width + 1) =
        value / 10 ^ width % 10 * 10 ^ width + value % 10 ^ width := by
      rw [Nat.pow_succ, Nat.mod_mul, Nat.mul_comm (10 ^ width)]
      omega
    rw [padded, List.foldl_cons, ih, digit_toNat, split, Nat.pow_succ]
    have cancel : 48 + value / 10 ^ width % 10 - 48 = value / 10 ^ width % 10 := by omega
    rw [cancel]
    ring

theorem decimal_padded {width value : Nat} (fits : value < 10 ^ width) :
    decimal (padded width value) = value := by
  rw [decimal, foldl_padded, Nat.mod_eq_of_lt fits]
  omega

theorem readDigits_padded {width value : Nat} (fits : value < 10 ^ width)
    (rest : List Char) : readDigits width (padded width value ++ rest) = some (value, rest) := by
  have taken : (padded width value ++ rest).take width = padded width value := by
    simp
  have dropped : (padded width value ++ rest).drop width = rest := by
    simp
  have digits : (padded width value).all isDigit = true := by
    simpa using padded_digits width value
  simp [readDigits, taken, dropped, decimal_padded fits, digits]

theorem takeWhile_padded (width value : Nat) {separator : Char} (rest : List Char)
    (stops : isDigit separator = false) :
    (padded width value ++ separator :: rest).takeWhile isDigit = padded width value ∧
      (padded width value ++ separator :: rest).dropWhile isDigit = separator :: rest := by
  have all := padded_digits width value
  rw [List.takeWhile_append_of_pos all, List.dropWhile_append_of_pos all]
  simp [stops]

theorem year_fits (year : Nat) : year < 10 ^ yearWidth year := by
  unfold yearWidth
  split
  · omega
  · exact Nat.lt_pow_succ_log_self (by decide) year

theorem readYear_padded (year : Nat) (rest : List Char) :
    readYear (padded (yearWidth year) year ++ '-' :: rest) = some (year, '-' :: rest) := by
  obtain ⟨taken, dropped⟩ := takeWhile_padded (yearWidth year) year rest
    (show isDigit '-' = false by decide)
  have wide : 4 ≤ yearWidth year := by
    unfold yearWidth
    split
    · exact Nat.le_refl 4
    · rename_i large
      have log : Nat.log 10 (10 ^ 4) ≤ Nat.log 10 year := Nat.log_mono_right (by omega)
      rw [Nat.log_pow (by decide)] at log
      omega
  simp [readYear, taken, dropped, wide, decimal_padded (year_fits year)]

theorem date_fits (days : Nat) :
    (dateOf days).month < 10 ^ 2 ∧ (dateOf days).dayOfMonth < 10 ^ 2 := by
  obtain ⟨-, bounded⟩ := yearDay_spec days
  obtain ⟨-, -, -, length, found, fits⟩ := monthDay_spec _ _ bounded
  have short : ∀ leap, ∀ length ∈ monthLengths leap, length ≤ 31 := by decide
  have atMost := short _ _ (List.mem_of_getElem? found)
  obtain ⟨index, -⟩ := List.getElem?_eq_some_iff.mp found
  have months : (monthLengths (isLeap (yearDay days).1)).length = 12 := rfl
  simp only [dateOf]
  omega

theorem readSeconds_written {micros : Nat} (bounded : micros < 60 * second)
    (rest : List Char) :
    readSeconds (':' :: padded 2 (micros / second) ++
      ((if micros % second = 0 then [] else '.' :: padded 6 (micros % second)) ++ '+' :: rest)) =
      some (micros, '+' :: rest) := by
  have whole : micros / second < 60 := by
    unfold second at *
    omega
  have wholeFits : micros / second < 10 ^ 2 := by omega
  simp only [readSeconds, List.cons_append, readChar, if_true, readDigits_padded wholeFits]
  by_cases zero : micros % second = 0
  · have exact : micros / second * second = micros := Nat.div_mul_cancel (Nat.dvd_of_mod_eq_zero zero)
    simp [zero, whole, exact]
  · have fraction : micros % second < 10 ^ 6 := Nat.mod_lt _ (by decide)
    obtain ⟨taken, dropped⟩ := takeWhile_padded 6 (micros % second) rest
      (show isDigit '+' = false by decide)
    have all : (padded 6 (micros % second)).take 6 = padded 6 (micros % second) := by
      rw [List.take_of_length_le (by simp)]
    have nonempty : padded 6 (micros % second) ≠ [] :=
      List.ne_nil_of_length_pos (by simp)
    have total : micros / second * second + micros % second = micros := Nat.div_add_mod' micros second
    simp only [if_neg zero, List.cons_append, Option.bind_eq_bind, Option.bind_some, if_true, taken, dropped, all,
      decimal_padded fraction, padded_length, Nat.sub_self, Nat.pow_zero, Nat.mul_one, total, guard, if_pos whole,
      if_pos nonempty, Option.pure_def]

theorem readOffset_utc : readOffset ['+', '0', '0', ':', '0', '0'] = some (true, 0) := by
  decide

theorem resolve_utc (wall : Nat) : resolve wall (true, 0) = some ⟨wall⟩ := by
  simp [resolve]

/-- The wall clock of a day, split at the minute the way `isoformat` writes it. -/
theorem clock_split (micros : Nat) :
    micros % day / second / 3600 < 24 ∧
      micros % day / second % 60 = micros % (60 * second) / second ∧
      micros % second = micros % (60 * second) % second ∧
      wallClock (micros / day) (micros % day / second / 3600) (micros % day / second / 60 % 60)
        (micros % (60 * second)) = micros := by
  unfold wallClock
  have dayEq : day = 86400000000 := by decide
  have hourEq : hour = 3600000000 := by decide
  have secondEq : second = 1000000 := rfl
  rw [dayEq, hourEq, secondEq]
  omega

theorem fromisoformat_isoformat (instant : Instant) :
    fromisoformat (isoformat instant) = some instant := by
  obtain ⟨micros⟩ := instant
  obtain ⟨monthFits, dayFits⟩ := date_fits (micros / day)
  have existing := exists?_dateOf (micros / day)
  have ordinal := ordinal_dateOf (micros / day)
  obtain ⟨hoursBound, wholeEq, microsEq, total⟩ := clock_split micros
  have written := readSeconds_written (Nat.mod_lt micros (show 0 < 60 * second by decide))
    ['0', '0', ':', '0', '0']
  rw [← wholeEq, ← microsEq] at written
  obtain ⟨seconds, secondsEq⟩ : ∃ seconds, micros % day / second = seconds := ⟨_, rfl⟩
  obtain ⟨⟨year, month, dayOfMonth⟩, dateEq⟩ : ∃ date, dateOf (micros / day) = date := ⟨_, rfl⟩
  obtain ⟨inMinute, inMinuteEq⟩ : ∃ inMinute, micros % (60 * second) = inMinute := ⟨_, rfl⟩
  rw [secondsEq] at hoursBound written total
  rw [inMinuteEq] at written total
  rw [dateEq] at monthFits dayFits existing ordinal
  have hoursFits : seconds / 3600 < 10 ^ 2 := by omega
  have minutesFits : seconds / 60 % 60 < 10 ^ 2 := by omega
  have minutesBound : seconds / 60 % 60 < 60 := by omega
  simp only [List.cons_append] at written
  simp only [isoformat, fromisoformat, String.toList_ofList, dateEq, secondsEq, List.append_assoc,
    List.cons_append, readYear_padded, Option.bind_eq_bind, Option.bind_some, readChar, if_true,
    readDigits_padded monthFits, readDigits_padded dayFits, existing, List.head?_cons,
    List.tail_cons, Option.map_some, readDigits_padded hoursFits, readDigits_padded minutesFits]
  simp only [hoursBound, minutesBound, and_self, guard_true, Option.pure_def, Option.bind_some]
  rw [written, Option.bind_some, readOffset_utc, Option.bind_some, resolve_utc, ordinal, total]

end Instant

end AiGovernance.Std
