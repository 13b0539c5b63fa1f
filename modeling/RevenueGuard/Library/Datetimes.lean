import Mathlib.Data.Nat.Init
import Mathlib.Tactic.IntervalCases
import Mathlib.Tactic.Ring
import RevenueGuard.Library.Instants

/-!
Dates and times of the day, with or without an offset from UTC, and their ISO 8601
texts: `isoformat` writes them, `fromisoformat` reads the extended calendar form.
A date is counted by its proleptic Gregorian ordinal, so that every datetime denotes
an instant; one without an offset is taken to be in UTC.
-/

namespace RevenueGuard.Library.Datetimes

variable {width total n : ℕ} {rest : List Char}

/-! ## Numerals of a fixed width -/

def digit (n : ℕ) : Char := Char.ofNat (48 + n % 10)

/-- The last digits of a number, with leading zeros. -/
def pad : ℕ → ℕ → List Char
  | 0, _ => []
  | width + 1, n => digit (n / 10 ^ width) :: pad width n

/-- Read so many digits, after `total`. -/
def readDigits : ℕ → ℕ → List Char → Option (ℕ × List Char)
  | 0, total, rest => some (total, rest)
  | _ + 1, _, [] => none
  | width + 1, total, c :: rest =>
    if c.isDigit then readDigits width (total * 10 + (c.toNat - 48)) rest else none

theorem digit_is_digit (n : ℕ) : (digit n).isDigit = true ∧ (digit n).toNat - 48 = n % 10 := by
  have small : n % 10 < 10 := Nat.mod_lt n (by decide)
  unfold digit
  generalize n % 10 = k at small
  interval_cases k <;> decide

theorem pad_digits (width n : ℕ) : ∀ c ∈ pad width n, c.isDigit = true := by
  induction width with
  | zero => simp [pad]
  | succ width ih =>
    intro c listed
    rcases List.mem_cons.mp listed with rfl | later
    · exact (digit_is_digit _).1
    · exact ih c later

theorem pad_length (width n : ℕ) : (pad width n).length = width := by
  induction width with
  | zero => rfl
  | succ width ih => rw [pad, List.length_cons, ih]

/-- What was written is read back, up to the digits that the width cuts off. -/
theorem read_digits_pad (width total n : ℕ) (rest : List Char) :
    readDigits width total (pad width n ++ rest) = some (total * 10 ^ width + n % 10 ^ width, rest) := by
  induction width generalizing total with
  | zero => simp [pad, readDigits, Nat.mod_one]
  | succ width ih =>
    obtain ⟨isDigit, value⟩ := digit_is_digit (n / 10 ^ width)
    rw [pad, List.cons_append, readDigits, if_pos isDigit, value, ih, Nat.mod_pow_succ, pow_succ]
    congr 2
    ring

theorem read_number (small : n < 10 ^ width) (rest : List Char) :
    readDigits width 0 (pad width n ++ rest) = some (n, rest) := by
  rw [read_digits_pad, Nat.mod_eq_of_lt small, Nat.zero_mul, Nat.zero_add]

theorem read_last (small : n < 10 ^ width) : readDigits width 0 (pad width n) = some (n, []) := by
  have read := read_number small []
  rwa [List.append_nil] at read

/-! ## Dates and times -/

def isLeap (year : ℕ) : Bool := year % 4 = 0 && (year % 100 ≠ 0 || year % 400 = 0)

def daysInMonth (year month : ℕ) : ℕ :=
  match month with
  | 2 => if isLeap year then 29 else 28
  | 4 | 6 | 9 | 11 => 30
  | _ => 31

/-- A date of the years 1 to 9999. -/
structure Date where
  year : ℕ
  month : ℕ
  day : ℕ
  valid : (1 ≤ year ∧ year ≤ 9999) ∧ (1 ≤ month ∧ month ≤ 12) ∧ 1 ≤ day ∧ day ≤ daysInMonth year month
  deriving DecidableEq

/-- A time of the day, or the size of an offset from UTC. -/
structure Clock where
  hour : ℕ
  minute : ℕ
  second : ℕ
  microsecond : ℕ
  valid : hour < 24 ∧ minute < 60 ∧ second < 60 ∧ microsecond < 1000000
  deriving DecidableEq

/-- A time zone: how far it is ahead of UTC, or behind it. -/
structure Offset where
  behind : Bool
  size : Clock
  deriving DecidableEq

structure Datetime where
  date : Date
  clock : Clock
  offset : Option Offset
  deriving DecidableEq

/-- `timezone.utc`. -/
def utc : Offset :=
  { behind := false, size := { hour := 0, minute := 0, second := 0, microsecond := 0, valid := by decide } }

/-! ## Instants -/

/-- The number of days in the years before. -/
def daysBeforeYear (year : ℕ) : ℕ :=
  (year - 1) * 365 + (year - 1) / 4 - (year - 1) / 100 + (year - 1) / 400

/-- The number of days in the months before, of the same year. -/
def daysBeforeMonth (year month : ℕ) : ℕ := ((List.range' 1 (month - 1)).map (daysInMonth year)).sum

/-- `date.toordinal()`. -/
def Date.toOrdinal (date : Date) : ℕ :=
  daysBeforeYear date.year + daysBeforeMonth date.year date.month + date.day

/-- The microseconds since midnight. -/
def Clock.toMicroseconds (clock : Clock) : ℕ :=
  ((clock.hour * 60 + clock.minute) * 60 + clock.second) * 1000000 + clock.microsecond

/-- `utcoffset()`, in microseconds. -/
def Offset.toMicroseconds (offset : Offset) : ℤ :=
  if offset.behind then -(offset.size.toMicroseconds : ℤ) else offset.size.toMicroseconds

/-- What the clock on the wall shows, counted from the Unix epoch. -/
def Datetime.local (d : Datetime) : ℤ :=
  ((d.date.toOrdinal : ℤ) - 719163) * 86400000000 + d.clock.toMicroseconds

/-- The instant that a datetime denotes. -/
def Datetime.instant (d : Datetime) : ℤ := d.local - (d.offset.map Offset.toMicroseconds).getD 0

/-- `datetime.min`, 0001-01-01T00:00:00Z. -/
def earliest : ℤ := -62135596800000000

theorem days_in_month_le (year month : ℕ) : daysInMonth year month ≤ 31 := by
  unfold daysInMonth
  split
  · split <;> omega
  all_goals omega

theorem mono_of_succ {f : ℕ → ℕ} (step : ∀ k, 1 ≤ k → f k ≤ f (k + 1)) {k k' : ℕ} (first : 1 ≤ k)
    (earlier : k ≤ k') : f k ≤ f k' := by
  induction k', earlier using Nat.le_induction with
  | base => exact le_rfl
  | succ k' earlier ih => exact ih.trans (step k' (first.trans earlier))

theorem days_before_month_succ {year month : ℕ} (positive : 1 ≤ month) :
    daysBeforeMonth year (month + 1) = daysBeforeMonth year month + daysInMonth year month := by
  obtain ⟨m, rfl⟩ := Nat.exists_eq_succ_of_ne_zero (Nat.one_le_iff_ne_zero.mp positive)
  simp only [daysBeforeMonth, Nat.succ_eq_add_one, Nat.add_sub_cancel, List.range'_1_concat, List.map_append,
    List.sum_append, List.map_singleton, List.sum_singleton]
  congr 2
  omega

theorem days_before_month_mono {year month month' : ℕ} (first : 1 ≤ month) (earlier : month ≤ month') :
    daysBeforeMonth year month ≤ daysBeforeMonth year month' :=
  mono_of_succ (fun _ positive => by rw [days_before_month_succ positive]; omega) first earlier

theorem days_before_month_thirteen (year : ℕ) :
    daysBeforeMonth year 13 = if isLeap year then 366 else 365 := by
  cases leap : isLeap year <;> simp [daysBeforeMonth, daysInMonth, leap, List.range']

theorem days_before_month (date : Date) :
    daysBeforeMonth date.year date.month + date.day ≤ if isLeap date.year then 366 else 365 := by
  obtain ⟨_, ⟨first, last⟩, _, within⟩ := date.valid
  calc daysBeforeMonth date.year date.month + date.day
      ≤ daysBeforeMonth date.year date.month + daysInMonth date.year date.month := by omega
    _ = daysBeforeMonth date.year (date.month + 1) := (days_before_month_succ first).symm
    _ ≤ daysBeforeMonth date.year 13 := days_before_month_mono (by omega) (by omega)
    _ = if isLeap date.year then 366 else 365 := days_before_month_thirteen date.year

theorem to_ordinal_range (date : Date) : 1 ≤ date.toOrdinal ∧ date.toOrdinal ≤ 3652059 := by
  have within := days_before_month date
  obtain ⟨⟨first, last⟩, _, positive, _⟩ := date.valid
  unfold Date.toOrdinal daysBeforeYear
  refine ⟨by omega, ?_⟩
  by_cases lastYear : date.year = 9999
  · rw [lastYear] at within ⊢
    have common : isLeap 9999 = false := by decide
    rw [common] at within
    simp at within
    omega
  · split at within <;> omega

theorem to_microseconds_lt (clock : Clock) : clock.toMicroseconds < 86400000000 := by
  obtain ⟨hour, minute, second, microsecond⟩ := clock.valid
  unfold Clock.toMicroseconds
  omega

/-- Every wall clock shows a time between `datetime.min` and `datetime.max`. -/
theorem local_range (d : Datetime) : earliest ≤ d.local ∧ d.local ≤ Instant.latest := by
  obtain ⟨first, last⟩ := to_ordinal_range d.date
  have time := to_microseconds_lt d.clock
  unfold Datetime.local earliest Instant.latest
  omega

/-- Without an offset, or in UTC, the wall clock shows the instant. -/
theorem instant_local {d : Datetime} (plain : d.offset = none ∨ d.offset = some utc) : d.instant = d.local := by
  unfold Datetime.instant
  rcases plain with none | zero
  · rw [none]
    exact Int.sub_zero _
  · rw [zero]
    exact Int.sub_zero _

/-! ## Texts -/

/-- The microseconds after the seconds, which may be left out where there are none. -/
def fractionText (always : Bool) (microsecond : ℕ) : List Char :=
  if microsecond = 0 ∧ always = false then [] else '.' :: pad 6 microsecond

def Date.isoText (date : Date) : List Char :=
  pad 4 date.year ++ '-' :: (pad 2 date.month ++ '-' :: pad 2 date.day)

/-- A time of the day; `always` asks for the microseconds in any case. -/
def Clock.isoText (always : Bool) (clock : Clock) : List Char :=
  pad 2 clock.hour ++ ':' :: (pad 2 clock.minute ++ ':' :: (pad 2 clock.second ++
    fractionText always clock.microsecond))

/-- The size of an offset, which mostly has no seconds. -/
def Clock.offsetText (clock : Clock) : List Char :=
  pad 2 clock.hour ++ ':' :: (pad 2 clock.minute ++
    if clock.second = 0 ∧ clock.microsecond = 0 then []
    else ':' :: (pad 2 clock.second ++ fractionText false clock.microsecond))

def Offset.isoText (offset : Offset) : List Char :=
  (if offset.behind then '-' else '+') :: offset.size.offsetText

/-- `isoformat()`; with `always`, `isoformat(timespec="microseconds")`. -/
def Datetime.isoFormat (always : Bool) (d : Datetime) : List Char :=
  d.date.isoText ++ 'T' :: (d.clock.isoText always ++ (d.offset.map Offset.isoText).getD [])

/-- The text of a datetime in UTC that ends in a `Z`. -/
def zuluText (always : Bool) (date : Date) (clock : Clock) : List Char :=
  date.isoText ++ 'T' :: (clock.isoText always ++ ['Z'])

/-- `text.replace("Z", "+00:00")`. -/
def replaceZ (text : List Char) : List Char := text.flatMap fun c => if c = 'Z' then "+00:00".toList else [c]

def expect (c : Char) : List Char → Option (List Char)
  | [] => none
  | x :: rest => if x = c then some rest else none

/-- Digits after a decimal point, of which the first six count, if there is a point. -/
def readFraction : List Char → Option (ℕ × List Char)
  | '.' :: rest =>
    let run := rest.takeWhile Char.isDigit
    if run = [] then none
    else (readDigits 6 0 (run.take 6 ++ List.replicate (6 - run.length) '0')).map fun read =>
      (read.1, rest.drop run.length)
  | rest => some (0, rest)

/-- Seconds with their fraction, if there are any. -/
def readSeconds : List Char → Option ((ℕ × ℕ) × List Char)
  | ':' :: rest => do
    let (second, rest) ← readDigits 2 0 rest
    let (microsecond, rest) ← readFraction rest
    return ((second, microsecond), rest)
  | rest => some ((0, 0), rest)

def readClock (text : List Char) : Option (Clock × List Char) := do
  let (hour, rest) ← readDigits 2 0 text
  let (minute, rest) ← readDigits 2 0 (← expect ':' rest)
  let ((second, microsecond), rest) ← readSeconds rest
  if valid : hour < 24 ∧ minute < 60 ∧ second < 60 ∧ microsecond < 1000000 then
    return ({ hour, minute, second, microsecond, valid }, rest)
  else none

def readDate (text : List Char) : Option (Date × List Char) := do
  let (year, rest) ← readDigits 4 0 text
  let (month, rest) ← readDigits 2 0 (← expect '-' rest)
  let (day, rest) ← readDigits 2 0 (← expect '-' rest)
  if valid : (1 ≤ year ∧ year ≤ 9999) ∧ (1 ≤ month ∧ month ≤ 12) ∧ 1 ≤ day ∧ day ≤ daysInMonth year month then
    return ({ year, month, day, valid }, rest)
  else none

/-- The size of an offset, to the end of the text. -/
def readOffset (behind : Bool) (text : List Char) : Option (Option Offset) := do
  let (size, rest) ← readClock text
  if rest = [] then return some { behind, size } else none

/-- An offset, if there is one. -/
def readZone : List Char → Option (Option Offset)
  | [] => some none
  | '+' :: rest => readOffset false rest
  | '-' :: rest => readOffset true rest
  | _ => none

/-- `datetime.fromisoformat`, for a date and a time in the extended calendar form. -/
def fromIsoFormat (text : List Char) : Option Datetime := do
  let (date, rest) ← readDate text
  -- Any one character may stand between the date and the time.
  let (clock, rest) ← readClock (rest.drop 1)
  return { date, clock, offset := ← readZone rest }

/-! ### What is written is read back -/

/-- What may follow a time: nothing that would still belong to it. -/
def Ends (rest : List Char) : Prop := ∀ c ∈ rest.head?, c.isDigit = false ∧ c ≠ '.' ∧ c ≠ ':'

theorem expect_cons (c : Char) (rest : List Char) : expect c (c :: rest) = some rest := if_pos rfl

theorem digits_run (width n : ℕ) (ends : Ends rest) :
    (pad width n ++ rest).takeWhile Char.isDigit = pad width n := by
  rw [List.takeWhile_append_of_pos (pad_digits width n)]
  cases rest with
  | nil => simp
  | cons c rest => simp [(ends c rfl).1]

theorem read_fraction (always : Bool) (small : n < 1000000) (ends : Ends rest) :
    readFraction (fractionText always n ++ rest) = some (n, rest) := by
  unfold fractionText
  split
  · rename_i none
    rw [none.1, List.nil_append]
    cases rest with
    | nil => rfl
    | cons c rest =>
      unfold readFraction
      split
      · rename_i same
        cases same
        exact absurd rfl (ends '.' rfl).2.1
      · rfl
  · have six : (pad 6 n).length = 6 := pad_length 6 n
    have filled : pad 6 n ≠ [] := List.ne_nil_of_length_eq_add_one six
    have within : n < 10 ^ 6 := small
    simp only [List.cons_append, readFraction, digits_run 6 n ends, if_neg filled, six,
      List.take_of_length_le six.le, Nat.sub_self, List.replicate_zero, List.append_nil, read_last within,
      Option.map_some, List.drop_left' six]

theorem read_seconds (always : Bool) {second : ℕ} (small : second < 60) (fine : n < 1000000)
    (ends : Ends rest) :
    readSeconds (':' :: (pad 2 second ++ (fractionText always n ++ rest))) = some ((second, n), rest) := by
  have seconds : second < 10 ^ 2 := by omega
  simp [readSeconds, read_number seconds, read_fraction always fine ends]

theorem read_no_seconds (ends : Ends rest) : readSeconds rest = some ((0, 0), rest) := by
  unfold readSeconds
  split
  · rename_i later
    exact absurd rfl (ends ':' rfl).2.2
  · rfl

theorem read_clock (always : Bool) (clock : Clock) (ends : Ends rest) :
    readClock (clock.isoText always ++ rest) = some (clock, rest) := by
  obtain ⟨hour, minute, second, microsecond⟩ := clock.valid
  have hours : clock.hour < 10 ^ 2 := by omega
  have minutes : clock.minute < 10 ^ 2 := by omega
  simp [readClock, Clock.isoText, read_number hours, read_number minutes, expect_cons,
    read_seconds always second microsecond ends, clock.valid]

theorem read_offset_clock (clock : Clock) : readClock clock.offsetText = some (clock, []) := by
  obtain ⟨hour, minute, second, microsecond⟩ := clock.valid
  have hours : clock.hour < 10 ^ 2 := by omega
  have minutes : clock.minute < 10 ^ 2 := by omega
  have nothing : Ends [] := by simp [Ends]
  unfold Clock.offsetText
  split
  · rename_i whole
    obtain ⟨hour, minute, second, microsecond, _⟩ := clock
    obtain ⟨rfl, rfl⟩ := whole
    simp_all [readClock, read_number hours, read_last minutes, expect_cons, read_no_seconds nothing]
  · have read := read_seconds false second microsecond nothing
    rw [List.append_nil] at read
    simp [readClock, read_number hours, read_number minutes, expect_cons, read, clock.valid]

theorem read_date (date : Date) (rest : List Char) : readDate (date.isoText ++ rest) = some (date, rest) := by
  obtain ⟨⟨_, year⟩, ⟨_, month⟩, _, day⟩ := date.valid
  have years : date.year < 10 ^ 4 := by omega
  have months : date.month < 10 ^ 2 := by omega
  have days : date.day < 10 ^ 2 := by
    have := days_in_month_le date.year date.month
    omega
  simp [readDate, Date.isoText, read_number years, read_number months, read_number days, expect_cons, date.valid]

theorem read_zone (offset : Option Offset) : readZone ((offset.map Offset.isoText).getD []) = some offset := by
  cases offset with
  | none => rfl
  | some offset =>
    obtain ⟨behind, size⟩ := offset
    cases behind <;> simp [Offset.isoText, readZone, readOffset, read_offset_clock]

theorem ends_zone (offset : Option Offset) : Ends ((offset.map Offset.isoText).getD []) := by
  cases offset with
  | none => simp [Ends]
  | some offset =>
    obtain ⟨behind, size⟩ := offset
    cases behind <;> simp [Ends, Offset.isoText]

/-- `fromisoformat` reads what `isoformat` writes. -/
theorem from_iso_format (always : Bool) (d : Datetime) : fromIsoFormat (d.isoFormat always) = some d := by
  simp [fromIsoFormat, Datetime.isoFormat, read_date, read_clock always d.clock (ends_zone d.offset), read_zone]

theorem replace_z_plain {text : List Char} (plain : 'Z' ∉ text) : replaceZ text = text := by
  induction text with
  | nil => rfl
  | cons c text ih =>
    rw [List.mem_cons, not_or] at plain
    rw [replaceZ, List.flatMap_cons, if_neg (Ne.symm plain.1), ← replaceZ, ih plain.2]
    rfl

theorem z_not_pad (width n : ℕ) : 'Z' ∉ pad width n := by
  intro listed
  exact absurd (pad_digits width n 'Z' listed) (by decide)

theorem z_not_fraction (always : Bool) (n : ℕ) : 'Z' ∉ fractionText always n := by
  unfold fractionText
  split <;> simp [z_not_pad]

theorem z_not_date (date : Date) : 'Z' ∉ date.isoText := by
  simp [Date.isoText, z_not_pad]

theorem z_not_clock (always : Bool) (clock : Clock) : 'Z' ∉ clock.isoText always := by
  simp [Clock.isoText, z_not_pad, z_not_fraction]

theorem z_not_zone (offset : Option Offset) : 'Z' ∉ (offset.map Offset.isoText).getD [] := by
  cases offset with
  | none => simp
  | some offset =>
    obtain ⟨behind, size⟩ := offset
    simp only [Option.map_some, Option.getD_some, Offset.isoText, Clock.offsetText]
    cases behind <;> split <;> simp [z_not_pad, z_not_fraction]

/-- A text that `isoformat` writes has no `Z` to replace. -/
theorem replace_z_iso_format (always : Bool) (d : Datetime) :
    replaceZ (d.isoFormat always) = d.isoFormat always := by
  apply replace_z_plain
  simp [Datetime.isoFormat, z_not_date, z_not_clock, z_not_zone]

/-- A `Z` stands for the offset of UTC. -/
theorem replace_z_zulu (always : Bool) (date : Date) (clock : Clock) :
    replaceZ (zuluText always date clock) = Datetime.isoFormat always { date, clock, offset := some utc } := by
  have zone : ((some utc).map Offset.isoText).getD [] = "+00:00".toList := by decide
  have before : 'Z' ∉ date.isoText ++ 'T' :: clock.isoText always := by
    simp [z_not_date, z_not_clock]
  have same := replace_z_plain before
  rw [zuluText, Datetime.isoFormat, zone]
  unfold replaceZ at same ⊢
  rw [← List.cons_append, ← List.append_assoc, List.flatMap_append, same,
    List.append_assoc, List.cons_append]
  rfl

end RevenueGuard.Library.Datetimes
