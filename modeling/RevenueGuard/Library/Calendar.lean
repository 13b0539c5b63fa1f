import Mathlib.Data.Char
import Mathlib.Data.List.Lex
import Mathlib.Data.Nat.Find
import RevenueGuard.Library.Datetimes

/-!
The calendar the other way round: the date of an ordinal, the datetime that the clock in
UTC shows at an instant, and `astimezone(timezone.utc)`.  Datetimes without an offset are
compared field by field, which is the order of what their clocks show, and so are the
texts of datetimes in UTC.
-/

namespace RevenueGuard.Library.Datetimes

variable {n m width year month : ℕ} {p q s t : List Char}

/-! ## The date of an ordinal -/

/-- A multiple more or not. -/
theorem quotient_step (positive : 1 ≤ year) (k : ℕ) :
    year / k = (year - 1) / k + if year % k = 0 then 1 else 0 := by
  obtain ⟨before, rfl⟩ := Nat.exists_eq_succ_of_ne_zero (Nat.one_le_iff_ne_zero.mp positive)
  simp only [Nat.succ_eq_add_one, Nat.add_sub_cancel, Nat.succ_div, Nat.dvd_iff_mod_eq_zero]

theorem days_before_year_succ (positive : 1 ≤ year) :
    daysBeforeYear (year + 1) = daysBeforeYear year + if isLeap year then 366 else 365 := by
  have fewer : (year - 1) / 100 ≤ (year - 1) / 4 := Nat.div_le_div_left (by decide) (by decide)
  have centuries : year % 400 = 0 → year % 100 = 0 := by omega
  have olympiads : year % 100 = 0 → year % 4 = 0 := by omega
  simp only [daysBeforeYear, Nat.add_sub_cancel, quotient_step positive 4, quotient_step positive 100,
    quotient_step positive 400, isLeap, Bool.and_eq_true, Bool.or_eq_true, decide_eq_true_eq]
  generalize (year - 1) / 4 = a at *
  generalize (year - 1) / 100 = b at *
  by_cases fourth : year % 4 = 0 <;> by_cases hundredth : year % 100 = 0 <;>
    by_cases fourHundredth : year % 400 = 0 <;> simp_all <;> omega

/-- The last of the years, or months, that begin before a day. -/
def lastBefore (daysBefore : ℕ → ℕ) (most n : ℕ) : ℕ := Nat.findGreatest (fun k => daysBefore k < n) most

theorem last_before_spec {daysBefore : ℕ → ℕ} {most : ℕ} (some : 1 ≤ most) (first : daysBefore 1 < n)
    (last : n ≤ daysBefore (most + 1)) :
    (1 ≤ lastBefore daysBefore most n ∧ lastBefore daysBefore most n ≤ most) ∧
      daysBefore (lastBefore daysBefore most n) < n ∧ n ≤ daysBefore (lastBefore daysBefore most n + 1) := by
  have bound : lastBefore daysBefore most n ≤ most := Nat.findGreatest_le most
  refine ⟨⟨Nat.le_findGreatest some first, bound⟩,
    Nat.findGreatest_spec (P := fun k => daysBefore k < n) some first, ?_⟩
  rcases bound.lt_or_eq with earlier | same
  · have next : ¬ daysBefore (lastBefore daysBefore most n + 1) < n :=
      Nat.findGreatest_is_greatest (P := fun k => daysBefore k < n) (Nat.lt_succ_self _) earlier
    exact not_lt.mp next
  · rwa [same]

/-- The year of a day.  No year is shorter than 365 days. -/
def yearOf (n : ℕ) : ℕ := lastBefore daysBeforeYear (min 9999 (n / 365 + 1)) n

theorem year_of_spec (range : 1 ≤ n ∧ n ≤ 3652059) :
    (1 ≤ yearOf n ∧ yearOf n ≤ 9999) ∧ daysBeforeYear (yearOf n) < n ∧ n ≤ daysBeforeYear (yearOf n + 1) := by
  have last : n ≤ daysBeforeYear (min 9999 (n / 365 + 1) + 1) := by
    rcases min_cases 9999 (n / 365 + 1) with ⟨most, _⟩ | ⟨most, _⟩
    · rw [most]
      exact range.2
    · rw [most, daysBeforeYear, Nat.add_sub_cancel]
      omega
  obtain ⟨⟨first, most⟩, spec⟩ := last_before_spec (by omega) range.1 last
  exact ⟨⟨first, most.trans (min_le_left _ _)⟩, spec⟩

/-- The month of a day of the year. -/
def monthOf (year rest : ℕ) : ℕ := lastBefore (daysBeforeMonth year) 12 rest

theorem month_of_spec {rest : ℕ} (first : 1 ≤ rest) (last : rest ≤ if isLeap year then 366 else 365) :
    (1 ≤ monthOf year rest ∧ monthOf year rest ≤ 12) ∧ daysBeforeMonth year (monthOf year rest) < rest ∧
      rest ≤ daysBeforeMonth year (monthOf year rest + 1) :=
  last_before_spec (by decide) first (by rwa [days_before_month_thirteen])

/-- `date.fromordinal`. -/
def Date.ofOrdinal (n : ℕ) (range : 1 ≤ n ∧ n ≤ 3652059) : Date where
  year := yearOf n
  month := monthOf (yearOf n) (n - daysBeforeYear (yearOf n))
  day := n - daysBeforeYear (yearOf n) -
    daysBeforeMonth (yearOf n) (monthOf (yearOf n) (n - daysBeforeYear (yearOf n)))
  valid := by
    obtain ⟨years, after, within⟩ := year_of_spec range
    rw [days_before_year_succ years.1] at within
    obtain ⟨months, after', within'⟩ :=
      @month_of_spec (yearOf n) (n - daysBeforeYear (yearOf n)) (by omega) (by omega)
    rw [days_before_month_succ months.1] at within'
    exact ⟨years, months, by omega, by omega⟩

theorem to_ordinal_of_ordinal (range : 1 ≤ n ∧ n ≤ 3652059) : (Date.ofOrdinal n range).toOrdinal = n := by
  obtain ⟨years, after, within⟩ := year_of_spec range
  rw [days_before_year_succ years.1] at within
  obtain ⟨_, after', _⟩ := @month_of_spec (yearOf n) (n - daysBeforeYear (yearOf n)) (by omega) (by omega)
  simp only [Date.toOrdinal, Date.ofOrdinal]
  omega

/-- The time that so many microseconds after midnight are. -/
def Clock.ofMicroseconds (u : ℕ) (range : u < 86400000000) : Clock where
  hour := u / 3600000000
  minute := u / 60000000 % 60
  second := u / 1000000 % 60
  microsecond := u % 1000000
  valid := by omega

theorem to_microseconds_of_microseconds {u : ℕ} (range : u < 86400000000) :
    (Clock.ofMicroseconds u range).toMicroseconds = u := by
  simp only [Clock.toMicroseconds, Clock.ofMicroseconds]
  omega

/-! ## UTC -/

/-- An instant that a `datetime` can hold. -/
def Representable (t : ℤ) : Prop := earliest ≤ t ∧ t ≤ Instant.latest

instance (t : ℤ) : Decidable (Representable t) := inferInstanceAs (Decidable (_ ∧ _))

/-- The datetime whose clock shows this. -/
def ofLocal (t : ℤ) (range : Representable t) (offset : Option Offset) : Datetime where
  date := Date.ofOrdinal (t / 86400000000 + 719163).toNat (by
    obtain ⟨first, last⟩ := range
    unfold earliest at first
    unfold Instant.latest at last
    omega)
  clock := Clock.ofMicroseconds (t % 86400000000).toNat (by omega)
  offset

theorem of_local_local {t : ℤ} (range : Representable t) (offset : Option Offset) :
    (ofLocal t range offset).local = t := by
  have first := range.1
  unfold earliest at first
  simp only [Datetime.local, ofLocal, to_ordinal_of_ordinal, to_microseconds_of_microseconds]
  omega

/-- The datetime in UTC of an instant. -/
def utcOf (t : ℤ) (range : Representable t) : Datetime := ofLocal t range (some utc)

/-- `astimezone(timezone.utc)`, which cannot leave the calendar. -/
def astimezoneUtc (d : Datetime) : Except String Datetime :=
  if range : Representable d.instant then .ok (utcOf d.instant range) else .error "date value out of range"

theorem astimezone_utc_ok {d e : Datetime} : astimezoneUtc d = .ok e ↔
    ∃ range : Representable d.instant, e = utcOf d.instant range := by
  unfold astimezoneUtc
  split
  · rename_i range
    simp [range, eq_comm]
  · rename_i range
    simp [range]

/-- A datetime in UTC, which is known by its instant. -/
structure Timestamp where
  instant : ℤ
  range : Representable instant
  deriving DecidableEq

namespace Timestamp

def ofInstant? (t : ℤ) : Option Timestamp := if range : Representable t then some ⟨t, range⟩ else none

def datetime (t : Timestamp) : Datetime := utcOf t.instant t.range

/-- `isoformat()`. -/
def isoText (t : Timestamp) : List Char := t.datetime.isoFormat false

end Timestamp

/-! ## The order of the fields -/

/-- What datetimes without an offset are compared by. -/
def Datetime.fields (d : Datetime) : List ℕ :=
  [d.date.year, d.date.month, d.date.day, d.clock.hour, d.clock.minute, d.clock.second, d.clock.microsecond]

theorem days_before_year_mono {year' : ℕ} (first : 1 ≤ year) (earlier : year ≤ year') :
    daysBeforeYear year ≤ daysBeforeYear year' :=
  mono_of_succ (fun _ positive => by rw [days_before_year_succ positive]; omega) first earlier

/-- A date that comes first by its fields. -/
def Date.Before (d e : Date) : Prop :=
  d.year < e.year ∨ d.year = e.year ∧ (d.month < e.month ∨ d.month = e.month ∧ d.day < e.day)

/-- A date is in its year, and in its month. -/
theorem to_ordinal_lt {d e : Date} (earlier : d.Before e) : d.toOrdinal < e.toOrdinal := by
  obtain ⟨⟨year, _⟩, ⟨month, _⟩, _, day⟩ := d.valid
  obtain ⟨_, _, positive, _⟩ := e.valid
  unfold Date.toOrdinal
  rcases earlier with years | ⟨same, months | ⟨same', days⟩⟩
  · have within := days_before_month d
    have next := days_before_year_succ year
    have mono := days_before_year_mono (show 1 ≤ d.year + 1 by omega) (show d.year + 1 ≤ e.year from years)
    omega
  · have next := @days_before_month_succ d.year _ month
    have mono := @days_before_month_mono d.year _ _ (show 1 ≤ d.month + 1 by omega)
      (show d.month + 1 ≤ e.month from months)
    rw [← same]
    omega
  · rw [same, same']
    omega

/-- A time that comes first by its fields. -/
def Clock.Before (d e : Clock) : Prop :=
  d.hour < e.hour ∨ d.hour = e.hour ∧ (d.minute < e.minute ∨ d.minute = e.minute ∧
    (d.second < e.second ∨ d.second = e.second ∧ d.microsecond < e.microsecond))

theorem to_microseconds_lt_of_before {d e : Clock} (earlier : d.Before e) :
    d.toMicroseconds < e.toMicroseconds := by
  obtain ⟨_, _, _, _⟩ := d.valid
  obtain ⟨_, _, _, _⟩ := e.valid
  unfold Clock.Before at earlier
  unfold Clock.toMicroseconds
  omega

/-- The date decides, and on one day the time. -/
theorem fields_lt {d e : Datetime} :
    d.fields < e.fields ↔ d.date.Before e.date ∨ d.date = e.date ∧ d.clock.Before e.clock := by
  have date : d.date = e.date ↔
      d.date.year = e.date.year ∧ d.date.month = e.date.month ∧ d.date.day = e.date.day := by
    rw [Date.mk.injEq]
  simp only [Datetime.fields, List.cons_lt_cons_iff, List.not_lt_nil, and_false, or_false, Date.Before, Clock.Before,
    date]
  tauto

/-- What comes first by its fields is shown first by its clock. -/
theorem local_lt_of_fields {d e : Datetime} (less : d.fields < e.fields) : d.local < e.local := by
  have time := to_microseconds_lt d.clock
  unfold Datetime.local
  rcases fields_lt.mp less with earlier | ⟨same, earlier⟩
  · have days := to_ordinal_lt earlier
    omega
  · have times := to_microseconds_lt_of_before earlier
    rw [same]
    omega

/-- The fields of two datetimes are in the order of what their clocks show. -/
theorem local_lt_iff {d e : Datetime} : d.local < e.local ↔ d.fields < e.fields := by
  refine ⟨fun less => ?_, local_lt_of_fields⟩
  by_contra other
  rcases lt_trichotomy d.fields e.fields with lt | eq | gt
  · exact other lt
  · have same : d.local = e.local := by
      simp only [Datetime.fields, List.cons.injEq] at eq
      obtain ⟨year, month, day, hour, minute, second, microsecond, _⟩ := eq
      simp only [Datetime.local, Date.toOrdinal, Clock.toMicroseconds, year, month, day, hour, minute, second,
        microsecond]
    exact less.ne same
  · exact less.asymm (local_lt_of_fields gt)

/-! ## The order of the texts -/

theorem append_lt_append_of_lt (same : p.length = q.length) (less : p < q) (s t : List Char) :
    p ++ s < q ++ t := by
  induction p generalizing q with
  | nil =>
    cases q with
    | nil => exact absurd less (List.not_lt_nil _)
    | cons => cases same
  | cons c p ih =>
    cases q with
    | nil => cases same
    | cons c' q =>
      refine List.cons_lt_cons_iff.mpr ((List.cons_lt_cons_iff.mp less).imp_right fun rest => ?_)
      exact ⟨rest.1, ih (Nat.succ.inj same) rest.2⟩

theorem digit_lt (less : n % 10 < m % 10) : digit n < digit m := by
  have small : m % 10 < 10 := Nat.mod_lt m (by decide)
  unfold digit
  generalize n % 10 = k at less
  generalize m % 10 = l at less small
  interval_cases l <;> interval_cases k <;> decide

theorem pad_lt (less : n % 10 ^ width < m % 10 ^ width) : pad width n < pad width m := by
  induction width with
  | zero => simp [Nat.mod_one] at less
  | succ width ih =>
    rw [Nat.mod_pow_succ, Nat.mod_pow_succ] at less
    rw [pad, pad, List.cons_lt_cons_iff]
    rcases lt_trichotomy (n / 10 ^ width % 10) (m / 10 ^ width % 10) with first | same | last
    · exact .inl (digit_lt first)
    · refine .inr ⟨by rw [digit, digit, same], ih ?_⟩
      rw [same] at less
      omega
    · have low : m % 10 ^ width < 10 ^ width := Nat.mod_lt m (Nat.pow_pos (by decide))
      have high : 10 ^ width * (m / 10 ^ width % 10 + 1) ≤ 10 ^ width * (n / 10 ^ width % 10) :=
        Nat.mul_le_mul_left _ last
      rw [Nat.mul_succ] at high
      omega

/-- A smaller number of one width comes first, whatever follows. -/
theorem pad_append_lt (less : n < m) (small : m < 10 ^ width) (s t : List Char) :
    pad width n ++ s < pad width m ++ t := by
  refine append_lt_append_of_lt (by rw [pad_length, pad_length]) (pad_lt ?_) s t
  rwa [Nat.mod_eq_of_lt (less.trans small), Nat.mod_eq_of_lt small]

/-- A number and what follows it. -/
theorem field_lt (small : m < 10 ^ width) (lower : n < m ∨ n = m ∧ s < t) :
    pad width n ++ s < pad width m ++ t := by
  rcases lower with less | ⟨rfl, rest⟩
  · exact pad_append_lt less small s t
  · exact List.append_left_lt rest

/-- A number, a sign and what follows it. -/
theorem signed_field_lt (c : Char) (small : m < 10 ^ width) (lower : n < m ∨ n = m ∧ s < t) :
    pad width n ++ c :: s < pad width m ++ c :: t :=
  field_lt small (lower.imp_right (And.imp_right fun rest => List.cons_lt_cons_iff.mpr (.inr ⟨rfl, rest⟩)))

theorem date_text_lt {d e : Date} (earlier : d.Before e) (s t : List Char) :
    d.isoText ++ s < e.isoText ++ t := by
  obtain ⟨⟨_, year⟩, ⟨_, month⟩, _, day⟩ := e.valid
  have days := days_in_month_le e.year e.month
  simp only [Date.isoText, List.append_assoc, List.cons_append]
  refine signed_field_lt '-' (by omega) (earlier.imp_right (And.imp_right fun rest => ?_))
  refine signed_field_lt '-' (by omega) (rest.imp_right (And.imp_right fun rest => ?_))
  exact pad_append_lt rest (by omega) s t

/-- The sign of an offset comes before a point, so a whole second comes before its parts. -/
theorem fraction_text_lt (less : n < m) (small : m < 1000000) (zone : List Char) :
    fractionText false n ++ '+' :: zone < fractionText false m ++ '+' :: zone := by
  have some : ¬ (m = 0 ∧ false = false) := by omega
  rw [fractionText, fractionText, if_neg some]
  split
  · exact List.cons_lt_cons_iff.mpr (.inl (by decide))
  · exact List.cons_lt_cons_iff.mpr (.inr ⟨rfl, pad_append_lt less small _ _⟩)

theorem clock_text_lt {d e : Clock} (earlier : d.Before e) (zone : List Char) :
    d.isoText false ++ '+' :: zone < e.isoText false ++ '+' :: zone := by
  obtain ⟨hour, minute, second, microsecond⟩ := e.valid
  simp only [Clock.isoText, List.append_assoc, List.cons_append]
  refine signed_field_lt ':' (by omega) (earlier.imp_right (And.imp_right fun rest => ?_))
  refine signed_field_lt ':' (by omega) (rest.imp_right (And.imp_right fun rest => ?_))
  exact field_lt (by omega) (rest.imp_right (And.imp_right fun rest => fraction_text_lt rest microsecond zone))

theorem utc_text_lt {d e : Datetime} (inUtc : d.offset = some utc) (inUtc' : e.offset = some utc)
    (less : d.fields < e.fields) : d.isoFormat false < e.isoFormat false := by
  have zone : ((some utc).map Offset.isoText).getD [] = '+' :: "00:00".toList := by decide
  rw [Datetime.isoFormat, Datetime.isoFormat, inUtc, inUtc', zone]
  rcases fields_lt.mp less with earlier | ⟨same, earlier⟩
  · exact date_text_lt earlier _ _
  · rw [same]
    exact List.append_left_lt (List.cons_lt_cons_iff.mpr (.inr ⟨rfl, clock_text_lt earlier _⟩))

/-- Texts in UTC are in the order of time. -/
theorem utc_text_lt_iff {d e : Datetime} (inUtc : d.offset = some utc) (inUtc' : e.offset = some utc) :
    d.isoFormat false < e.isoFormat false ↔ d.instant < e.instant := by
  rw [instant_local (.inr inUtc), instant_local (.inr inUtc'), local_lt_iff]
  refine ⟨fun less => ?_, utc_text_lt inUtc inUtc'⟩
  rcases lt_trichotomy d.fields e.fields with earlier | same | later
  · exact earlier
  · have equal : d = e := by
      simp only [Datetime.fields, List.cons.injEq] at same
      rw [Datetime.mk.injEq, Date.mk.injEq, Clock.mk.injEq, inUtc, inUtc']
      tauto
    exact absurd (equal ▸ less) (lt_irrefl _)
  · exact absurd (less.trans (utc_text_lt inUtc' inUtc later)) (lt_irrefl _)

theorem utc_text_inj {d e : Datetime} (inUtc : d.offset = some utc) (inUtc' : e.offset = some utc) :
    d.isoFormat false = e.isoFormat false ↔ d.instant = e.instant := by
  have lt := utc_text_lt_iff inUtc inUtc'
  have gt := utc_text_lt_iff inUtc' inUtc
  constructor
  · intro same
    rw [same] at lt gt
    exact le_antisymm (not_lt.mp fun less => lt_irrefl _ (gt.mpr less))
      (not_lt.mp fun less => lt_irrefl _ (lt.mpr less))
  · intro same
    rw [same] at lt gt
    exact le_antisymm (not_lt.mp fun less => lt_irrefl _ (gt.mp less))
      (not_lt.mp fun less => lt_irrefl _ (lt.mp less))

namespace Timestamp

theorem instant_datetime (t : Timestamp) : t.datetime.instant = t.instant := by
  rw [datetime, utcOf, instant_local (.inr rfl), of_local_local]

theorem iso_text_lt_iff {t u : Timestamp} : t.isoText < u.isoText ↔ t.instant < u.instant := by
  rw [isoText, isoText, utc_text_lt_iff rfl rfl, instant_datetime, instant_datetime]

end Timestamp

end RevenueGuard.Library.Datetimes
