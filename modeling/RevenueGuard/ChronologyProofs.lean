import Mathlib.Data.Int.ConditionallyCompleteOrder
import RevenueGuard.TimelineProofs
import RevenueGuard.TimestampProofs

/-!
The timeline of a case by the instants of its rows.  The endpoint sorts by texts, of which
those without a fraction are shorter; what a column returns is in UTC, and there the texts
are in the order of time all the same.
-/

namespace RevenueGuard.ChronologyProofs

open Library Datetimes StableSort Library.Raises TimelineProofs

/-! ## Texts of a column -/

/-- A datetime that a column returns. -/
structure Returned where
  value : Datetime
  read : ∃ stored, UTCDateTime.processResultValue stored = .ok (some value)

/-- `value.isoformat()`. -/
def Returned.text (d : Returned) : List Char := d.value.isoFormat false

theorem returned_utc (d : Returned) : d.value.offset = some utc := by
  obtain ⟨stored, read⟩ := d.read
  cases stored with
  | none => cases read
  | some stored =>
    cases offset : stored.offset with
    | none =>
      simp only [UTCDateTime.processResultValue, offset, Except.ok.injEq, Option.some.injEq] at read
      rw [← read]
    | some _ =>
      simp only [UTCDateTime.processResultValue, offset, bind_pure_ok] at read
      obtain ⟨converted, inUtc, same⟩ := read
      obtain ⟨range, rfl⟩ := astimezone_utc_ok.mp inUtc
      rw [Option.some.inj same]
      rfl

/-! ## The timeline -/

/-- What a column holds as a point of time; NULL is before all of them. -/
def moment : Option Timestamp → WithBot ℤ
  | none => ⊥
  | some t => t.instant

theorem nil_lt_iso_text (t : Timestamp) : [] < t.isoText := by
  cases shown : t.isoText with
  | nil => simp [Timestamp.isoText, Datetime.isoFormat] at shown
  | cons c rest => exact List.nil_lt_cons c rest

theorem iso_lt_iff {t u : Option Timestamp} : (iso t).getD [] < (iso u).getD [] ↔ moment t < moment u := by
  cases t with
  | none =>
    cases u with
    | none => exact iff_of_false (lt_irrefl _) (lt_irrefl _)
    | some u => exact iff_of_true (nil_lt_iso_text u) (WithBot.bot_lt_coe _)
  | some t =>
    cases u with
    | none => exact iff_of_false (List.not_lt_nil _) not_lt_bot
    | some u => exact Timestamp.iso_text_lt_iff.trans WithBot.coe_lt_coe.symm

/-- `created_at` of a row. -/
def createdAt : Row → Option Timestamp
  | .created case => Timestamp.ofInstant? case.createdAt
  | .action row => some row.createdAt
  | .audit row => some row.createdAt

theorem text_lt_iff_moment {x y : Row} : x.text < y.text ↔ moment (createdAt x) < moment (createdAt y) := by
  have shown (row : Row) : row.text = (iso (createdAt row)).getD [] := by cases row <;> rfl
  rw [shown x, shown y, iso_lt_iff]

/-- One text sorts like one moment. -/
theorem text_eq_iff_moment {x y : Row} : x.text = y.text ↔ moment (createdAt x) = moment (createdAt y) := by
  rw [eq_iff_le_not_lt, eq_iff_le_not_lt, text_lt_iff_moment, ← not_lt, ← not_lt, text_lt_iff_moment]

/-- The rows of a case with their positions, sorted by the moments that their columns hold; of one
moment the first stays first. -/
def Chronological (order : List (Row × ℕ)) : Prop :=
  order.Pairwise fun x y => moment (createdAt x.1) < moment (createdAt y.1) ∨
    moment (createdAt x.1) = moment (createdAt y.1) ∧ x.2 < y.2

/-- The texts of what columns return are in the order of time, and a timeline shows the creation of
the case, its actions and its audit rows in this order. -/
theorem timeline_chronological :
    (∀ d e : Returned, (d.text < e.text ↔ d.value.instant < e.value.instant) ∧
      (d.text = e.text ↔ d.value.instant = e.value.instant)) ∧
    ∀ case actions audits, ∃ order : List (Row × ℕ), order.Perm (rows case actions audits).zipIdx ∧
      timeline case actions audits = order.map (·.1.item) ∧ Chronological order := by
  refine ⟨fun d e => ?_, fun case actions audits => ?_⟩
  · exact ⟨utc_text_lt_iff (returned_utc d) (returned_utc e), utc_text_inj (returned_utc d) (returned_utc e)⟩
  · obtain ⟨order, perm, sorted, ascends⟩ := sorted_by_positions Row.text (rows case actions audits)
    refine ⟨order, perm, ?_, ascends.imp fun {x y} before => ?_⟩
    · rw [timeline_rows, timelineRows, sorted, List.map_map]
      rfl
    · exact before.imp text_lt_iff_moment.mp fun ⟨same, came⟩ => ⟨text_eq_iff_moment.mp same, came⟩

end RevenueGuard.ChronologyProofs
