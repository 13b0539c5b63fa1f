import Mathlib.Data.List.Infix
import Mathlib.Data.List.TakeWhile

/-!
A word in a text between an opening letter and a closing one.  Where no opening letter
comes before it and no closing one after it, the word is what lies between the first
opening letter and the last closing one, and whatever is taken off the ends of the text
without either of them leaves it there.
-/

namespace RevenueGuard.Library.Spans

variable {α : Type*} {opening closing c : α} {s p q text removed rest front : List α}

/-- The word has an opening letter in front and a closing one at its end. -/
structure Delimited (opening closing : α) (s : List α) : Prop where
  opens : s.head? = some opening
  closes : s.getLast? = some closing
  apart : opening ≠ closing

/-- The text is the word with no opening letter before it and no closing one after it. -/
def Embedded (opening closing : α) (s text : List α) : Prop :=
  ∃ p q, text = p ++ s ++ q ∧ opening ∉ p ∧ closing ∉ q

/-! ## What is taken off the ends -/

/-- What is taken off the front without an opening letter was before the word. -/
theorem embedded_of_front (delimited : Delimited opening closing s)
    (embedded : Embedded opening closing s (removed ++ rest)) (plain : opening ∉ removed) :
    Embedded opening closing s rest := by
  obtain ⟨p, q, shape, before, after⟩ := embedded
  obtain ⟨inner, rfl⟩ : ∃ inner, s = opening :: inner := List.head?_eq_some_iff.mp delimited.opens
  rw [List.append_assoc] at shape
  rcases List.append_eq_append_iff.mp shape with ⟨kept, rfl, rfl⟩ | ⟨reached, rfl, tail⟩
  · exact ⟨kept, q, (List.append_assoc _ _ _).symm, fun listed => before (List.mem_append_right _ listed), after⟩
  · cases reached with
    | nil => exact ⟨[], q, tail.symm, List.not_mem_nil, after⟩
    | cons first reached =>
      cases (List.cons.inj tail).1
      exact (plain (by simp)).elim

/-- What is taken off the end without a closing letter was after the word. -/
theorem embedded_of_back (delimited : Delimited opening closing s)
    (embedded : Embedded opening closing s (rest ++ removed)) (plain : closing ∉ removed) :
    Embedded opening closing s rest := by
  obtain ⟨p, q, shape, before, after⟩ := embedded
  obtain ⟨front, rfl⟩ : ∃ front, s = front ++ [closing] := List.getLast?_eq_some_iff.mp delimited.closes
  rcases List.append_eq_append_iff.mp shape with ⟨reached, tail, ends⟩ | ⟨kept, rfl, rfl⟩
  · rcases List.eq_nil_or_concat reached with rfl | ⟨reached, last, rfl⟩
    · exact ⟨p, [], by rw [tail, List.append_nil, List.append_nil], before, List.not_mem_nil⟩
    · rw [← List.append_assoc, List.concat_eq_append, ← List.append_assoc] at tail
      cases List.singleton_inj.mp (List.append_inj_right' tail rfl)
      exact (plain (by simp [ends])).elim
  · exact ⟨p, kept, rfl, before, fun listed => after (List.mem_append_left _ listed)⟩

theorem embedded_drop_while (delimited : Delimited opening closing s)
    (embedded : Embedded opening closing s text)
    {blank : α → Bool} (plain : blank opening = false) : Embedded opening closing s (text.dropWhile blank) := by
  rw [← List.takeWhile_append_dropWhile (p := blank) (l := text)] at embedded
  refine embedded_of_front delimited embedded fun listed => ?_
  rw [List.mem_takeWhile_imp listed] at plain
  cases plain

theorem embedded_drop_back (delimited : Delimited opening closing s)
    (embedded : Embedded opening closing s text)
    {blank : α → Bool} (plain : blank closing = false) :
    Embedded opening closing s (text.reverse.dropWhile blank).reverse := by
  have shape : text = (text.reverse.dropWhile blank).reverse ++ (text.reverse.takeWhile blank).reverse := by
    rw [← List.reverse_append, List.takeWhile_append_dropWhile, List.reverse_reverse]
  rw [shape] at embedded
  refine embedded_of_back delimited embedded fun listed => ?_
  rw [List.mem_takeWhile_imp (List.mem_reverse.mp listed)] at plain
  cases plain

/-! ## The outermost span -/

variable [DecidableEq α]

/-- `text.rfind(c)`. -/
def lastIdxOf? (c : α) (text : List α) : Option ℕ := (text.reverse.idxOf? c).map fun k => text.length - 1 - k

/-- From the first opening letter to the last closing one, which has to come after it. -/
def outermost (opening closing : α) (text : List α) : Option (List α) :=
  match text.idxOf? opening, lastIdxOf? closing text with
  | some start, some stop => if stop ≤ start then none else some ((text.take (stop + 1)).drop start)
  | _, _ => none

theorem idx_of_append (fresh : c ∉ p) : (p ++ c :: rest).idxOf? c = some p.length := by
  induction p with
  | nil => simp [List.idxOf?_cons]
  | cons x p ih =>
    obtain ⟨apart, later⟩ := not_or.mp (List.mem_cons.not.mp fresh)
    rw [List.cons_append, List.idxOf?_cons, ih later]
    simp [beq_false_of_ne (Ne.symm apart)]

theorem last_idx_of_append (fresh : c ∉ q) : lastIdxOf? c (front ++ c :: q) = some front.length := by
  have mirrored : (front ++ c :: q).reverse = q.reverse ++ c :: front.reverse := by simp
  rw [lastIdxOf?, mirrored, idx_of_append (by simpa using fresh), Option.map_some]
  simp

/-- An embedded word is found. -/
theorem outermost_embedded (delimited : Delimited opening closing s)
    (embedded : Embedded opening closing s text) :
    outermost opening closing text = some s := by
  obtain ⟨p, q, rfl, before, after⟩ := embedded
  obtain ⟨inner, rfl⟩ : ∃ inner, s = opening :: inner := List.head?_eq_some_iff.mp delimited.opens
  obtain ⟨front, shape⟩ : ∃ front, opening :: inner = front ++ [closing] :=
    List.getLast?_eq_some_iff.mp delimited.closes
  have start : (p ++ opening :: inner ++ q).idxOf? opening = some p.length := by
    rw [List.append_assoc, List.cons_append, idx_of_append before]
  have stop : lastIdxOf? closing (p ++ opening :: inner ++ q) = some (p ++ front).length := by
    rw [shape, ← List.append_assoc, List.append_assoc, List.singleton_append, last_idx_of_append after]
  have longer : front ≠ [] := by
    rintro rfl
    exact delimited.apart (List.cons.inj shape).1
  have length : (opening :: inner).length = front.length + 1 := by rw [shape, List.length_append]; rfl
  have positive := List.length_pos_of_ne_nil longer
  have apart : ¬ (p ++ front).length ≤ p.length := by rw [List.length_append]; omega
  have taken : (p ++ opening :: inner ++ q).take ((p ++ front).length + 1) = p ++ opening :: inner := by
    refine List.take_left' ?_
    rw [List.length_append, List.length_append, length, Nat.add_assoc]
  simp only [outermost, start, stop, if_neg apart, taken, List.drop_left]

end RevenueGuard.Library.Spans
