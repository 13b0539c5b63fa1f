import Mathlib.Data.List.Infix
import Mathlib.Data.List.Nodup
import Mathlib.Data.List.Perm.Basic
import Mathlib.Data.List.Sort
import Mathlib.Order.Defs.LinearOrder

/-!
Pages of a sorted list, each cut from an answer of its own.  An answer is any list of
the rows that descends in their rank, so two answers may order rows of one rank
differently.

`pages_perm_iff`: the pages hold every row once, whatever the answers, exactly if the
rows of one rank lie on one page.
-/

namespace RevenueGuard.Library.Pages

variable {ρ α : Type*} [LinearOrder α] {rank : ρ → α} {rows xs ys : List ρ} {r x y : ρ} {size k i : ℕ}

/-- An answer to a query that orders the rows by their rank, the greatest first. -/
structure Answer (rank : ρ → α) (rows xs : List ρ) : Prop where
  perm : xs.Perm rows
  descends : xs.Pairwise fun x y => rank y ≤ rank x

/-- The rows of a page, counted from 0. -/
def page (size k : ℕ) (xs : List ρ) : List ρ := (xs.drop (k * size)).take size

/-- How many pages the rows fill. -/
def pageCount (size total : ℕ) : ℕ := (total + size - 1) / size

/-- The rows on all pages, each page cut from an answer of its own. -/
def pages (size : ℕ) (answers : ℕ → List ρ) (count : ℕ) : List ρ :=
  (List.range count).flatMap fun k => page size k (answers k)

/-- How many rows come before every row of this rank. -/
def before (rank : ρ → α) (rows : List ρ) (a : α) : ℕ := rows.countP fun r => a < rank r

/-- How many rows come before every row of a smaller rank. -/
def through (rank : ρ → α) (rows : List ρ) (a : α) : ℕ := rows.countP fun r => a ≤ rank r

/-! ## Positions in an answer -/

/-- Every query has an answer. -/
theorem exists_answer (rank : ρ → α) (rows : List ρ) : ∃ xs, Answer rank rows xs := by
  have total : Std.Total fun x y : ρ => rank y ≤ rank x := ⟨fun x y => le_total (rank y) (rank x)⟩
  have trans : IsTrans ρ fun x y => rank y ≤ rank x := ⟨fun _ _ _ first second => second.trans first⟩
  exact ⟨rows.insertionSort fun x y => rank y ≤ rank x, List.perm_insertionSort _ rows,
    List.pairwise_insertionSort _ rows⟩

/-- What holds of a row only if it holds of every row before it is a front part. -/
theorem filter_eq_take {p : ρ → Bool} (front : xs.Pairwise fun x y => p y = true → p x = true) :
    xs.filter p = xs.take (xs.countP p) := by
  induction xs with
  | nil => rfl
  | cons x xs ih =>
    obtain ⟨first, rest⟩ := List.pairwise_cons.mp front
    cases held : p x with
    | true => rw [List.filter_cons_of_pos held, List.countP_cons_of_pos held, List.take_succ_cons, ih rest]
    | false =>
      have failing : ∀ y ∈ xs, ¬ p y = true := fun y listed later => by
        rw [first y listed later] at held
        cases held
      have none : xs.countP p = 0 := List.countP_eq_zero.mpr failing
      rw [List.filter_cons_of_neg (by simp [held]), List.countP_cons_of_neg (by simp [held]), none, List.take_zero,
        List.filter_eq_nil_iff]
      exact failing

theorem Answer.before_eq (answer : Answer rank rows xs) (a : α) : before rank xs a = before rank rows a :=
  answer.perm.countP_eq _

theorem Answer.through_eq (answer : Answer rank rows xs) (a : α) : through rank xs a = through rank rows a :=
  answer.perm.countP_eq _

/-- The rows of a greater rank are the first ones of an answer. -/
theorem Answer.take_before (answer : Answer rank rows xs) (a : α) :
    xs.take (before rank rows a) = xs.filter fun r => a < rank r := by
  rw [← answer.before_eq, before, filter_eq_take]
  exact answer.descends.imp fun falls later => decide_eq_true ((of_decide_eq_true later).trans_le falls)

/-- A row lies behind the rows of a greater rank, and before those of a smaller one. -/
theorem Answer.position (answer : Answer rank rows xs) (here : xs[i]? = some x) :
    before rank rows (rank x) ≤ i ∧ i < through rank rows (rank x) := by
  obtain ⟨within, rfl⟩ := List.getElem?_eq_some_iff.mp here
  have ordered : ∀ j (bound : j < xs.length), j ≤ i → rank xs[i] ≤ rank xs[j] := by
    intro j bound earlier
    rcases earlier.lt_or_eq with earlier | rfl
    · exact List.pairwise_iff_getElem.mp answer.descends j i bound within earlier
    · exact le_rfl
  constructor
  · by_contra beyond
    have front : xs[i] ∈ xs.take (before rank rows (rank xs[i])) :=
      List.mem_take_iff_getElem.mpr ⟨i, by omega, rfl⟩
    rw [answer.take_before, List.mem_filter] at front
    exact lt_irrefl _ (of_decide_eq_true front.2)
  · have reaching : ∀ y ∈ xs.take (i + 1), decide (rank xs[i] ≤ rank y) = true := by
      intro y listed
      obtain ⟨j, earlier, rfl⟩ := List.mem_take_iff_getElem.mp listed
      exact decide_eq_true (ordered j (by omega) (by omega))
    calc i < (xs.take (i + 1)).length := by rw [List.length_take]; omega
      _ = (xs.take (i + 1)).countP fun y => rank xs[i] ≤ rank y := (List.countP_eq_length.mpr reaching).symm
      _ ≤ xs.countP fun y => rank xs[i] ≤ rank y := (List.take_sublist _ _).countP_le
      _ = through rank rows (rank xs[i]) := answer.through_eq (rank xs[i])

theorem through_le_before (rows : List ρ) {a b : α} (less : a < b) : through rank rows b ≤ before rank rows a :=
  List.countP_mono_left fun _ _ reaches => decide_eq_true (less.trans_le (of_decide_eq_true reaches))

/-- Behind the rows of a greater rank and before those of a smaller one, a row has the rank. -/
theorem Answer.rank_of_position (answer : Answer rank rows xs) (here : xs[i]? = some x) {a : α}
    (after : before rank rows a ≤ i) (within : i < through rank rows a) : rank x = a := by
  obtain ⟨after', within'⟩ := answer.position here
  rcases lt_trichotomy (rank x) a with less | same | greater
  · have : through rank rows a ≤ before rank rows (rank x) := through_le_before rows less
    omega
  · exact same
  · have : through rank rows (rank x) ≤ before rank rows a := through_le_before rows greater
    omega

/-! ## Pages that do not depend on the answer -/

/-- The rows of one rank lie on one page. -/
def Unsplit (rank : ρ → α) (rows : List ρ) (size : ℕ) : Prop :=
  ∀ r ∈ rows, before rank rows (rank r) / size = (through rank rows (rank r) - 1) / size

/-- Where no rank is split, the first pages of two answers hold the same rows. -/
theorem take_perm (positive : 0 < size) (unsplit : Unsplit rank rows size) (answer : Answer rank rows xs)
    (other : Answer rank rows ys) (k : ℕ) : (xs.take (k * size)).Perm (ys.take (k * size)) := by
  have same : xs.Perm ys := answer.perm.trans other.perm.symm
  rcases Nat.lt_or_ge (k * size) xs.length with within | whole
  · obtain ⟨after, ahead⟩ := answer.position (List.getElem?_eq_getElem within)
    have listed : xs[k * size] ∈ rows := answer.perm.subset (List.getElem_mem within)
    have page := unsplit _ listed
    have reaches : k ≤ (through rank rows (rank xs[k * size]) - 1) / size :=
      (Nat.le_div_iff_mul_le positive).mpr (by omega)
    rw [← page, Nat.le_div_iff_mul_le positive] at reaches
    rw [show k * size = before rank rows (rank xs[k * size]) by omega, answer.take_before, other.take_before]
    exact same.filter _
  · rwa [List.take_of_length_le whole, List.take_of_length_le (same.length_eq ▸ whole)]

theorem page_perm (positive : 0 < size) (unsplit : Unsplit rank rows size) (answer : Answer rank rows xs)
    (other : Answer rank rows ys) (k : ℕ) : (page size k xs).Perm (page size k ys) := by
  have split (zs : List ρ) : zs.take (k * size) ++ page size k zs = zs.take ((k + 1) * size) := by
    rw [page, Nat.succ_mul, List.take_add]
  have both := take_perm positive unsplit answer other (k + 1)
  rw [← split xs, ← split ys] at both
  have rest := (take_perm positive unsplit answer other k).symm.append_right (page size k ys)
  exact (List.perm_append_left_iff _).mp (both.trans rest)

/-- The pages of one answer are that answer, as far as they go. -/
theorem pages_of_one (xs : List ρ) (count : ℕ) : pages size (fun _ => xs) count = xs.take (count * size) := by
  induction count with
  | zero => rw [Nat.zero_mul, List.take_zero]; rfl
  | succ count ih =>
    rw [pages, List.range_succ, List.flatMap_append, ← pages, ih, Nat.succ_mul, List.take_add]
    simp [page]

theorem lt_page_count (positive : 0 < size) (total k : ℕ) : k < pageCount size total ↔ k * size < total := by
  rw [pageCount, Nat.lt_iff_add_one_le, Nat.le_div_iff_mul_le positive, Nat.succ_mul]
  omega

/-- Where no rank is split, the pages hold every row once. -/
theorem pages_perm (positive : 0 < size) (unsplit : Unsplit rank rows size) (answers : ℕ → List ρ)
    (each : ∀ k, Answer rank rows (answers k)) :
    (pages size answers (pageCount size rows.length)).Perm rows := by
  have alike : (pages size answers (pageCount size rows.length)).Perm
      (pages size (fun _ => answers 0) (pageCount size rows.length)) :=
    List.Perm.flatMap_left (List.range _) fun k _ => page_perm positive unsplit (each k) (each 0) k
  have covers : rows.length ≤ pageCount size rows.length * size := by
    have := (lt_page_count positive rows.length (pageCount size rows.length)).not.mp (lt_irrefl _)
    omega
  rw [pages_of_one, List.take_of_length_le (by rwa [(each 0).perm.length_eq])] at alike
  exact alike.trans (each 0).perm

/-- Every row on a page is one of the rows. -/
theorem mem_of_mem_pages {answers : ℕ → List ρ} (each : ∀ k, Answer rank rows (answers k)) {count : ℕ}
    (listed : x ∈ pages size answers count) : x ∈ rows := by
  obtain ⟨k, _, onPage⟩ := List.mem_flatMap.mp listed
  exact (each k).perm.subset (List.mem_of_mem_drop (List.mem_of_mem_take onPage))

/-- Rows that are told apart by what is shown of them are the same if that is. -/
theorem perm_of_map {β : Type*} {f : ρ → β} (distinct : (rows.map f).Nodup) (subset : ∀ x ∈ xs, x ∈ rows)
    (perm : (xs.map f).Perm (rows.map f)) : xs.Perm rows := by
  have once : xs.Nodup := .of_map f (perm.nodup_iff.mpr distinct)
  refine (List.perm_ext_iff_of_nodup once (.of_map f distinct)).mpr fun r => ⟨subset r, fun listed => ?_⟩
  obtain ⟨x, there, same⟩ := List.mem_map.mp (perm.symm.subset (List.mem_map_of_mem listed))
  rwa [← List.inj_on_of_nodup_map distinct (subset x there) listed same]

/-! ## A rank on two pages -/

theorem mem_page : x ∈ page size k xs ↔ ∃ i, k * size ≤ i ∧ i < (k + 1) * size ∧ xs[i]? = some x := by
  rw [page, List.mem_iff_getElem?]
  simp only [List.getElem?_take, List.getElem?_drop]
  constructor
  · rintro ⟨i, here⟩
    split at here
    · exact ⟨k * size + i, by omega, by rw [Nat.succ_mul]; omega, here⟩
    · cases here
  · rintro ⟨i, after, within, here⟩
    rw [Nat.succ_mul] at within
    exact ⟨i - k * size, by rw [if_pos (by omega), show k * size + (i - k * size) = i by omega, here]⟩

/-- Two neighbours of one rank may come in either order. -/
theorem Answer.swap {front rest : List ρ} (answer : Answer rank rows (front ++ x :: y :: rest))
    (tie : rank x = rank y) : Answer rank rows (front ++ y :: x :: rest) where
  perm := ((List.Perm.swap x y rest).append_left front).trans answer.perm
  descends := by
    have descends := answer.descends
    simp only [List.pairwise_append, List.pairwise_cons, List.mem_cons, forall_eq_or_imp] at descends ⊢
    obtain ⟨before, ⟨⟨_, first⟩, second, rest⟩, across⟩ := descends
    exact ⟨before, ⟨⟨tie.le, second⟩, first, rest⟩, fun z listed =>
      ⟨(across z listed).2.1, (across z listed).1, (across z listed).2.2⟩⟩

/-- A rank on two pages has two answers between which one of its rows changes the page. -/
theorem exists_repeated (positive : 0 < size) (split : ¬ Unsplit rank rows size) :
    ∃ xs ys x k, Answer rank rows xs ∧ Answer rank rows ys ∧ (k + 1) * size < rows.length ∧
      x ∈ page size k xs ∧ x ∈ page size (k + 1) ys := by
  obtain ⟨r, listed, apart⟩ : ∃ r ∈ rows,
      before rank rows (rank r) / size ≠ (through rank rows (rank r) - 1) / size := by
    simpa [Unsplit] using split
  obtain ⟨xs, answer⟩ := exists_answer rank rows
  obtain ⟨p, here⟩ := List.mem_iff_getElem?.mp (answer.perm.symm.subset listed)
  obtain ⟨after, within⟩ := answer.position here
  have ordered : before rank rows (rank r) / size ≤ (through rank rows (rank r) - 1) / size :=
    Nat.div_le_div_right (by omega)
  have later : 0 < (through rank rows (rank r) - 1) / size :=
    (Nat.zero_le _).trans_lt (lt_of_le_of_ne ordered apart)
  obtain ⟨k, last⟩ := Nat.exists_eq_succ_of_ne_zero later.ne'
  have first : before rank rows (rank r) < (k + 1) * size := (Nat.div_lt_iff_lt_mul positive).mp (by omega)
  have reaches : (k + 1) * size ≤ through rank rows (rank r) - 1 :=
    (Nat.le_div_iff_mul_le positive).mp (by omega)
  have counted : through rank rows (rank r) ≤ rows.length := List.countP_le_length
  have length := answer.perm.length_eq
  obtain ⟨b, boundary⟩ : ∃ b, (k + 1) * size = b + 1 :=
    Nat.exists_eq_succ_of_ne_zero (Nat.mul_pos (Nat.succ_pos k) positive).ne'
  have inside : b + 1 < xs.length := by omega
  have inside' : b < xs.length := by omega
  have shape : xs = xs.take b ++ xs[b] :: xs[b + 1] :: xs.drop (b + 2) := by
    rw [← List.drop_eq_getElem_cons, ← List.drop_eq_getElem_cons, List.take_append_drop]
  have tie : rank xs[b] = rank xs[b + 1] := by
    rw [answer.rank_of_position (List.getElem?_eq_getElem (by omega)) (a := rank r) (by omega) (by omega),
      answer.rank_of_position (List.getElem?_eq_getElem (by omega)) (a := rank r) (by omega) (by omega)]
  refine ⟨xs, _, xs[b], k, answer, (shape ▸ answer).swap tie, by omega, ?_, ?_⟩
  · exact mem_page.mpr ⟨b, by rw [Nat.succ_mul] at boundary; omega, by omega, List.getElem?_eq_getElem (by omega)⟩
  · refine mem_page.mpr ⟨b + 1, by omega, by rw [Nat.succ_mul]; omega, ?_⟩
    rw [List.getElem?_append_right (by simp)]
    simp [Nat.min_eq_left (show b ≤ xs.length by omega)]

/-- The pages hold every row once, whatever the answers, exactly if the rows of one rank
lie on one page. -/
theorem pages_perm_iff (positive : 0 < size) (distinct : rows.Nodup) :
    (∀ answers : ℕ → List ρ, (∀ k, Answer rank rows (answers k)) →
        (pages size answers (pageCount size rows.length)).Perm rows) ↔ Unsplit rank rows size := by
  refine ⟨fun lawful => ?_, fun unsplit => pages_perm positive unsplit⟩
  by_contra split
  obtain ⟨xs, ys, x, k, answer, other, within, first, second⟩ := exists_repeated positive split
  have each : ∀ j, Answer rank rows (if j = k then xs else ys) := by
    intro j
    split
    · exact answer
    · exact other
  have once := (lawful (fun j => if j = k then xs else ys) each).nodup_iff.mpr distinct
  have count := (lt_page_count positive rows.length (k + 1)).mpr within
  have apart :=
    List.pairwise_iff_getElem.mp (List.nodup_flatMap.mp once).2 k (k + 1) (by simp; omega) (by simpa)
    (Nat.lt_succ_self k)
  rw [List.getElem_range, List.getElem_range] at apart
  exact apart (by simpa using first) (by simpa using second)

end RevenueGuard.Library.Pages
