import RevenueGuard.DowntimeMonitor
import RevenueGuard.Library.Infixes

/-!
Which banks a downtime is taken to concern.  The bank is read from the top-level fields
only, and an item that has none there concerns every bank: `confined_iff` says exactly when
a downtime stays with the bank it names.
-/

namespace RevenueGuard.DowntimeProofs

open Library Library.Infixes DowntimeMonitor

variable {payload : Dict} {bank rail b : String}

/-! ## Lower-cased names -/

/-- A letter that is in lower case is not in upper case. -/
theorem to_lower_not_upper (c : Char) : ¬ (65 ≤ c.toLower.val.toNat ∧ c.toLower.val.toNat ≤ 90) := by
  unfold Char.toLower
  split
  · rename_i upper
    have lowest : 65 ≤ c.val.toNat := UInt32.le_iff_toNat_le.mp upper.1
    have highest : c.val.toNat ≤ 90 := UInt32.le_iff_toNat_le.mp upper.2
    show ¬ (65 ≤ (c.val + 32).toNat ∧ (c.val + 32).toNat ≤ 90)
    rw [UInt32.toNat_add]
    have : (32 : UInt32).toNat = 32 := rfl
    omega
  · rename_i other
    exact fun within => other ⟨UInt32.le_iff_toNat_le.mpr within.1, UInt32.le_iff_toNat_le.mpr within.2⟩

theorem to_lower_idempotent (c : Char) : c.toLower.toLower = c.toLower := by
  refine dif_neg ?_
  intro upper
  have lowest : 65 ≤ c.toLower.val.toNat := UInt32.le_iff_toNat_le.mp upper.1
  have highest : c.toLower.val.toNat ≤ 90 := UInt32.le_iff_toNat_le.mp upper.2
  exact to_lower_not_upper c ⟨lowest, highest⟩

/-- Only the Kelvin sign itself lowers, in ASCII, to the Kelvin sign. -/
theorem kelvin_of_to_lower {c : Char} (lowered : c.toLower = '\u212A') : c = '\u212A' := by
  unfold Char.toLower at lowered
  split at lowered
  · rename_i upper
    have highest : c.val.toNat ≤ 90 := UInt32.le_iff_toNat_le.mp upper.2
    have moved : (c.val + 32).toNat = 8490 := congrArg (UInt32.toNat ∘ Char.val) lowered
    rw [UInt32.toNat_add] at moved
    have : (32 : UInt32).toNat = 32 := rfl
    omega
  · exact lowered

theorem lower_char_idempotent (c : Char) : lowerChar (lowerChar c) = lowerChar c := by
  unfold lowerChar
  by_cases kelvin : c = '\u212A'
  · rw [if_pos kelvin]
    decide
  · rw [if_neg kelvin, if_neg fun lowered => kelvin (kelvin_of_to_lower lowered), to_lower_idempotent]

/-- A letter of a lower-cased name. -/
def Lowered (c : Char) : Prop := lowerChar c = c

theorem lower_letters (s : String) : ∀ c ∈ (lower s).toList, Lowered c := by
  intro c member
  rw [lower, String.toList_ofList] at member
  obtain ⟨letter, -, rfl⟩ := List.mem_map.mp member
  exact lower_char_idempotent letter

theorem lower_of_letters {w : List Char} (letters : ∀ c ∈ w, Lowered c) :
    (lower (String.ofList w)).toList = w := by
  rw [lower, String.toList_ofList, String.toList_ofList]
  calc w.map lowerChar = w.map id := List.map_congr_left letters
    _ = w := List.map_id w

theorem lower_ne_empty (named : b ≠ "") : (lower b).toList ≠ [] := by
  intro empty
  rw [lower, String.toList_ofList, List.map_eq_nil_iff] at empty
  exact named (String.toList_eq_nil_iff.mp empty)

/-- There are two letters at least. -/
theorem other_letter (a : Char) : ∃ c, Lowered c ∧ c ≠ a := by
  by_cases first : a = 'a'
  · have lowered : lowerChar 'b' = 'b' := by decide
    exact ⟨'b', lowered, by rw [first]; decide⟩
  · have lowered : lowerChar 'a' = 'a' := by decide
    exact ⟨'a', lowered, Ne.symm first⟩

/-! ## Matching -/

/-- A name and what a downtime says fit where one contains the other; nothing said is
contained in every name. -/
theorem fits_iff {value name : String} : fits value name ↔ Comparable value.toList (lower name).toList := by
  rw [fits, Bool.or_eq_true, Bool.or_eq_true, decide_eq_true_eq, occursIn, occursIn, decide_eq_true_eq,
    decide_eq_true_eq]
  constructor
  · rintro ((rfl | within) | within)
    · exact .inl List.nil_infix
    · exact .inr within
    · exact .inl within
  · rintro (within | within)
    · exact .inr within
    · exact .inl (.inr within)

theorem fits_empty (value : String) : fits value "" := fits_iff.mpr (.inr List.nil_infix)

/-- The processor says that the downtime is over. -/
def Over (payload : Dict) : Prop :=
  lower (payload.getD "status" (payload.getD "state" (.str "active"))).pyStr ∈
    ["resolved", "completed", "inactive", "up"]

instance : Decidable (Over payload) := inferInstanceAs (Decidable (_ ∈ _))

theorem downtime_matches_iff :
    downtimeMatches (.obj payload) bank rail ↔
      ¬ Over payload ∧ fits (flattenValues payload bankKeys) bank ∧
        fits (flattenValues payload railKeys) rail := by
  have branches : downtimeMatches (.obj payload) bank rail =
      if Over payload then false
      else fits (flattenValues payload bankKeys) bank && fits (flattenValues payload railKeys) rail := rfl
  rw [branches]
  split
  · rename_i ended
    exact iff_of_false nofun fun running => running.1 ended
  · rename_i running
    rw [Bool.and_eq_true, and_iff_right running]

/-- An item that does not match changes nothing for the bank. -/
theorem unified_health_skip {item : Json} (silent : downtimeMatches item bank rail = false)
    (own : GatewayHealthSnapshot) (before after : List Json) :
    unifiedHealth own bank rail (.ok (before ++ item :: after)) =
      unifiedHealth own bank rail (.ok (before ++ after)) := by
  unfold unifiedHealth
  simp only [List.any_append, List.any_cons, silent, Bool.false_or]

/-! ## The bank a downtime names -/

/-- One of the bank fields of a dictionary holds a bank's name: as its value, in a list, or
in an object. -/
def HoldsBank (fields : Dict) (b : String) : Prop := ∃ key ∈ bankKeys, b ∈ flattenValue (fields.get key)

/-- The item names the bank, in a field of its own or in one of its `instrument`. -/
def NamesBank (payload : Dict) (b : String) : Prop :=
  b ≠ "" ∧ (HoldsBank payload b ∨ ∃ fields, payload.get "instrument" = .obj fields ∧ HoldsBank fields b)

/-- Neither of the two names, lower-cased, contains the other. -/
def Unrelated (b b' : String) : Prop := ¬ Comparable (lower b).toList (lower b').toList

/-- The downtime of bank `b` matches no unrelated bank, on any rail, and the health of no
such bank depends on it. -/
def Confined (payload : Dict) (b : String) : Prop :=
  ∀ b' rail, Unrelated b b' → downtimeMatches (.obj payload) b' rail = false ∧
    ∀ own before after, unifiedHealth own b' rail (.ok (before ++ .obj payload :: after)) =
      unifiedHealth own b' rail (.ok (before ++ after))

/-- What the bank fields of the item say, in lower case and joined by blanks, is the bank. -/
def SaysOnly (payload : Dict) (b : String) : Prop :=
  flattenValues payload bankKeys = lower b ∨
    (lower b).toList <:+: (flattenValues payload bankKeys).toList ∧
      ∃ c, ∀ x ∈ (flattenValues payload bankKeys).toList, x = c

/-- A downtime is confined as soon as it matches no unrelated bank on the rail that
everything fits. -/
theorem confined_of_unfit (unfit : ∀ b', Unrelated b b' → ¬ fits (flattenValues payload bankKeys) b') :
    Confined payload b := by
  intro b' rail unrelated
  have silent : downtimeMatches (.obj payload) b' rail = false := by
    rw [Bool.eq_false_iff]
    exact fun matched => unfit b' unrelated (downtime_matches_iff.mp matched).2.1
  exact ⟨silent, unified_health_skip silent⟩

/-- The banks that a text fits are related to `b`, just where it says only `b`. -/
theorem says_only_iff (named : b ≠ "") :
    (∀ b', Unrelated b b' → ¬ fits (flattenValues payload bankKeys) b') ↔ SaysOnly payload b := by
  have letters : ∀ x ∈ (flattenValues payload bankKeys).toList, Lowered x := lower_letters _
  rw [SaysOnly, ← String.toList_inj, ← comparable_all_iff other_letter letters (lower_ne_empty named)]
  constructor
  · intro unfit w lowered fitting
    by_contra incomparable
    refine unfit (String.ofList w) ?_ ?_
    · rwa [Unrelated, lower_of_letters lowered]
    · rwa [fits_iff, lower_of_letters lowered]
  · intro confined b' unrelated fitting
    exact unrelated (confined _ (lower_letters b') (fits_iff.mp fitting))

/-- A downtime stays with the bank it names, just where it is over or its top-level bank
fields say that bank and no more. -/
theorem confined_iff (named : NamesBank payload b) :
    Confined payload b ↔ Over payload ∨ SaysOnly payload b := by
  rw [← says_only_iff named.1]
  constructor
  · intro confined
    by_cases ended : Over payload
    · exact .inl ended
    · right
      intro b' unrelated fitting
      have silent := (confined b' "" unrelated).1
      rw [Bool.eq_false_iff] at silent
      exact silent (downtime_matches_iff.mpr ⟨ended, fitting, fits_empty _⟩)
  · rintro (ended | unfit)
    · intro b' rail _
      have silent : downtimeMatches (.obj payload) b' rail = false := by
        rw [Bool.eq_false_iff]
        exact fun matched => (downtime_matches_iff.mp matched).1 ended
      exact ⟨silent, unified_health_skip silent⟩
    · exact confined_of_unfit unfit

/-- A downtime whose bank fields hold one text is confined to the bank it spells. -/
theorem confined_of_single (sole : (bankKeys.flatMap fun key => flattenValue (payload.get key)) = [b]) :
    Confined payload b := by
  have spelled : flattenValues payload bankKeys = lower b := by
    rw [flattenValues, sole, String.intercalate_singleton]
  intro b' rail unrelated
  have named : b ≠ "" := by
    rintro rfl
    exact unrelated (.inl List.nil_infix)
  exact confined_of_unfit ((says_only_iff named).mpr (.inl spelled)) b' rail unrelated

/-- A bank that is named inside the `instrument` alone keeps no bank out: such a downtime is
confined only once it is over. -/
theorem nested_confined_iff (named : NamesBank payload b)
    (unsaid : ∀ key ∈ bankKeys, flattenValue (payload.get key) = []) : Confined payload b ↔ Over payload := by
  have empty : flattenValues payload bankKeys = "" := by
    rw [flattenValues, List.flatMap_eq_nil_iff.mpr unsaid]
    rfl
  rw [confined_iff named, SaysOnly, empty]
  refine or_iff_left ?_
  have letter := lower_ne_empty named.1
  rintro (same | ⟨within, -⟩)
  · exact letter (congrArg String.toList same).symm
  · exact letter (List.infix_nil.mp within)

/-- HDFC's own downtime keeps SBI working. -/
theorem confined_iff_hdfc :
    Confined [("status", .str "started"), ("method", .str "netbanking"), ("bank", .str "HDFC")] "HDFC" := by
  refine (confined_iff ⟨by decide, .inl ⟨"bank", by decide, ?_⟩⟩).mpr (.inr (.inl (by decide)))
  exact List.mem_singleton_self _

/-! ## A bank inside the instrument -/

/-- Every downtime is confined to the bank it names. -/
def DowntimesConfined : Prop := ∀ payload b, NamesBank payload b → Confined payload b

/-- Netbanking of HDFC is down, as Razorpay writes it; SBI's netbanking is taken to be
down as well. -/
theorem netbanking_of_every_bank : ¬ DowntimesConfined := by
  intro confined
  have named : NamesBank [("status", .str "started"), ("method", .str "netbanking"),
      ("instrument", .obj [("bank", .str "HDFC")])] "HDFC" :=
    ⟨by decide, .inr ⟨_, rfl, "bank", by decide, List.mem_singleton_self _⟩⟩
  have apart : Unrelated "HDFC" "SBI" := by
    rw [Unrelated, Comparable]
    decide
  have matched : downtimeMatches (.obj [("status", .str "started"), ("method", .str "netbanking"),
      ("instrument", .obj [("bank", .str "HDFC")])]) "SBI" "netbanking" = true := by decide
  exact absurd ((confined _ _ named) "SBI" "netbanking" apart).1 (by rw [matched]; decide)

end RevenueGuard.DowntimeProofs
