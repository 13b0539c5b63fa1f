import Mathlib.Data.Rat.Floor

/-!
The values a JSON document decodes to, with the operations a Python program
applies to them: `dict.get`, truth value testing, `str()`, `int()`,
`str.lower()` and the lax conversions of a validated model field.  An
operation that raises returns the exception's text.
-/

namespace RevenueGuard.Library

/-- A binary64 value as the decoder builds it. -/
inductive FloatValue where
  | finite (value : ℚ)
  | infinite (negative : Bool)
  | nan
  deriving DecidableEq, Repr

/-- The characters of a number, `inf` and `nan` included. -/
def isNumeralChar (c : Char) : Bool := c.isDigit || c ∈ "+-.einfanIN".toList

/-- The texts of a float: what Python shows for it, and what a text column that
takes numbers stores for it. -/
structure FloatText where
  shown : String
  stored : String
  visible : shown ≠ ""
  numeral : stored.toList.all isNumeralChar

/-- The text of an integer is a numeral. -/
theorem int_text_numeral (i : ℤ) : (toString i).toList.all isNumeralChar = true := by
  have digits (n : ℕ) : ∀ c ∈ (Nat.repr n).toList, isNumeralChar c = true := by
    intro c listed
    have digit : c.isDigit = true := by
      rw [Nat.repr, String.toList_ofList] at listed
      exact Nat.isDigit_of_mem_toDigits (by decide) (by decide) listed
    rw [isNumeralChar, digit, Bool.true_or]
  rw [List.all_eq_true]
  intro c listed
  cases i with
  | ofNat n => exact digits n c listed
  | negSucc n =>
    have shape : (toString (Int.negSucc n)).toList = '-' :: (Nat.repr n.succ).toList := by
      show ("-" ++ Nat.repr n.succ).toList = _
      rw [String.toList_append]
      rfl
    rw [shape] at listed
    rcases List.mem_cons.mp listed with rfl | digit
    · decide
    · exact digits _ c digit

/-- A decoded JSON value. -/
inductive Json where
  | null
  | bool (value : Bool)
  | int (value : ℤ)
  | float (text : FloatText) (value : FloatValue)
  | str (text : String)
  | arr (items : List Json)
  | obj (fields : List (String × Json))

/-- A `dict` with string keys; the decoder keeps one entry for each key. -/
abbrev Dict := List (String × Json)

namespace Dict

/-- `d.get(key)`, where a missing key is `None`. -/
def get (d : Dict) (key : String) : Json := (d.lookup key).getD .null

/-- `d.get(key, default)`: a key that is present keeps its value, `None` included. -/
def getD (d : Dict) (key : String) (default : Json) : Json := (d.lookup key).getD default

/-- The entries left by `d.pop(key, …)`. -/
def erase (d : Dict) (key : String) : Dict := d.filter fun entry => entry.1 ≠ key

/-- A filter of the keys leaves an entry as it is, or takes it. -/
theorem lookup_filter_key (d : Dict) (keep : String → Bool) (key : String) :
    (d.filter fun entry => keep entry.1).lookup key = if keep key then d.lookup key else none := by
  induction d with
  | nil => simp
  | cons entry rest ih =>
    obtain ⟨name, value⟩ := entry
    rw [List.filter_cons]
    by_cases same : key = name
    · subst same
      cases kept : keep key with
      | true => simp
      | false => simpa [kept] using ih
    · have apart : (key == name) = false := beq_false_of_ne same
      cases keep name with
      | true => simpa [List.lookup_cons, apart] using ih
      | false => simpa [List.lookup_cons, apart] using ih

theorem lookup_erase {d : Dict} {key other : String} (apart : other ≠ key) :
    (d.erase key).lookup other = d.lookup other := by
  rw [erase, lookup_filter_key d fun name => decide (name ≠ key), if_pos (decide_eq_true apart)]

theorem get_erase {d : Dict} {key other : String} (apart : other ≠ key) :
    (d.erase key).get other = d.get other := by
  rw [get, lookup_erase apart, get]

end Dict

/-- Lower case as far as ASCII text can tell: outside ASCII only the Kelvin
sign lowers to an ASCII letter. -/
def lowerChar (c : Char) : Char := if c = '\u212A' then 'k' else c.toLower

/-- `str.lower()`, exact for comparisons with ASCII text. -/
def lower (s : String) : String := String.ofList (s.toList.map lowerChar)

/-- A text without what it starts and ends with. -/
def trim (drop : Char → Bool) (text : List Char) : List Char :=
  ((text.dropWhile drop).reverse.dropWhile drop).reverse

/-- `str.isspace()` of one character. -/
def isSpace (c : Char) : Bool :=
  (9 ≤ c.toNat ∧ c.toNat ≤ 13) ∨ (28 ≤ c.toNat ∧ c.toNat ≤ 32) ∨ (0x2000 ≤ c.toNat ∧ c.toNat ≤ 0x200A) ∨
    c.toNat ∈ [0x85, 0xA0, 0x1680, 0x2028, 0x2029, 0x202F, 0x205F, 0x3000]

/-- `str.strip()` of the characters of a text. -/
def stripText (text : List Char) : List Char := trim isSpace text

/-- `str.strip()`. -/
def strip (s : String) : String := String.ofList (stripText s.toList)

/-! ### The integers that texts stand for -/

/-- The space that may stand around a numeral: the separators of the control characters may not. -/
def isNumeralSpace (c : Char) : Bool := isSpace c && !(28 ≤ c.toNat && c.toNat ≤ 31)

/-- The zeros of the decimal digits, which come in runs of ten. -/
def decimalZeros : List ℕ :=
  [0x30, 0x660, 0x6F0, 0x7C0, 0x966, 0x9E6, 0xA66, 0xAE6, 0xB66, 0xBE6, 0xC66, 0xCE6, 0xD66, 0xDE6,
   0xE50, 0xED0, 0xF20, 0x1040, 0x1090, 0x17E0, 0x1810, 0x1946, 0x19D0, 0x1A80, 0x1A90, 0x1B50, 0x1BB0,
   0x1C40, 0x1C50, 0xA620, 0xA8D0, 0xA900, 0xA9D0, 0xA9F0, 0xAA50, 0xABF0, 0xFF10, 0x104A0, 0x10D30,
   0x11066, 0x110F0, 0x11136, 0x111D0, 0x112F0, 0x11450, 0x114D0, 0x11650, 0x116C0, 0x11730, 0x118E0,
   0x11950, 0x11C50, 0x11D50, 0x11DA0, 0x16A60, 0x16AC0, 0x16B50, 0x1D7CE, 0x1D7D8, 0x1D7E2, 0x1D7EC,
   0x1D7F6, 0x1E140, 0x1E2F0, 0x1E950, 0x1FBF0]

/-- `unicodedata.decimal(c)`. -/
def decimalDigit (c : Char) : Option ℕ :=
  (decimalZeros.find? fun first => first ≤ c.toNat ∧ c.toNat < first + 10).map (c.toNat - ·)

def asciiDigit (c : Char) : Option ℕ := if c.isDigit then some (c.toNat - '0'.toNat) else none

/-- The digits of a numeral, single underscores allowed between them. -/
def numeralDigits (digit : Char → Option ℕ) : List Char → Option (List ℕ)
  | [] => none
  | [c] => do return [← digit c]
  | c :: '_' :: rest => do return (← digit c) :: (← numeralDigits digit rest)
  | c :: rest => do return (← digit c) :: (← numeralDigits digit rest)

/-- A sign, and what follows it. -/
def splitSign : List Char → ℤ × List Char
  | '-' :: rest => (-1, rest)
  | '+' :: rest => (1, rest)
  | text => (1, text)

/-- `sys.int_info.default_max_str_digits`. -/
def maxStrDigits : ℕ := 4300

/-- The number that the digits stand for, where there are not too many. -/
def ofDigits (sign : ℤ) (digits : List ℕ) : Option ℤ :=
  if maxStrDigits < digits.length then none
  else some (sign * (digits.foldl (fun total d => total * 10 + d) 0 : ℕ))

/-- `int(text)`. -/
def parseInt (text : String) : Except String ℤ :=
  let (sign, numeral) := splitSign (trim isNumeralSpace text.toList)
  match numeralDigits decimalDigit numeral with
  | none => .error ("invalid literal for int() with base 10: " ++
      String.ofList (("'" ++ text ++ "'").toList.take 200))
  | some digits =>
    match ofDigits sign digits with
    | some i => .ok i
    | none => .error ("Exceeds the limit (4300 digits) for integer string conversion: value has " ++
        toString digits.length ++ " digits; use sys.set_int_max_str_digits() to increase the limit")

/-- A numeral without a fraction of zeros. -/
def dropFraction (numeral : List Char) : List Char :=
  match numeral.span (· ≠ '.') with
  | (whole, _ :: zeros) => if zeros ≠ [] ∧ zeros.all (· = '0') then whole else numeral
  | (whole, []) => whole

/-- The text of an `int` field, which has ASCII digits and may have a fraction of zeros. -/
def parseIntField (text : String) : Except String ℤ :=
  let (sign, numeral) := splitSign (trim isNumeralSpace text.toList)
  match numeralDigits asciiDigit (dropFraction numeral) with
  | none => .error "Input should be a valid integer, unable to parse string as an integer"
  | some digits =>
    match ofDigits sign digits with
    | some i => .ok i
    | none => .error "Unable to parse input string as an integer, exceeded maximum size"

namespace Json

/-- Truth value testing, `bool(value)`. -/
def truthy : Json → Bool
  | null => false
  | bool b => b
  | int i => i != 0
  | float _ v => v != .finite 0
  | str s => s != ""
  | arr items => !items.isEmpty
  | obj fields => !fields.isEmpty

/-- `a or b`. -/
def orElse (a b : Json) : Json := if a.truthy then a else b

mutual

/-- `repr(value)`, with the escapes of a quoted string left out. -/
def pyRepr : Json → String
  | null => "None"
  | bool true => "True"
  | bool false => "False"
  | int i => toString i
  | float text _ => text.shown
  | str s => "'" ++ s ++ "'"
  | arr items => "[" ++ reprItems items ++ "]"
  | obj fields => "\x7b" ++ reprFields fields ++ "\x7d"

def reprItems : List Json → String
  | [] => ""
  | [item] => pyRepr item
  | item :: rest => pyRepr item ++ ", " ++ reprItems rest

def reprFields : List (String × Json) → String
  | [] => ""
  | [(key, value)] => "'" ++ key ++ "': " ++ pyRepr value
  | (key, value) :: rest => "'" ++ key ++ "': " ++ pyRepr value ++ ", " ++ reprFields rest

end

/-- `str(value)`. -/
def pyStr : Json → String
  | str s => s
  | value => pyRepr value

/-- Only the empty text shows as nothing. -/
theorem py_str_ne_empty {value : Json} (true_ : value.truthy = true) : value.pyStr ≠ "" := by
  cases value with
  | null => cases true_
  | bool b => cases b <;> decide
  | int i =>
    intro empty
    have nothing : (toString i).toList = [] := congrArg String.toList empty
    cases i with
    | ofNat n =>
      change n.repr.toList = [] at nothing
      rw [Nat.toList_repr] at nothing
      exact Nat.toDigits_ne_nil nothing
    | negSucc n =>
      change ("-" ++ n.succ.repr).toList = [] at nothing
      simp [String.toList_append] at nothing
  | float text value => exact text.visible
  | str text => simpa [truthy, pyStr] using true_
  | arr items => simp [pyStr, pyRepr, ← String.toList_inj]
  | obj fields => simp [pyStr, pyRepr, ← String.toList_inj]

/-- The integer a float is cut to, rounding toward zero. -/
def truncate (q : ℚ) : ℤ := if 0 ≤ q then ⌊q⌋ else ⌈q⌉

/-- `int(value)`. -/
def pyInt : Json → Except String ℤ
  | null => .error "int() argument must be a string, a bytes-like object or a real number, not 'NoneType'"
  | bool b => .ok (if b then 1 else 0)
  | int i => .ok i
  | float _ (.finite q) => .ok (truncate q)
  | float _ (.infinite _) => .error "cannot convert float infinity to integer"
  | float _ .nan => .error "cannot convert float NaN to integer"
  | str s => parseInt s
  | arr _ => .error "int() argument must be a string, a bytes-like object or a real number, not 'list'"
  | obj _ => .error "int() argument must be a string, a bytes-like object or a real number, not 'dict'"

/-- `value.get`: only a `dict` has it. -/
def asDict : Json → Except String Dict
  | obj fields => .ok fields
  | null => .error "'NoneType' object has no attribute 'get'"
  | bool _ => .error "'bool' object has no attribute 'get'"
  | int _ => .error "'int' object has no attribute 'get'"
  | float _ _ => .error "'float' object has no attribute 'get'"
  | str _ => .error "'str' object has no attribute 'get'"
  | arr _ => .error "'list' object has no attribute 'get'"

/-- The `dict` a value is, and the empty one for any other value. -/
def dictOrEmpty : Json → Dict
  | obj fields => fields
  | _ => []

/-! ### Lax conversions of a validated model field -/

/-- A `str` field accepts strings only. -/
def strField : Json → Except String String
  | str s => .ok s
  | _ => .error "Input should be a valid string"

/-- An `int` field also accepts a boolean, a whole float and the text of a whole number. -/
def intField : Json → Except String ℤ
  | int i => .ok i
  | bool b => .ok (if b then 1 else 0)
  | float _ (.finite q) =>
    if q.den = 1 then .ok q.num
    else .error "Input should be a valid integer, got a number with a fractional part"
  | float _ _ => .error "Input should be a finite number"
  | str s => parseIntField s
  | _ => .error "Input should be a valid integer"

/-- A `bool` field also accepts 0, 1 and the usual words. -/
def boolField : Json → Except String Bool
  | bool b => .ok b
  | int 0 => .ok false
  | int 1 => .ok true
  | float _ (.finite q) =>
    if q = 0 then .ok false else if q = 1 then .ok true
    else .error "Input should be a valid boolean, unable to interpret input"
  | str s =>
    if lower s ∈ ["0", "off", "f", "false", "n", "no"] then .ok false
    else if lower s ∈ ["1", "on", "t", "true", "y", "yes"] then .ok true
    else .error "Input should be a valid boolean, unable to interpret input"
  | _ => .error "Input should be a valid boolean"

/-- A field annotated `T | None`. -/
def optionalField {α : Type} (field : Json → Except String α) : Json → Except String (Option α)
  | null => .ok none
  | value => (field value).map some

end Json

/-- A required model field. -/
def Dict.required {α : Type} (d : Dict) (key : String) (field : Json → Except String α) :
    Except String α :=
  match d.lookup key with
  | some value => field value
  | none => .error ("Field required: " ++ key)

/-- A model field with a default, which a missing key takes unvalidated. -/
def Dict.withDefault {α : Type} (d : Dict) (key : String) (field : Json → Except String α)
    (default : α) : Except String α :=
  match d.lookup key with
  | some value => field value
  | none => .ok default

end RevenueGuard.Library
