/-!
# Decimal numbers in a text

A decimal digit may come from any script: the category Nd consists of blocks of ten digits in
ascending order, as of version 14 of the character database. A number has a bounded count of
digits: a longer one is neither read (`NumberFault.tooManyDigits`) nor written
(`NumberFault.unwritable`).

Main statements: the digits that a number is written with stand for that number
(`digitsValue_toDigits`), and `readNumber` gives the value of any run of digits of bounded length
(`readNumber_eq_ok`).
-/

namespace SiteConf.Text

/-- The code points of the zeros. -/
def zeroCodes : List Nat :=
  [
    0x0030, 0x0660, 0x06F0, 0x07C0, 0x0966, 0x09E6, 0x0A66, 0x0AE6, 0x0B66, 0x0BE6, 0x0C66,
    0x0CE6, 0x0D66, 0x0DE6, 0x0E50, 0x0ED0, 0x0F20, 0x1040, 0x1090, 0x17E0, 0x1810, 0x1946,
    0x19D0, 0x1A80, 0x1A90, 0x1B50, 0x1BB0, 0x1C40, 0x1C50, 0xA620, 0xA8D0, 0xA900, 0xA9D0,
    0xA9F0, 0xAA50, 0xABF0, 0xFF10, 0x104A0, 0x10D30, 0x11066, 0x110F0, 0x11136, 0x111D0,
    0x112F0, 0x11450, 0x114D0, 0x11650, 0x116C0, 0x11730, 0x118E0, 0x11950, 0x11C50, 0x11D50,
    0x11DA0, 0x16A60, 0x16AC0, 0x16B50, 0x1D7CE, 0x1D7D8, 0x1D7E2, 0x1D7EC, 0x1D7F6, 0x1E140,
    0x1E2F0, 0x1E950, 0x1FBF0
  ]

/-- The value of a decimal digit of any script. -/
def digitValue? (c : Char) : Option Nat :=
  if c.toNat < 128 then
    if 48 ≤ c.toNat ∧ c.toNat ≤ 57 then some (c.toNat - 48) else none
  else (zeroCodes.find? fun z => z ≤ c.toNat && c.toNat < z + 10).map (c.toNat - ·)

def isDecimal (c : Char) : Bool := (digitValue? c).isSome

example : zeroCodes.length = 66 ∧ zeroCodes.Pairwise (· + 9 < ·) := by decide +kernel

theorem digitValue?_of_isDigit {c : Char} (h : c.isDigit = true) :
    digitValue? c = some (c.toNat - 48) := by
  simp only [Char.isDigit, Bool.and_eq_true, decide_eq_true_eq] at h
  have h1 : 48 ≤ c.toNat := h.1
  have h2 : c.toNat ≤ 57 := h.2
  rw [digitValue?, if_pos (by omega), if_pos ⟨h1, h2⟩]

theorem isDecimal_of_isDigit {c : Char} (h : c.isDigit = true) : isDecimal c = true := by
  rw [isDecimal, digitValue?_of_isDigit h, Option.isSome_some]

/-- The number that a run of decimal digits stands for. -/
def digitsValue (ds : List Char) : Nat :=
  ds.foldl (fun n c => 10 * n + (digitValue? c).getD 0) 0

theorem digitsValue_eq_ofDigitChars {ds : List Char} (h : ∀ c ∈ ds, c.isDigit = true) :
    digitsValue ds = Nat.ofDigitChars 10 ds 0 := by
  suffices ∀ n, ds.foldl (fun n c => 10 * n + (digitValue? c).getD 0) n =
      Nat.ofDigitChars 10 ds n from this 0
  induction ds with
  | nil => exact fun _ => rfl
  | cons c ds ih =>
    intro n
    rw [List.foldl_cons, digitValue?_of_isDigit (h c (by simp)), ih fun x hx => h x (by simp [hx])]
    rfl

theorem digitsValue_toDigits (n : Nat) : digitsValue (Nat.toDigits 10 n) = n := by
  rw [digitsValue_eq_ofDigitChars fun c hc => Nat.isDigit_of_mem_toDigits (by omega) (by omega) hc,
    Nat.ofDigitChars_toDigits (by omega) (by omega)]

/-- Why a text is no number, or a number no text. -/
inductive NumberFault where
  /-- More digits than `digitLimit`. -/
  | tooManyDigits (count : Nat)
  /-- A number whose digits would be more than that. -/
  | unwritable
  /-- A quotient of two numbers beyond the largest double. -/
  | quotientTooLarge
  deriving DecidableEq, Repr

/-- The most digits that a number may have. -/
def digitLimit : Nat := 4300

def NumberFault.message : NumberFault → String
  | .tooManyDigits count =>
    s!"Exceeds the limit ({digitLimit} digits) for integer string conversion: value has {count} " ++
      "digits; use sys.set_int_max_str_digits() to increase the limit"
  | .unwritable =>
    s!"Exceeds the limit ({digitLimit} digits) for integer string conversion; " ++
      "use sys.set_int_max_str_digits() to increase the limit"
  | .quotientTooLarge => "integer division result too large for a float"

/-- The value of a run of digits. -/
def readNumber (ds : List Char) : Except NumberFault Nat :=
  if digitLimit < ds.length then .error (.tooManyDigits ds.length) else .ok (digitsValue ds)

/-- Digits only, and at least one. -/
def isNumber (cs : List Char) : Bool := !cs.isEmpty && cs.all isDecimal

theorem readNumber_eq_ok {ds : List Char} (h : ds.length ≤ digitLimit) :
    readNumber ds = .ok (digitsValue ds) := if_neg (by omega)

/-- The number is written with no more digits than a number may have. -/
def FewDigits (n : Int) : Prop := (Nat.toDigits 10 n.natAbs).length ≤ digitLimit

instance (n : Int) : Decidable (FewDigits n) := inferInstanceAs (Decidable (_ ≤ _))

/-- The text of a number. -/
def writeNumber (n : Int) : Except NumberFault String :=
  if FewDigits n then .ok (toString n) else .error .unwritable

theorem writeNumber_eq_ok {n : Int} (h : FewDigits n) : writeNumber n = .ok (toString n) := if_pos h

/-! ### Numbers at the start of a text -/

/-- The leading digits and what follows them. -/
def spanDigits (cs : List Char) : List Char × List Char :=
  (cs.takeWhile isDecimal, cs.dropWhile isDecimal)

theorem spanDigits_append {ds cs : List Char} (hd : ∀ c ∈ ds, isDecimal c = true)
    (hc : cs.takeWhile isDecimal = []) : spanDigits (ds ++ cs) = (ds, cs) := by
  have h : cs.dropWhile isDecimal = cs := by
    have := List.takeWhile_append_dropWhile (p := isDecimal) (l := cs)
    rwa [hc, List.nil_append] at this
  rw [spanDigits, List.takeWhile_append_of_pos hd, List.dropWhile_append_of_pos hd, hc, h,
    List.append_nil]

/-- The end of a text; one line feed may stand before it. -/
def atEnd (cs : List Char) : Bool := cs == [] || cs == ['\n']

/-- A number of seconds: digits, then at most one `s`. -/
def readSeconds (s : String) : Except NumberFault (Option Nat) :=
  let (ds, rest) := spanDigits s.toList
  let ended := match rest with
    | 's' :: rest' => atEnd rest'
    | _ => atEnd rest
  if !ds.isEmpty && ended then some <$> readNumber ds else .ok none

end SiteConf.Text
