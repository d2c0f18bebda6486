import SiteConf.Data.Double

/-!
# Numerals

Numbers in ASCII digits, with a sign, a point and an exponent or without, and characters that a text
names by their numbers in hexadecimal digits.
-/

namespace SiteConf

/-- The number of a run of digits. -/
def decimalValue (ds : List Char) : Nat := ds.foldl (fun n c => 10 * n + (c.toNat - 48)) 0

/-- The parts of a number: digits, the digits after the point if there is one, and the exponent
with its sign if there is one. -/
structure Numeral where
  negative : Bool := false
  whole : List Char
  fraction : Option (List Char) := none
  exponent : Option (List Char × List Char) := none

namespace Numeral

/-- A sign at the start, and the rest. -/
def splitSign : List Char → List Char × List Char
  | '-' :: cs => (['-'], cs)
  | '+' :: cs => (['+'], cs)
  | cs => ([], cs)

def signed (sign : List Char) (n : Nat) : Int := if sign = ['-'] then -(n : Int) else n

/-- A numeral that is the whole text. -/
def read? (cs : List Char) : Option Numeral :=
  let (sign, cs) := splitSign cs
  let whole := cs.takeWhile Char.isDigit
  let (fraction, rest) := match cs.dropWhile Char.isDigit with
    | '.' :: rest => (some (rest.takeWhile Char.isDigit), rest.dropWhile Char.isDigit)
    | rest => (none, rest)
  let negative := sign == ['-']
  match rest with
  | [] => some { negative, whole, fraction }
  | e :: rest =>
    let (sign, ds) := splitSign rest
    if (e == 'e' || e == 'E') && !ds.isEmpty && ds.all Char.isDigit then
      some { negative, whole, fraction, exponent := some (sign, ds) }
    else none

/-- A number without point and exponent. -/
def isWhole (n : Numeral) : Bool := n.fraction.isNone && n.exponent.isNone

/-- The digits as a whole number. -/
def toInt (n : Numeral) : Int := signed (if n.negative then ['-'] else []) (decimalValue n.whole)

def toDouble (n : Numeral) : Double :=
  let fraction := n.fraction.getD []
  let exponent : Int := match n.exponent with
    | none => 0
    | some (sign, ds) => signed sign (decimalValue ds)
  .ofDecimal n.negative (decimalValue (n.whole ++ fraction)) (exponent - fraction.length)

end Numeral

namespace Data

/-! ### Escaped code points -/

def hexDigit? (c : Char) : Option Nat :=
  if c.isDigit then some (c.toNat - 48)
  else if 'a' ≤ c && c ≤ 'f' then some (c.toNat - 87)
  else if 'A' ≤ c && c ≤ 'F' then some (c.toNat - 55)
  else none

/-- The number of a run of hexadecimal digits. -/
def hexNumber? (cs : List Char) : Option Nat :=
  cs.foldlM (fun n c => (16 * n + ·) <$> hexDigit? c) 0

/-- Code points as text. Beyond U+FFFF a character may be given by its two UTF-16 units, a surrogate
pair. -/
def joinUnits : List Nat → List Char
  | [] => []
  | [n] => [Char.ofNat n]
  | high :: low :: rest =>
    if 0xD800 ≤ high ∧ high < 0xDC00 ∧ 0xDC00 ≤ low ∧ low < 0xE000 then
      Char.ofNat (0x10000 + (high - 0xD800) * 0x400 + (low - 0xDC00)) :: joinUnits rest
    else Char.ofNat high :: joinUnits (low :: rest)

end Data
end SiteConf
