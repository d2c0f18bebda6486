import SiteConf.Data.Double
import SiteConf.Text.Decimal

/-!
# Sizes and rates

The numbers with units that directives take: body sizes, and requests a second.

A size in kilobytes becomes megabytes by a division in double precision, rounded up. The quotient
is exact for sizes below `2^53`.
-/

namespace SiteConf
open Text

/-- `n` to 53 significant bits, a half to the even neighbour. -/
def toDoublePrecision (n : Nat) : Nat :=
  if n < Nat.pow 2 53 then n else
    let unit := Nat.pow 2 (n.log2 - 52)
    Double.roundQuotient n unit * unit

/-- The megabytes that hold a number of kilobytes. -/
def megabytes (kilobytes : Nat) : Except NumberFault Nat :=
  let n := toDoublePrecision kilobytes
  if Nat.pow 2 1034 ≤ n then .error .quotientTooLarge else .ok ((n + 1023) / 1024)

/-- The unit of a body size. -/
inductive SizeSuffix where
  | none
  | kilo
  | mega
  | giga
  deriving DecidableEq, Repr

/-- A unit letter in either case. The Kelvin sign counts as the letter that it is a variant of. -/
def SizeSuffix.ofChar? (c : Char) : Option SizeSuffix :=
  if c = 'k' ∨ c = 'K' ∨ c = '\u212A' then some .kilo
  else if c = 'm' ∨ c = 'M' then some .mega
  else if c = 'g' ∨ c = 'G' then some .giga
  else Option.none

/-- The digits and the unit of a body size: digits, then at most one unit letter. -/
def splitSize? (s : String) : Option (List Char × SizeSuffix) :=
  let (ds, rest) := spanDigits s.toList
  if ds.isEmpty then Option.none
  else if atEnd rest then some (ds, .none)
  else match rest with
    | c :: rest => if atEnd rest then (SizeSuffix.ofChar? c).map (ds, ·) else Option.none
    | [] => Option.none

/-- The digits of a rate, `rate=` before and `r/s` after them. -/
def rateDigits? (s : String) : Option (List Char) :=
  let lead := "rate=".toList
  let unit := "r/s".toList
  if lead.isPrefixOf s.toList then
    let (ds, rest) := spanDigits (s.toList.drop lead.length)
    if !ds.isEmpty && unit.isPrefixOf rest && atEnd (rest.drop unit.length) then some ds
    else Option.none
  else Option.none

end SiteConf
