import SiteConf.Data.Basic
import SiteConf.Text.Decimal
import SiteConf.Text.Printable
import SiteConf.Text.Split

/-!
# Literals

How a value is shown inside a message: texts in quotes with unprintable characters escaped, lists
and maps in brackets, `True`, `False` and `None` for the constants. A value that holds a number of
too many digits cannot be shown (`Data.writeLiteral`).
-/

namespace SiteConf.Data

/-- The digits of `n` in base 16, at least `width` of them. -/
def hex (width n : Nat) : List Char :=
  let ds := Nat.toDigits 16 n
  List.replicate (width - ds.length) '0' ++ ds

/-- A character inside a text that stands between `quote`s. -/
def escapeIn (quote c : Char) : List Char :=
  if c = quote ∨ c = '\\' then ['\\', c]
  else if c = '\n' then ['\\', 'n']
  else if c = '\r' then ['\\', 'r']
  else if c = '\t' then ['\\', 't']
  else if Text.isPrintable c then [c]
  else if c.toNat < 0x100 then '\\' :: 'x' :: hex 2 c.toNat
  else if c.toNat < 0x10000 then '\\' :: 'u' :: hex 4 c.toNat
  else '\\' :: 'U' :: hex 8 c.toNat

/-- A text in quotes: single ones, unless it holds a single quote and no double quote. -/
def quoted (s : String) : String :=
  let cs := s.toList
  let quote := if cs.contains '\'' && !cs.contains '"' then '"' else '\''
  .ofList (quote :: cs.flatMap (escapeIn quote) ++ [quote])

mutual
def literal : Data → String
  | null => "None"
  | bool b => if b then "True" else "False"
  | int n => toString n
  | float x => x.text
  | text s => quoted s
  | list items => "[" ++ Text.joinWith ", " (literals items) ++ "]"
  | map entries => "\x7b" ++ Text.joinWith ", " (entryLiterals entries) ++ "\x7d"

def literals : List Data → List String
  | [] => []
  | d :: rest => literal d :: literals rest

def entryLiterals : List (String × Data) → List String
  | [] => []
  | (k, d) :: rest => (quoted k ++ ": " ++ literal d) :: entryLiterals rest
end

/-! ### Numbers that can be written -/

mutual
/-- The whole numbers in data. -/
def integers : Data → List Int
  | int n => [n]
  | list items => itemsIntegers items
  | map entries => entriesIntegers entries
  | _ => []

def itemsIntegers : List Data → List Int
  | [] => []
  | d :: rest => integers d ++ itemsIntegers rest

def entriesIntegers : List (String × Data) → List Int
  | [] => []
  | (_, d) :: rest => integers d ++ entriesIntegers rest
end

/-- The literal of a value. -/
def writeLiteral (d : Data) : Except Text.NumberFault String :=
  if ∀ n ∈ d.integers, Text.FewDigits n then .ok d.literal else .error .unwritable

end SiteConf.Data
