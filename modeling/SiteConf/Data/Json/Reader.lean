import SiteConf.Data.Basic
import SiteConf.Data.Numeral

/-!
# Reading JSON

`Data.ofJson?` reads a text that is one JSON value. Of several entries of a map with one key the
last counts. `NaN`, `Infinity` and `-Infinity` are read as floats.
-/

namespace SiteConf.Data.Json

def isSpace (c : Char) : Bool := c == ' ' || c == '\t' || c == '\n' || c == '\r'

/-- A number or a constant. -/
def word? (cs : List Char) : Option Data :=
  match String.ofList cs with
  | "true" => some (.bool true)
  | "false" => some (.bool false)
  | "null" => some .null
  | "NaN" => some (.float .notNumber)
  | "Infinity" => some (.float (.infinite false))
  | "-Infinity" => some (.float (.infinite true))
  | _ => do
    let n ← Numeral.read? cs
    if n.whole.isEmpty || cs.head? == some '+' then none
    else some (if n.isWhole then .int n.toInt else .float n.toDouble)

/-- The character after a backslash, other than `u`. -/
def escaped? : Char → Option Char
  | '"' => some '"'
  | '\\' => some '\\'
  | '/' => some '/'
  | 'b' => some '\x08'
  | 'f' => some '\x0c'
  | 'n' => some '\n'
  | 'r' => some '\r'
  | 't' => some '\t'
  | _ => none

/-- The code points and units up to the closing quote, after those in `done`, the latest first. -/
def units? (done : List Nat) : List Char → Option (List Nat × List Char)
  | [] => none
  | '"' :: rest => some (done.reverse, rest)
  | '\\' :: 'u' :: a :: b :: c :: d :: rest => do
    let n ← hexNumber? [a, b, c, d]
    units? (n :: done) rest
  | '\\' :: c :: rest => do
    let c ← escaped? c
    units? (c.toNat :: done) rest
  | c :: rest => units? (c.toNat :: done) rest

/-- The text up to the closing quote. -/
def text? (cs : List Char) : Option (String × List Char) := do
  let (ns, rest) ← units? [] cs
  return (.ofList (joinUnits ns), rest)

/-- A character that is part of a number or a constant. -/
def isWordChar (c : Char) : Bool := c.isAlphanum || c == '-' || c == '+' || c == '.'

mutual
def value? (fuel : Nat) (cs : List Char) : Option (Data × List Char) :=
  match fuel with
  | 0 => none
  | fuel + 1 =>
    match cs.dropWhile isSpace with
    | '[' :: rest => items? fuel [] rest
    | '\x7b' :: rest => entries? fuel [] rest
    | '"' :: rest => do
      let (s, rest) ← text? rest
      pure (.text s, rest)
    | cs => do
      let d ← word? (cs.takeWhile isWordChar)
      pure (d, cs.dropWhile isWordChar)

def items? (fuel : Nat) (done : List Data) (cs : List Char) : Option (Data × List Char) :=
  match fuel with
  | 0 => none
  | fuel + 1 =>
    match cs.dropWhile isSpace with
    | ']' :: rest => some (.list done.reverse, rest)
    | cs => do
      let (d, rest) ← value? fuel cs
      match rest.dropWhile isSpace with
      | ',' :: rest => items? fuel (d :: done) rest
      | ']' :: rest => some (.list (d :: done).reverse, rest)
      | _ => none

def entries? (fuel : Nat) (done : List (String × Data)) (cs : List Char) :
    Option (Data × List Char) :=
  match fuel with
  | 0 => none
  | fuel + 1 =>
    match cs.dropWhile isSpace with
    | '\x7d' :: rest => some (.map (Entries.ofList done.reverse), rest)
    | '"' :: rest => do
      let (k, rest) ← text? rest
      match rest.dropWhile isSpace with
      | ':' :: rest => do
        let (d, rest) ← value? fuel rest
        match rest.dropWhile isSpace with
        | ',' :: rest => entries? fuel ((k, d) :: done) rest
        | '\x7d' :: rest => some (.map (Entries.ofList ((k, d) :: done).reverse), rest)
        | _ => none
      | _ => none
    | _ => none
end

end Json

/-- The value of a JSON text. -/
def ofJson? (s : String) : Option Data := do
  let cs := s.toList
  let (d, rest) ← Json.value? (2 * cs.length + 2) cs
  if rest.all Json.isSpace then some d else none

end SiteConf.Data
