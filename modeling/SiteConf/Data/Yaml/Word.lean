import SiteConf.Data.Basic
import SiteConf.Data.Yaml.Date
import SiteConf.Text.Decimal

/-!
# Words of YAML

What a word without quotes stands for in YAML 1.1: a constant, a whole number in base 2, 8, 10, 16
or 60, a number with a point, and else a text. A date is a text here if it is one at all.
-/

namespace SiteConf

/-- Why a text has no value in YAML. -/
inductive YamlFault where
  /-- The text is no YAML. -/
  | invalid
  /-- A value in the text cannot be made. -/
  | value (reason : String)
  deriving DecidableEq, Repr

namespace Data.Yaml

def trueWords : List String := ["yes", "Yes", "YES", "true", "True", "TRUE", "on", "On", "ON"]

def falseWords : List String := ["no", "No", "NO", "false", "False", "FALSE", "off", "Off", "OFF"]

def nullWords : List String := ["", "~", "null", "Null", "NULL"]

/-- Words with a meaning in maps that no other value has. -/
def reservedWords : List String := ["=", "<<"]

/-- A run of characters of a class, or underscores; at least one. -/
def isRun (p : Char → Bool) (cs : List Char) : Bool :=
  !cs.isEmpty && cs.all fun c => p c || c == '_'

def dropMarks (cs : List Char) : List Char := cs.filter (· != '_')

/-- The number of digits in a base. -/
def baseValue (base : Nat) (ds : List Char) : Nat :=
  ds.foldl (fun n c => base * n + (hexDigit? c).getD 0) 0

/-- A number in base 60 from its parts in base 10; the first may have any size, the others are less
than 60. -/
def sixties? : List (List Char) → Option Nat
  | first :: parts =>
    if first.head? != some '0' && isRun Char.isDigit first && first.head? != some '_' &&
        parts.all (fun p => match p with
          | [d] => d.isDigit
          | [t, d] => '0' ≤ t && t ≤ '5' && d.isDigit
          | _ => false) then
      some ((dropMarks first :: parts).foldl (fun n p => 60 * n + decimalValue p) 0)
    else none
  | [] => none

/-- The parts of a text between colons. -/
def colonParts : List Char → List (List Char)
  | [] => [[]]
  | c :: cs =>
    if c = ':' then [] :: colonParts cs
    else match colonParts cs with
      | [] => [[c]]
      | p :: ps => (c :: p) :: ps

/-- A whole number, without its sign; one in base 10 has a bounded count of digits. -/
def whole? (cs : List Char) : Option (Except YamlFault Nat) :=
  match cs with
  | ['0'] => some (.ok 0)
  | '0' :: 'b' :: ds =>
    if isRun (fun c => c == '0' || c == '1') ds then some (digits 2 ds) else none
  | '0' :: 'x' :: ds =>
    if isRun (fun c => (hexDigit? c).isSome) ds then some (digits 16 ds) else none
  | '0' :: ds =>
    if isRun (fun c => '0' ≤ c && c ≤ '7') ds then some (.ok (baseValue 8 (dropMarks ds))) else none
  | c :: _ =>
    if c.isDigit && isRun Char.isDigit cs then
      some ((Text.readNumber (dropMarks cs)).mapError (.value ·.message))
    else if cs.contains ':' then (sixties? (colonParts cs)).map .ok
    else none
  | [] => none
where
  digits (base : Nat) (ds : List Char) : Except YamlFault Nat :=
    if (dropMarks ds).isEmpty then .error .invalid else .ok (baseValue base (dropMarks ds))

/-- A number with a point. An exponent needs a sign, and a number that starts with the point has
none. -/
def pointed? (cs : List Char) : Option Double :=
  match cs with
  | '.' :: c :: _ => if c.isDigit then read else none
  | _ =>
    let body := (Numeral.splitSign cs).2
    if (body.head?.map Char.isDigit).getD false then read else none
where
  read : Option Double := do
    let n ← Numeral.read? (dropMarks cs)
    let signed := match n.exponent with
      | some (sign, _) => !sign.isEmpty
      | none => true
    let exponentStart := cs.dropWhile fun c => c != 'e' && c != 'E'
    if n.fraction.isSome && signed && !exponentStart.contains '_' then some n.toDouble else none

/-- The floats that are no finite number. -/
def special? (s : String) : Option Double :=
  if [".inf", ".Inf", ".INF", "+.inf", "+.Inf", "+.INF"].contains s then some (.infinite false)
  else if ["-.inf", "-.Inf", "-.INF"].contains s then some (.infinite true)
  else if [".nan", ".NaN", ".NAN"].contains s then some .notNumber
  else none

/-- What a word stands for. -/
def wordValue (s : String) : Except YamlFault Data :=
  if trueWords.contains s then .ok (.bool true)
  else if falseWords.contains s then .ok (.bool false)
  else if nullWords.contains s then .ok .null
  else if reservedWords.contains s then .error .invalid
  else
    let cs := s.toList
    match special? s, pointed? cs with
    | some x, _ | none, some x => .ok (.float x)
    | none, none =>
      let (sign, body) := Numeral.splitSign cs
      match whole? body with
      | some (.ok n) => .ok (.int (Numeral.signed sign n))
      | some (.error f) => .error f
      | none => match dateFault? cs with
        | some reason => .error (.value reason)
        | none => .ok (.text s)

end Data.Yaml
end SiteConf
