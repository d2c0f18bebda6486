import SiteConf.Data.Literal

/-!
# JSON text

Data written as JSON: on one line, with `", "` and `": "` between the parts, or indented by two
columns a level. All text is ASCII: any other character is written as its UTF-16 units. A float has
a point, so that a reader of YAML takes it for one too.

A number of too many digits is not written: where that can happen, as in `Data.writeJson`, the
writer fails.
-/

namespace SiteConf.Data

/-- The UTF-16 units of a code point. -/
def utf16 (n : Nat) : List Nat :=
  if n < 0x10000 then [n]
  else [0xD800 + (n - 0x10000) / 0x400, 0xDC00 + (n - 0x10000) % 0x400]

def jsonUnit (n : Nat) : List Char :=
  if n = 0x22 then ['\\', '"']
  else if n = 0x5C then ['\\', '\\']
  else if n = 0x0A then ['\\', 'n']
  else if n = 0x0D then ['\\', 'r']
  else if n = 0x09 then ['\\', 't']
  else if n = 0x08 then ['\\', 'b']
  else if n = 0x0C then ['\\', 'f']
  else if 32 ≤ n ∧ n < 127 then [Char.ofNat n]
  else '\\' :: 'u' :: hex 4 n

/-- What stands between the quotes for a sequence of code points, surrogates among them or not. -/
def jsonPoints (ns : List Nat) : List Char := (ns.flatMap utf16).flatMap jsonUnit

def jsonText (s : String) : String :=
  .ofList ('"' :: jsonPoints (s.toList.map Char.toNat) ++ ['"'])

/-- A float; the values that are no finite number have no form in JSON itself. -/
def jsonFloat (x : Double) : String :=
  match x with
  | .notNumber => "NaN"
  | .infinite negative => if negative then "-Infinity" else "Infinity"
  | .finite .. =>
    let cs := x.text.toList
    if cs.contains '.' then .ofList cs
    else .ofList (cs.takeWhile (· != 'e') ++ ".0".toList ++ cs.dropWhile (· != 'e'))

/-- A value that holds no other. -/
def jsonAtom : Data → String
  | null => "null"
  | bool b => if b then "true" else "false"
  | int n => toString n
  | float x => jsonFloat x
  | text s => jsonText s
  | list _ => "[]"
  | map _ => "\x7b\x7d"

mutual
/-- JSON on one line. -/
def json : Data → String
  | list items => "[" ++ Text.joinWith ", " (jsonItems items) ++ "]"
  | map entries => "\x7b" ++ Text.joinWith ", " (jsonEntries entries) ++ "\x7d"
  | d => jsonAtom d

def jsonItems : List Data → List String
  | [] => []
  | d :: rest => json d :: jsonItems rest

def jsonEntries : List (String × Data) → List String
  | [] => []
  | (k, d) :: rest => (jsonText k ++ ": " ++ json d) :: jsonEntries rest
end

/-- `parts` between brackets, each on a line of its own. -/
def block (opening closing pad : String) (parts : List String) : String :=
  if parts.isEmpty then opening ++ closing
  else opening ++ "\n" ++ pad ++ "  " ++ Text.joinWith (",\n" ++ pad ++ "  ") parts ++
    "\n" ++ pad ++ closing

mutual
/-- JSON over several lines; `pad` is the indentation of the line on which the value starts. -/
def indented (pad : String) : Data → String
  | list items => block "[" "]" pad (indentedItems (pad ++ "  ") items)
  | map entries => block "\x7b" "\x7d" pad (indentedEntries (pad ++ "  ") entries)
  | d => jsonAtom d

def indentedItems (pad : String) : List Data → List String
  | [] => []
  | d :: rest => indented pad d :: indentedItems pad rest

def indentedEntries (pad : String) : List (String × Data) → List String
  | [] => []
  | (k, d) :: rest => (jsonText k ++ ": " ++ indented pad d) :: indentedEntries pad rest
end

/-! ### Sorted keys -/

/-- The order of two entries by key, code point by code point. -/
def keyLE (a b : String × Data) : Bool := decide (a.1 ≤ b.1)

mutual
/-- The same data with the keys of every map in ascending order. -/
def sortKeys : Data → Data
  | list items => list (sortKeysItems items)
  | map entries => map ((sortKeysEntries entries).mergeSort keyLE)
  | d => d

def sortKeysItems : List Data → List Data
  | [] => []
  | d :: rest => sortKeys d :: sortKeysItems rest

def sortKeysEntries : List (String × Data) → List (String × Data)
  | [] => []
  | (k, d) :: rest => (k, sortKeys d) :: sortKeysEntries rest
end

/-- JSON on one line with sorted keys. -/
def writeJson (d : Data) : Except Text.NumberFault String :=
  if ∀ n ∈ d.integers, Text.FewDigits n then .ok d.sortKeys.json else .error .unwritable

end SiteConf.Data
