import SiteConf.Data.Json
import SiteConf.Data.Yaml.Node
import SiteConf.Data.Yaml.Word
import SiteConf.Text.Blank

/-!
# YAML

What programs need of YAML is a reader and a writer (`YamlCodec`). The ones here stand for what such
a program comes with (`YamlCodec.standard`): `Data.ofYaml` reads a text that is one document of
YAML 1.1, with lists and maps in brackets or by indentation, and an empty text is null. A map has
text keys here: other words are taken as they are shown in JSON. Dates are texts. What is written is
indented JSON.
-/

namespace SiteConf
namespace Data
namespace Yaml

/-- The characters that a text may hold. -/
def isAllowed (c : Char) : Bool :=
  let n := c.toNat
  c == '\t' || c == '\n' || c == '\r' || (0x20 ≤ n && n ≤ 0x7E) || n == 0x85 ||
    (0xA0 ≤ n && n ≤ 0xFFFD) || 0x10000 ≤ n

/-- The key for a value; a list or map is none. -/
def keyText? : Data → Option String
  | .text s => some s
  | .int n => some (toString n)
  | .float x => some x.text
  | .bool b => some (if b then "true" else "false")
  | .null => some "null"
  | _ => none

mutual
/-- The data of a node. -/
def Node.data : Node → Except YamlFault Data
  | .word s => wordValue s
  | .quoted s => .ok (.text s)
  | .list items => .list <$> itemsData items
  | .map entries => do return .map (Entries.ofList (← entriesData entries))

def itemsData : List Node → Except YamlFault (List Data)
  | [] => .ok []
  | n :: rest => do
    let d ← n.data
    let ds ← itemsData rest
    pure (d :: ds)

def entriesData : List (Node × Node) → Except YamlFault Entries
  | [] => .ok []
  | (k, v) :: rest => do
    let k ← match keyText? (← k.data) with
      | some k => pure k
      | none => .error .invalid
    let v ← v.data
    let es ← entriesData rest
    pure ((k, v) :: es)
end

end Yaml

/-- The value of a text. -/
def ofYaml (s : String) : Except YamlFault Data :=
  if !s.toList.all Yaml.isAllowed then .error .invalid
  else
    let cs := (Text.unifyLineEnds s.toList).map fun c => if c = '\u0085' then '\n' else c
    match (Yaml.tokens? cs).bind Yaml.Node.ofTokens? with
    | none => .error .invalid
    | some n => n.data

end Data

/-- A reader and a writer of YAML. -/
structure YamlCodec where
  /-- The value of a text. -/
  read : String → Except YamlFault Data
  /-- What is written for a value, and why it breaks off there if it does. -/
  write : Data → String × Option String

/-- Reads a document, and writes JSON. A value that cannot be written leaves no text at all. -/
def YamlCodec.standard : YamlCodec where
  read := Data.ofYaml
  write d :=
    if ∀ n ∈ d.integers, Text.FewDigits n then (d.indented "" ++ "\n", none)
    else ("", some Text.NumberFault.unwritable.message)

end SiteConf
