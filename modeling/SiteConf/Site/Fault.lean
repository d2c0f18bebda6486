import SiteConf.Data.Literal

/-!
# Faults

Why data describes no site, or a patch cannot be merged into one.
-/

namespace SiteConf

inductive Fault where
  /-- The value at a path is of the wrong kind. -/
  | wrongType (path : String) (value : Data)
  | notMap (path : String) (value : Data)
  | notList (path : String) (value : Data)
  /-- A value that spells no member of the keyword type `label`. -/
  | notMember (value : Data) (label : String)
  /-- Fields of a record that have no default and no value, in order. -/
  | missing (record : String) (fields : List String)
  | emptyLocationPath
  | redirectCode (code : Int)
  | poolMemberWeight
  | unknownAssets (keys : List String)
  | negativeBodySize
  | listenPort (value : Data)
  /-- A patch names a field that the record does not have. -/
  | unknownField (record field : String)
  /-- A patch is no map. -/
  | notPatch (value : Data)
  /-- A value of a kind without order stands for a number. -/
  | notOrdered (kind : String)
  /-- A value of a kind without items stands for a set. -/
  | notIterable (kind : String)
  /-- A set has an item of a kind that no set can hold. -/
  | notHashable (kind : String)
  /-- A set of texts has an item of another kind. -/
  | notText (kind : String)
  deriving Repr

namespace Fault

/-- `'a'`, `'a' and 'b'`. -/
def listed : List String → String
  | [] => ""
  | [f] => Data.quoted f
  | [f, g] => Data.quoted f ++ " and " ++ Data.quoted g
  | f :: rest => Data.quoted f ++ ", " ++ listed rest

/-- The text about a fault. -/
def text : Fault → String
  | wrongType path value => path ++ " has the wrong type: " ++ value.literal
  | notMap path value => path ++ " must be a mapping, got " ++ value.kind
  | notList path value => path ++ " must be a list, got " ++ value.kind
  | notMember value label => value.literal ++ " is not a valid " ++ label
  | missing record fields =>
    record ++ ".__init__() missing " ++ toString fields.length ++ " required positional argument" ++
      (if fields.length = 1 then "" else "s") ++ ": " ++ listed fields
  | emptyLocationPath => "Location path must not be empty"
  | redirectCode code => "Redirect code must be 301 or 302, got " ++ toString code
  | poolMemberWeight => "Upstream server weight must be at least 1"
  | unknownAssets keys =>
    "Unknown asset class: " ++ Text.joinWith ", " (keys.mergeSort fun a b => decide (a ≤ b))
  | negativeBodySize => "client_max_body_size must not be negative"
  | listenPort value => "listen_port must be a positive integer, got " ++ value.literal
  | unknownField record field => "Unknown field " ++ record ++ "." ++ field
  | notPatch value => "'" ++ value.kind ++ "' object has no attribute 'items'"
  | notOrdered kind => "'<' not supported between instances of '" ++ kind ++ "' and 'int'"
  | notIterable kind => "'" ++ kind ++ "' object is not iterable"
  | notHashable kind => "unhashable type: '" ++ kind ++ "'"
  | notText kind => "sequence item 0: expected str instance, " ++ kind ++ " found"

/-- The numbers in the text about a fault. -/
def integers : Fault → List Int
  | wrongType _ value | notMember value _ | listenPort value => value.integers
  | redirectCode code => [code]
  | _ => []

/-- The message about a fault. Where its text cannot be written, it says so. -/
def message (f : Fault) : String :=
  if ∀ n ∈ f.integers, Text.FewDigits n then f.text else Text.NumberFault.unwritable.message

/-- The data has a value of another kind than the field. -/
def isKind : Fault → Bool
  | wrongType .. | notMap .. | notList .. => true
  | _ => false

end Fault
end SiteConf
