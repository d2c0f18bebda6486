import SiteConf.Directive.Node
import SiteConf.Text.Split

/-!
# Statements as text

The written form of words, statements and trees: one statement a line, four spaces a level, and an
argument in quotes if it would not be read as one word without them.

Main statement: an argument is written bare exactly if it is not empty and holds none of the
characters that need quotes (`quoteArg_eq_self`).
-/

namespace SiteConf
open Text

/-- The characters for which an argument is written in quotes. -/
def needsQuotes (c : Char) : Bool :=
  [' ', '\t', '\r', '\n', ';', '\x7b', '\x7d', '#', '"', '\''].contains c

/-- A backslash before every double quote. -/
def escapeQuotes : List Char → List Char
  | [] => []
  | c :: cs => if c = '"' then '\\' :: '"' :: escapeQuotes cs else c :: escapeQuotes cs

/-- One backslash less before a double quote that has two of them. -/
def mergeEscapes : List Char → List Char
  | '\\' :: '\\' :: '"' :: cs => '\\' :: '"' :: mergeEscapes cs
  | c :: cs => c :: mergeEscapes cs
  | [] => []

def quoteChars (cs : List Char) : List Char :=
  if !cs.isEmpty && !cs.any needsQuotes then cs
  else if !cs.contains '"' then '"' :: cs ++ ['"']
  else if !cs.contains '\'' then '\'' :: cs ++ ['\'']
  else '"' :: mergeEscapes (escapeQuotes cs) ++ ['"']

/-- An argument as it is written: bare, in the quotes it does not hold, or, if it holds both kinds,
in double quotes with a backslash before each double quote. -/
def quoteArg (arg : String) : String := .ofList (quoteChars arg.toList)

theorem quoteArg_eq_self {arg : String} (hne : arg.toList ≠ [])
    (h : ∀ c ∈ arg.toList, needsQuotes c = false) : quoteArg arg = arg := by
  rw [quoteArg, quoteChars, if_pos, String.ofList_toList]
  simpa [hne] using h

/-- A name and its arguments. -/
def statement (name : String) (args : List String) : String :=
  joinWith " " (name :: args.map quoteArg)

/-- A statement that ends with a semicolon. -/
def directiveLine (name : String) (args : List String) : String := statement name args ++ ";"

/-- The columns before a statement; none at a level of zero or less. -/
def pad (level : Int) : String := .ofList (List.replicate (4 * level.toNat) ' ')

mutual
/-- The lines of a node. -/
def Node.toLines (level : Int) : Node → List String
  | .directive name args _ => [pad level ++ directiveLine name args]
  | .block name args _ children =>
    (pad level ++ statement name args ++ " \x7b") :: serialize (level + 1) children ++
      [pad level ++ "\x7d"]

/-- The lines of a list of nodes at a level. -/
def serialize (level : Int) : List Node → List String
  | [] => []
  | n :: ns => n.toLines level ++ serialize level ns
end

theorem serialize_append (level : Int) (xs ys : List Node) :
    serialize level (xs ++ ys) = serialize level xs ++ serialize level ys := by
  induction xs with
  | nil => simp [serialize]
  | cons x xs ih => simp [serialize, ih]

/-- Lines of a deeper level: `level` more, where a line is not empty. -/
def indentLines (level : Int) (ls : List String) : List String :=
  ls.map fun l => if l.isEmpty then l else pad level ++ l

end SiteConf
