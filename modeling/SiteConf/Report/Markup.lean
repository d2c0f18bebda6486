import SiteConf.Report.Action
import SiteConf.Report.Style

/-!
# Markup

Texts with styles: `[bold red]text[/]`. A tag is a pair of brackets with a name that starts with a
small letter, `#`, `@` or, to close the style of that name, `/`; `[/]` closes the latest. What
follows an equals sign belongs to the style, or is the action of a tag with `@`. A backslash before
a tag makes it text, and of two of them one is left.

`Markup.render` is the text that appears on a terminal without styles, where tags leave no trace,
and `Markup.escape` writes a text such that its tags are shown. Two kinds of backslashes do not come
back as they were: one before a bracket that starts no tag is lost, and a single one at the end is
doubled.
-/

namespace SiteConf

/-- Why markup has no text. -/
inductive MarkupFault where
  /-- `[/]` without an open style. -/
  | nothingToClose (position : Nat)
  /-- A closing tag of a style that is not open. -/
  | notOpen (tag : String) (position : Nat)
  /-- A style with a color that cannot be read. -/
  | color (fault : ColorFault)
  /-- A tag with a faulty action is closed. -/
  | action (fault : ActionFault)
  deriving DecidableEq, Repr

def MarkupFault.message : MarkupFault → String
  | nothingToClose position =>
    "closing tag '[/]' at position " ++ toString position ++ " has nothing to close"
  | notOpen tag position =>
    "closing tag '[" ++ tag ++ "]' at position " ++ toString position ++
      " doesn't match any open tag"
  | color f => f.message
  | action f => f.message

namespace Markup
open Text

/-! ### Tags -/

def startsTag (c : Char) : Bool := ('a' ≤ c && c ≤ 'z') || c == '#' || c == '/' || c == '@'

/-- What stands between the brackets of the tag at the start. -/
def tag? : List Char → Option (List Char)
  | '[' :: c :: cs =>
    let more := cs.takeWhile fun c => c != '[' && c != ']'
    if startsTag c && (cs.drop more.length).head? == some ']' then some (c :: more) else none
  | _ => none

/-- The backslashes at the start and the tag after them. -/
def guardedTag? (cs : List Char) : Option (Nat × List Char) :=
  (tag? (cs.dropWhile (· == '\\'))).map fun t => ((cs.takeWhile (· == '\\')).length, t)

def bracketed (tag : List Char) : List Char := '[' :: tag ++ [']']

/-- A part of markup: text, or a tag with its position. -/
inductive Piece where
  | text (cs : List Char)
  | tag (position : Nat) (name : List Char)

/-- The pieces of markup from `position` on, the first `skip` characters left out. Text that has no
piece yet is in `held`, the latest character first. -/
def pieces (position : Nat) (held : List Char) (skip : Nat) : List Char → List Piece
  | [] => [.text held.reverse]
  | c :: cs =>
    if skip ≠ 0 then pieces (position + 1) held (skip - 1) cs
    else match guardedTag? (c :: cs) with
      | none => pieces (position + 1) (c :: held) 0 cs
      | some (n, t) =>
        let own := if n % 2 = 0 then .tag (position + n) t else .text (bracketed t)
        .text held.reverse :: .text (List.replicate (n / 2) '\\') :: own ::
          pieces (position + 1) [] (n + t.length + 1) cs

/-- A text without the backslashes before brackets. -/
def dropGuards : List Char → List Char
  | '\\' :: '[' :: cs => '[' :: dropGuards cs
  | c :: cs => c :: dropGuards cs
  | [] => []

/-- A tag: the name, and what follows an equals sign. -/
structure Tag where
  name : String
  parameters : Option String := none

def Tag.ofChars (cs : List Char) : Tag :=
  let name := cs.takeWhile (· != '=')
  { name := .ofList name
    parameters := match cs.drop name.length with
      | [] => none
      | _ :: p => some (.ofList p) }

/-- The style of the text between a tag and the one that closes it, as it is written. -/
def Tag.style (t : Tag) : String :=
  match t.parameters with
  | none => t.name
  | some p => t.name ++ " " ++ p

/-- A text with the styles that occur in it, in the order of their tags. -/
structure Styled where
  text : String := ""
  styles : List String := []

/-- The latest open tag of a name, if there is one, and the other open tags. -/
def close? (name : String) : List Tag → Option (Tag × List Tag)
  | [] => none
  | t :: ts =>
    if t.name == name then some (t, ts) else (close? name ts).map fun r => (r.1, t :: r.2)

/-- Reads the action of a tag that is closed. -/
def Tag.checkAction (t : Tag) : Except MarkupFault Unit :=
  match t.parameters with
  | some p =>
    if startsWith t.name "@" && !p.isEmpty then (Action.check p).mapError .action else .ok ()
  | none => .ok ()

/-- The text of pieces; the tags that are open are in `opened`, the latest first, each with the name
of its style. -/
def styledPieces (opened : List Tag) : List Piece → Except MarkupFault Styled
  | [] => .ok {}
  | .text cs :: rest => do
    let r ← styledPieces opened rest
    return { r with text := .ofList (dropGuards cs) ++ r.text }
  | .tag position t :: rest => do
    let tag := Tag.ofChars t
    match tag.name.toList with
    | '/' :: name =>
      let closed ← if (trimChars name).isEmpty then
          match opened with
          | [] => throw (.nothingToClose position)
          | tag :: opened => pure (tag, opened)
        else do
          let name ← (styleName name).mapError .color
          match close? name opened with
          | none => throw (.notOpen (.ofList t) position)
          | some closed => pure closed
      closed.1.checkAction
      styledPieces closed.2 rest
    | name =>
      let tag := { tag with name := ← (styleName name).mapError .color }
      let r ← styledPieces (tag :: opened) rest
      return { r with styles := tag.style :: r.styles }

/-- A text with its styles, from markup. -/
def read (s : String) : Except MarkupFault Styled := styledPieces [] (pieces 0 [] 0 s.toList)

/-- What appears of a text once all its styles are looked up. A style that is none has no effect. -/
def Styled.shown (t : Styled) : Except MarkupFault String := do
  t.styles.forM fun style => do
    let _ ← (Style.read? style.toList).mapError MarkupFault.color
  return t.text

/-- The text that appears for markup. -/
def render (s : String) : Except MarkupFault String := do (← read s).shown

/-- A text with a backslash before each tag, the first `skip` characters left out, and twice the
backslashes that were there before. -/
def guardTags (skip : Nat) : List Char → List Char
  | [] => []
  | c :: cs =>
    if skip ≠ 0 then guardTags (skip - 1) cs
    else match guardedTag? (c :: cs) with
      | none => c :: guardTags 0 cs
      | some (n, t) =>
        List.replicate (2 * n + 1) '\\' ++ bracketed t ++ guardTags (n + t.length + 1) cs

/-- The text as markup. A single backslash at the end is doubled, so that it guards no tag that
follows. -/
def escape (s : String) : String :=
  let cs := guardTags 0 s.toList
  let last := cs.reverse.takeWhile (· == '\\')
  .ofList (if last.length = 1 then cs ++ ['\\'] else cs)

end Markup
end SiteConf
