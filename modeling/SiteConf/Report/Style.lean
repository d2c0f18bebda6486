import SiteConf.Report.Color
import SiteConf.Text.Blank

/-!
# Styles

A style is written as words: effects, `not` before one to switch it off, a color, `on` before the
color of the background, `link` before an address. Two texts describe the same style if they agree
in `Style.text`.
-/

namespace SiteConf
open Text

/-- A style: which effects are switched on or off, the latest first, the colors, and a link. -/
structure Style where
  switches : List (String × Bool) := []
  color : Option String := none
  background : Option String := none
  link : Option String := none

namespace Style

/-- The effects in the order in which they are named, each with its short name. -/
def effects : List (String × String) :=
  [("bold", "b"), ("dim", "d"), ("italic", "i"), ("underline", "u"), ("blink", "blink"),
    ("blink2", "blink2"), ("reverse", "r"), ("conceal", "c"), ("strike", "s"),
    ("underline2", "uu"), ("frame", "frame"), ("encircle", "encircle"), ("overline", "o")]

/-- The effect with a name, in small letters. -/
def effect? (word : String) : Option String :=
  (effects.find? fun e => e.1 == word || e.2 == word).map (·.1)

/-- The style that words add to a style, if they describe one. Small and capital letters count the
same, but not in the effect after `not` and in an address. -/
def ofWords? (st : Style) : List (List Char) → Except ColorFault (Option Style)
  | [] => .ok (some st)
  | word :: rest =>
    match String.ofList (lowerChars word), rest with
    | "on", c :: rest => do
      match ← Color.read? c with
      | some c => ofWords? { st with background := some c } rest
      | none => return none
    | "not", e :: rest =>
      match effect? (.ofList e) with
      | some e => ofWords? { st with switches := (e, false) :: st.switches } rest
      | none => .ok none
    | "link", url :: rest => ofWords? { st with link := some (.ofList url) } rest
    | name, rest =>
      match effect? name with
      | some e => ofWords? { st with switches := (e, true) :: st.switches } rest
      | none => do
        match ← Color.read? word with
        | some c => ofWords? { st with color := some c } rest
        | none => return none
termination_by words => words.length

/-- The style that a text describes. -/
def read? (cs : List Char) : Except ColorFault (Option Style) := ofWords? {} (splitWords cs)

/-- The words of a style in their order: effects, color, background, link. -/
def words (st : Style) : List String :=
  effects.filterMap (fun e => (st.switches.lookup e.1).map fun on =>
    if on then e.1 else "not " ++ e.1) ++
    st.color.toList ++ (st.background.map ("on " ++ ·)).toList ++
    (st.link.map ("link " ++ ·)).toList

/-- A style as text. -/
def text (st : Style) : String := if st.words.isEmpty then "none" else joinWith " " st.words

end Style

/-- The name under which a style is opened and closed: its text, or the name itself in small letters
if it describes no style. -/
def styleName (name : List Char) : Except ColorFault String := do
  match ← Style.read? name with
  | some st => return st.text
  | none => return .ofList (lowerChars (trimChars name))

end SiteConf
