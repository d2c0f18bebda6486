import SiteConf.Data.Double
import SiteConf.Report.Markup
import SiteConf.Text.Blank
import SiteConf.Text.Split
import SiteConf.Text.Width

/-!
# Printing on a console

The lines that appear when a text is printed, boxes and tables among them. The console is 240
columns wide. A line that is longer is broken between words, and a word that is longer than a line
is folded; in the cells of tables it is cut off.
-/

namespace SiteConf.Console
open Text

def consoleWidth : Nat := 240

def repeated (n : Nat) (c : Char) : List Char := List.replicate n c

/-! ### Control characters -/

/-- Control characters that are not printed: bell, backspace, vertical tab, form feed, carriage
return. -/
def isDropped (c : Char) : Bool := [7, 8, 11, 12, 13].contains c.toNat

def printable (s : String) : List Char := s.toList.filter (!isDropped ·)

/-- What stands between tabs, from column `col` on, with blanks up to the next multiple of eight
columns in place of the tabs. -/
def fillTabs (col : Nat) : List (List Char) → List Char
  | [] => []
  | [part] => part
  | part :: parts =>
    let col := col + charsWidth part
    let n := 8 - col % 8
    part ++ repeated n ' ' ++ fillTabs (col + n) parts

def expandTabs (cs : List Char) : List Char := fillTabs 0 (splitAtChar '\t' cs)

/-! ### Cutting and filling -/

/-- A text filled up with blanks on the right. -/
def padRight (w : Nat) (cs : List Char) : List Char := cs ++ repeated (w - charsWidth cs) ' '

/-- A text filled up with blanks on the left. -/
def padLeft (w : Nat) (cs : List Char) : List Char := repeated (w - charsWidth cs) ' ' ++ cs

/-- A text in the middle of `w` columns of `fill`; the left side has the smaller half. -/
def centered (w : Nat) (fill : Char) (cs : List Char) : List Char :=
  let rest := w - charsWidth cs
  repeated (rest / 2) fill ++ cs ++ repeated (rest - rest / 2) fill

/-- What becomes of a word that is longer than a line. -/
inductive Overflow where
  /-- It goes on in the next line. -/
  | fold
  /-- It is cut off, and an ellipsis stands for the rest. -/
  | ellipsis
  deriving DecidableEq, Repr

/-- The start of a text that takes `w` columns, looked for by halving between `lo` and `hi`
characters; half a character that is cut through is a blank. Where characters without a column
follow, several starts take `w` columns, and the first one that is met is taken. -/
def startOf (w : Nat) (cs : List Char) (lo hi : Nat) : List Char :=
  let mid := (lo + hi) / 2
  let start := cs.take (mid + 1)
  let used := charsWidth start
  if used = w then start
  else if used = w + 1 ∧ start.getLast?.any (charWidth · = 2) then start.dropLast ++ [' ']
  else if w < used then
    if _h : mid < hi then startOf w cs lo mid else []
  else if _h : lo < mid then startOf w cs mid hi else []
termination_by hi - lo
decreasing_by all_goals omega

/-- As much of a text as fits into `w` columns. -/
def cut (w : Nat) (cs : List Char) : List Char :=
  if charsWidth cs ≤ w then cs else if w = 0 then [] else startOf w cs 0 cs.length

/-- At most `w` columns of a text. -/
def truncated (o : Overflow) (w : Nat) (cs : List Char) : List Char :=
  if charsWidth cs ≤ w then cs
  else match o with
    | .fold => cut w cs
    | .ellipsis => cut (w - 1) cs ++ ['…']

/-! ### Lines -/

def trimRight (cs : List Char) : List Char := (cs.reverse.dropWhile isBlank).reverse

/-- The words of a line with the blanks that follow them; blanks before the first word belong to
it. -/
def wordRuns (cs : List Char) : List (List Char) :=
  let lead := cs.takeWhile isBlank
  match _h : cs.dropWhile isBlank with
  | [] => []
  | c :: rest =>
    let word := rest.takeWhile (!isBlank ·)
    let tail := rest.dropWhile (!isBlank ·)
    (lead ++ c :: word ++ tail.takeWhile isBlank) :: wordRuns (tail.dropWhile isBlank)
termination_by cs.length
decreasing_by
  have h1 := (List.dropWhile_suffix isBlank (l := cs)).length_le
  have h2 := (List.dropWhile_suffix (!isBlank ·) (l := rest)).length_le
  have h3 := (List.dropWhile_suffix isBlank (l := rest.dropWhile (!isBlank ·))).length_le
  simp only [_h, List.length_cons] at h1
  omega

/-- A text in pieces of `w` columns. The piece that is being filled is `held`, the latest character
first, and takes `used` columns. -/
def chop (w used : Nat) (held : List Char) : List Char → List (List Char)
  | [] => [held.reverse]
  | c :: cs =>
    if w < used + charWidth c then held.reverse :: chop w (charWidth c) [c] cs
    else chop w (used + charWidth c) (c :: held) cs

/-- A line that is being broken: the lines before it, itself, and the columns that it takes. -/
structure Breaking where
  done : List (List Char) := []
  line : List Char := []
  used : Nat := 0

/-- The lines so far. -/
def Breaking.lines (b : Breaking) : List (List Char) :=
  if b.line.isEmpty then b.done else b.done ++ [b.line]

/-- Adds a word, on a new line if it does not fit. -/
def Breaking.add (o : Overflow) (w : Nat) (b : Breaking) (word : List Char) : Breaking :=
  let need := charsWidth (trimRight word)
  if b.used + need ≤ w then { b with line := b.line ++ word, used := b.used + charsWidth word }
  else if w < need ∧ o = .fold then
    let parts := chop w 0 [] word
    let last := parts.getLastD []
    { done := b.lines ++ parts.dropLast, line := last, used := charsWidth last }
  else { done := b.lines, line := word, used := charsWidth word }

/-- A line in pieces of at most `w` columns, blanks at the end not counted. -/
def breakLine (o : Overflow) (w : Nat) (cs : List Char) : List (List Char) :=
  match wordRuns cs with
  | [] => [cs]
  | words => (words.foldl (Breaking.add o w) {}).lines

/-- A line without those blanks at its end that are beyond `w` characters. -/
def dropEnd (w : Nat) (cs : List Char) : List Char :=
  let blanks := (cs.reverse.takeWhile isBlank).length
  cs.take (cs.length - min blanks (cs.length - w))

/-- Where a line stands in its place. -/
inductive Alignment where
  /-- At the left, with nothing after it. -/
  | open
  | left
  | center
  | right
  deriving DecidableEq, Repr

/-- A line in its place of `w` columns. -/
def aligned (a : Alignment) (o : Overflow) (w : Nat) (cs : List Char) : List Char :=
  match a with
  | .open => truncated o w cs
  | .left => padRight w (truncated o w cs)
  | .center => centered w ' ' (truncated o w (trimRight cs))
  | .right => padLeft w (truncated o w (trimRight cs))

/-- The lines of a text in a place of `w` columns. -/
def layout (a : Alignment) (o : Overflow) (w : Nat) (s : String) : List String :=
  (splitAtChar '\n' (printable s)).flatMap fun l =>
    (breakLine o w (expandTabs l)).map fun l => .ofList (aligned a o w (dropEnd w l))

/-- The lines of a printed text. -/
def printed (s : String) : List String := layout .open .fold consoleWidth s

/-- The lines of printed markup. -/
def printedMarkup (s : String) : Except MarkupFault (List String) := printed <$> Markup.render s

/-- What appears when texts are printed one after the other. -/
def output (ls : List String) : String := String.join (ls.map (· ++ "\n"))

/-! ### Tables -/

/-- A column: its heading, and the side on which its cells stand. -/
structure Column where
  heading : String
  right : Bool := false

/-- The columns that a text takes on its own, tabs not counted. -/
def naturalWidth (s : String) : Nat :=
  ((splitLines (printable s)).map charsWidth).foldl max 0

/-- The columns that several widths take together. -/
def total (ws : List Nat) : Nat := ws.foldl (· + ·) 0

/-- Widths made smaller by `excess` in all, each of those chosen by an equal share and by at most
`most`. Of a share that is no whole number the nearest is taken. -/
def shrink (chosen : Nat → Bool) (most excess : Nat) : List Nat → List Nat
  | [] => []
  | w :: ws =>
    if chosen w then
      let share := min most (Double.roundQuotient excess (1 + (ws.filter chosen).length))
      (w - share) :: shrink chosen most (excess - share) ws
    else w :: shrink chosen most excess ws

/-- Widths of columns that take at most `limit` together. The widest are made smaller until they are
as wide as the next. -/
def collapse (limit : Nat) (ws : List Nat) : Nat → List Nat
  | 0 => ws
  | fuel + 1 =>
    let excess := total ws - limit
    if excess = 0 then ws
    else
      let top := ws.foldl max 0
      let next := (ws.filter (· != top)).foldl max 0
      collapse limit (shrink (· == top) (min excess (top - next)) excess ws) fuel

/-- The widths of columns of cells, blanks at both sides included. -/
def columnWidths (columns : List (List String)) : List Nat :=
  let ws := columns.map fun cells => (cells.map naturalWidth).foldl max 0 + 2
  collapse (consoleWidth - columns.length - 1) ws (total ws)

/-- A line between rows: its two ends, what crosses the columns' borders, and the line. -/
def rule (left cross right line : String) (ws : List Nat) : String :=
  left ++ joinWith cross (ws.map fun w => String.join (List.replicate w line)) ++ right

/-- The printed lines of a row, as many as its highest cell has. -/
def row (bar : String) (columns : List Column) (ws : List Nat) (cells : List String) :
    List String :=
  let parts := (columns.zip (ws.zip cells)).map fun c =>
    (c.2.1 - 2, layout (if c.1.right then .right else .left) .ellipsis (c.2.1 - 2) c.2.2)
  let height := (parts.map (·.2.length)).foldl max 1
  (List.range height).map fun i =>
    bar ++ joinWith bar (parts.map fun p =>
      " " ++ p.2[i]?.getD (.ofList (repeated p.1 ' ')) ++ " ") ++ bar

/-- A table with a title over it. The cells are markup, which is read column by column and shown row
by row. -/
def table (title : String) (columns : List Column) (rows : List (List String)) :
    Except MarkupFault (List String) := do
  let cells ← (List.range columns.length).mapM fun i => rows.mapM fun r =>
    Markup.read (r[i]?.getD "")
  let rows ← (List.range rows.length).mapM fun j => cells.mapM fun column =>
    (column[j]?.getD {}).shown
  let headings := columns.map (·.heading)
  let ws := columnWidths ((columns.zip cells).map fun c => c.1.heading :: c.2.map (·.text))
  return layout .center .fold (total ws + ws.length + 1) title ++
    [rule "┏" "┳" "┓" "━" ws] ++ row "┃" columns ws headings ++
    [rule "┡" "╇" "┩" "━" ws] ++ rows.flatMap (row "│" columns ws) ++ [rule "└" "┴" "┘" "─" ws]

/-! ### Boxes -/

/-- A box over the whole width with pairs of texts, one at each side. The title stands on one
line. -/
def box (title : String) (pairs : List (String × String)) : List String :=
  let inner := consoleWidth - 2
  let title := expandTabs ((printable title).map fun c => if c = '\n' then ' ' else c)
  let place := inner - 2
  let title := centered place '─' (truncated .fold place (' ' :: title ++ [' ']))
  let line (p : String × String) : String :=
    "│ " ++ p.1 ++ .ofList (padLeft (inner - 2 - width p.1) p.2.toList) ++ " │"
  ["╭─" ++ .ofList (dropEnd place title) ++ "─╮"] ++ pairs.map line ++
    ["╰" ++ .ofList (repeated inner '─') ++ "╯"]

end SiteConf.Console
