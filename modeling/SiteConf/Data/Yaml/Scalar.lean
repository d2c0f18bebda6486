import SiteConf.Data.Numeral

/-!
# Texts of YAML

Words without quotes and texts in quotes, read from the start of a list of characters. A text may
go on over several lines: blanks around a line break do not count, one break stands for a blank and
of several the first is left out. Line ends are expected to be line feeds or one of the separators
U+2028 and U+2029, which stand for themselves.
-/

namespace SiteConf.Data.Yaml

def isBreak (c : Char) : Bool := c == '\n' || c == '\u2028' || c == '\u2029'

def isGap (c : Char) : Bool := c == ' ' || c == '\t' || isBreak c

/-- A blank, a break or the end. -/
def atGap (cs : List Char) : Bool := (cs.head?.map isGap).getD true

/-- The separator of documents at the start of a line. -/
def atSeparator (cs : List Char) : Bool :=
  ["---".toList, "...".toList].contains (cs.take 3) && atGap (cs.drop 3)

/-- The text of a line break and of the breaks after it; none for a first one that is escaped. -/
def folded (first : Option Char) (more : List Char) : List Char :=
  match first with
  | some '\n' => if more.isEmpty then [' '] else more
  | some c => c :: more
  | none => more

/-! ### Words -/

def isFlowMark (c : Char) : Bool := [',', '[', ']', '\x7b', '\x7d'].contains c

/-- The place after a word: it ends at a blank, at a colon that has one after it, and inside
brackets also at what has a meaning there. -/
def endsWord (inFlow : Bool) : List Char → Bool
  | [] => true
  | c :: cs =>
    isGap c || (c == ':' && (atGap cs || (inFlow && (cs.head?.map isFlowMark).getD false))) ||
      (inFlow && (isFlowMark c || c == '?'))

/-- The word at the start, and the rest. -/
def splitWord (inFlow : Bool) : List Char → List Char × List Char
  | [] => ([], [])
  | c :: cs =>
    if endsWord inFlow (c :: cs) then ([], c :: cs)
    else
      let (w, rest) := splitWord inFlow cs
      (c :: w, rest)

/-- What stands between two words of a text. -/
structure Gap where
  /-- What it adds to the text. -/
  text : List Char
  /-- It has a line break. -/
  broken : Bool
  /-- The column after a break. -/
  column : Nat
  rest : List Char

/-- The gap after the line break `first` and the breaks `more`, the latest first. -/
def gapLines (first : Char) (more : List Char) (column : Nat) : List Char → Gap
  | [] => ⟨folded (some first) more.reverse, true, column, []⟩
  | c :: cs =>
    if c = ' ' then gapLines first more (column + 1) cs
    else if isBreak c then
      if atSeparator cs then ⟨[], true, 0, cs⟩ else gapLines first (c :: more) 0 cs
    else ⟨folded (some first) more.reverse, true, column, c :: cs⟩

/-- The gap at the start. -/
def gap (cs : List Char) : Gap :=
  let blanks := cs.takeWhile (· == ' ')
  match cs.dropWhile (· == ' ') with
  | [] => ⟨blanks, false, 0, []⟩
  | c :: rest =>
    if isBreak c then if atSeparator rest then ⟨[], true, 0, rest⟩ else gapLines c [] 0 rest
    else ⟨blanks, false, 0, c :: rest⟩

/-- A text of words and the gaps between them: the text, whether a line broke in it or after it, and
the rest. Outside brackets a line that starts before column `indent` ends it. -/
def words (inFlow : Bool) (indent : Int) (done : List Char) (broken : Bool) (cs : List Char) :
    Nat → String × Bool × List Char
  | 0 => (.ofList done, broken, cs)
  | fuel + 1 =>
    let (w, rest) := splitWord inFlow cs
    let g := gap rest
    if cs.head? = some '#' || w.isEmpty then (.ofList done, broken, cs)
    else if g.text.isEmpty || (!inFlow && g.broken && g.column < indent) ||
        g.rest.head? = some '#' || (splitWord inFlow g.rest).1.isEmpty then
      (.ofList (done ++ w), broken || g.broken, g.rest)
    else words inFlow indent (done ++ w ++ g.text) (broken || g.broken) g.rest fuel

/-- The text of words at the start. -/
def plain (inFlow : Bool) (indent : Int) (cs : List Char) : String × Bool × List Char :=
  words inFlow indent [] false cs (cs.length + 1)

/-! ### Quotes -/

/-- Blanks and line breaks inside quotes that are not yet part of the text, the latest first. -/
inductive Pending where
  | blanks (cs : List Char)
  | breaks (first : Option Char) (more : List Char)

def Pending.text : Pending → List Char
  | blanks cs => cs.reverse
  | breaks first more => folded first more.reverse

/-- A blank or break more. -/
def Pending.add (c : Char) : Pending → Pending
  | blanks cs => if isBreak c then breaks (some c) [] else blanks (c :: cs)
  | breaks first more => breaks first (if isBreak c then c :: more else more)

/-- The character after a backslash, other than the letters of numbers. -/
def escaped? : Char → Option Char
  | '0' => some '\x00'
  | 'a' => some '\x07'
  | 'b' => some '\x08'
  | 't' => some '\t'
  | '\t' => some '\t'
  | 'n' => some '\n'
  | 'v' => some '\x0b'
  | 'f' => some '\x0c'
  | 'r' => some '\r'
  | 'e' => some '\x1b'
  | ' ' => some ' '
  | '"' => some '"'
  | '\\' => some '\\'
  | '/' => some '/'
  | 'N' => some '\u0085'
  | '_' => some '\u00a0'
  | 'L' => some '\u2028'
  | 'P' => some '\u2029'
  | _ => none

/-- How many digits the number of a character has after the letter. -/
def escapeDigits : Char → Nat
  | 'x' => 2
  | 'u' => 4
  | 'U' => 8
  | _ => 0

/-- The code points and units of a text with what is pending, the latest first. -/
def flushed (done : List Nat) (p : Pending) : List Nat := (p.text.map Char.toNat).reverse ++ done

/-- The text up to the closing quote after the code points and units `done`, the latest first, and
the rest; the first `skip` characters are left out. -/
def quoted? (quote : Char) (done : List Nat) (pending : Pending) (skip : Nat) :
    List Char → Option (String × List Char)
  | [] => none
  | c :: cs =>
    if skip ≠ 0 then quoted? quote done pending (skip - 1) cs
    else if isGap c then
      if isBreak c && atSeparator cs then none else quoted? quote done (pending.add c) 0 cs
    else
      let done := flushed done pending
      let none_ : Pending := .blanks []
      if c = quote then
        if quote = '\'' && cs.head? == some '\'' then quoted? quote (c.toNat :: done) none_ 1 cs
        else some (.ofList (joinUnits done.reverse), cs)
      else if c = '\\' && quote = '"' then
        match cs with
        | [] => none
        | e :: rest =>
          let n := escapeDigits e
          if n ≠ 0 then do
            let value ← hexNumber? (rest.take n)
            if (rest.take n).length = n then quoted? quote (value :: done) none_ (n + 1) cs
            else none
          else if isBreak e then
            if atSeparator rest then none else quoted? quote done (.breaks none []) 1 cs
          else do
            let e ← escaped? e
            quoted? quote (e.toNat :: done) none_ 1 cs
      else quoted? quote (c.toNat :: done) none_ 0 cs

end SiteConf.Data.Yaml
