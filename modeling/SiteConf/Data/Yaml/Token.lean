import SiteConf.Data.Yaml.Scalar

/-!
# Tokens of YAML

A text as tokens: its words and quoted texts, the marks of lists and maps in brackets, and the
starts and ends of lists and maps that indentation makes. Anchors, tags, directives and texts in
blocks are not read.

Whether a text is the key of a map is known only at the colon after it. Until then it is a
`Candidate`, and the token before it is put in when the colon comes, which must stand on the same
line and within 1024 characters.
-/

namespace SiteConf.Data.Yaml

inductive Token where
  | documentStart
  | documentEnd
  | listStart
  | mapStart
  | blockEnd
  | entry
  | flowListStart
  | flowListEnd
  | flowMapStart
  | flowMapEnd
  | comma
  | key
  | value
  | word (s : String)
  | quoted (s : String)
  deriving DecidableEq, Repr

/-- The start of a text that may be a key. -/
structure Candidate where
  /-- How many tokens come before it. -/
  place : Nat
  /-- It is a mistake if no colon follows. -/
  required : Bool
  index : Nat
  line : Nat
  column : Nat

/-- What is left to read, and what is known of the tokens so far. -/
structure Scan where
  rest : List Char
  index : Nat := 0
  line : Nat := 0
  column : Nat := 0
  tokens : Array Token := #[]
  /-- The columns of the open blocks, the innermost first; -1 outside of all. -/
  indents : List Int := []
  /-- The candidate of each level of brackets, the innermost first; the last is outside of all. -/
  candidates : List (Option Candidate) := [none]
  /-- A key may start here. -/
  keyAllowed : Bool := true

namespace Scan

def indent (s : Scan) : Int := s.indents.headD (-1)

def inFlow (s : Scan) : Bool := 1 < s.candidates.length

def push (s : Scan) (t : Token) : Scan := { s with tokens := s.tokens.push t }

/-- Goes on by `n` characters. A byte order mark takes no column. -/
def forward (s : Scan) : Nat → Scan
  | 0 => s
  | n + 1 => match s.rest with
    | [] => s
    | c :: rest =>
      forward
        (if isBreak c then { s with rest, index := s.index + 1, line := s.line + 1, column := 0 }
        else
          { s with rest, index := s.index + 1
                   column := if c = '\ufeff' then s.column else s.column + 1 }) n

/-- Goes on to `rest`, a later part of what is left. -/
def goTo (s : Scan) (rest : List Char) : Scan := s.forward (s.rest.length - rest.length)

/-- Skips blanks, comments and line breaks. -/
def skipGap (s : Scan) : Nat → Scan
  | 0 => s
  | fuel + 1 =>
    let s := s.goTo (s.rest.dropWhile (· == ' '))
    let s := if s.rest.head? = some '#' then s.goTo (s.rest.dropWhile (!isBreak ·)) else s
    match s.rest with
    | c :: _ =>
      if isBreak c then
        let s := s.forward 1
        skipGap (if s.inFlow then s else { s with keyAllowed := true }) fuel
      else s
    | [] => s

/-! ### Keys -/

/-- The candidate on this level of brackets. -/
def candidate (s : Scan) : Option Candidate := s.candidates.head?.join

def setCandidate (s : Scan) (c : Option Candidate) : Scan :=
  { s with candidates := c :: s.candidates.drop 1 }

/-- No candidate on this level any more. -/
def dropCandidate (s : Scan) : Option Scan :=
  if (s.candidate.map (·.required)).getD false then none else some (s.setCandidate none)

/-- A candidate that is too far away for a colon. -/
def isStale (s : Scan) (c : Candidate) : Bool := c.line != s.line || 1024 < s.index - c.index

/-- The candidates that a colon can still follow. -/
def dropStale (s : Scan) : Option Scan :=
  if s.candidates.any fun c => c.any fun c => s.isStale c && c.required then none
  else some { s with candidates := s.candidates.map fun c => c.filter (!s.isStale ·) }

/-- What comes next may be a key. -/
def offerKey (s : Scan) : Option Scan :=
  if s.keyAllowed then do
    let s ← s.dropCandidate
    pure (s.setCandidate (some
      { place := s.tokens.size, required := !s.inFlow && s.indent == s.column
        index := s.index, line := s.line, column := s.column }))
  else some s

/-! ### Blocks -/

/-- Closes the blocks that start after a column. -/
def closeBlocks (s : Scan) (column : Int) : Scan :=
  if s.inFlow then s
  else
    let open_ := s.indents.dropWhile (column < ·)
    { s with tokens := s.tokens ++ Array.replicate (s.indents.length - open_.length) .blockEnd
             indents := open_ }

/-- Opens a block at a column, with its token at a place among the others, if the blocks so far
start before it. -/
def openBlock (s : Scan) (column place : Nat) (t : Token) : Scan :=
  if !s.inFlow && s.indent < column then
    { s with tokens := s.tokens.extract 0 place ++ #[t] ++ s.tokens.extract place
             indents := (column : Int) :: s.indents }
  else s

/-! ### One token -/

/-- A mark of one character, after which a key may start or not. -/
def mark (s : Scan) (t : Token) (keyAllowed : Bool) : Scan :=
  { (s.push t).forward 1 with keyAllowed }

def documentMark (s : Scan) (t : Token) : Option Scan := do
  let s ← (s.closeBlocks (-1)).dropCandidate
  pure { (s.push t).forward 3 with keyAllowed := false }

def openBracket (s : Scan) (t : Token) : Option Scan := do
  let s ← s.offerKey
  pure ({ s with candidates := none :: s.candidates }.mark t true)

def closeBracket (s : Scan) (t : Token) : Option Scan := do
  if !s.inFlow then none
  let s ← s.dropCandidate
  pure ({ s with candidates := s.candidates.drop 1 }.mark t false)

def comma (s : Scan) : Option Scan := do
  let s ← s.dropCandidate
  pure (s.mark .comma true)

/-- The dash before an item. -/
def entry (s : Scan) : Option Scan := do
  if !s.inFlow && !s.keyAllowed then none
  let s ← (s.openBlock s.column s.tokens.size .listStart).dropCandidate
  pure (s.mark .entry true)

/-- The question mark before a key. -/
def longKey (s : Scan) : Option Scan := do
  if !s.inFlow && !s.keyAllowed then none
  let s ← (s.openBlock s.column s.tokens.size .mapStart).dropCandidate
  pure (s.mark .key (!s.inFlow))

/-- The colon before a value. -/
def value (s : Scan) : Option Scan :=
  match s.candidate with
  | some c =>
    let s := s.setCandidate none
    let (before, after) := (s.tokens.extract 0 c.place, s.tokens.extract c.place)
    let s := { s with tokens := before ++ #[Token.key] ++ after }
    some ((s.openBlock c.column c.place .mapStart).mark .value false)
  | none => do
    if !s.inFlow && !s.keyAllowed then none
    let s ← (s.openBlock s.column s.tokens.size .mapStart).dropCandidate
    pure (s.mark .value (!s.inFlow))

def quotedText (s : Scan) (quote : Char) : Option Scan := do
  let s ← s.offerKey
  let (content, rest) ← quoted? quote [] (.blanks []) 0 (s.rest.drop 1)
  pure { (s.push (.quoted content)).goTo rest with keyAllowed := false }

def plainText (s : Scan) : Option Scan := do
  let s ← s.offerKey
  let (content, broken, rest) := plain s.inFlow (s.indent + 1) s.rest
  pure { (s.push (.word content)).goTo rest with keyAllowed := broken }

/-- The characters with a meaning of their own at the start of a text. -/
def isIndicator (c : Char) : Bool :=
  ['-', '?', ':', ',', '[', ']', '\x7b', '\x7d', '#', '&', '*', '!', '|', '>', '\'', '"', '%', '@',
    '\x60'].contains c

/-- The next token, before which nothing stands. -/
def token (s : Scan) (c : Char) (next : List Char) : Option Scan :=
  if s.column = 0 && atSeparator s.rest then
    s.documentMark (if c = '-' then .documentStart else .documentEnd)
  else match c with
    | '[' => s.openBracket .flowListStart
    | '\x7b' => s.openBracket .flowMapStart
    | ']' => s.closeBracket .flowListEnd
    | '\x7d' => s.closeBracket .flowMapEnd
    | ',' => s.comma
    | '\'' | '"' => s.quotedText c
    | _ =>
      if c = '-' && atGap next then s.entry
      else if c = '?' && (s.inFlow || atGap next) then s.longKey
      else if c = ':' && (s.inFlow || atGap next) then s.value
      else if !(isGap c || isIndicator c) || (c = '-' || c = '?' || c = ':') && !atGap next then
        s.plainText
      else none

/-- All tokens. -/
def run (s : Scan) : Nat → Option (List Token)
  | 0 => none
  | fuel + 1 => do
    let s ← (s.skipGap (s.rest.length + 1)).dropStale
    let s := s.closeBlocks s.column
    match s.rest with
    | [] =>
      let s ← (s.closeBlocks (-1)).dropCandidate
      pure s.tokens.toList
    | c :: next => (← s.token c next).run fuel

end Scan

/-- The tokens of a text. -/
def tokens? (cs : List Char) : Option (List Token) :=
  let cs := if cs.head? = some '\ufeff' then cs.drop 1 else cs
  Scan.run { rest := cs } (cs.length + 1)

end SiteConf.Data.Yaml
