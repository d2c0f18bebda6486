import SiteConf.Text.Alphanumeric
import SiteConf.Text.Printable
import SiteConf.Text.Width

/-!
# Tokens of an expression

Numbers, texts in quotes, names and signs. Blanks stand between them, `#` starts a comment, and the
end of a line counts outside of brackets only. A character or a number that fits nowhere is a fault
wherever it stands; an end that comes too early is one only for a reader who gets there, so it is a
token.
-/

namespace SiteConf.Action
open Text

/-- Why a text is no expression. -/
inductive SyntaxFault where
  /-- A token at which nothing can start. -/
  | unexpected
  /-- A token that cannot follow what has started. -/
  | broken
  | unexpectedIndent
  | badContinuation
  | badCharacter (c : Char)
  | badNumber (kind : String)
  | badDigit (kind : String) (c : Char)
  | leadingZeros
  /-- A text in quotes without an end, noticed in a line. -/
  | openText (triple : Bool) (line : Nat)
  | unclosed (bracket : Char)
  | unmatched (bracket : Char)
  /-- A closing bracket of another kind than the one it closes, and the line of that one if it is
  another line. -/
  | mismatched (closing opening : Char) (line : Option Nat)
  | missingComma
  | missingElse
  | missingColon
  | missingValue
  | starredValue
  | starredGroup (double : Bool)
  | badStar
  | mixedTexts
  | nonAsciiBytes
  /-- An equals sign after a name. -/
  | assignment
  /-- An equals sign after something else. -/
  | assignmentTo (what : String)
  | namedAssignmentTo (what : String)
  | keywordAssignment
  | keywordAssignmentTo (what : String)
  | positionalAfterKeyword (unpacking : Bool)
  | unpackingAfterUnpacking
  /-- Something after the name of a function that needs parentheses. -/
  | missingCall (name : String)
  deriving DecidableEq, Repr

def SyntaxFault.message : SyntaxFault → String
  | unexpected | broken => "invalid syntax"
  | unexpectedIndent => "unexpected indent"
  | badContinuation => "unexpected character after line continuation character"
  | badCharacter c =>
    let code := (Nat.toDigits 16 c.toNat).map Char.toUpper
    let code := "U+" ++ String.ofList (List.replicate (4 - code.length) '0' ++ code)
    if isPrintable c then "invalid character '" ++ c.toString ++ "' (" ++ code ++ ")"
    else "invalid non-printable character " ++ code
  | badNumber kind => "invalid " ++ kind ++ " literal"
  | badDigit kind c => "invalid digit '" ++ c.toString ++ "' in " ++ kind ++ " literal"
  | leadingZeros => "leading zeros in decimal integer literals are not permitted; " ++
      "use an 0o prefix for octal integers"
  | openText triple line => "unterminated " ++ (if triple then "triple-quoted " else "") ++
      "string literal (detected at line " ++ toString line ++ ")"
  | unclosed c => "'" ++ c.toString ++ "' was never closed"
  | unmatched c => "unmatched '" ++ c.toString ++ "'"
  | mismatched closing opening line => "closing parenthesis '" ++ closing.toString ++
      "' does not match opening parenthesis '" ++ opening.toString ++ "'" ++
      (match line with
        | some n => " on line " ++ toString n
        | none => "")
  | missingComma => "invalid syntax. Perhaps you forgot a comma?"
  | missingElse => "expected 'else' after 'if' expression"
  | missingColon => "':' expected after dictionary key"
  | missingValue => "expression expected after dictionary key and ':'"
  | starredValue => "cannot use a starred expression in a dictionary value"
  | starredGroup double => "cannot use " ++ (if double then "double " else "") ++
      "starred expression here"
  | badStar => "Invalid star expression"
  | mixedTexts => "cannot mix bytes and nonbytes literals"
  | nonAsciiBytes => "bytes can only contain ASCII literal characters"
  | assignment => "invalid syntax. Maybe you meant '==' or ':=' instead of '='?"
  | assignmentTo what =>
    "cannot assign to " ++ what ++ " here. Maybe you meant '==' instead of '='?"
  | namedAssignmentTo what => "cannot use assignment expressions with " ++ what
  | keywordAssignment => "expression cannot contain assignment, perhaps you meant \"==\"?"
  | keywordAssignmentTo what => "cannot assign to " ++ what
  | positionalAfterKeyword unpacking => "positional argument follows keyword argument" ++
      (if unpacking then " unpacking" else "")
  | unpackingAfterUnpacking =>
    "iterable argument unpacking follows keyword argument unpacking"
  | missingCall name =>
    "Missing parentheses in call to '" ++ name ++ "'. Did you mean " ++ name ++ "(...)?"

/-- What a text in quotes holds. -/
inductive TextKind where
  | characters
  | bytes (ascii : Bool)
  /-- Characters with expressions in between. -/
  | formatted
  deriving DecidableEq, Repr

inductive Token where
  | number (imaginary : Bool)
  | text (kind : TextKind)
  | name (s : String)
  | sign (s : String)
  | lineEnd
  /-- Blanks before the first token of a line. -/
  | indent
  /-- The end, or what makes it impossible to go on. -/
  | stop (fault : Option SyntaxFault)
  deriving DecidableEq, Repr

/-! ### Numbers -/

/-- A character that a name may consist of, or that makes a name a wrong one. -/
def isNameChar (c : Char) : Bool := c.isAlphanum || c == '_' || 128 ≤ c.toNat

/-- Beyond ASCII letters, digits and marks belong to names. -/
def isWrongInName (c : Char) : Bool :=
  128 ≤ c.toNat && !isAlphanumeric c && !(isPrintable c && charWidth c == 0)

/-- What follows a number: no letter of ASCII, unless it starts one of some words. -/
def numberEnd (kind : String) (cs : List Char) : Except SyntaxFault (List Char) :=
  if ["if", "in", "is"].any (·.toList.isPrefixOf cs) then .ok cs
  else if ["and", "else", "for", "not", "or"].contains (.ofList (cs.takeWhile isNameChar)) then
    .ok cs
  else if cs.head?.any fun c => isNameChar c && c.toNat < 128 then .error (.badNumber kind)
  else .ok cs

/-- What follows digits. A line may stand before each of them. -/
def digitsEnd : List Char → Except SyntaxFault (List Char)
  | [] => .ok []
  | ['_'] => .error (.badNumber "decimal")
  | '_' :: c :: cs => if c.isDigit then digitsEnd cs else .error (.badNumber "decimal")
  | c :: cs => if c.isDigit then digitsEnd cs else .ok (c :: cs)

/-- What follows the zeros at the start of a number. -/
def zerosEnd : List Char → Except SyntaxFault (List Char)
  | ['_'] => .error (.badNumber "decimal")
  | '_' :: c :: cs =>
    if c = '0' then zerosEnd cs
    else if c.isDigit then .ok (c :: cs)
    else .error (.badNumber "decimal")
  | '0' :: cs => zerosEnd cs
  | cs => .ok cs

/-- What follows digits of another base; `digit` and `line` say what stands before. -/
def radixEnd (kind : String) (isOk : Char → Bool) (digit line : Bool) :
    List Char → Except SyntaxFault (List Char)
  | [] => if digit then .ok [] else .error (.badNumber kind)
  | c :: cs =>
    if isOk c then radixEnd kind isOk true false cs
    else if c = '_' ∧ !line then radixEnd kind isOk false true cs
    else if c.isDigit then .error (.badDigit kind c)
    else if digit then numberEnd kind (c :: cs)
    else .error (.badNumber kind)

/-- The rest of a number after all its digits: whether it is imaginary, and what follows it. -/
def suffixEnd : List Char → Except SyntaxFault (Bool × List Char)
  | c :: cs =>
    if c = 'j' ∨ c = 'J' then (true, ·) <$> numberEnd "imaginary" cs
    else (false, ·) <$> numberEnd "decimal" (c :: cs)
  | [] => .ok (false, [])

/-- The rest of a number from its exponent on. -/
def exponentEnd (cs : List Char) : Except SyntaxFault (Bool × List Char) :=
  match cs with
  | e :: rest =>
    if e = 'e' ∨ e = 'E' then
      let signed := rest.head?.any fun c => c == '+' || c == '-'
      let digits := if signed then rest.drop 1 else rest
      if digits.head?.any Char.isDigit then do suffixEnd (← digitsEnd digits)
      else if signed then .error (.badNumber "decimal")
      else (false, ·) <$> numberEnd "decimal" cs
    else suffixEnd cs
  | [] => .ok (false, [])

/-- The rest of a number after the point. -/
def fractionEnd (cs : List Char) : Except SyntaxFault (Bool × List Char) := do
  exponentEnd (← if cs.head?.any Char.isDigit then digitsEnd cs else .ok cs)

/-- The rest of a number after its first digits. -/
def decimalEnd : List Char → Except SyntaxFault (Bool × List Char)
  | '.' :: cs => fractionEnd cs
  | cs => exponentEnd cs

def isHexDigit (c : Char) : Bool :=
  c.isDigit || ('a' ≤ c && c ≤ 'f') || ('A' ≤ c && c ≤ 'F')

/-- Whether the number at the start is imaginary, and what follows it. -/
def number (cs : List Char) : Except SyntaxFault (Bool × List Char) :=
  match cs with
  | '0' :: c :: rest =>
    if c = 'x' ∨ c = 'X' then
      (false, ·) <$> radixEnd "hexadecimal" isHexDigit false false rest
    else if c = 'o' ∨ c = 'O' then
      (false, ·) <$> radixEnd "octal" (fun d => '0' ≤ d && d ≤ '7') false false rest
    else if c = 'b' ∨ c = 'B' then
      (false, ·) <$> radixEnd "binary" (fun d => d == '0' || d == '1') false false rest
    else do
      let rest ← zerosEnd (c :: rest)
      let nonzero := rest.head?.any Char.isDigit
      let rest ← digitsEnd rest
      if nonzero && !rest.head?.any (['.', 'e', 'E', 'j', 'J'].contains ·) then
        .error .leadingZeros
      else decimalEnd rest
  | cs => do decimalEnd (← digitsEnd cs)

/-! ### Texts in quotes -/

/-- The rest after a text in quotes with the line in which it starts, or the line in which its end
is missed. -/
def textEnd (quote : Char) (triple : Bool) (line : Nat) : List Char → Except Nat (List Char × Nat)
  | [] => .error line
  | '\\' :: c :: cs => textEnd quote triple (if c = '\n' then line + 1 else line) cs
  | c :: cs =>
    if c = quote then
      if !triple then .ok (cs, line)
      else if [quote, quote].isPrefixOf cs then .ok (cs.drop 2, line)
      else textEnd quote triple line cs
    else if c = '\n' then
      if triple then textEnd quote triple (line + 1) cs else .error line
    else textEnd quote triple line cs

/-- The text after an opening quote: whether it is ASCII, what follows it, and in which line. -/
def quotedText (quote : Char) (line : Nat) (cs : List Char) :
    Except SyntaxFault (Bool × List Char × Nat) :=
  let triple := [quote, quote].isPrefixOf cs
  let body := if triple then cs.drop 2 else cs
  match textEnd quote triple line body with
  | .ok (rest, line) =>
    .ok ((body.take (body.length - rest.length)).all (·.toNat < 128), rest, line)
  | .error line => .error (.openText triple line)

/-- The letters before an opening quote, in small letters, the quote, and what follows it. -/
def textStart? (cs : List Char) : Option (List Char × Char × List Char) :=
  let letters := cs.takeWhile Char.isAlpha
  let kind := letters.map Char.toLower
  let kinds := ["", "b", "r", "u", "f", "br", "rb", "fr", "rf"].map String.toList
  match cs.drop letters.length with
  | c :: rest =>
    if (c = '"' ∨ c = '\'') ∧ kinds.contains kind then some (kind, c, rest) else none
  | [] => none

/-! ### Tokens -/

/-- The position of a reader: the line, the open brackets with their lines, the latest first, and
whether a line starts. -/
structure Place where
  line : Nat := 1
  opened : List (Char × Nat) := []
  lineStart : Bool := true

def isGap (c : Char) : Bool := c == ' ' || c == '\t' || c == '\x0c'

/-- The bracket that closes what a bracket opens. -/
def closing (c : Char) : Char := if c = '(' then ')' else if c = '[' then ']' else '\x7d'

/-- The signs of more than one character, a longer one before its start. -/
def longSigns : List String :=
  ["...", "**=", "//=", "<<=", ">>=", "==", "!=", "<=", ">=", "<>", "<<", ">>", "**", "//", ":=",
    "->", "+=", "-=", "*=", "/=", "%=", "@=", "&=", "|=", "^="]

/-- The place after a bracket. -/
def Place.bracket (p : Place) (c : Char) : Except SyntaxFault Place :=
  if ['(', '[', '\x7b'].contains c then .ok { p with opened := (c, p.line) :: p.opened }
  else if [')', ']', '\x7d'].contains c then
    match p.opened with
    | [] => .error (.unmatched c)
    | (o, line) :: opened =>
      if closing o = c then .ok { p with opened }
      else .error (.mismatched c o (if line = p.line then none else some line))
  else .ok p

/-- The tokens of a text, each from at least one character or the start of a line. -/
def tokens (p : Place) : Nat → List Char → Except SyntaxFault (List Token)
  | 0, _ => .ok [.stop none]
  | _, [] => .ok [.stop (p.opened.head?.map (.unclosed ·.1))]
  | n + 1, c :: rest =>
    if isGap c then
      let rest := rest.dropWhile isGap
      if p.lineStart ∧ !rest.head?.any (fun c => c == '#' || c == '\n') then
        (.indent :: ·) <$> tokens { p with lineStart := false } n rest
      else tokens p n rest
    else if c = '#' then tokens p n (rest.dropWhile (· != '\n'))
    else if c = '\n' then
      let q := { p with line := p.line + 1 }
      if p.lineStart ∨ !p.opened.isEmpty then tokens q n rest
      else (.lineEnd :: ·) <$> tokens { q with lineStart := true } n rest
    else
      let p := { p with lineStart := false }
      match textStart? (c :: rest) with
      | some (kind, quote, rest) => do
        let (ascii, rest, line) ← quotedText quote p.line rest
        let kind := if kind.contains 'b' then .bytes ascii
          else if kind.contains 'f' then .formatted else .characters
        return .text kind :: (← tokens { p with line } n rest)
      | none =>
        if c.isDigit ∨ (c = '.' ∧ rest.head?.any Char.isDigit) then do
          let (imaginary, rest) ← number (c :: rest)
          return .number imaginary :: (← tokens p n rest)
        else if isNameChar c then
          let name := (c :: rest).takeWhile isNameChar
          match name.find? isWrongInName with
          | some c => .error (.badCharacter c)
          | none => (.name (.ofList name) :: ·) <$> tokens p n (rest.drop (name.length - 1))
        else if c = '\\' then
          match rest with
          | '\n' :: rest => tokens { p with line := p.line + 1 } n rest
          | _ => .ok [.stop (some .badContinuation)]
        else if !isPrintable c then .error (.badCharacter c)
        else
          match longSigns.find? (·.toList.isPrefixOf (c :: rest)) with
          | some s => (.sign s :: ·) <$> tokens p n (rest.drop (s.length - 1))
          | none => do
            let p ← p.bracket c
            return .sign c.toString :: (← tokens p n rest)

/-- The tokens of a text with line feeds at the ends of its lines. -/
def tokensOf (cs : List Char) : Except SyntaxFault (List Token) := tokens {} (cs.length + 1) cs

end SiteConf.Action
