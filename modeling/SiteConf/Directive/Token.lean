import SiteConf.Text.Blank

/-!
# Tokens

Configuration text as a list of words, punctuation and comments, each with the line on which it
starts. Every text has tokens: there are no lexical errors.

A word is bare, and then ends before white space, `;` or a brace, or it stands in quotes. A quote
with a backslash before it does not close a quoted word, and a quoted word that is never closed
takes the rest of the text.

Main statements: a bare word and a quoted one leave a rest that is no longer than the text they
are cut from, and `splitQuoted` only cuts: value, quote and rest are the text (`splitQuoted_cover`).
The tokens of a text are read one after the other (`scan_blank` to `scan_bare`), which proofs
follow by `scan_induction`.
-/

namespace SiteConf
open Text

inductive Lexeme where
  | word (text : String)
  | blockOpen
  | blockClose
  | semicolon
  | comment (text : String)
  deriving DecidableEq, Repr

structure Token where
  /-- The number of the line on which the token starts, from 1 in a text. -/
  line : Int
  lexeme : Lexeme
  deriving DecidableEq, Repr

namespace Token

def isQuote (c : Char) : Bool := c == '"' || c == '\''

/-- The characters that are a token of their own. -/
def punctuation? (c : Char) : Option Lexeme :=
  if c = '\x7b' then some .blockOpen
  else if c = '\x7d' then some .blockClose
  else if c = ';' then some .semicolon
  else none

/-- The characters that carry a bare word on. -/
def isWordChar (c : Char) : Bool := !isBlank c && (punctuation? c).isNone

/-- The value of a quoted word and what follows its closing quote. `before` is the character
before the text, at first the opening quote. -/
def splitQuoted (quote before : Char) : List Char → List Char × List Char
  | [] => ([], [])
  | c :: cs =>
    if c = quote ∧ before ≠ '\\' then ([], cs)
    else
      let (value, rest) := splitQuoted quote c cs
      (c :: value, rest)

theorem length_splitQuoted_le (quote before : Char) (cs : List Char) :
    (splitQuoted quote before cs).2.length ≤ cs.length := by
  induction cs generalizing before with
  | nil => simp [splitQuoted]
  | cons c cs ih =>
    rw [splitQuoted]
    split
    · simp
    · have := ih c; simp; omega

/-- Value, closing quote and rest make up the text; without a closing quote the value is all. -/
theorem splitQuoted_cover (quote before : Char) (cs : List Char) :
    cs = (splitQuoted quote before cs).1 ++ quote :: (splitQuoted quote before cs).2 ∨
      splitQuoted quote before cs = (cs, []) := by
  induction cs generalizing before with
  | nil => exact .inr rfl
  | cons c cs ih =>
    rw [splitQuoted]
    split
    · next h => exact .inl (by simp [h.1])
    · rcases ih c with h | h
      · exact .inl (by simpa using h)
      · exact .inr (by simp [h])

/-- The line feeds in a text. -/
def lineFeeds (cs : List Char) : Nat := cs.count '\n'

theorem lineFeeds_singleton {c : Char} (hc : c ≠ '\n') : lineFeeds [c] = 0 :=
  List.count_eq_zero.2 (by simpa using hc.symm)

/-- The tokens of a text whose first line has number `line`. -/
def scan (line : Int) (cs : List Char) : List Token :=
  match cs with
  | [] => []
  | c :: cs =>
    if c = '\n' then scan (line + 1) cs
    else if isBlank c then scan line cs
    else if c = '#' then
      ⟨line, .comment (.ofList (trimChars (cs.takeWhile (· != '\n'))))⟩ ::
        scan line (cs.dropWhile (· != '\n'))
    else match punctuation? c with
      | some lexeme => ⟨line, lexeme⟩ :: scan line cs
      | none =>
        if isQuote c then
          ⟨line, .word (.ofList (splitQuoted c c cs).1)⟩ ::
            scan (line + lineFeeds (splitQuoted c c cs).1) (splitQuoted c c cs).2
        else
          ⟨line, .word (.ofList (c :: cs.takeWhile isWordChar))⟩ ::
            scan line (cs.dropWhile isWordChar)
termination_by cs.length
decreasing_by
  · simp
  · simp
  · have := (List.dropWhile_suffix (· != '\n') (l := cs)).length_le
    simp; omega
  · simp
  · have := length_splitQuoted_le c c cs
    simp; omega
  · have := (List.dropWhile_suffix isWordChar (l := cs)).length_le
    simp; omega

/-! ### One token after the other -/

variable (line : Int)

@[simp] theorem scan_nil : scan line [] = [] := by rw [scan]

theorem scan_blank {c : Char} (hc : isBlank c = true) (cs : List Char) :
    scan line (c :: cs) = scan (line + lineFeeds [c]) cs := by
  rw [scan]
  by_cases hn : c = '\n'
  · rw [if_pos hn, hn]; rfl
  · rw [if_neg hn, if_pos hc, lineFeeds_singleton hn, Int.natCast_zero, Int.add_zero]

theorem scan_comment (cs : List Char) :
    scan line ('#' :: cs) = ⟨line, .comment (.ofList (trimChars (cs.takeWhile (· != '\n'))))⟩ ::
      scan line (cs.dropWhile (· != '\n')) := by
  rw [scan, if_neg (by decide), if_neg (by decide), if_pos rfl]

theorem scan_punctuation {c : Char} {lexeme : Lexeme} (hc : punctuation? c = some lexeme) (cs : List Char) :
    scan line (c :: cs) = ⟨line, lexeme⟩ :: scan line cs := by
  have hmem : c = '\x7b' ∨ c = '\x7d' ∨ c = ';' := by
    unfold punctuation? at hc
    split at hc
    · next h => exact .inl h
    · split at hc
      · next h => exact .inr (.inl h)
      · split at hc
        · next h => exact .inr (.inr h)
        · simp at hc
  have h : c ≠ '\n' ∧ isBlank c = false ∧ c ≠ '#' := by rcases hmem with rfl | rfl | rfl <;> decide
  rw [scan, if_neg h.1, if_neg (by simp [h.2.1]), if_neg h.2.2, hc]

theorem scan_quoted {q : Char} (hq : isQuote q = true) (cs : List Char) :
    scan line (q :: cs) = ⟨line, .word (.ofList (splitQuoted q q cs).1)⟩ ::
      scan (line + lineFeeds (splitQuoted q q cs).1) (splitQuoted q q cs).2 := by
  have h : q ≠ '\n' ∧ isBlank q = false ∧ q ≠ '#' ∧ punctuation? q = none := by
    rcases show q = '"' ∨ q = '\'' by simpa [isQuote] using hq with rfl | rfl <;> decide
  rw [scan, if_neg h.1, if_neg (by simp [h.2.1]), if_neg h.2.2.1, h.2.2.2]
  exact if_pos hq

theorem scan_bare {c : Char} (hc : isWordChar c = true) (hh : c ≠ '#') (hq : isQuote c = false)
    (cs : List Char) :
    scan line (c :: cs) = ⟨line, .word (.ofList (c :: cs.takeWhile isWordChar))⟩ ::
      scan line (cs.dropWhile isWordChar) := by
  obtain ⟨hb, hp⟩ : isBlank c = false ∧ punctuation? c = none := by simpa [isWordChar] using hc
  have hn : c ≠ '\n' := by rintro rfl; simp [isBlank] at hb
  rw [scan, if_neg hn, if_neg (by simp [hb]), if_neg hh, hp]
  exact if_neg (by simp [hq])

/-- What holds of a text that goes on after its first white space or its first token holds of the
text. -/
@[elab_as_elim]
theorem scan_induction {P : Int → List Char → Prop} (nil : ∀ line, P line [])
    (blank : ∀ line c cs, isBlank c = true → P (line + lineFeeds [c]) cs → P line (c :: cs))
    (comment : ∀ line cs, P line (cs.dropWhile (· != '\n')) → P line ('#' :: cs))
    (punctuation : ∀ line c lexeme cs, punctuation? c = some lexeme → P line cs → P line (c :: cs))
    (quoted : ∀ line q cs, isQuote q = true →
      P (line + lineFeeds (splitQuoted q q cs).1) (splitQuoted q q cs).2 → P line (q :: cs))
    (bare : ∀ line c cs, isWordChar c = true → c ≠ '#' → isQuote c = false →
      P line (cs.dropWhile isWordChar) → P line (c :: cs)) (line : Int) (cs : List Char) : P line cs := by
  induction line, cs using scan.induct with
  | case1 line => exact nil line
  | case2 line cs ih => exact blank line '\n' cs rfl ih
  | case3 line c cs hn hb ih =>
    refine blank line c cs hb ?_
    rwa [lineFeeds_singleton hn, Int.natCast_zero, Int.add_zero]
  | case4 line cs _ _ ih => exact comment line cs ih
  | case5 line c cs _ _ _ lexeme hp ih => exact punctuation line c lexeme cs hp ih
  | case6 line c cs _ _ _ _ hq ih => exact quoted line c cs hq ih
  | case7 line c cs _ hb hc hp hq ih =>
    exact bare line c cs (by simp [isWordChar, hb, hp]) hc (by simpa using hq) ih

end Token

/-- The tokens of a text. -/
def tokenize (text : String) : List Token := Token.scan 1 text.toList

end SiteConf
