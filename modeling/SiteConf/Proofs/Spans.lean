import Mathlib
import SiteConf.Directive.Token

/-!
# Where the tokens of a text stand

Every text falls apart into the characters of its tokens and the white space between them.
`Spans lexeme span rest` says which characters `span` a token is read from when the text goes on
with `rest`. A `Piece` is a token with its span and the white space after it, and `Covers line ps`
says of each piece of `ps` that its token has that span and stands on the line the characters
before it lead to.

Main statements: a text that starts with no white space starts with the span of its first token
(`startsToken`), and the tokens of a text have spans that make up the text with the white space
between them, each on its line (`tokenize_spans`).
-/

namespace SiteConf
open Text Token

/-- Every `q` in the text has a backslash directly before it. -/
def Escaped (q : Char) (cs : List Char) : Prop :=
  ∀ pre post, cs = pre ++ q :: post → pre.getLast? = some '\\'

/-- The token `lexeme` is read from the characters `span` where the text goes on with `rest`. -/
inductive Spans : Lexeme → List Char → List Char → Prop
  | blockOpen (rest) : Spans .blockOpen ['\x7b'] rest
  | blockClose (rest) : Spans .blockClose ['\x7d'] rest
  | semicolon (rest) : Spans .semicolon [';'] rest
  | comment {cs rest} (line : '\n' ∉ cs) (stop : rest = [] ∨ rest.head? = some '\n') :
      Spans (.comment (.ofList (trimChars cs))) ('#' :: cs) rest
  | bare {c cs rest} (start : c ∉ ['#', ';', '\x7b', '\x7d', '"', '\''])
      (inside : ∀ x ∈ c :: cs, isBlank x = false ∧ x ∉ [';', '\x7b', '\x7d'])
      (stop : ∀ x ∈ rest.head?, isBlank x = true ∨ x ∈ [';', '\x7b', '\x7d']) :
      Spans (.word (.ofList (c :: cs))) (c :: cs) rest
  | quoted {q cs} (rest) (quote : q ∈ ['"', '\'']) (escaped : Escaped q cs)
      (close : cs.getLast? ≠ some '\\') : Spans (.word (.ofList cs)) (q :: cs ++ [q]) rest
  | unterminated {q cs} (quote : q ∈ ['"', '\'']) (escaped : Escaped q cs) :
      Spans (.word (.ofList cs)) (q :: cs) []

/-! ### One token -/

theorem isQuote_iff {q : Char} : isQuote q = true ↔ q ∈ ['"', '\''] := by simp [isQuote]

theorem isWordChar_iff {c : Char} :
    isWordChar c = true ↔ isBlank c = false ∧ c ∉ [';', '\x7b', '\x7d'] := by
  have h : punctuation? c = none ↔ c ∉ [';', '\x7b', '\x7d'] := by
    unfold punctuation?
    split_ifs <;> simp_all
  rw [isWordChar, Bool.and_eq_true, Bool.not_eq_true', Option.isNone_iff_eq_none, h]

theorem isWordChar_eq_false_iff {c : Char} :
    isWordChar c = false ↔ isBlank c = true ∨ c ∈ [';', '\x7b', '\x7d'] := by
  rw [← Bool.not_eq_true, isWordChar_iff, not_and_or, Bool.not_eq_false, not_not]

theorem ne_lineFeed_of_isQuote {q : Char} (hq : isQuote q = true) : q ≠ '\n' := by
  rintro rfl; exact absurd hq (by decide)

theorem ne_lineFeed_of_isWordChar {c : Char} (hc : isWordChar c = true) : c ≠ '\n' := by
  rintro rfl; exact absurd hc (by decide)

theorem ne_lineFeed_of_punctuation {c : Char} {lexeme : Lexeme} (hc : punctuation? c = some lexeme) :
    c ≠ '\n' := by
  rintro rfl; simp [punctuation?] at hc

/-- A quote in the value of a quoted word has a backslash before it; `before` stands before the
value. -/
theorem getLast?_of_splitQuoted_eq {q before : Char} {cs pre post : List Char}
    (h : (splitQuoted q before cs).1 = pre ++ q :: post) : (before :: pre).getLast? = some '\\' := by
  induction cs generalizing before pre with
  | nil => simp [splitQuoted] at h
  | cons c cs ih =>
    rw [splitQuoted] at h
    split at h
    · simp at h
    · next hc =>
      cases pre with
      | nil =>
        obtain ⟨rfl, -⟩ : c = q ∧ (splitQuoted q c cs).1 = post := by simpa using h
        have hb : before = '\\' := by simpa using hc
        simp [hb]
      | cons d pre =>
        obtain ⟨rfl, hpre⟩ : c = d ∧ (splitQuoted q c cs).1 = pre ++ q :: post := by simpa using h
        rw [List.getLast?_cons_cons]
        exact ih hpre

theorem escaped_splitQuoted {q : Char} (hq : isQuote q = true) (cs : List Char) :
    Escaped q (splitQuoted q q cs).1 := by
  intro pre post h
  have hlast := getLast?_of_splitQuoted_eq h
  cases pre with
  | nil =>
    obtain rfl : q = '\\' := by simpa using hlast
    exact absurd hq (by decide)
  | cons c pre => rwa [List.getLast?_cons_cons] at hlast

/-- A quoted word is closed by a quote that has no backslash before it, or it is the rest of the
text. -/
theorem splitQuoted_closes (q before : Char) (cs : List Char) :
    (cs = (splitQuoted q before cs).1 ++ q :: (splitQuoted q before cs).2 ∧
        (before :: (splitQuoted q before cs).1).getLast? ≠ some '\\') ∨
      splitQuoted q before cs = (cs, []) := by
  induction cs generalizing before with
  | nil => exact .inr rfl
  | cons c cs ih =>
    rw [splitQuoted]
    split
    · next h => exact .inl ⟨by simp [h.1], by simpa using h.2⟩
    · rcases ih c with h | h
      · exact .inl ⟨by simpa using h.1, by simpa [List.getLast?_cons_cons] using h.2⟩
      · exact .inr (by simp [h])

theorem lineFeeds_eq_zero {cs : List Char} (h : '\n' ∉ cs) : lineFeeds cs = 0 := List.count_eq_zero.2 h

theorem lineFeeds_append (cs ds : List Char) : lineFeeds (cs ++ ds) = lineFeeds cs + lineFeeds ds :=
  List.count_append

theorem lineFeeds_cons (c : Char) (cs : List Char) : lineFeeds (c :: cs) = lineFeeds [c] + lineFeeds cs :=
  lineFeeds_append [c] cs

/-- The text starts with the span of its first token, and the tokens after it are the ones of the
rest of the text. -/
def StartsToken (line : Int) (cs : List Char) : Prop :=
  ∃ lexeme span rest, cs = span ++ rest ∧ span ≠ [] ∧ Spans lexeme span rest ∧
    scan line cs = ⟨line, lexeme⟩ :: scan (line + lineFeeds span) rest

variable (line : Int)

theorem startsToken_comment (cs : List Char) : StartsToken line ('#' :: cs) := by
  have hline : '\n' ∉ cs.takeWhile (· != '\n') := fun h => by simpa using List.mem_takeWhile_imp h
  have hfeeds : lineFeeds ('#' :: cs.takeWhile (· != '\n')) = 0 := lineFeeds_eq_zero (by simpa using hline)
  refine ⟨_, '#' :: cs.takeWhile (· != '\n'), cs.dropWhile (· != '\n'), by simp, by simp,
    .comment hline ?_, ?_⟩
  · cases h : cs.dropWhile (· != '\n') with
    | nil => exact .inl rfl
    | cons d ds => exact .inr (by simpa using head_dropWhile _ h)
  · rw [scan_comment, hfeeds, Int.natCast_zero, add_zero]

theorem startsToken_punctuation {c : Char} {lexeme : Lexeme} (hc : punctuation? c = some lexeme)
    (cs : List Char) : StartsToken line (c :: cs) := by
  have hscan : scan line (c :: cs) = ⟨line, lexeme⟩ :: scan (line + lineFeeds [c]) cs := by
    rw [scan_punctuation line hc, lineFeeds_singleton (ne_lineFeed_of_punctuation hc), Int.natCast_zero,
      add_zero]
  unfold punctuation? at hc
  split_ifs at hc with h₁ h₂ h₃ <;> cases hc <;> subst c
  · exact ⟨_, ['\x7b'], cs, rfl, by simp, .blockOpen _, hscan⟩
  · exact ⟨_, ['\x7d'], cs, rfl, by simp, .blockClose _, hscan⟩
  · exact ⟨_, [';'], cs, rfl, by simp, .semicolon _, hscan⟩

theorem startsToken_quoted {q : Char} (hq : isQuote q = true) (cs : List Char) :
    StartsToken line (q :: cs) := by
  have hfeeds (vs : List Char) : lineFeeds (q :: vs) = lineFeeds vs :=
    List.count_cons_of_ne (ne_lineFeed_of_isQuote hq)
  rcases splitQuoted_closes q q cs with ⟨hcs, hlast⟩ | hcs
  · -- the closing quote is found
    refine ⟨_, q :: (splitQuoted q q cs).1 ++ [q], (splitQuoted q q cs).2, ?_, by simp,
      .quoted _ (isQuote_iff.1 hq) (escaped_splitQuoted hq cs) ?_, ?_⟩
    · rw [List.append_assoc, List.singleton_append, List.cons_append, ← hcs]
    · cases hv : (splitQuoted q q cs).1 with
      | nil => simp
      | cons d ds => rwa [hv, List.getLast?_cons_cons] at hlast
    · rw [scan_quoted line hq, List.cons_append, hfeeds, lineFeeds_append, hfeeds]; rfl
  · -- the text ends inside the quotes
    have hesc : Escaped q cs := by simpa [hcs] using escaped_splitQuoted hq cs
    refine ⟨_, q :: cs, [], by simp, by simp, .unterminated (isQuote_iff.1 hq) hesc, ?_⟩
    rw [scan_quoted line hq, hcs, hfeeds]

theorem startsToken_bare {c : Char} (hc : isWordChar c = true) (hh : c ≠ '#') (hq : isQuote c = false)
    (cs : List Char) : StartsToken line (c :: cs) := by
  have hinside : ∀ x ∈ c :: cs.takeWhile isWordChar, isWordChar x = true := by
    intro x hx
    rcases List.mem_cons.1 hx with rfl | hx
    exacts [hc, List.mem_takeWhile_imp hx]
  obtain ⟨hb, hpunct⟩ := isWordChar_iff.1 hc
  have hfeeds : lineFeeds (c :: cs.takeWhile isWordChar) = 0 :=
    lineFeeds_eq_zero fun h => by simpa [isWordChar, isBlank] using hinside _ h
  refine ⟨_, c :: cs.takeWhile isWordChar, cs.dropWhile isWordChar, by simp, by simp, .bare ?_ ?_ ?_, ?_⟩
  · have hquote : c ∉ ['"', '\''] := fun h => by simp [isQuote_iff.2 h] at hq
    simp_all
  · exact fun x hx => isWordChar_iff.1 (hinside x hx)
  · intro x hx
    cases h : cs.dropWhile isWordChar with
    | nil => simp [h] at hx
    | cons d ds =>
      obtain rfl : d = x := by simpa [h] using hx
      exact isWordChar_eq_false_iff.1 (head_dropWhile _ h)
  · rw [scan_bare line hc hh hq, hfeeds, Int.natCast_zero, add_zero]

theorem startsToken {c : Char} (hc : isBlank c = false) (cs : List Char) : StartsToken line (c :: cs) := by
  by_cases hh : c = '#'
  · rw [hh]; exact startsToken_comment line cs
  · cases hp : punctuation? c with
    | some lexeme => exact startsToken_punctuation line hp cs
    | none =>
      cases hq : isQuote c with
      | true => exact startsToken_quoted line hq cs
      | false => exact startsToken_bare line (by simp [isWordChar, hc, hp]) hh hq cs

/-! ### The whole text -/

/-- A token, the characters it is read from and the white space after them. -/
structure Piece where
  token : Token
  span : List Char
  gap : List Char

/-- The text that the pieces make up. -/
def pieceText (ps : List Piece) : List Char := ps.flatMap fun p => p.span ++ p.gap

@[simp] theorem pieceText_nil : pieceText [] = [] := rfl

@[simp] theorem pieceText_cons (p : Piece) (ps : List Piece) :
    pieceText (p :: ps) = p.span ++ (p.gap ++ pieceText ps) := by
  simp [pieceText]

/-- The pieces of a text whose first line has number `line`: every token has its span, with white
space after it, and stands where the pieces before it end. -/
def Covers : Int → List Piece → Prop
  | _, [] => True
  | line, p :: ps =>
    p.token.line = line ∧ Spans p.token.lexeme p.span (p.gap ++ pieceText ps) ∧
      (∀ c ∈ p.gap, isBlank c = true) ∧ Covers (line + lineFeeds (p.span ++ p.gap)) ps

variable {line : Int}

theorem Covers.at {before after : List Piece} {p : Piece} (h : Covers line (before ++ p :: after)) :
    p.token.line = line + lineFeeds (pieceText before) ∧
      Spans p.token.lexeme p.span (p.gap ++ pieceText after) ∧ ∀ c ∈ p.gap, isBlank c = true := by
  induction before generalizing line with
  | nil => exact ⟨by simpa [lineFeeds] using h.1, h.2.1, h.2.2.1⟩
  | cons b before ih =>
    obtain ⟨hline, hrest⟩ := ih h.2.2.2
    refine ⟨?_, hrest⟩
    rw [hline, pieceText_cons, ← List.append_assoc, lineFeeds_append (b.span ++ b.gap), Nat.cast_add, add_assoc]

/-- The tokens of a text cover it. -/
theorem exists_covers (line : Int) (cs : List Char) :
    ∃ lead ps, cs = lead ++ pieceText ps ∧ (∀ c ∈ lead, isBlank c = true) ∧
      ps.map Piece.token = scan line cs ∧ Covers (line + lineFeeds lead) ps := by
  -- the text gets shorter by a white space character or by the span of its first token
  induction hlen : cs.length using Nat.strong_induction_on generalizing line cs with
  | _ n ih =>
    subst hlen
    match cs with
    | [] => exact ⟨[], [], rfl, by simp, by simp, trivial⟩
    | c :: cs =>
      cases hc : isBlank c with
      | true =>
        obtain ⟨lead, ps, rfl, hlead, htokens, hcovers⟩ :=
          ih cs.length (by simp) (line + lineFeeds [c]) cs rfl
        refine ⟨c :: lead, ps, rfl, by simpa [hc] using hlead, by rw [htokens, scan_blank line hc], ?_⟩
        rwa [lineFeeds_cons, Nat.cast_add, ← add_assoc]
      | false =>
        obtain ⟨lexeme, span, rest, htext, hne, hspan, hscan⟩ := startsToken line hc cs
        have hshort : rest.length < (c :: cs).length := by
          have := List.length_pos_iff.2 hne
          rw [htext, List.length_append]; omega
        obtain ⟨gap, ps, rfl, hgap, htokens, hcovers⟩ := ih rest.length hshort (line + lineFeeds span) rest rfl
        refine ⟨[], ⟨⟨line, lexeme⟩, span, gap⟩ :: ps, by simpa using htext, by simp,
          by rw [hscan, ← htokens]; rfl, by simp [lineFeeds], hspan, hgap, ?_⟩
        simpa [lineFeeds, add_assoc] using hcovers

/-- The tokenizer loses nothing: the text is white space and the spans of its tokens in order, and
the line of a token is 1 plus the line feeds before its span. -/
theorem tokenize_spans (text : String) :
    ∃ lead ps, text.toList = lead ++ pieceText ps ∧ (∀ c ∈ lead, isBlank c = true) ∧
      ps.map Piece.token = tokenize text ∧
      ∀ before p after, ps = before ++ p :: after →
        Spans p.token.lexeme p.span (p.gap ++ pieceText after) ∧ (∀ c ∈ p.gap, isBlank c = true) ∧
          p.token.line = 1 + lineFeeds (lead ++ pieceText before) := by
  obtain ⟨lead, ps, htext, hlead, htokens, hcovers⟩ := exists_covers 1 text.toList
  refine ⟨lead, ps, htext, hlead, htokens, fun before p after hps => ?_⟩
  subst hps
  obtain ⟨hline, hspan, hgap⟩ := hcovers.at
  exact ⟨hspan, hgap, by rw [hline, lineFeeds_append, Nat.cast_add, add_assoc]⟩

end SiteConf
