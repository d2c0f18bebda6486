import Mathlib
import SiteConf.Directive.Statement

/-!
# What a text is read as

The tokens of a text further down are the same, as much further down (`scan_shift`), and so
`lexemes`, the token list of a text without line numbers, depends on the text alone
(`map_lexeme_scan`). `ReadsWord ws w` says that the text `ws` is read as the one word `w` wherever
a word may end after it.

Main statements: an argument that is `Quotable` is read back from its written form
(`readsWord_quoteArg`), and so is a whole statement (`readsWords_statement`).
-/

namespace SiteConf
open Text Token

/-- The token, `n` lines further down. -/
def Token.shift (n : Int) (t : Token) : Token := { t with line := t.line + n }

theorem Token.shift_zero : Token.shift 0 = id := by
  funext t; simp [shift]

theorem Token.shift_comp_shift (m n : Int) : Token.shift n ∘ Token.shift m = Token.shift (m + n) := by
  funext t; simp [shift, add_assoc]

theorem Token.shift_injective (n : Int) : Function.Injective (Token.shift n) := by
  intro t t' h
  cases t; cases t'
  simpa [shift] using h

/-- A text further down has the same tokens, as much further down. -/
theorem scan_shift (n line : Int) (cs : List Char) :
    scan (line + n) cs = (scan line cs).map (Token.shift n) := by
  induction line, cs using scan_induction with
  | nil => simp
  | blank line c cs hc ih => rw [scan_blank _ hc, scan_blank _ hc, ← ih, add_right_comm]
  | comment line cs ih => rw [scan_comment, scan_comment, ih]; rfl
  | punctuation line c lexeme cs hc ih =>
    rw [scan_punctuation _ hc, scan_punctuation _ hc, ih]; rfl
  | quoted line q cs hq ih => rw [scan_quoted _ hq, scan_quoted _ hq, add_right_comm, ih]; rfl
  | bare line c cs hc hh hq ih => rw [scan_bare _ hc hh hq, scan_bare _ hc hh hq, ih]; rfl

/-- The tokens of a text without their lines. -/
def lexemes (cs : List Char) : List Lexeme := (scan 1 cs).map Token.lexeme

theorem map_lexeme_scan (line : Int) (cs : List Char) : (scan line cs).map Token.lexeme = lexemes cs := by
  have hline : line = 1 + (line - 1) := by omega
  have hshift : Token.lexeme ∘ Token.shift (line - 1) = Token.lexeme := rfl
  rw [hline, scan_shift, List.map_map, hshift, lexemes]

@[simp] theorem lexemes_nil : lexemes [] = [] := by simp [lexemes]

theorem lexemes_blank {c : Char} (hc : isBlank c = true) (cs : List Char) :
    lexemes (c :: cs) = lexemes cs := by
  rw [lexemes, scan_blank _ hc, map_lexeme_scan]

theorem lexemes_blanks {pre : List Char} (h : ∀ c ∈ pre, isBlank c = true) (cs : List Char) :
    lexemes (pre ++ cs) = lexemes cs := by
  induction pre with
  | nil => rfl
  | cons c pre ih =>
    rw [List.cons_append, lexemes_blank (h c (by simp)), ih fun x hx => h x (by simp [hx])]

theorem lexemes_comment (cs : List Char) :
    lexemes ('#' :: cs) = .comment (.ofList (trimChars (cs.takeWhile (· != '\n')))) ::
      lexemes (cs.dropWhile (· != '\n')) := by
  rw [lexemes, scan_comment, List.map_cons, map_lexeme_scan]

theorem lexemes_punctuation {c : Char} {lexeme : Lexeme} (hc : punctuation? c = some lexeme)
    (cs : List Char) : lexemes (c :: cs) = lexeme :: lexemes cs := by
  rw [lexemes, scan_punctuation _ hc, List.map_cons, map_lexeme_scan]

theorem lexemes_semicolon (cs : List Char) : lexemes (';' :: cs) = .semicolon :: lexemes cs :=
  lexemes_punctuation rfl cs

theorem lexemes_blockOpen (cs : List Char) : lexemes ('\x7b' :: cs) = .blockOpen :: lexemes cs :=
  lexemes_punctuation rfl cs

theorem lexemes_blockClose (cs : List Char) : lexemes ('\x7d' :: cs) = .blockClose :: lexemes cs :=
  lexemes_punctuation rfl cs

/-- A character that starts a bare word. -/
def isWordStart (c : Char) : Bool := isWordChar c && c != '#' && !isQuote c

theorem lexemes_word {c : Char} (hc : isWordStart c = true) (cs : List Char) :
    lexemes (c :: cs) =
      .word (.ofList (c :: cs.takeWhile isWordChar)) :: lexemes (cs.dropWhile isWordChar) := by
  simp only [isWordStart, Bool.and_eq_true, Bool.not_eq_true', bne_iff_ne] at hc
  obtain ⟨⟨hw, hh⟩, hq⟩ := hc
  rw [lexemes, scan_bare _ hw hh hq, List.map_cons, map_lexeme_scan]

theorem lexemes_quoted {q : Char} (hq : isQuote q = true) (cs : List Char) :
    lexemes (q :: cs) = .word (.ofList (splitQuoted q q cs).1) :: lexemes (splitQuoted q q cs).2 := by
  rw [lexemes, scan_quoted _ hq, List.map_cons, map_lexeme_scan]

/-! ### One word -/

/-- A bare word may end where the text goes on like this. -/
def EndsWord (cs : List Char) : Prop := ∀ c ∈ cs.head?, isWordChar c = false

theorem endsWord_cons {c : Char} {cs : List Char} (hc : isWordChar c = false) : EndsWord (c :: cs) := by
  simpa [EndsWord] using hc

/-- The text `ws` is read as the one word `w`. -/
def ReadsWord (ws : List Char) (w : String) : Prop :=
  ∀ rest, EndsWord rest → lexemes (ws ++ rest) = .word w :: lexemes rest

theorem readsWord_bare {c : Char} {cs : List Char} (hc : isWordStart c = true)
    (hcs : ∀ x ∈ cs, isWordChar x = true) : ReadsWord (c :: cs) (.ofList (c :: cs)) := by
  intro rest hr
  have hdrop : rest.dropWhile isWordChar = rest ∧ rest.takeWhile isWordChar = [] := by
    cases rest with
    | nil => simp
    | cons d rest => simp [hr d (by simp)]
  rw [List.cons_append, lexemes_word hc, List.takeWhile_append_of_pos hcs, List.dropWhile_append_of_pos hcs,
    hdrop.1, hdrop.2, List.append_nil]

/-- A quote `q` after the text closes a word, and none in the text does. `before` stands before the
text. -/
def closesAfter (q before : Char) : List Char → Bool
  | [] => before != '\\'
  | c :: cs => (c != q || before == '\\') && closesAfter q c cs

theorem splitQuoted_append {q before : Char} {cs : List Char} (h : closesAfter q before cs = true)
    (rest : List Char) : splitQuoted q before (cs ++ q :: rest) = (cs, rest) := by
  induction cs generalizing before with
  | nil =>
    have hb : before ≠ '\\' := by simpa [closesAfter] using h
    simp [splitQuoted, hb]
  | cons c cs ih =>
    simp only [closesAfter, Bool.and_eq_true, Bool.or_eq_true, bne_iff_ne, beq_iff_eq] at h
    have hc : ¬(c = q ∧ before ≠ '\\') := by rintro ⟨h1, h2⟩; exact h.1.elim (· h1) h2
    rw [List.cons_append, splitQuoted, if_neg hc, ih h.2]

theorem readsWord_quoted {q : Char} (hq : isQuote q = true) {cs : List Char}
    (h : closesAfter q q cs = true) : ReadsWord (q :: cs ++ [q]) (.ofList cs) := by
  intro rest _
  rw [List.append_assoc, List.singleton_append, List.cons_append, lexemes_quoted hq, splitQuoted_append h]

theorem closesAfter_of_not_mem {q before : Char} {cs : List Char} (hq : q ∉ cs)
    (hl : (before :: cs).getLast? ≠ some '\\') : closesAfter q before cs = true := by
  induction cs generalizing before with
  | nil => simpa [closesAfter] using hl
  | cons c cs ih =>
    rw [List.mem_cons, not_or] at hq
    simp only [closesAfter, Bool.and_eq_true, Bool.or_eq_true, bne_iff_ne]
    exact ⟨.inl (Ne.symm hq.1), ih hq.2 (by rwa [List.getLast?_cons_cons] at hl)⟩

/-! ### Arguments -/

/-- Every double quote has a backslash directly before it; `before` stands before the text. -/
def quotesEscaped (before : Char) : List Char → Bool
  | [] => true
  | c :: cs => (c != '"' || before == '\\') && quotesEscaped c cs

theorem closesAfter_of_quotesEscaped {before : Char} {cs : List Char} (h : quotesEscaped before cs = true)
    (hl : (before :: cs).getLast? ≠ some '\\') : closesAfter '"' before cs = true := by
  induction cs generalizing before with
  | nil => simpa [closesAfter] using hl
  | cons c cs ih =>
    simp only [quotesEscaped, Bool.and_eq_true] at h
    simp only [closesAfter, Bool.and_eq_true]
    exact ⟨h.1, ih h.2 (by rwa [List.getLast?_cons_cons] at hl)⟩

theorem head_escapeQuotes (cs : List Char) : (escapeQuotes cs).head? ≠ some '"' := by
  cases cs with
  | nil => simp [escapeQuotes]
  | cons c cs =>
    unfold escapeQuotes
    split_ifs with h
    · simp
    · simpa using h

/-- Escaping changes nothing in a text whose double quotes are escaped. -/
theorem mergeEscapes_escapeQuotes {before : Char} : ∀ {cs : List Char},
    quotesEscaped before cs = true → cs.head? ≠ some '"' → mergeEscapes (escapeQuotes cs) = cs
  | [], _, _ => rfl
  | [c], _, h => by
    have hc : c ≠ '"' := by simpa using h
    simp [escapeQuotes, hc, mergeEscapes]
  | c :: d :: cs, h, hc => by
    simp only [quotesEscaped, Bool.and_eq_true, Bool.or_eq_true, bne_iff_ne, beq_iff_eq] at h
    have hc : c ≠ '"' := by simpa using hc
    by_cases hd : d = '"'
    · -- an escaped quote: the backslash before it is doubled and merged again
      subst hd
      have hb : c = '\\' := h.2.1.resolve_left (by simp)
      subst hb
      have hcs : cs.head? ≠ some '"' := by
        cases cs with
        | nil => simp
        | cons e cs =>
          simp only [quotesEscaped, Bool.and_eq_true, Bool.or_eq_true, bne_iff_ne] at h
          simpa using h.2.2.1
      simp [escapeQuotes, mergeEscapes, mergeEscapes_escapeQuotes h.2.2 hcs]
    · have ih : mergeEscapes (escapeQuotes (d :: cs)) = d :: cs :=
        mergeEscapes_escapeQuotes (by simpa [quotesEscaped] using h.2) (by simpa using hd)
      have hne : ∀ cs', c :: escapeQuotes (d :: cs) ≠ '\\' :: '\\' :: '"' :: cs' := by
        intro cs' e
        rw [escapeQuotes, if_neg hd] at e
        simp only [List.cons.injEq] at e
        exact head_escapeQuotes cs (by rw [e.2.2]; rfl)
      rw [escapeQuotes, if_neg hc, mergeEscapes, ih]
      intro cs' e1 e2; exact hne cs' (by rw [e1, e2])

/-- Characters that make up a word without quotes. -/
def IsBare (cs : List Char) : Prop := cs ≠ [] ∧ ∀ c ∈ cs, isBlank c = false ∧ needsQuotes c = false

/-- Characters that are written in quotes, which close where the argument ends. -/
def IsQuotedWell (cs : List Char) : Prop :=
  (cs = [] ∨ cs.any needsQuotes = true) ∧ cs.getLast? ≠ some '\\' ∧
    ('"' ∉ cs ∨ '\'' ∉ cs ∨ quotesEscaped '"' cs = true)

/-- The arguments that are read back from their written form. -/
def Quotable (arg : String) : Prop := IsBare arg.toList ∨ IsQuotedWell arg.toList

-- not by instance search, which may find the instance that tries all characters
instance (cs : List Char) : Decidable (IsBare cs) :=
  @instDecidableAnd _ _ inferInstance (List.decidableBAll _ cs)

instance (cs : List Char) : Decidable (IsQuotedWell cs) := inferInstanceAs (Decidable (_ ∧ _))

instance (arg : String) : Decidable (Quotable arg) := inferInstanceAs (Decidable (_ ∨ _))

theorem isWordChar_of_bare {c : Char} (hb : isBlank c = false) (hq : needsQuotes c = false) :
    isWordStart c = true := by
  simp only [needsQuotes, List.contains_eq_mem, decide_eq_false_iff_not, List.mem_cons, List.not_mem_nil,
    or_false, not_or] at hq
  simp [isWordStart, isWordChar, isQuote, punctuation?, hb, hq]

theorem readsWord_of_isBare {cs : List Char} (h : IsBare cs) : ReadsWord cs (.ofList cs) := by
  obtain ⟨hne, h⟩ := h
  cases cs with
  | nil => exact absurd rfl hne
  | cons c cs =>
    refine readsWord_bare (isWordChar_of_bare (h c (by simp)).1 (h c (by simp)).2) fun x hx => ?_
    have hx := isWordChar_of_bare (h x (by simp [hx])).1 (h x (by simp [hx])).2
    simp only [isWordStart, Bool.and_eq_true] at hx
    exact hx.1.1

theorem quoteChars_of_isBare {cs : List Char} (h : IsBare cs) : quoteChars cs = cs := by
  have hany : cs.any needsQuotes = false := by
    rw [List.any_eq_false]; intro c hc; simp [(h.2 c hc).2]
  rw [quoteChars, if_pos (by simp [h.1, hany])]

theorem getLast?_cons_quote {cs : List Char} {q : Char} (hq : q ≠ '\\') (h : cs.getLast? ≠ some '\\') :
    (q :: cs).getLast? ≠ some '\\' := by
  cases cs with
  | nil => simpa using hq
  | cons c cs => rwa [List.getLast?_cons_cons]

theorem readsWord_of_isQuotedWell {cs : List Char} (h : IsQuotedWell cs) :
    ReadsWord (quoteChars cs) (.ofList cs) := by
  obtain ⟨hneed, hl, hq⟩ := h
  have hd := getLast?_cons_quote (q := '"') (by decide) hl
  have hs := getLast?_cons_quote (q := '\'') (by decide) hl
  have hnot : ¬(!cs.isEmpty && !cs.any needsQuotes) = true := by
    rcases hneed with rfl | hneed
    · simp
    · simp [hneed]
  rw [quoteChars, if_neg hnot]
  split_ifs with h1 h2
  · exact readsWord_quoted (by decide) (closesAfter_of_not_mem (by simpa using h1) hd)
  · exact readsWord_quoted (by decide) (closesAfter_of_not_mem (by simpa using h2) hs)
  · have he : quotesEscaped '"' cs = true := by
      rcases hq with hq | hq | hq
      · exact absurd hq (by simpa using h1)
      · exact absurd hq (by simpa using h2)
      · exact hq
    have hh : cs.head? ≠ some '"' := by
      cases cs with
      | nil => simp
      | cons c cs => simp [quotesEscaped] at he; simpa using he.1
    rw [mergeEscapes_escapeQuotes he hh]
    exact readsWord_quoted (by decide) (closesAfter_of_quotesEscaped he hd)

/-- A quotable argument is read back from its written form. -/
theorem readsWord_quoteArg {arg : String} (h : Quotable arg) : ReadsWord (quoteArg arg).toList arg := by
  rw [quoteArg, String.toList_ofList]
  rcases h with h | h
  · have hr := readsWord_of_isBare h
    rwa [String.ofList_toList, ← quoteChars_of_isBare h] at hr
  · simpa using readsWord_of_isQuotedWell h

/-! ### Statements -/

/-- A word that can be the name of a statement. -/
def IsName (name : String) : Prop :=
  name.toList.head?.any (fun c => c != '#' && !isQuote c) = true ∧ ∀ c ∈ name.toList, isWordChar c = true

instance (name : String) : Decidable (IsName name) :=
  @instDecidableAnd _ _ inferInstance (List.decidableBAll _ _)

theorem readsWord_of_isName {name : String} (h : IsName name) : ReadsWord name.toList name := by
  obtain ⟨hhead, hall⟩ := h
  cases hcs : name.toList with
  | nil => rw [hcs] at hhead; simp at hhead
  | cons c cs =>
    rw [hcs] at hhead hall
    have hc : isWordStart c = true := by
      rw [isWordStart, hall c (by simp)]
      simpa using hhead
    have hr : ReadsWord (c :: cs) (.ofList (c :: cs)) :=
      readsWord_bare hc fun x hx => hall x (List.mem_cons_of_mem c hx)
    rwa [← hcs, String.ofList_toList, hcs] at hr

/-- The written words `ws`, with a space between neighbours, are read as the words `vs`. -/
def ReadsWords (ws vs : List String) : Prop :=
  ∀ rest, EndsWord rest → lexemes ((joinWith " " ws).toList ++ rest) = vs.map .word ++ lexemes rest

theorem readsWords_singleton {w v : String} (h : ReadsWord w.toList v) : ReadsWords [w] [v] := by
  intro rest hr
  simpa using h rest hr

theorem readsWords_cons {w v : String} {ws vs : List String} (h : ReadsWord w.toList v) (hne : ws ≠ [])
    (ht : ReadsWords ws vs) : ReadsWords (w :: ws) (v :: vs) := by
  intro rest hr
  cases ws with
  | nil => exact absurd rfl hne
  | cons w' ws =>
    rw [joinWith_cons_cons]
    simp only [String.toList_append, List.append_assoc]
    rw [show " ".toList = [' '] from rfl, List.singleton_append, h _ (endsWord_cons (by decide)),
      lexemes_blank (by decide), ht rest hr]
    rfl

theorem readsWords_statement {name : String} {args : List String} (hn : IsName name)
    (ha : ∀ a ∈ args, Quotable a) : ReadsWords (name :: args.map quoteArg) (name :: args) := by
  have hargs : ∀ args : List String, (∀ a ∈ args, Quotable a) → args ≠ [] →
      ReadsWords (args.map quoteArg) args := by
    intro args
    induction args with
    | nil => intro _ h; exact absurd rfl h
    | cons a args ih =>
      intro h _
      have hw := readsWord_quoteArg (h a (by simp))
      cases args with
      | nil => exact readsWords_singleton hw
      | cons b args => exact readsWords_cons hw (by simp) (ih (fun x hx => h x (by simp [hx])) (by simp))
  cases args with
  | nil => exact readsWords_singleton (readsWord_of_isName hn)
  | cons a args => exact readsWords_cons (readsWord_of_isName hn) (by simp) (hargs _ ha (by simp))

end SiteConf
