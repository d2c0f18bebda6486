import Mathlib
import SiteConf.Proofs.Lexemes
import SiteConf.Proofs.Spans

/-!
# Reading a text line by line

An `OpenToken` is what a text ends inside of. `OpenToken.read` reads one character more, and
`OpenToken.readAll` a text: it gives the tokens that are complete and the one still open, which is
complete at the end of the text. That is another way to the tokens of a text (`scan_eq_tokens`), in
which what comes later sees of the text before it the open token and the line it has come to, and
nothing else (`tokens_append`).

Main statements: a line break completes every open token but a quoted word (`read_lineFeed`), which
takes it in (`not_isPrefix_tokens`), and so a text can be read line by line exactly if no quoted
word is open where it is cut (`tokenize_lines`).
-/

namespace SiteConf
open Text Token

/-- The token a text ends inside of: the line it starts on and what is read of it. -/
inductive OpenToken where
  | between
  | bare (line : Int) (text : List Char)
  | quoted (line : Int) (quote : Char) (isQuote : isQuote quote = true) (value : List Char)
  | comment (line : Int) (text : List Char)

namespace OpenToken

/-- The tokens still to come if the text ends here. -/
def close : OpenToken → List Token
  | between => []
  | bare line text => [⟨line, .word (.ofList text)⟩]
  | quoted line _ _ value => [⟨line, .word (.ofList value)⟩]
  | comment line text => [⟨line, .comment (.ofList (trimChars text))⟩]

def isQuoted : OpenToken → Bool
  | quoted .. => true
  | _ => false

/-- What a character between tokens is or starts. -/
def start (line : Int) (c : Char) : List Token × OpenToken :=
  if isBlank c then ([], between)
  else if c = '#' then ([], comment line [])
  else match punctuation? c with
    | some lexeme => ([⟨line, lexeme⟩], between)
    | none => ([], if h : Token.isQuote c = true then quoted line c h [] else bare line [c])

section Start
variable (line : Int) {c : Char}

theorem start_of_isBlank (hc : isBlank c = true) : start line c = ([], between) := if_pos hc

theorem start_hash : start line '#' = ([], comment line []) := rfl

theorem start_of_punctuation {lexeme : Lexeme} (hc : punctuation? c = some lexeme) :
    start line c = ([⟨line, lexeme⟩], between) := by
  unfold punctuation? at hc
  split_ifs at hc <;> cases hc <;> subst c <;> rfl

theorem start_of_isQuote (hq : Token.isQuote c = true) : start line c = ([], quoted line c hq []) := by
  rcases show c = '"' ∨ c = '\'' by simpa [Token.isQuote] using hq with rfl | rfl <;> rfl

theorem start_of_isWordChar (hc : isWordChar c = true) (hh : c ≠ '#') (hq : Token.isQuote c = false) :
    start line c = ([], bare line [c]) := by
  obtain ⟨hb, hp⟩ : isBlank c = false ∧ punctuation? c = none := by simpa [isWordChar] using hc
  simp [start, hb, hh, hp, hq]

end Start

/-- The tokens that a character on the line `line` completes, and the token open after it. -/
def read (line : Int) (c : Char) : OpenToken → List Token × OpenToken
  | between => start line c
  | bare l text =>
    if isWordChar c then ([], bare l (text ++ [c]))
    else ((bare l text).close ++ (start line c).1, (start line c).2)
  | quoted l q hq value =>
    if c = q ∧ (q :: value).getLast? ≠ some '\\' then ((quoted l q hq value).close, between)
    else ([], quoted l q hq (value ++ [c]))
  | comment l text =>
    if c = '\n' then ((comment l text).close, between) else ([], comment l (text ++ [c]))

/-- The tokens that a text completes whose first line has number `line`, and the token open after
it. -/
def readAll (line : Int) (o : OpenToken) : List Char → List Token × OpenToken
  | [] => ([], o)
  | c :: cs =>
    let next := readAll (line + lineFeeds [c]) (o.read line c).2 cs
    ((o.read line c).1 ++ next.1, next.2)

/-- The tokens of a text that starts inside of `o`. -/
def tokens (line : Int) (o : OpenToken) (cs : List Char) : List Token :=
  (o.readAll line cs).1 ++ (o.readAll line cs).2.close

variable (line : Int) (o : OpenToken)

@[simp] theorem tokens_nil : o.tokens line [] = o.close := rfl

theorem tokens_cons (c : Char) (cs : List Char) :
    o.tokens line (c :: cs) =
      (o.read line c).1 ++ (o.read line c).2.tokens (line + lineFeeds [c]) cs := by
  simp [tokens, readAll]

/-- Of a text that is read already only its open token and its line feeds matter. -/
theorem tokens_append (cs ds : List Char) :
    o.tokens line (cs ++ ds) =
      (o.readAll line cs).1 ++ (o.readAll line cs).2.tokens (line + lineFeeds cs) ds := by
  induction cs generalizing line o with
  | nil => simp [readAll, lineFeeds]
  | cons c cs ih =>
    rw [List.cons_append, tokens_cons, ih, readAll, lineFeeds_cons c cs, Nat.cast_add, ← add_assoc,
      List.append_assoc]

/-! ### The tokens of a text, read character by character -/

theorem tokens_bare (l : Int) (text cs : List Char) :
    (bare l text).tokens line cs = ⟨l, .word (.ofList (text ++ cs.takeWhile isWordChar))⟩ ::
      between.tokens line (cs.dropWhile isWordChar) := by
  induction cs generalizing text with
  | nil => simp [close]
  | cons c cs ih =>
    rw [tokens_cons, read]
    cases hc : isWordChar c with
    | true =>
      have hfeeds := lineFeeds_singleton (ne_lineFeed_of_isWordChar hc)
      simp [hc, hfeeds, ih]
    | false => simp [hc, tokens_cons, read, close]

theorem tokens_comment (l : Int) (text cs : List Char) :
    (comment l text).tokens line cs =
      ⟨l, .comment (.ofList (trimChars (text ++ cs.takeWhile (· != '\n'))))⟩ ::
        between.tokens line (cs.dropWhile (· != '\n')) := by
  induction cs generalizing text with
  | nil => simp [close]
  | cons c cs ih =>
    rw [tokens_cons, read]
    by_cases hc : c = '\n'
    · have hstart : start line '\n' = ([], between) := start_of_isBlank line rfl
      subst hc
      simp [tokens_cons, read, close, hstart]
    · simp [hc, lineFeeds_singleton hc, ih]

/-- The value read so far ends with `before`, or is empty after the opening quote `before`. -/
theorem tokens_quoted (l : Int) {q before : Char} (hq : isQuote q = true) (value cs : List Char)
    (hb : (q :: value).getLast? = some before) :
    (quoted l q hq value).tokens line cs =
      ⟨l, .word (.ofList (value ++ (splitQuoted q before cs).1))⟩ ::
        between.tokens (line + lineFeeds (splitQuoted q before cs).1) (splitQuoted q before cs).2 := by
  induction cs generalizing line value before with
  | nil => simp [splitQuoted, close]
  | cons c cs ih =>
    rw [tokens_cons, read, splitQuoted, hb]
    by_cases hc : c = q ∧ before ≠ '\\'
    · have hfeeds := lineFeeds_singleton (ne_lineFeed_of_isQuote hq)
      simp [hc, hfeeds, show lineFeeds [] = 0 from rfl, close]
    · have hlast : (q :: (value ++ [c])).getLast? = some c := by
        rw [← List.cons_append, List.getLast?_append]; simp
      have hc' : ¬(c = q ∧ some before ≠ some '\\') := by simpa using hc
      rw [if_neg hc, if_neg hc', ih _ _ hlast]
      simp [lineFeeds_cons c (splitQuoted q c cs).1, add_assoc]

/-- Reading character by character gives the tokens that cutting off one after the other gives. -/
theorem scan_eq_tokens (cs : List Char) : scan line cs = between.tokens line cs := by
  induction line, cs using scan_induction with
  | nil => simp [close]
  | blank line c cs hc ih => rw [scan_blank _ hc, ih, tokens_cons, read, start_of_isBlank line hc]; rfl
  | comment line cs ih =>
    rw [scan_comment, ih, tokens_cons, read, start_hash, tokens_comment, lineFeeds_singleton (by decide),
      Int.natCast_zero, add_zero]
    rfl
  | punctuation line c lexeme cs hc ih =>
    rw [scan_punctuation _ hc, ih, tokens_cons, read, start_of_punctuation line hc,
      lineFeeds_singleton (ne_lineFeed_of_punctuation hc), Int.natCast_zero, add_zero]
    rfl
  | quoted line q cs hq ih =>
    rw [scan_quoted _ hq, ih, tokens_cons, read, start_of_isQuote line hq,
      lineFeeds_singleton (ne_lineFeed_of_isQuote hq), Int.natCast_zero, add_zero, tokens_quoted _ _ hq _ _ rfl]
    rfl
  | bare line c cs hc hh hq ih =>
    rw [scan_bare _ hc hh hq, ih, tokens_cons, read, start_of_isWordChar line hc hh hq,
      lineFeeds_singleton (ne_lineFeed_of_isWordChar hc), Int.natCast_zero, add_zero, tokens_bare]
    rfl

/-! ### Line breaks -/

theorem read_lineFeed (h : o.isQuoted = false) : o.read line '\n' = (o.close, between) := by
  have hstart : start line '\n' = ([], between) := start_of_isBlank line rfl
  have hword : isWordChar '\n' = false := rfl
  cases o with
  | between => exact hstart
  | bare l text => simp [read, hword, hstart]
  | quoted => simp [isQuoted] at h
  | comment => simp [read]

theorem not_isPrefix_tokens (h : o.isQuoted = true) (cs : List Char) :
    ¬ o.close <+: o.tokens line ('\n' :: cs) := by
  cases o with
  | quoted l q hq value =>
    have hn : ¬('\n' = q ∧ (q :: value).getLast? ≠ some '\\') := fun h =>
      ne_lineFeed_of_isQuote hq h.1.symm
    have hlast : (q :: (value ++ ['\n'])).getLast? = some '\n' := by
      rw [← List.cons_append, List.getLast?_append]; simp
    rw [tokens_cons, read, if_neg hn, tokens_quoted _ _ hq _ _ hlast]
    intro hprefix
    have htext : String.ofList value = String.ofList (value ++ '\n' :: (splitQuoted q '\n' cs).1) := by
      simpa [close] using hprefix
    simpa using congrArg List.length (String.ofList_injective htext)
  | _ => simp [isQuoted] at h

end OpenToken

/-- The text ends inside of a quoted word. -/
def EndsInQuotes (text : String) : Prop := (OpenToken.between.readAll 1 text.toList).2.isQuoted = true

instance (text : String) : Decidable (EndsInQuotes text) := inferInstanceAs (Decidable (_ = true))

section Cut
open OpenToken

variable {line : Int} {cs : List Char}

theorem scan_lineFeed (h : (between.readAll line cs).2.isQuoted = false) (ds : List Char) :
    scan line (cs ++ '\n' :: ds) = scan line cs ++ scan (line + lineFeeds cs + 1) ds := by
  have htokens : between.tokens line cs = (between.readAll line cs).1 ++ (between.readAll line cs).2.close :=
    rfl
  rw [scan_eq_tokens, scan_eq_tokens, scan_eq_tokens, tokens_append, tokens_cons, read_lineFeed _ _ h,
    htokens, List.append_assoc]
  rfl

theorem not_isPrefix_scan (h : (between.readAll line cs).2.isQuoted = true) (ds : List Char) :
    ¬ scan line cs <+: scan line (cs ++ '\n' :: ds) := by
  rw [scan_eq_tokens, scan_eq_tokens, tokens_append, tokens, List.prefix_append_right_inj]
  exact not_isPrefix_tokens _ _ h ds

end Cut

variable {a : String}

/-- Two texts one below the other have the tokens of both, those of the second one moved down. -/
theorem tokenize_append (h : ¬EndsInQuotes a) (b : String) :
    tokenize (a ++ "\n" ++ b) =
      tokenize a ++ (tokenize b).map (Token.shift (1 + lineFeeds a.toList)) := by
  have htext : (a ++ "\n" ++ b).toList = a.toList ++ '\n' :: b.toList := by simp
  rw [tokenize, htext, scan_lineFeed (Bool.eq_false_iff.2 h), add_assoc, add_comm _ (1 : Int), scan_shift]
  rfl

theorem not_isPrefix_tokenize (h : EndsInQuotes a) (b : String) :
    ¬ tokenize a <+: tokenize (a ++ "\n" ++ b) := by
  have htext : (a ++ "\n" ++ b).toList = a.toList ++ '\n' :: b.toList := by simp
  rw [tokenize, tokenize, htext]
  exact not_isPrefix_scan h b.toList

/-- The tokens of the lines, each line read by itself; the first one stands `above` lines down. -/
def tokenizeEach (above : Int) : List String → List Token
  | [] => []
  | l :: ls => (tokenize l).map (Token.shift above) ++ tokenizeEach (above + 1 + lineFeeds l.toList) ls

theorem tokenizeEach_add (above n : Int) (ls : List String) :
    tokenizeEach (above + n) ls = (tokenizeEach above ls).map (Token.shift n) := by
  induction ls generalizing above with
  | nil => rfl
  | cons l ls ih =>
    have hstart : above + n + 1 + lineFeeds l.toList = above + 1 + lineFeeds l.toList + n := by omega
    rw [tokenizeEach, tokenizeEach, hstart, ih, List.map_append, List.map_map, Token.shift_comp_shift]

theorem tokenize_joinLines_iff (ls : List String) :
    tokenize (joinLines ls) = tokenizeEach 0 ls ↔ ∀ l ∈ ls.dropLast, ¬EndsInQuotes l := by
  induction ls with
  | nil => simp [tokenizeEach, tokenize, joinLines]
  | cons l ls ih =>
    cases ls with
    | nil => simp [tokenizeEach, joinLines, Token.shift_zero]
    | cons m ls =>
      have htext : joinLines (l :: m :: ls) = l ++ "\n" ++ joinLines (m :: ls) := rfl
      have heach : tokenizeEach 0 (l :: m :: ls) =
          tokenize l ++ (tokenizeEach 0 (m :: ls)).map (Token.shift (1 + lineFeeds l.toList)) := by
        rw [← tokenizeEach_add, tokenizeEach, Token.shift_zero, List.map_id, ← add_assoc, zero_add]
      rw [htext, heach, List.dropLast_cons_cons, List.forall_mem_cons, ← ih]
      by_cases h : EndsInQuotes l
      · have hne := not_isPrefix_tokenize h (joinLines (m :: ls))
        simp only [h, not_true_eq_false, false_and, iff_false]
        exact fun e => hne ⟨_, e.symm⟩
      · simp [tokenize_append h, h, (Token.shift_injective _).list_map.eq_iff]

/-- A text can be cut at a line break exactly if no quoted word is open there: then it has the
tokens of the part before it, and those of the part after it with their lines counted on; and so
lines have the tokens of each line by itself. -/
theorem tokenize_lines :
    (∀ a b : String, tokenize (a ++ "\n" ++ b) =
        tokenize a ++ (tokenize b).map (Token.shift (1 + lineFeeds a.toList)) ↔ ¬EndsInQuotes a) ∧
      ∀ ls : List String,
        tokenize (joinLines ls) = tokenizeEach 0 ls ↔ ∀ l ∈ ls.dropLast, ¬EndsInQuotes l := by
  refine ⟨fun a b => ⟨fun h hquoted => ?_, fun h => tokenize_append h b⟩, tokenize_joinLines_iff⟩
  exact not_isPrefix_tokenize hquoted b ⟨_, h.symm⟩

/-- Lines that end in a comment after a quoted line break, in a backslash, and in a word whose
quotes are open, which only the last line may have. -/
theorem tokenize_lines_kinds :
    (∀ l ∈ ["root \"/srv/a\nb\" # files", "alias C:\\", "index \"a"].dropLast, ¬EndsInQuotes l) ∧
      tokenize (joinLines ["root \"/srv/a\nb\" # files", "alias C:\\", "index \"a"]) =
        [⟨1, .word "root"⟩, ⟨1, .word "/srv/a\nb"⟩, ⟨2, .comment "files"⟩, ⟨3, .word "alias"⟩,
          ⟨3, .word "C:\\"⟩, ⟨4, .word "index"⟩, ⟨4, .word "a"⟩] ∧
      tokenize ("index \"a" ++ "\n" ++ "b;") ≠
        tokenize "index \"a" ++ (tokenize "b;").map (Token.shift (1 + lineFeeds "index \"a".toList)) := by
  obtain ⟨hcut, hlines⟩ := tokenize_lines
  have hclosed : ∀ l ∈ ["root \"/srv/a\nb\" # files", "alias C:\\", "index \"a"].dropLast, ¬EndsInQuotes l := by
    decide +kernel
  have hopen : EndsInQuotes "index \"a" := by decide +kernel
  exact ⟨hclosed, ((hlines _).2 hclosed).trans (by decide +kernel), fun h => (hcut _ _).1 h hopen⟩

end SiteConf
