import SiteConf.Proofs.Canonical
import SiteConf.Proofs.Spans

/-!
# Which arguments survive quoting

A line is read as its own words exactly if every argument is `Quotable`. Main statement:
`tokenize_directiveLine`.

An argument that is not can swallow or split the ones after it, so the words after it say nothing. But the
arguments before it are read as they are, and where it stands itself another word is read, whatever the rest of
the line holds (`quotable_of_head`): a longer one if it is in quotes and ends in a backslash (`QuotedAs.head`),
one with more backslashes if it holds both kinds of quotes, and one without white space if it was written bare
(`not_isCut_head`).
-/

namespace SiteConf
open Text Token

/-! ### Lines -/

/-- What stands on the line of a statement after its name. -/
def restOfLine : List String → List Char
  | [] => [';']
  | a :: as => ' ' :: (quoteChars a.toList ++ restOfLine as)

theorem toList_directiveLine (name : String) (args : List String) :
    (directiveLine name args).toList = name.toList ++ restOfLine args := by
  suffices h : ∀ first : String, (joinWith " " (first :: args.map quoteArg) ++ ";").toList =
      first.toList ++ restOfLine args from h name
  induction args with
  | nil => intro first; rw [List.map_nil, joinWith_singleton, String.toList_append]; rfl
  | cons a as ih =>
    intro first
    have hrest := ih (quoteArg a)
    rw [quoteArg, String.toList_ofList] at hrest
    rw [List.map_cons, joinWith_cons_cons, String.append_assoc, String.toList_append, String.toList_append, quoteArg,
      hrest, List.append_assoc]
    rfl

theorem endsWord_restOfLine (args : List String) : EndsWord (restOfLine args) := by
  cases args with
  | nil => exact endsWord_cons (by decide)
  | cons a as => exact endsWord_cons (by decide)

/-! ### Arguments in quotes -/

/-- A text in which every quote is escaped does not end a quoted word. -/
theorem splitQuoted_append_of_escaped {q before : Char} {cs : List Char}
    (h : ∀ pre post, cs = pre ++ q :: post → pre.getLast?.getD before = '\\') (rest : List Char) :
    (splitQuoted q before (cs ++ rest)).1 = cs ++ (splitQuoted q (cs.getLast?.getD before) rest).1 := by
  induction cs generalizing before with
  | nil => rfl
  | cons c cs ih =>
    have hopen : ¬(c = q ∧ before ≠ '\\') := by
      rintro ⟨rfl, hb⟩
      exact hb (h [] cs rfl)
    have htail : ∀ pre post, cs = pre ++ q :: post → pre.getLast?.getD c = '\\' := by
      rintro pre post rfl
      simpa [List.getLast?_cons] using h (c :: pre) post rfl
    rw [List.cons_append, splitQuoted, if_neg hopen]
    dsimp only
    rw [ih htail, List.getLast?_cons, Option.getD_some, List.cons_append]

/-- The argument is written as `inner` between quotes `q`. -/
structure QuotedAs (cs : List Char) (q : Char) (inner : List Char) : Prop where
  written : quoteChars cs = q :: inner ++ [q]
  quote : isQuote q = true
  escaped : Escaped q inner
  length : cs.length ≤ inner.length
  last : inner.getLast? = cs.getLast?
  needs : inner = [] ∨ inner.any needsQuotes = true
  kept : inner = cs → '"' ∉ cs ∨ '\'' ∉ cs ∨ quotesEscaped '"' cs = true

theorem Escaped.of_not_mem {q : Char} {cs : List Char} (h : q ∉ cs) : Escaped q cs := by
  rintro pre post rfl
  exact absurd (by simp) h

theorem escaped_of_quotesEscaped {cs : List Char} (h : ∀ before, quotesEscaped before cs = true) :
    Escaped '"' cs := by
  have hall : ∀ pre post before, cs = pre ++ '"' :: post → quotesEscaped before cs = true →
      pre.getLast?.getD before = '\\' := by
    clear h
    induction cs with
    | nil => intro pre post before hcs; simp at hcs
    | cons c cs ih =>
      intro pre post before hcs hc
      rw [quotesEscaped, Bool.and_eq_true] at hc
      cases pre with
      | nil =>
        rw [List.nil_append, List.cons.injEq] at hcs
        simpa [hcs.1] using hc.1
      | cons d pre =>
        rw [List.cons_append, List.cons.injEq] at hcs
        rw [List.getLast?_cons, Option.getD_some, ← hcs.1]
        exact ih pre post c hcs.2 hc.2
  intro pre post hcs
  -- an escaped quote at the start would need a backslash before the text, whatever stands there
  have hlast := hall pre post 'x' hcs (h 'x')
  cases hpre : pre.getLast? with
  | none => rw [hpre] at hlast; exact absurd hlast (by decide)
  | some c => rw [hpre] at hlast; exact congrArg some hlast

theorem length_le_escaped (cs : List Char) : cs.length ≤ (escaped cs).length := by
  refine escaped_induction (motive := fun cs es => cs.length ≤ es.length) (Nat.le_refl _) ?_ ?_ ?_ cs
  · intro cs ih
    simp only [List.length_cons]; omega
  · intro cs ih
    simp only [List.length_cons]; omega
  · intro c cs _ ih
    simp only [List.length_cons]; omega

theorem exists_quotedAs {cs : List Char} (h : cs = [] ∨ cs.any needsQuotes = true) :
    ∃ q inner, QuotedAs cs q inner := by
  have hnot : ¬(!cs.isEmpty && !cs.any needsQuotes) = true := by
    rcases h with rfl | h
    · simp
    · simp [h]
  by_cases hd : '"' ∈ cs
  · by_cases hs : '\'' ∈ cs
    · have hquotes := quotesEscaped_escaped cs
      refine ⟨'"', escaped cs, ?_, rfl, escaped_of_quotesEscaped hquotes, length_le_escaped cs, getLast?_escaped cs,
        .inr (List.any_eq_true.2 ⟨'"', (mem_escaped (by decide) cs).2 hd, rfl⟩), fun hkept => .inr (.inr ?_)⟩
      · rw [quoteChars, if_neg hnot, if_neg (by simp [hd]), if_neg (by simp [hs])]
        rfl
      · rw [← hkept]
        exact hquotes '"'
    · exact ⟨'\'', cs, by rw [quoteChars, if_neg hnot, if_neg (by simp [hd]), if_pos (by simp [hs])], rfl,
        .of_not_mem hs, Nat.le_refl _, rfl, h, fun _ => .inr (.inl hs)⟩
  · exact ⟨'"', cs, by rw [quoteChars, if_neg hnot, if_pos (by simp [hd])], rfl, .of_not_mem hd, Nat.le_refl _, rfl, h,
      fun _ => .inl hd⟩

/-- What is read of an argument in quotes, and goes on after it if a backslash stands before the closing quote. -/
theorem QuotedAs.head {cs inner : List Char} {q : Char} (h : QuotedAs cs q inner) (rest : List Char) :
    ∃ more, (lexemes (quoteChars cs ++ rest)).head? = some (.word (.ofList (inner ++ more))) ∧
      (more = [] ↔ cs.getLast? ≠ some '\\') := by
  have hq : q ≠ '\\' := by rintro rfl; exact absurd h.quote (by decide)
  have hinner : ∀ pre post, inner = pre ++ q :: post → pre.getLast?.getD q = '\\' := by
    intro pre post hcs
    rw [h.escaped pre post hcs, Option.getD_some]
  refine ⟨(splitQuoted q (inner.getLast?.getD q) (q :: rest)).1, ?_, ?_⟩
  · rw [h.written, List.append_assoc, List.singleton_append, List.cons_append, lexemes_quoted h.quote,
      splitQuoted_append_of_escaped hinner]
    rfl
  · rw [← h.last, splitQuoted]
    cases hlast : inner.getLast? with
    | none => simp [hq]
    | some c => by_cases hc : c = '\\' <;> simp [hc]

/-! ### Arguments that are cut -/

/-- A word that is written bare although it holds white space. -/
def IsCut (cs : List Char) : Prop := cs ≠ [] ∧ (∀ c ∈ cs, needsQuotes c = false) ∧ ∃ c ∈ cs, isBlank c = true

theorem not_isCut_head_bare {cs rest : List Char} (hcs : ∀ c ∈ cs, needsQuotes c = false)
    (hrest : ∀ w, (lexemes rest).head? = some (.word w) → ¬IsCut w.toList) :
    ∀ w, (lexemes (cs ++ rest)).head? = some (.word w) → ¬IsCut w.toList := by
  induction cs with
  | nil => exact hrest
  | cons c cs ih =>
    intro w hw hcut
    by_cases hb : isBlank c = true
    · rw [List.cons_append, lexemes_blank hb] at hw
      exact ih (fun x hx => hcs x (by simp [hx])) w hw hcut
    · -- a bare word goes on to the next white space
      have hc := isWordChar_of_bare (by simpa using hb) (hcs c (by simp))
      rw [List.cons_append, lexemes_word hc, List.head?_cons, Option.some.injEq, Lexeme.word.injEq] at hw
      obtain ⟨-, -, x, hx, hblank⟩ := hcut
      rw [← hw, String.toList_ofList] at hx
      rcases List.mem_cons.1 hx with rfl | hx
      · exact hb hblank
      · have hword := List.mem_takeWhile_imp hx
        rw [isWordChar_iff, hblank] at hword
        exact absurd hword.1 (by simp)

theorem not_isCut_head (args : List String) :
    ∀ w, (lexemes (restOfLine args)).head? = some (.word w) → ¬IsCut w.toList := by
  induction args with
  | nil =>
    intro w hw
    rw [restOfLine, lexemes_semicolon] at hw
    cases hw
  | cons a as ih =>
    rw [restOfLine, lexemes_blank (by decide)]
    by_cases hneed : a.toList = [] ∨ a.toList.any needsQuotes = true
    · obtain ⟨q, inner, hquoted⟩ := exists_quotedAs hneed
      obtain ⟨more, hhead, hmore⟩ := hquoted.head (restOfLine as)
      intro w hw hcut
      rw [hhead, Option.some.injEq, Lexeme.word.injEq] at hw
      rw [← hw, String.toList_ofList] at hcut
      obtain ⟨hne, hbare, -⟩ := hcut
      rcases hquoted.needs with hnil | hany
      · have ha : a.toList = [] := by
          have hlength := hquoted.length
          rw [hnil, List.length_nil] at hlength
          exact List.eq_nil_of_length_eq_zero (by omega)
        rw [hnil, hmore.2 (by simp [ha])] at hne
        exact hne rfl
      · obtain ⟨c, hc, hneeds⟩ := List.any_eq_true.1 hany
        rw [hbare c (List.mem_append_left _ hc)] at hneeds
        cases hneeds
    · rw [not_or, Bool.not_eq_true, List.any_eq_false] at hneed
      have hbare : ∀ c ∈ a.toList, needsQuotes c = false := fun c hc => by simpa using hneed.2 c hc
      have hwritten : quoteChars a.toList = a.toList := by
        rw [quoteChars, if_pos]
        simpa [hneed.1] using hbare
      rw [hwritten]
      exact not_isCut_head_bare hbare ih

/-! ### The first argument that is lost -/

theorem quotable_of_head {a : String} {as : List String}
    (h : (lexemes (quoteChars a.toList ++ restOfLine as)).head? = some (.word a)) : Quotable a := by
  by_cases hneed : a.toList = [] ∨ a.toList.any needsQuotes = true
  · obtain ⟨q, inner, hquoted⟩ := exists_quotedAs hneed
    obtain ⟨more, hhead, hmore⟩ := hquoted.head (restOfLine as)
    rw [h, Option.some.injEq, Lexeme.word.injEq] at hhead
    have hvalue : a.toList = inner ++ more := by rw [hhead, String.toList_ofList]
    have hnil : more = [] := by
      have hlength := hquoted.length
      rw [hvalue, List.length_append] at hlength
      exact List.eq_nil_of_length_eq_zero (by omega)
    rw [hnil, List.append_nil] at hvalue
    exact .inr ⟨hneed, hmore.1 hnil, hquoted.kept hvalue.symm⟩
  · have hne : a.toList ≠ [] := fun hnil => hneed (.inl hnil)
    have hbare : ∀ c ∈ a.toList, needsQuotes c = false := by
      intro c hc
      by_contra hc'
      exact hneed (.inr (List.any_eq_true.2 ⟨c, hc, by simpa using hc'⟩))
    have hcut : ¬IsCut a.toList := by
      refine not_isCut_head (a :: as) a ?_
      rw [restOfLine, lexemes_blank (by decide)]
      exact h
    refine .inl ⟨hne, fun c hc => ⟨?_, hbare c hc⟩⟩
    by_contra hb
    exact hcut ⟨hne, hbare, c, hc, by simpa using hb⟩

theorem lexemes_restOfLine_iff (args : List String) :
    lexemes (restOfLine args) = args.map .word ++ [.semicolon] ↔ ∀ a ∈ args, Quotable a := by
  induction args with
  | nil => simp [restOfLine, lexemes_semicolon]
  | cons a as ih =>
    rw [restOfLine, lexemes_blank (by decide), List.forall_mem_cons, ← ih]
    by_cases ha : Quotable a
    · have hread := readsWord_quoteArg ha (restOfLine as) (endsWord_restOfLine as)
      rw [quoteArg, String.toList_ofList] at hread
      rw [hread, List.map_cons, List.cons_append, List.cons.injEq]
      simp [ha]
    · constructor
      · intro h
        have hhead : (lexemes (quoteChars a.toList ++ restOfLine as)).head? = some (.word a) := by
          rw [h]
          rfl
        exact absurd (quotable_of_head hhead) ha
      · intro h
        exact absurd h.1 ha

/-- A line is read as its name and its arguments exactly if all of these are quotable. Of one that is not because
it holds both kinds of quotes a word is read that has the same written form. -/
theorem tokenize_directiveLine :
    (∀ name args, IsName name →
      ((tokenize (directiveLine name args)).map Token.lexeme = .word name :: (args.map .word ++ [.semicolon]) ↔
        ∀ a ∈ args, Quotable a)) ∧
    ∀ arg : String, '"' ∈ arg.toList → '\'' ∈ arg.toList → arg.toList.getLast? ≠ some '\\' →
      ∃ v, (tokenize (quoteArg arg)).map Token.lexeme = [.word v] ∧ quoteArg v = quoteArg arg := by
  constructor
  · intro name args hn
    have hread := readsWord_of_isName hn (restOfLine args) (endsWord_restOfLine args)
    rw [tokenize, map_lexeme_scan, toList_directiveLine, hread, List.cons.injEq, lexemes_restOfLine_iff]
    simp
  · intro arg hd hs hlast
    obtain ⟨v, hv, hwritten⟩ := exists_quotable (.inr ⟨.inr (List.any_eq_true.2 ⟨_, hd, rfl⟩), hlast⟩)
    have hread := readsWord_quoteArg hv [] (by simp [EndsWord])
    rw [List.append_nil, lexemes_nil, hwritten] at hread
    exact ⟨v, by rw [tokenize, map_lexeme_scan, hread], hwritten⟩

/-- A path that ends in a backslash swallows the argument after it, and a text with both kinds of quotes is read
with a backslash. -/
theorem tokenize_directiveLine_backslash :
    IsName "alias" ∧ ¬(tokenize (directiveLine "alias" ["C:\\my files\\", "always"])).map Token.lexeme =
        [.word "alias", .word "C:\\my files\\", .word "always", .semicolon] ∧
      ∃ v, (tokenize (quoteArg "it's \"so\"")).map Token.lexeme = [.word v] ∧ quoteArg v = quoteArg "it's \"so\"" := by
  obtain ⟨hline, hquotes⟩ := tokenize_directiveLine
  have hn : IsName "alias" := by decide
  refine ⟨hn, fun h => ?_, hquotes _ (by decide) (by decide) (by decide)⟩
  exact absurd ((hline "alias" ["C:\\my files\\", "always"] hn).1 h) (by decide)

end SiteConf
