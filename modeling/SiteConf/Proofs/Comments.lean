import SiteConf.Proofs.Accepted
import SiteConf.Proofs.Spans

/-!
# Comments between statements and inside of them

The tokens of a text without its comments have the same tree and the same errors as all its tokens, however broken
the text is, as long as no comment stands inside of a statement. A comment inside of one cuts it, and that is an
error. Main statement: `Tree.ofText_withoutComments`.

Where a statement is cut, the rest of its line is skipped. That comments can be left out there, too, rests on the
order of the lines: what is skipped are just the tokens of that line (`dropWhile_line_eq_filter`).
-/

namespace SiteConf
open Text Lexeme

/-- The tokens that are no comments. -/
def withoutComments (ts : List Token) : List Token := ts.filter fun t => !isComment t.lexeme

/-- A comment stands directly after a word, and what comes after it, and after the comments that follow it, is
another word of the statement or the end of the statement. -/
def CommentInside (ts : List Token) : Prop :=
  ∃ before word comment after next, ts = before ++ word :: comment :: after ∧ word.lexeme.isWord = true ∧
    isComment comment.lexeme = true ∧ (withoutComments after).head? = some next ∧ next.lexeme ≠ .blockClose

theorem commentInside_cons_cons (t c : Token) (ts : List Token) : CommentInside (t :: c :: ts) ↔
    (t.lexeme.isWord = true ∧ isComment c.lexeme = true ∧
      ∃ next ∈ (withoutComments ts).head?, next.lexeme ≠ .blockClose) ∨ CommentInside (c :: ts) := by
  constructor
  · rintro ⟨before, word, comment, after, next, hts, hword, hcomment, hnext, hclose⟩
    cases before with
    | nil =>
      simp only [List.nil_append, List.cons.injEq] at hts
      obtain ⟨rfl, rfl, rfl⟩ := hts
      exact .inl ⟨hword, hcomment, next, hnext, hclose⟩
    | cons b before =>
      exact .inr ⟨before, word, comment, after, next, (List.cons.inj hts).2, hword, hcomment, hnext, hclose⟩
  · rintro (⟨hword, hcomment, next, hnext, hclose⟩ | ⟨before, word, comment, after, next, hts, hinside⟩)
    · exact ⟨[], t, c, ts, next, rfl, hword, hcomment, hnext, hclose⟩
    · exact ⟨t :: before, word, comment, after, next, by rw [hts, List.cons_append], hinside⟩

instance decidableCommentInside : (ts : List Token) → Decidable (CommentInside ts)
  | [] => isFalse fun ⟨_, _, _, _, _, h, _⟩ => by simp at h
  | [_] => isFalse fun ⟨_, _, _, _, _, h, _⟩ => by
    have := congrArg List.length h
    simp at this
    omega
  | t :: c :: ts =>
    have := decidableCommentInside (c :: ts)
    decidable_of_iff _ (commentInside_cons_cons t c ts).symm

theorem withoutComments_cons {t : Token} (h : isComment t.lexeme = false) (ts : List Token) :
    withoutComments (t :: ts) = t :: withoutComments ts :=
  List.filter_cons_of_pos (by rw [h]; rfl)

theorem withoutComments_comment {t : Token} (h : isComment t.lexeme = true) (ts : List Token) :
    withoutComments (t :: ts) = withoutComments ts :=
  List.filter_cons_of_neg (by rw [h]; decide)

theorem CommentInside.of_suffix {ts us : List Token} (hs : ts <:+ us) (h : CommentInside ts) : CommentInside us := by
  obtain ⟨pre, rfl⟩ := hs
  obtain ⟨before, word, comment, after, next, rfl, hinside⟩ := h
  exact ⟨pre ++ before, word, comment, after, next, (List.append_assoc ..).symm, hinside⟩

/-! ### Lines in order -/

/-- No token stands on an earlier line than one before it. -/
def InOrder (ts : List Token) : Prop := ts.Pairwise fun t u => t.line ≤ u.line

theorem InOrder.of_suffix {ts us : List Token} (hs : ts <:+ us) (h : InOrder us) : InOrder ts := h.sublist hs.sublist

theorem Covers.inOrder {line : Int} {ps : List Piece} (h : Covers line ps) :
    InOrder (ps.map Piece.token) ∧ ∀ p ∈ ps, line ≤ p.token.line := by
  induction ps generalizing line with
  | nil => exact ⟨.nil, by simp⟩
  | cons p ps ih =>
    obtain ⟨hline, -, -, hrest⟩ := h
    obtain ⟨horder, hle⟩ := ih hrest
    have hlater : ∀ q ∈ ps, line ≤ q.token.line := fun q hq => by
      have := hle q hq
      omega
    refine ⟨List.pairwise_cons.2 ⟨fun t ht => ?_, horder⟩, List.forall_mem_cons.2 ⟨hline.ge, hlater⟩⟩
    obtain ⟨q, hq, rfl⟩ := List.mem_map.1 ht
    exact hline.le.trans (hlater q hq)

theorem inOrder_tokenize (text : String) : InOrder (tokenize text) := by
  obtain ⟨lead, ps, -, -, htokens, hcovers⟩ := exists_covers 1 text.toList
  rw [tokenize, ← htokens]
  exact hcovers.inOrder.1

theorem dropWhile_line_eq_filter {line : Int} {ts : List Token} (horder : InOrder ts) (hle : ∀ t ∈ ts, line ≤ t.line) :
    ts.dropWhile (·.line == line) = ts.filter fun t => !(t.line == line) := by
  induction ts with
  | nil => rfl
  | cons t ts ih =>
    obtain ⟨hlater, horder⟩ := List.pairwise_cons.1 horder
    rw [List.forall_mem_cons] at hle
    by_cases ht : t.line = line
    · rw [List.dropWhile_cons_of_pos (by simpa using ht), List.filter_cons_of_neg (by simpa using ht)]
      exact ih horder hle.2
    · -- the first token of a later line: all tokens after it stand on later lines as well
      have hne : ∀ u ∈ t :: ts, (!(u.line == line)) = true := by
        intro u hu
        rw [Bool.not_eq_true', beq_eq_false_iff_ne]
        rcases List.mem_cons.1 hu with rfl | hu
        · exact ht
        · have := hlater u hu
          omega
      rw [List.dropWhile_cons_of_neg (by simpa using ht), List.filter_eq_self.2 hne]

theorem withoutComments_dropWhile_line {line : Int} {ts : List Token} (horder : InOrder ts)
    (hle : ∀ t ∈ ts, line ≤ t.line) :
    (withoutComments ts).dropWhile (·.line == line) = withoutComments (ts.dropWhile (·.line == line)) := by
  rw [dropWhile_line_eq_filter horder hle, withoutComments, withoutComments,
    dropWhile_line_eq_filter (horder.sublist List.filter_sublist) fun t ht => hle t (List.mem_of_mem_filter ht),
    List.filter_filter, List.filter_filter]
  exact List.filter_congr fun t _ => Bool.and_comm ..

namespace Tree

/-! ### Words without comments -/

theorem dropWords_suffix (ts : List Token) : dropWords ts <:+ ts := by
  fun_induction dropWords ts with
  | case1 line w ts ih => exact ih.trans (List.suffix_cons _ _)
  | case2 => exact List.suffix_rfl

theorem suffix_of_dropWords_eq {t : Token} {ts rest : List Token} (h : dropWords ts = t :: rest) : rest <:+ ts :=
  (List.suffix_cons t rest).trans (h ▸ dropWords_suffix ts)

/-- Only a closing brace has comments between it and a word. -/
theorem head_of_head_withoutComments {t next : Token} {ts : List Token} (ht : t.lexeme.isWord = true)
    (hinside : ¬CommentInside (t :: ts)) (hnext : (withoutComments ts).head? = some next)
    (hclose : next.lexeme ≠ .blockClose) : ts.head? = some next := by
  cases ts with
  | nil => cases hnext
  | cons c ts =>
    cases hc : isComment c.lexeme with
    | true =>
      rw [withoutComments_comment hc] at hnext
      exact (hinside ⟨[], t, c, ts, next, rfl, ht, hc, hnext, hclose⟩).elim
    | false => rwa [withoutComments_cons hc] at hnext

theorem words_of_not_word {ts : List Token} (h : ∀ t ∈ ts.head?, t.lexeme.isWord = false) :
    leadingWords ts = [] ∧ dropWords ts = ts := by
  constructor
  · unfold leadingWords
    split
    · cases h _ rfl
    · rfl
  · unfold dropWords
    split
    · cases h _ rfl
    · rfl

theorem words_withoutComments {t : Token} {ts : List Token} (ht : t.lexeme.isWord = true)
    (hinside : ¬CommentInside (t :: ts)) :
    leadingWords (withoutComments ts) = leadingWords ts ∧
      dropWords (withoutComments ts) = withoutComments (dropWords ts) ∧
        ∀ next, (withoutComments (dropWords ts)).head? = some next → next.lexeme ≠ .blockClose →
          (dropWords ts).head? = some next := by
  fun_induction dropWords ts generalizing t with
  | case1 line w ts ih =>
    obtain ⟨hleading, hdrop, hhead⟩ := ih rfl fun h => hinside (h.of_suffix (List.suffix_cons _ _))
    rw [withoutComments_cons rfl, leadingWords, leadingWords, dropWords, hleading]
    exact ⟨rfl, hdrop, hhead⟩
  | case2 ts hword =>
    have hhead : ∀ next, (withoutComments ts).head? = some next → next.lexeme ≠ .blockClose → ts.head? = some next :=
      fun next hnext hclose => head_of_head_withoutComments ht hinside hnext hclose
    have hnone : ∀ u ∈ ts.head?, u.lexeme.isWord = false := by
      rintro ⟨line, lexeme⟩ hu
      cases lexeme with
      | word w =>
        obtain ⟨rest, rfl⟩ : ∃ rest, ts = ⟨line, .word w⟩ :: rest := ⟨ts.tail, (List.cons_head?_tail hu).symm⟩
        exact (hword line w rest rfl).elim
      | _ => rfl
    -- a word that came first without comments would come first with them
    have hnone' : ∀ u ∈ (withoutComments ts).head?, u.lexeme.isWord = false := by
      intro u hu
      by_contra hw
      have hclose : u.lexeme ≠ .blockClose := fun h => hw (by rw [h]; rfl)
      exact hw (hnone u (hhead u hu hclose))
    rw [(words_of_not_word hnone).1, (words_of_not_word hnone').1, (words_of_not_word hnone').2]
    exact ⟨rfl, rfl, hhead⟩

/-! ### The loop -/

section
variable (stack : List Frame) (nodes : List Node) (line : Int) (name : String) {ts rest : List Token} {line' : Int}

theorem build_of_dropWords_blockOpen (h : dropWords ts = ⟨line', .blockOpen⟩ :: rest) :
    build stack nodes (⟨line, .word name⟩ :: ts) = build (⟨name, leadingWords ts, line, nodes⟩ :: stack) [] rest := by
  rw [build]
  split
  · next h' =>
    rw [h] at h'
    rw [(List.cons.inj h').2]
  · next h' =>
    rw [h] at h'
    cases h'
  · next h' _ => exact (h' _ _ h).elim

theorem build_of_dropWords_semicolon (h : dropWords ts = ⟨line', .semicolon⟩ :: rest) :
    build stack nodes (⟨line, .word name⟩ :: ts) =
      build stack (.directive name (leadingWords ts) line :: nodes) rest := by
  rw [build]
  split
  · next h' =>
    rw [h] at h'
    cases h'
  · next h' =>
    rw [h] at h'
    rw [(List.cons.inj h').2]
  · next h' => exact (h' _ _ h).elim

theorem build_of_dropWords_other (h : ∀ t ∈ (dropWords ts).head?, t.lexeme.endsStatement = false) :
    build stack nodes (⟨line, .word name⟩ :: ts) =
      { build stack nodes ((dropWords ts).dropWhile (·.line == line)) with
        errors := .unexpectedToken name line ::
          (build stack nodes ((dropWords ts).dropWhile (·.line == line))).errors } := by
  rw [build]
  split
  · next h' =>
    rw [h'] at h
    cases h _ rfl
  · next h' =>
    rw [h'] at h
    cases h _ rfl
  · rfl

end

/-- Comments that stand inside of no statement carry no structure, wherever the loop is. -/
theorem build_withoutComments (stack : List Frame) (nodes : List Node) (ts : List Token) (horder : InOrder ts)
    (hinside : ¬CommentInside ts) : build stack nodes (withoutComments ts) = build stack nodes ts := by
  fun_induction build stack nodes ts with
  | case1 stack nodes => rw [withoutComments, List.filter_nil, build]
  | case2 nodes line ts f stack ih =>
    have hs := List.suffix_cons (⟨line, .blockClose⟩ : Token) ts
    rw [withoutComments_cons rfl, build, ih (horder.of_suffix hs) fun h => hinside (h.of_suffix hs)]
  | case3 nodes line ts tree ih =>
    have hs := List.suffix_cons (⟨line, .blockClose⟩ : Token) ts
    rw [withoutComments_cons rfl, build, ih (horder.of_suffix hs) fun h => hinside (h.of_suffix hs)]
  | case4 stack nodes line ts ih =>
    have hs := List.suffix_cons (⟨line, .blockOpen⟩ : Token) ts
    rw [withoutComments_cons rfl, build, ih (horder.of_suffix hs) fun h => hinside (h.of_suffix hs)]
  | case5 stack nodes line ts ih =>
    have hs := List.suffix_cons (⟨line, .semicolon⟩ : Token) ts
    rw [withoutComments_cons rfl, build, ih (horder.of_suffix hs) fun h => hinside (h.of_suffix hs)]
  | case6 stack nodes line text ts ih =>
    have hs := List.suffix_cons (⟨line, .comment text⟩ : Token) ts
    rw [withoutComments_comment rfl, ih (horder.of_suffix hs) fun h => hinside (h.of_suffix hs)]
  | case7 stack nodes line name ts args line' rest hd ih =>
    obtain ⟨hleading, hdrop, -⟩ := words_withoutComments rfl hinside
    have hs := (suffix_of_dropWords_eq hd).trans (List.suffix_cons ⟨line, .word name⟩ ts)
    rw [hd, withoutComments_cons rfl] at hdrop
    rw [withoutComments_cons rfl, build_of_dropWords_blockOpen _ _ _ _ hdrop, hleading,
      ih (horder.of_suffix hs) fun h => hinside (h.of_suffix hs)]
  | case8 stack nodes line name ts args line' rest hd ih =>
    obtain ⟨hleading, hdrop, -⟩ := words_withoutComments rfl hinside
    have hs := (suffix_of_dropWords_eq hd).trans (List.suffix_cons ⟨line, .word name⟩ ts)
    rw [hd, withoutComments_cons rfl] at hdrop
    rw [withoutComments_cons rfl, build_of_dropWords_semicolon _ _ _ _ hdrop, hleading,
      ih (horder.of_suffix hs) fun h => hinside (h.of_suffix hs)]
  | case9 stack nodes line name ts hopen hsemi tree ih =>
    obtain ⟨-, hdrop, hhead⟩ := words_withoutComments rfl hinside
    have hs : dropWords ts <:+ (⟨line, .word name⟩ :: ts) := (dropWords_suffix ts).trans (List.suffix_cons _ _)
    have hle : ∀ t ∈ dropWords ts, line ≤ t.line := fun t ht =>
      (List.pairwise_cons.1 horder).1 t ((dropWords_suffix ts).subset ht)
    have hrest : (dropWords ts).dropWhile (·.line == line) <:+ (⟨line, .word name⟩ :: ts) :=
      (List.dropWhile_suffix _).trans hs
    -- what ends the statement without comments would end it with them
    have hother : ∀ t ∈ (dropWords (withoutComments ts)).head?, t.lexeme.endsStatement = false := by
      intro t ht
      by_contra hend
      rw [hdrop] at ht
      have hfirst := hhead t ht fun h => hend (by rw [h]; rfl)
      obtain ⟨line', lexeme⟩ := t
      have hcons := (List.cons_head?_tail hfirst).symm
      cases lexeme with
      | blockOpen => exact hopen line' _ hcons
      | semicolon => exact hsemi line' _ hcons
      | _ => exact hend rfl
    rw [withoutComments_cons rfl, build_of_dropWords_other _ _ _ _ hother, hdrop,
      withoutComments_dropWhile_line (horder.of_suffix hs) hle,
      ih (horder.of_suffix hrest) fun h => hinside (h.of_suffix hrest)]

/-- A comment inside of a statement cuts it, and that is an error. -/
theorem errors_ne_nil_of_commentInside {ts : List Token} (h : CommentInside ts) : (ofTokens ts).errors ≠ [] := by
  obtain ⟨before, word, comment, after, -, rfl, hword, hcomment, -⟩ := h
  intro herrors
  have hfollowed := ((errors_build_eq_nil_iff [] [] _).1 herrors).1
  rw [List.map_append] at hfollowed
  obtain ⟨l, hl, hnext⟩ := (followed_of_append hfollowed).1 hword
  obtain rfl : comment.lexeme = l := by simpa using hl
  cases hl' : comment.lexeme with
  | comment text =>
    rw [hl'] at hnext
    rcases hnext with hnext | hnext <;> cases hnext
  | _ =>
    rw [hl'] at hcomment
    cases hcomment

/-- The tokens of a text have the same tree and the same errors without its comments, if none of these stands inside
of a statement. One that does is an error. -/
theorem ofText_withoutComments (text : String) :
    (¬CommentInside (tokenize text) → ofTokens (withoutComments (tokenize text)) = ofText text) ∧
      (CommentInside (tokenize text) → (ofText text).errors ≠ []) :=
  ⟨build_withoutComments [] [] _ (inOrder_tokenize text), errors_ne_nil_of_commentInside⟩

/-- Comments between statements, at the end of a line and before a brace that closes a block too early, and one
between the arguments of a statement. -/
theorem ofText_withoutComments_places :
    let text := "# top\nserver \x7b # open\n    listen 80; # port\n    root /srv # no end\n\x7d\n"
    let cut := "server_name a.org # main\n    b.org;\n"
    (¬CommentInside (tokenize text) ∧ ofTokens (withoutComments (tokenize text)) = ofText text) ∧
      CommentInside (tokenize cut) ∧ (ofText cut).errors ≠ [] := by
  intro text cut
  have hbetween : ¬CommentInside (tokenize text) := by decide +kernel
  have hinside : CommentInside (tokenize cut) := by decide +kernel
  exact ⟨⟨hbetween, (ofText_withoutComments text).1 hbetween⟩, hinside, (ofText_withoutComments cut).2 hinside⟩

end Tree
end SiteConf
