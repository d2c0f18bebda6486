import SiteConf.Proofs.Spelling

/-!
# Which token lists are trees

Building a tree reports no error exactly if every run of words ends a statement and the blocks are
nested (`RunsEnd`, `BlocksClose`), and the tree then holds all tokens that carry structure, in their
order (`Tree.ofTokens_accepts`).

Both sides are brought to a form that reads one lexeme after the other: `Followed` looks at two
neighbours, and `Nests` starts inside of open blocks. The loop is compared with these.
-/

namespace SiteConf

/-! ### Trees as lexemes -/

mutual
/-- The lexemes that a node stands for. -/
def Node.flatten : Node → List Lexeme
  | .directive name args _ => .word name :: (args.map .word ++ [.semicolon])
  | .block name args _ children =>
    .word name :: (args.map .word ++ .blockOpen :: (flattenAll children ++ [.blockClose]))

def flattenAll : List Node → List Lexeme
  | [] => []
  | n :: ns => n.flatten ++ flattenAll ns
end

theorem flattenAll_append (xs ys : List Node) : flattenAll (xs ++ ys) = flattenAll xs ++ flattenAll ys := by
  induction xs with
  | nil => rfl
  | cons x xs ih => rw [List.cons_append, flattenAll, flattenAll, ih, List.append_assoc]

/-! ### Lexemes that carry structure -/

namespace Lexeme

def isWord : Lexeme → Bool
  | word _ => true
  | _ => false

/-- It ends a statement that stands directly before it. -/
def endsStatement : Lexeme → Bool
  | semicolon | blockOpen => true
  | _ => false

end Lexeme

open Lexeme

/-- The lexemes without comments, and without the semicolons and opening braces that do not stand
directly after a word. `after` says whether a word stands directly before the list. -/
def structural (after : Bool) : List Lexeme → List Lexeme
  | [] => []
  | .word w :: ls => .word w :: structural true ls
  | .blockClose :: ls => .blockClose :: structural false ls
  | .comment _ :: ls => structural false ls
  | l :: ls => if after then l :: structural false ls else structural false ls

/-- Every maximal run of words is directly followed by a semicolon or an opening brace. -/
def RunsEnd (ls : List Lexeme) : Prop :=
  ∀ before run rest, ls = before ++ run ++ rest → run ≠ [] → (∀ l ∈ run, l.isWord = true) →
    (∀ l ∈ before.getLast?, l.isWord = false) → (∀ l ∈ rest.head?, l.isWord = false) →
    ∃ l ∈ rest.head?, l.endsStatement = true

/-- The opening braces directly after a word. -/
def opened (after : Bool) : List Lexeme → Nat
  | [] => 0
  | l :: ls => (if after = true ∧ l = .blockOpen then 1 else 0) + opened l.isWord ls

def closed (ls : List Lexeme) : Nat := ls.count .blockClose

/-- No part at the start closes more blocks than it opens, and all blocks are closed. -/
def BlocksClose (ls : List Lexeme) : Prop :=
  (∀ start, start <+: ls → closed start ≤ opened false start) ∧ closed ls = opened false ls

example : structural false [.comment "a", .semicolon, .word "b", .word "c", .blockOpen, .blockOpen,
    .word "d", .semicolon, .semicolon, .blockClose] =
      [.word "b", .word "c", .blockOpen, .word "d", .semicolon, .blockClose] := by decide

/-! ### Runs of words -/

/-- Directly after each word stands a word or the end of a statement. -/
def Followed : List Lexeme → Prop
  | [] => True
  | l :: ls => (l.isWord = true → ∃ m ∈ ls.head?, m.isWord = true ∨ m.endsStatement = true) ∧ Followed ls

theorem followed_of_append {xs ys : List Lexeme} (h : Followed (xs ++ ys)) : Followed ys := by
  induction xs with
  | nil => exact h
  | cons x xs ih => exact ih h.2

theorem runsEnd_iff_followed (ls : List Lexeme) : RunsEnd ls ↔ Followed ls := by
  constructor
  · intro h
    -- each word of the list is the last one of the run that reaches up to it
    have hword : ∀ before l rest, ls = before ++ l :: rest → l.isWord = true →
        ∃ m ∈ rest.head?, m.isWord = true ∨ m.endsStatement = true := by
      intro before l rest hls hl
      by_cases hm : ∃ m ∈ rest.head?, m.isWord = true
      · obtain ⟨m, hm, hw⟩ := hm
        exact ⟨m, hm, .inl hw⟩
      · have hbefore : before.rdropWhile Lexeme.isWord ++ before.rtakeWhile Lexeme.isWord = before := by
          rw [List.rdropWhile, List.rtakeWhile, ← List.reverse_append, List.takeWhile_append_dropWhile,
            List.reverse_reverse]
        have hsplit : ls = before.rdropWhile Lexeme.isWord ++ (before.rtakeWhile Lexeme.isWord ++ [l]) ++ rest := by
          rw [← List.append_assoc, hbefore, hls, List.append_assoc, List.singleton_append]
        have hrun : ∀ x ∈ before.rtakeWhile Lexeme.isWord ++ [l], x.isWord = true := by
          intro x hx
          rcases List.mem_append.1 hx with hx | hx
          · exact List.mem_rtakeWhile_imp hx
          · rwa [List.mem_singleton.1 hx]
        have hstart : ∀ x ∈ (before.rdropWhile Lexeme.isWord).getLast?, x.isWord = false := by
          intro x hx
          have hne : before.rdropWhile Lexeme.isWord ≠ [] := by
            intro hnil
            rw [hnil] at hx
            cases hx
          have hlast := List.rdropWhile_last_not Lexeme.isWord before hne
          rw [List.getLast?_eq_some_getLast hne, Option.mem_some_iff] at hx
          rw [← hx]
          simpa using hlast
        have hrest : ∀ x ∈ rest.head?, x.isWord = false := by
          intro x hx
          by_contra hw
          exact hm ⟨x, hx, by simpa using hw⟩
        obtain ⟨m, hmem, hend⟩ := h _ _ _ hsplit (by simp) hrun hstart hrest
        exact ⟨m, hmem, .inr hend⟩
    have hall : ∀ rest before, ls = before ++ rest → Followed rest := by
      intro rest
      induction rest with
      | nil => intro _ _; trivial
      | cons l rest ih =>
        intro before hls
        exact ⟨hword before l rest hls, ih (before ++ [l]) (by simpa using hls)⟩
    exact hall ls [] rfl
  · rintro h before run rest rfl hne hrun - hrest
    obtain ⟨run', l, rfl⟩ : ∃ run' l, run = run' ++ [l] :=
      ⟨run.dropLast, run.getLast hne, (List.dropLast_append_getLast hne).symm⟩
    have hlast : before ++ (run' ++ [l]) ++ rest = (before ++ run') ++ l :: rest := by simp
    rw [hlast] at h
    have hsplit : Followed (l :: rest) := followed_of_append h
    obtain ⟨m, hm, hword | hend⟩ := hsplit.1 (hrun l (by simp))
    · rw [hrest m hm] at hword
      cases hword
    · exact ⟨m, hm, hend⟩

theorem followed_cons {l : Lexeme} (h : l.isWord = false) (ls : List Lexeme) : Followed (l :: ls) ↔ Followed ls := by
  simp [Followed, h]

theorem followed_words (w : String) (ws : List String) {rest : List Lexeme}
    (hrest : ∀ l ∈ rest.head?, l.isWord = false) :
    Followed (.word w :: (ws.map .word ++ rest)) ↔ (∃ l ∈ rest.head?, l.endsStatement = true) ∧ Followed rest := by
  induction ws generalizing w with
  | nil =>
    have hhead : (∃ m ∈ rest.head?, m.isWord = true ∨ m.endsStatement = true) ↔
        ∃ m ∈ rest.head?, m.endsStatement = true := by
      constructor
      · rintro ⟨m, hm, hw | he⟩
        · rw [hrest m hm] at hw
          cases hw
        · exact ⟨m, hm, he⟩
      · rintro ⟨m, hm, he⟩
        exact ⟨m, hm, .inr he⟩
    rw [List.map_nil, List.nil_append, Followed, hhead]
    simp [Lexeme.isWord]
  | cons v ws ih =>
    rw [List.map_cons, List.cons_append, Followed, ih v]
    simp [Lexeme.isWord]

/-! ### Nesting -/

/-- The lexemes close what they open, and `depth` blocks that are open before them. -/
def Nests (depth : Nat) (after : Bool) (ls : List Lexeme) : Prop :=
  (∀ start, start <+: ls → closed start ≤ depth + opened after start) ∧ closed ls = depth + opened after ls

theorem blocksClose_iff_nests (ls : List Lexeme) : BlocksClose ls ↔ Nests 0 false ls := by
  simp [BlocksClose, Nests]

theorem nests_nil (depth : Nat) (after : Bool) : Nests depth after [] ↔ depth = 0 := by
  simp [Nests, closed, opened, eq_comm]

theorem nests_cons {l : Lexeme} (h : l ≠ .blockClose) (depth : Nat) (after : Bool) (ls : List Lexeme) :
    Nests depth after (l :: ls) ↔
      Nests (depth + if after = true ∧ l = .blockOpen then 1 else 0) l.isWord ls := by
  have hclosed : ∀ ls, closed (l :: ls) = closed ls := fun ls => List.count_cons_of_ne h
  unfold Nests
  constructor
  · rintro ⟨hstart, htotal⟩
    refine ⟨fun start hs => ?_, ?_⟩
    · have hle := hstart (l :: start) (List.cons_prefix_cons.2 ⟨rfl, hs⟩)
      rw [hclosed, opened] at hle
      omega
    · rw [hclosed, opened] at htotal
      omega
  · rintro ⟨hstart, htotal⟩
    refine ⟨fun start hs => ?_, ?_⟩
    · rcases List.prefix_cons_iff.1 hs with rfl | ⟨start', rfl, hs'⟩
      · exact Nat.zero_le _
      · have hle := hstart start' hs'
        rw [hclosed, opened]
        omega
    · rw [hclosed, opened]
      omega

theorem nests_blockClose (depth : Nat) (after : Bool) (ls : List Lexeme) :
    Nests depth after (.blockClose :: ls) ↔ 0 < depth ∧ Nests (depth - 1) false ls := by
  have hclosed : ∀ ls, closed (.blockClose :: ls) = closed ls + 1 := fun ls => List.count_cons_self
  have hopened : ∀ ls, opened after (.blockClose :: ls) = opened false ls := by
    intro ls
    simp [opened, Lexeme.isWord]
  unfold Nests
  constructor
  · rintro ⟨hstart, htotal⟩
    have hfirst := hstart [.blockClose] (by simp)
    rw [hclosed, hopened] at hfirst
    have hpos : 0 < depth := by
      simp only [closed, opened, List.count_nil] at hfirst
      omega
    refine ⟨hpos, fun start hs => ?_, ?_⟩
    · have hle := hstart (.blockClose :: start) (List.cons_prefix_cons.2 ⟨rfl, hs⟩)
      rw [hclosed, hopened] at hle
      omega
    · rw [hclosed, hopened] at htotal
      omega
  · rintro ⟨hpos, hstart, htotal⟩
    refine ⟨fun start hs => ?_, ?_⟩
    · rcases List.prefix_cons_iff.1 hs with rfl | ⟨start', rfl, hs'⟩
      · exact Nat.zero_le _
      · have hle := hstart start' hs'
        rw [hclosed, hopened]
        omega
    · rw [hclosed, hopened]
      omega

theorem nests_words (depth : Nat) (after : Bool) (w : String) (ws : List String) (rest : List Lexeme) :
    Nests depth after (.word w :: (ws.map .word ++ rest)) ↔ Nests depth true rest := by
  have hword : ∀ after w ls, Nests depth after (.word w :: ls) ↔ Nests depth true ls := by
    intro after w ls
    rw [nests_cons (by simp)]
    simp [Lexeme.isWord]
  induction ws generalizing w after with
  | nil => exact hword after w rest
  | cons v ws ih =>
    rw [hword, List.map_cons, List.cons_append]
    exact ih true v

theorem structural_words (after : Bool) (w : String) (ws : List String) (rest : List Lexeme) :
    structural after (.word w :: (ws.map .word ++ rest)) = .word w :: (ws.map .word ++ structural true rest) := by
  induction ws generalizing w after with
  | nil => rfl
  | cons v ws ih => rw [List.map_cons, List.cons_append, structural, ih true v, List.cons_append]

/-! ### The loop -/

namespace Tree

theorem map_lexeme_words (ts : List Token) :
    ts.map Token.lexeme = (leadingWords ts).map .word ++ (dropWords ts).map Token.lexeme := by
  fun_induction dropWords ts with
  | case1 line w ts ih => rw [leadingWords, List.map_cons, List.map_cons, List.cons_append, ih]
  | case2 ts hne =>
    have hnone : leadingWords ts = [] := by
      unfold leadingWords
      split
      · next line w us => exact absurd rfl (hne line w us)
      · rfl
    rw [hnone, List.map_nil, List.nil_append]

theorem isWord_head_dropWords (ts : List Token) :
    ∀ l ∈ ((dropWords ts).map Token.lexeme).head?, l.isWord = false := by
  fun_induction dropWords ts with
  | case1 line w ts ih => exact ih
  | case2 ts hne =>
    intro l hl
    cases ts with
    | nil => cases hl
    | cons t ts =>
      obtain ⟨line, lexeme⟩ := t
      cases Option.some.inj hl
      cases lexeme with
      | word w => exact absurd rfl (hne line w ts)
      | _ => rfl

/-- Building a tree reports no error if every run of words ends a statement and all blocks are closed, those of
the stack included. -/
theorem errors_build_eq_nil_iff (stack : List Frame) (nodes : List Node) (ts : List Token) :
    (build stack nodes ts).errors = [] ↔
      Followed (ts.map Token.lexeme) ∧ Nests stack.length false (ts.map Token.lexeme) := by
  fun_induction build stack nodes ts with
  | case1 stack nodes =>
    rw [List.map_nil, nests_nil]
    cases stack <;> simp [unclosed, Followed]
  | case2 nodes line ts f stack ih =>
    rw [ih, List.map_cons, followed_cons rfl, nests_blockClose]
    simp
  | case3 nodes line ts tree ih =>
    rw [List.map_cons, nests_blockClose]
    simp
  | case4 stack nodes line ts ih =>
    rw [ih, List.map_cons, followed_cons rfl, nests_cons (by simp)]
    simp [Lexeme.isWord]
  | case5 stack nodes line ts ih =>
    rw [ih, List.map_cons, followed_cons rfl, nests_cons (by simp)]
    simp [Lexeme.isWord]
  | case6 stack nodes line text ts ih =>
    rw [ih, List.map_cons, followed_cons rfl, nests_cons (by simp)]
    simp [Lexeme.isWord]
  | case7 stack nodes line name ts args line' rest hd ih =>
    have hhead := isWord_head_dropWords ts
    rw [List.map_cons, map_lexeme_words ts, nests_words, followed_words _ _ hhead, hd, ih, List.map_cons,
      followed_cons rfl, nests_cons (by simp)]
    simp [Lexeme.isWord, Lexeme.endsStatement]
  | case8 stack nodes line name ts args line' rest hd ih =>
    have hhead := isWord_head_dropWords ts
    rw [List.map_cons, map_lexeme_words ts, nests_words, followed_words _ _ hhead, hd, ih, List.map_cons,
      followed_cons rfl, nests_cons (by simp)]
    simp [Lexeme.isWord, Lexeme.endsStatement]
  | case9 stack nodes line name ts hopen hsemi tree ih =>
    have hhead := isWord_head_dropWords ts
    have hnot : ¬∃ l ∈ ((dropWords ts).map Token.lexeme).head?, l.endsStatement = true := by
      rintro ⟨l, hl, he⟩
      cases hd : dropWords ts with
      | nil =>
        rw [hd] at hl
        cases hl
      | cons t rest =>
        obtain ⟨line', lexeme⟩ := t
        rw [hd] at hl
        cases Option.some.inj hl
        cases lexeme with
        | blockOpen => exact hopen line' rest hd
        | semicolon => exact hsemi line' rest hd
        | _ => cases he
    have hloose : ¬Followed ((⟨line, .word name⟩ :: ts).map Token.lexeme) := by
      rw [List.map_cons, map_lexeme_words ts, followed_words _ _ hhead]
      exact fun h => hnot h.1
    exact ⟨fun h => (List.cons_ne_nil _ _ h).elim, fun h => (hloose h.1).elim⟩

/-- The lexemes of what is read so far: the open blocks with their earlier siblings, and the nodes of the
innermost one. -/
def context : List Frame → List Node → List Lexeme
  | [], nodes => flattenAll nodes.reverse
  | f :: stack, nodes =>
    context stack f.before ++ .word f.name :: (f.args.map .word ++ .blockOpen :: flattenAll nodes.reverse)

theorem context_cons (stack : List Frame) (n : Node) (nodes : List Node) :
    context stack (n :: nodes) = context stack nodes ++ n.flatten := by
  cases stack with
  | nil => simp [context, flattenAll_append, flattenAll]
  | cons f stack => simp [context, flattenAll_append, flattenAll]

/-- Without an error the tree holds what was read before and all that carries structure. -/
theorem flattenAll_build (stack : List Frame) (nodes : List Node) (ts : List Token)
    (h : (build stack nodes ts).errors = []) :
    flattenAll (build stack nodes ts).nodes = context stack nodes ++ structural false (ts.map Token.lexeme) := by
  fun_induction build stack nodes ts with
  | case1 stack nodes =>
    cases stack with
    | nil => simp [closeAll, context, structural]
    | cons f stack => cases h
  | case2 nodes line ts f stack ih =>
    rw [ih h, Frame.close, context_cons, List.map_cons, structural, context]
    simp [Node.flatten]
  | case3 nodes line ts tree ih => cases h
  | case4 stack nodes line ts ih =>
    rw [ih h]
    simp [structural]
  | case5 stack nodes line ts ih =>
    rw [ih h]
    simp [structural]
  | case6 stack nodes line text ts ih =>
    rw [ih h]
    simp [structural]
  | case7 stack nodes line name ts args line' rest hd ih =>
    rw [ih h, List.map_cons, map_lexeme_words ts, structural_words, hd]
    simp [context, flattenAll, structural, args]
  | case8 stack nodes line name ts args line' rest hd ih =>
    rw [ih h, context_cons, List.map_cons, map_lexeme_words ts, structural_words, hd]
    simp [Node.flatten, structural, args]
  | case9 stack nodes line name ts hopen hsemi tree ih => cases h

theorem flattenAll_ofTokens {ts : List Token} (h : (ofTokens ts).errors = []) :
    flattenAll (ofTokens ts).nodes = structural false (ts.map Token.lexeme) := by
  rw [ofTokens, flattenAll_build [] [] ts h]
  rfl

/-- The token lists without syntax errors, and what their trees hold. -/
theorem ofTokens_accepts (ts : List Token) :
    ((ofTokens ts).errors = [] ↔ RunsEnd (ts.map Token.lexeme) ∧ BlocksClose (ts.map Token.lexeme)) ∧
      ((ofTokens ts).errors = [] →
        flattenAll (ofTokens ts).nodes = structural false (ts.map Token.lexeme)) := by
  refine ⟨?_, flattenAll_ofTokens⟩
  rw [runsEnd_iff_followed, blocksClose_iff_nests]
  exact errors_build_eq_nil_iff [] [] ts

end Tree
end SiteConf
