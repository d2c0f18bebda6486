import SiteConf.Proofs.Lexemes

/-!
# From lines to nodes

`Spells c ls ns` says that the lexemes `ls` spell the nodes `ns`, with comments between statements
only and only if `c` allows them, and `Writes c lines ns` that the lines are read as such lexemes. What
stands before and after them does not count, so both can be put together piece by piece.

Main statement: lines that write nodes have a tree of these nodes, without errors (`Writes.ofText`).
Nodes are compared up to their lines, by `withoutLines`.
-/

namespace SiteConf
open Text Token

/-! ### Nodes without lines -/

mutual
/-- The node with all line numbers zero. -/
def Node.withoutLines : Node → Node
  | .directive name args _ => .directive name args 0
  | .block name args _ children => .block name args 0 (withoutLines children)

/-- The nodes with all line numbers zero. -/
def withoutLines : List Node → List Node
  | [] => []
  | n :: ns => n.withoutLines :: withoutLines ns
end

theorem withoutLines_eq_map (ns : List Node) : withoutLines ns = ns.map Node.withoutLines := by
  induction ns with
  | nil => rfl
  | cons n ns ih => simp [withoutLines, ih]

theorem withoutLines_append (xs ys : List Node) :
    withoutLines (xs ++ ys) = withoutLines xs ++ withoutLines ys := by simp [withoutLines_eq_map]

mutual
theorem Node.toLines_withoutLines (level : Int) : ∀ n : Node, n.withoutLines.toLines level = n.toLines level
  | .directive _ _ _ => by rw [Node.withoutLines, Node.toLines, Node.toLines]
  | .block _ _ _ children => by
    rw [Node.withoutLines, Node.toLines, Node.toLines, serialize_withoutLines (level + 1) children]

theorem serialize_withoutLines (level : Int) : ∀ ns : List Node,
    serialize level (withoutLines ns) = serialize level ns
  | [] => rfl
  | n :: ns => by
    rw [withoutLines, serialize, serialize, n.toLines_withoutLines level, serialize_withoutLines level ns]
end

theorem serialize_congr {xs ys : List Node} (h : withoutLines xs = withoutLines ys) (level : Int) :
    serialize level xs = serialize level ys := by
  rw [← serialize_withoutLines level xs, h, serialize_withoutLines]

/-! ### Lexemes that spell nodes -/

/-- The lexemes spell the nodes, whatever the lines of these are. Comments are allowed if `c` is true. -/
inductive Spells (c : Bool) : List Lexeme → List Node → Prop
  | nil : Spells c [] []
  | comment {ls ns} (text : String) (hc : c = true) : Spells c ls ns → Spells c (.comment text :: ls) ns
  | directive {ls ns} (name : String) (args : List String) (line : Int) : Spells c ls ns →
    Spells c (.word name :: (args.map .word ++ .semicolon :: ls)) (.directive name args line :: ns)
  | block {ls children ls' ns} (name : String) (args : List String) (line : Int) :
    Spells c ls children → Spells c ls' ns →
    Spells c (.word name :: (args.map .word ++ .blockOpen :: (ls ++ .blockClose :: ls')))
      (.block name args line children :: ns)

variable {c : Bool}

theorem Spells.append {ls ls' : List Lexeme} {ns ns' : List Node} (h : Spells c ls ns) (h' : Spells c ls' ns') :
    Spells c (ls ++ ls') (ns ++ ns') := by
  induction h with
  | nil => exact h'
  | comment text hc _ ih => exact .comment text hc ih
  | directive name args line _ ih => simpa using Spells.directive name args line ih
  | block name args line hc _ _ ih => simpa using Spells.block name args line hc ih

theorem leadingWords_append {ts us : List Token} {args : List String}
    (h : ts.map Token.lexeme = args.map .word) (hu : Tree.leadingWords us = []) :
    Tree.leadingWords (ts ++ us) = args := by
  induction ts generalizing args with
  | nil =>
    rw [List.map_nil, eq_comm, List.map_eq_nil_iff] at h
    subst h; exact hu
  | cons t ts ih =>
    obtain ⟨line, lexeme⟩ := t
    cases args with
    | nil => simp at h
    | cons a args =>
      simp only [List.map_cons, List.cons.injEq] at h
      obtain ⟨rfl, h⟩ := h
      rw [List.cons_append, Tree.leadingWords, ih h]

theorem dropWords_append {ts us : List Token} {args : List String}
    (h : ts.map Token.lexeme = args.map .word) (hu : Tree.dropWords us = us) :
    Tree.dropWords (ts ++ us) = us := by
  induction ts generalizing args with
  | nil => exact hu
  | cons t ts ih =>
    obtain ⟨line, lexeme⟩ := t
    cases args with
    | nil => simp at h
    | cons a args =>
      simp only [List.map_cons, List.cons.injEq] at h
      obtain ⟨rfl, h⟩ := h
      rw [List.cons_append, Tree.dropWords, ih h]

theorem build_directive (stack : List Tree.Frame) (nodes : List Node) (line line' : Int) {name : String}
    {args : List String} {ts : List Token} (us : List Token) (h : ts.map Token.lexeme = args.map .word) :
    Tree.build stack nodes (⟨line, .word name⟩ :: (ts ++ ⟨line', .semicolon⟩ :: us)) =
      Tree.build stack (.directive name args line :: nodes) us := by
  rw [Tree.build]
  have hd : Tree.dropWords (ts ++ ⟨line', .semicolon⟩ :: us) = ⟨line', .semicolon⟩ :: us := dropWords_append h rfl
  have hl : Tree.leadingWords (ts ++ ⟨line', .semicolon⟩ :: us) = args := leadingWords_append h rfl
  split
  · next hx => rw [hd] at hx; simp at hx
  · next hx => rw [hd] at hx; simp only [List.cons.injEq] at hx; rw [hl, hx.2]
  · next hx => exact absurd hd (hx _ _)

theorem build_blockOpen (stack : List Tree.Frame) (nodes : List Node) (line line' : Int) {name : String}
    {args : List String} {ts : List Token} (us : List Token) (h : ts.map Token.lexeme = args.map .word) :
    Tree.build stack nodes (⟨line, .word name⟩ :: (ts ++ ⟨line', .blockOpen⟩ :: us)) =
      Tree.build (⟨name, args, line, nodes⟩ :: stack) [] us := by
  rw [Tree.build]
  have hd : Tree.dropWords (ts ++ ⟨line', .blockOpen⟩ :: us) = ⟨line', .blockOpen⟩ :: us := dropWords_append h rfl
  have hl : Tree.leadingWords (ts ++ ⟨line', .blockOpen⟩ :: us) = args := leadingWords_append h rfl
  split
  · next hx => rw [hd] at hx; simp only [List.cons.injEq] at hx; rw [hl, hx.2]
  · next hx => rw [hd] at hx; simp at hx
  · next hx _ => exact absurd hd (hx _ _)

/-- Tokens that spell nodes add these nodes to the innermost open block, whatever follows. -/
theorem build_of_spells {ls : List Lexeme} {ns : List Node} (h : Spells c ls ns) :
    ∀ (ts : List Token), ts.map Token.lexeme = ls → ∀ (us : List Token) (stack : List Tree.Frame)
      (nodes : List Node), ∃ ns', withoutLines ns' = withoutLines ns ∧
        Tree.build stack nodes (ts ++ us) = Tree.build stack (ns'.reverse ++ nodes) us := by
  induction h with
  | nil =>
    intro ts ht us stack nodes
    rw [List.map_eq_nil_iff] at ht
    subst ht; exact ⟨[], rfl, rfl⟩
  | comment text _ _ ih =>
    intro ts ht us stack nodes
    obtain ⟨⟨line, _⟩, ts', rfl, rfl, ht'⟩ := List.map_eq_cons_iff.1 ht
    obtain ⟨ns', hns, hb⟩ := ih ts' ht' us stack nodes
    exact ⟨ns', hns, by rw [List.cons_append, Tree.build, hb]⟩
  | directive name args line' _ ih =>
    intro ts ht us stack nodes
    obtain ⟨⟨line, _⟩, _, rfl, rfl, ht'⟩ := List.map_eq_cons_iff.1 ht
    obtain ⟨as, _, rfl, has, ht'⟩ := List.map_eq_append_iff.1 ht'
    obtain ⟨⟨lineS, _⟩, ts', rfl, rfl, hts⟩ := List.map_eq_cons_iff.1 ht'
    obtain ⟨ns', hns, hb⟩ := ih ts' hts us stack (.directive name args line :: nodes)
    refine ⟨.directive name args line :: ns', by simp [withoutLines, Node.withoutLines, hns], ?_⟩
    rw [List.cons_append, List.append_assoc, List.cons_append, build_directive stack nodes _ _ _ has, hb]
    simp
  | block name args line' _ _ ihc ih =>
    intro ts ht us stack nodes
    obtain ⟨⟨line, _⟩, _, rfl, rfl, ht'⟩ := List.map_eq_cons_iff.1 ht
    obtain ⟨as, _, rfl, has, ht'⟩ := List.map_eq_append_iff.1 ht'
    obtain ⟨⟨lineO, _⟩, _, rfl, rfl, htc⟩ := List.map_eq_cons_iff.1 ht'
    obtain ⟨cs, _, rfl, hcs, htc⟩ := List.map_eq_append_iff.1 htc
    obtain ⟨⟨lineC, _⟩, ts', rfl, rfl, hts⟩ := List.map_eq_cons_iff.1 htc
    obtain ⟨cs', hcs', hbc⟩ := ihc cs hcs (⟨lineC, .blockClose⟩ :: (ts' ++ us))
      (⟨name, args, line, nodes⟩ :: stack) []
    obtain ⟨ns', hns, hb⟩ := ih ts' hts us stack (.block name args line cs' :: nodes)
    refine ⟨.block name args line cs' :: ns', by simp [withoutLines, Node.withoutLines, hns, hcs'], ?_⟩
    rw [List.cons_append, List.append_assoc, List.cons_append, build_blockOpen stack nodes _ _ _ has,
      List.append_assoc, List.cons_append, hbc, Tree.build]
    simp only [Tree.Frame.close, List.append_nil, List.reverse_reverse]
    rw [hb]
    simp

/-- Tokens that spell nodes have a tree of these nodes. -/
theorem ofTokens_of_spells {ts : List Token} {ns : List Node} (h : Spells c (ts.map Token.lexeme) ns) :
    (Tree.ofTokens ts).errors = [] ∧ withoutLines (Tree.ofTokens ts).nodes = withoutLines ns := by
  obtain ⟨ns', hns, hb⟩ := build_of_spells h ts rfl [] [] []
  rw [List.append_nil] at hb
  rw [Tree.ofTokens, hb, Tree.build]
  exact ⟨rfl, by simpa [Tree.closeAll] using hns⟩

def isComment : Lexeme → Bool
  | .comment _ => true
  | _ => false

/-! ### Lines -/

/-- The text is read as the lexemes, at the end of a line. -/
def ReadsAs (cs : List Char) (ls : List Lexeme) : Prop :=
  ∀ rest, (∀ c ∈ rest.head?, c = '\n') → lexemes (cs ++ rest) = ls ++ lexemes rest

theorem ReadsAs.lexemes_eq {cs : List Char} {ls : List Lexeme} (h : ReadsAs cs ls) : lexemes cs = ls := by
  simpa using h [] (by simp)

theorem readsAs_nil : ReadsAs [] [] := fun _ _ => rfl

theorem ReadsAs.blanks {pre cs : List Char} {ls : List Lexeme} (hp : ∀ c ∈ pre, isBlank c = true)
    (h : ReadsAs cs ls) : ReadsAs (pre ++ cs) ls := by
  intro rest hr
  rw [List.append_assoc, lexemes_blanks hp, h rest hr]

theorem ReadsAs.newline {cs cs' : List Char} {ls ls' : List Lexeme} (h : ReadsAs cs ls)
    (h' : ReadsAs cs' ls') : ReadsAs (cs ++ '\n' :: cs') (ls ++ ls') := by
  intro rest hr
  rw [List.append_assoc, List.cons_append, h _ (by simp), lexemes_blank (by decide), h' rest hr,
    List.append_assoc]

theorem readsAs_comment (cs : List Char) (h : ∀ c ∈ cs, c ≠ '\n') :
    ReadsAs ('#' :: cs) [.comment (.ofList (trimChars cs))] := by
  intro rest hr
  have hcs : ∀ c ∈ cs, (c != '\n') = true := fun c hc => by simpa using h c hc
  have hrest : rest.takeWhile (· != '\n') = [] ∧ rest.dropWhile (· != '\n') = rest := by
    cases rest with
    | nil => simp
    | cons c rest => simp [hr c (by simp)]
  rw [List.cons_append, lexemes_comment, List.takeWhile_append_of_pos hcs, List.dropWhile_append_of_pos hcs,
    hrest.1, hrest.2, List.append_nil]
  rfl

/-- The lines are read as the lexemes, each line by itself. -/
inductive ReadsLines : List String → List Lexeme → Prop
  | nil : ReadsLines [] []
  | cons {l lines lx lxs} : ReadsAs l.toList lx → ReadsLines lines lxs → ReadsLines (l :: lines) (lx ++ lxs)

namespace ReadsLines
variable {lines lines' : List String} {lx lx' : List Lexeme}

theorem singleton {l : String} (h : ReadsAs l.toList lx) : ReadsLines [l] lx := by
  simpa using ReadsLines.cons h .nil

theorem append (h : ReadsLines lines lx) (h' : ReadsLines lines' lx') :
    ReadsLines (lines ++ lines') (lx ++ lx') := by
  induction h with
  | nil => exact h'
  | cons hl _ ih => rw [List.append_assoc]; exact .cons hl ih

theorem indent (level : Int) (h : ReadsLines lines lx) : ReadsLines (indentLines level lines) lx := by
  induction h with
  | nil => exact .nil
  | @cons l lines lx lxs hl _ ih =>
    refine .cons ?_ ih
    dsimp only
    split_ifs
    · exact hl
    · rw [String.toList_append, pad, String.toList_ofList]
      exact hl.blanks fun c hc => by rw [List.eq_of_mem_replicate hc]; decide

theorem readsAs (h : ReadsLines lines lx) : ReadsAs (joinLines lines).toList lx := by
  induction h with
  | nil => exact readsAs_nil
  | @cons l lines lx lxs hl hls ih =>
    cases lines with
    | nil => cases hls; simpa [joinLines] using hl
    | cons l' lines =>
      rw [joinLines, joinWith_cons_cons, String.toList_append, String.toList_append, List.append_assoc]
      exact hl.newline ih

theorem lexemes_eq (h : ReadsLines lines lx) {text : String}
    (ht : text = joinLines lines ∨ text = joinLines lines ++ "\n") : lexemes text.toList = lx := by
  rcases ht with rfl | rfl
  · exact h.readsAs.lexemes_eq
  · rw [String.toList_append, h.readsAs _ (by simp [show "\n".toList = ['\n'] from rfl]),
      show "\n".toList = ['\n'] from rfl, lexemes_blank (by decide), lexemes_nil, List.append_nil]

end ReadsLines

/-! ### Lines that write nodes -/

/-- The lines are read as lexemes that spell the nodes. -/
def Writes (c : Bool) (lines : List String) (ns : List Node) : Prop := ∃ lx, ReadsLines lines lx ∧ Spells c lx ns

namespace Writes
variable {lines lines' : List String} {ns ns' : List Node}

theorem nil : Writes c [] [] := ⟨[], .nil, .nil⟩

theorem append (h : Writes c lines ns) (h' : Writes c lines' ns') : Writes c (lines ++ lines') (ns ++ ns') := by
  obtain ⟨lx, h1, h2⟩ := h
  obtain ⟨lx', h1', h2'⟩ := h'
  exact ⟨lx ++ lx', h1.append h1', h2.append h2'⟩

theorem indent (level : Int) (h : Writes c lines ns) : Writes c (indentLines level lines) ns := by
  obtain ⟨lx, h1, h2⟩ := h
  exact ⟨lx, h1.indent level, h2⟩

theorem blankLine (h : Writes c lines ns) : Writes c ("" :: lines) ns := by
  obtain ⟨lx, h1, h2⟩ := h
  exact ⟨[] ++ lx, .cons readsAs_nil h1, h2⟩

theorem commentLine {l : String} {cs : List Char} (hl : l.toList = '#' :: cs) (hcs : ∀ c ∈ cs, c ≠ '\n')
    (h : Writes true lines ns) : Writes true (l :: lines) ns := by
  obtain ⟨lx, h1, h2⟩ := h
  exact ⟨_, .cons (by rw [hl]; exact readsAs_comment cs hcs) h1, .comment _ rfl h2⟩

theorem words {ws args : List String} {name : String} (line : Int) (h : ReadsWords ws (name :: args)) :
    Writes c [joinWith " " ws ++ ";"] [.directive name args line] := by
  have hline : ReadsAs (joinWith " " ws ++ ";").toList (.word name :: (args.map .word ++ [.semicolon])) := by
    intro rest _
    rw [String.toList_append, List.append_assoc, show ";".toList = [';'] from rfl, List.singleton_append,
      h _ (endsWord_cons (by decide)), lexemes_semicolon]
    simp
  exact ⟨_, .singleton hline, .directive name args line .nil⟩

theorem directive {name : String} {args : List String} (line : Int) (hn : IsName name)
    (ha : ∀ a ∈ args, Quotable a) : Writes c [directiveLine name args] [.directive name args line] :=
  words line (readsWords_statement hn ha)

theorem block {ws args : List String} {name close : String} (line : Int) {pre : List Char}
    (hp : ∀ c ∈ pre, isBlank c = true) (hclose : close.toList = pre ++ ['\x7d'])
    (hw : ReadsWords ws (name :: args)) (h : Writes c lines ns) {head : String}
    (hhead : head.toList = pre ++ (joinWith " " ws ++ " \x7b").toList) :
    Writes c (head :: lines ++ [close]) [.block name args line ns] := by
  obtain ⟨lx, h1, h2⟩ := h
  have hopen : ReadsAs head.toList (.word name :: (args.map .word ++ [.blockOpen])) := by
    rw [hhead]
    refine ReadsAs.blanks hp fun rest hr => ?_
    rw [String.toList_append, List.append_assoc, show " \x7b".toList = [' ', '\x7b'] from rfl,
      List.cons_append, hw _ (endsWord_cons (by decide)), lexemes_blank (by decide),
      List.singleton_append, lexemes_blockOpen]
    simp
  have hend : ReadsAs close.toList [.blockClose] := by
    rw [hclose]
    exact ReadsAs.blanks hp fun rest hr => by
      rw [List.singleton_append, lexemes_blockClose]; rfl
  refine ⟨_, .append (.cons hopen h1) (.singleton hend), ?_⟩
  simpa using Spells.block name args line h2 .nil

/-- Lines that write nodes have a tree of these nodes, whether or not the last line is ended. -/
theorem ofText (h : Writes true lines ns) {text : String}
    (ht : text = joinLines lines ∨ text = joinLines lines ++ "\n") :
    (Tree.ofText text).errors = [] ∧ withoutLines (Tree.ofText text).nodes = withoutLines ns := by
  obtain ⟨lx, h1, h2⟩ := h
  rw [Tree.ofText]
  refine ofTokens_of_spells (c := true) ?_
  rwa [tokenize, map_lexeme_scan, h1.lexemes_eq ht]

end Writes
end SiteConf
