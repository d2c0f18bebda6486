import SiteConf.Proofs.Comments

/-!
# Where the nodes of a tree stand in the text

A tree holds only what its text holds, and in the same order, however broken the text is. Each node is a statement of
the text: a run of words with the token that ends it, a semicolon for a directive and an opening brace for a block.
The statements of nodes that follow each other, a block before its children, are `Segment`s of the tokens that
follow each other, with tokens between them that belong to no node. Main statement: `Tree.ofText_segments`.

While the tree is built some blocks are still open, and their children are not known. What is known of all nodes is
their `Head`, and `openHeads` lists those of the open blocks and of all that is read so far.
-/

namespace SiteConf

/-! ### The nodes one after the other -/

mutual
/-- A node, then all nodes inside of it, each before its children. -/
def Node.preorder : Node → List Node
  | .directive name args line => [.directive name args line]
  | .block name args line children => .block name args line children :: preorderAll children

def preorderAll : List Node → List Node
  | [] => []
  | n :: ns => n.preorder ++ preorderAll ns
end

/-- What a node is without its children. -/
structure Head where
  name : String
  args : List String
  line : Int
  isBlock : Bool

def Node.head (n : Node) : Head := ⟨n.name, n.args, n.line, n.isBlock⟩

def heads (ns : List Node) : List Head := (preorderAll ns).map Node.head

theorem heads_cons (n : Node) (ns : List Node) : heads (n :: ns) = n.preorder.map Node.head ++ heads ns :=
  List.map_append

theorem heads_append (xs ys : List Node) : heads (xs ++ ys) = heads xs ++ heads ys := by
  induction xs with
  | nil => rfl
  | cons x xs ih => rw [List.cons_append, heads_cons, heads_cons, ih, List.append_assoc]

theorem heads_directive (name : String) (args : List String) (line : Int) :
    heads [.directive name args line] = [⟨name, args, line, false⟩] := rfl

theorem heads_block (name : String) (args : List String) (line : Int) (children : List Node) :
    heads [.block name args line children] = ⟨name, args, line, true⟩ :: heads children := by
  rw [heads_cons, Node.preorder, List.map_cons]
  exact congrArg _ (List.append_nil _)

/-! ### Segments of the tokens -/

/-- The words of a statement, the token directly after them, and the tokens after it that belong to no statement. -/
structure Segment where
  name : Token
  args : List Token
  stop : Token
  gap : List Token

def Segment.tokens (s : Segment) : List Token := s.name :: (s.args ++ s.stop :: s.gap)

/-- The node is the statement of the segment, on the line of its first word. -/
structure Head.StandsAt (h : Head) (s : Segment) : Prop where
  name : s.name.lexeme = .word h.name
  args : s.args.map Token.lexeme = h.args.map .word
  stop : s.stop.lexeme = if h.isBlock then .blockOpen else .semicolon
  line : s.name.line = h.line

theorem sublist_flatMap_tokens (segments : List Segment) :
    (segments.map Segment.name).Sublist (segments.flatMap Segment.tokens) := by
  induction segments with
  | nil => exact .slnil
  | cons s segments ih =>
    rw [List.map_cons, List.flatMap_cons, Segment.tokens, List.cons_append]
    exact (ih.trans (List.sublist_append_right _ _)).cons_cons s.name

/-- The nodes stand in the tokens one after the other. If `quiet` holds, no word stands outside of them. -/
def Placed (ts : List Token) (hs : List Head) (quiet : Prop) : Prop :=
  ∃ lead segments, ts = lead ++ segments.flatMap Segment.tokens ∧ List.Forall₂ Head.StandsAt hs segments ∧
    (quiet → ∀ t ∈ lead ++ segments.flatMap Segment.gap, t.lexeme.isWord = false)

namespace Placed
variable {ts : List Token} {hs : List Head} {quiet : Prop}

theorem nil (quiet : Prop) : Placed [] [] quiet := ⟨[], [], rfl, .nil, by simp⟩

theorem skip (h : Placed ts hs quiet) {t : Token} (ht : t.lexeme.isWord = false) : Placed (t :: ts) hs quiet := by
  obtain ⟨lead, segments, rfl, hstands, hquiet⟩ := h
  exact ⟨t :: lead, segments, rfl, hstands, fun hq => List.forall_mem_cons.2 ⟨ht, hquiet hq⟩⟩

theorem drop (h : Placed ts hs quiet) (dropped : List Token) : Placed (dropped ++ ts) hs False := by
  obtain ⟨lead, segments, rfl, hstands, -⟩ := h
  exact ⟨dropped ++ lead, segments, (List.append_assoc ..).symm, hstands, False.elim⟩

/-- The next tokens are a statement. -/
theorem segment (h : Placed ts hs quiet) {name stop : Token} {args : List Token} {head : Head}
    (hhead : ∀ gap, head.StandsAt ⟨name, args, stop, gap⟩) :
    Placed (name :: (args ++ stop :: ts)) (head :: hs) quiet := by
  obtain ⟨lead, segments, rfl, hstands, hquiet⟩ := h
  refine ⟨[], ⟨name, args, stop, lead⟩ :: segments, ?_, .cons (hhead lead) hstands, hquiet⟩
  simp [Segment.tokens]

theorem mono (h : Placed ts hs quiet) {quiet' : Prop} (hq : quiet' → quiet) : Placed ts hs quiet' := by
  obtain ⟨lead, segments, hts, hstands, hquiet⟩ := h
  exact ⟨lead, segments, hts, hstands, fun h => hquiet (hq h)⟩

end Placed

namespace Tree

/-! ### Open blocks -/

/-- The nodes that are read so far: the open blocks with their earlier siblings, and the nodes of the innermost
one. -/
def openHeads : List Frame → List Node → List Head
  | [], nodes => heads nodes.reverse
  | f :: stack, nodes => openHeads stack f.before ++ ⟨f.name, f.args, f.line, true⟩ :: heads nodes.reverse

theorem openHeads_cons (stack : List Frame) (n : Node) (nodes : List Node) :
    openHeads stack (n :: nodes) = openHeads stack nodes ++ heads [n] := by
  cases stack with
  | nil => rw [openHeads, openHeads, List.reverse_cons, heads_append]
  | cons f stack =>
    rw [openHeads, openHeads, List.reverse_cons, heads_append, List.append_assoc, List.cons_append]

/-- A block that is closed stands where it was opened. -/
theorem openHeads_close (f : Frame) (stack : List Frame) (nodes : List Node) :
    openHeads stack (f.close nodes) = openHeads (f :: stack) nodes := by
  rw [Frame.close, openHeads_cons, heads_block, openHeads]

theorem heads_closeAll (stack : List Frame) (nodes : List Node) :
    heads (closeAll stack nodes) = openHeads stack nodes := by
  induction stack generalizing nodes with
  | nil => rfl
  | cons f stack ih => rw [closeAll, ih, openHeads_close]

/-! ### The loop -/

theorem exists_words (ts : List Token) :
    ∃ args, ts = args ++ dropWords ts ∧ args.map Token.lexeme = (leadingWords ts).map .word := by
  obtain ⟨args, hts⟩ := dropWords_suffix ts
  have hlexemes : args.map Token.lexeme ++ (dropWords ts).map Token.lexeme =
      (leadingWords ts).map .word ++ (dropWords ts).map Token.lexeme := by
    rw [← List.map_append, hts, map_lexeme_words]
  exact ⟨args, hts.symm, List.append_cancel_right hlexemes⟩

/-- The words of a statement and the token that ends it are the next node. -/
theorem placed_statement {ts rest : List Token} {hs : List Head} {quiet : Prop} {stop : Token}
    (hrest : dropWords ts = stop :: rest) (h : Placed rest hs quiet) (name : String) (line : Int) {isBlock : Bool}
    (hstop : stop.lexeme = if isBlock then .blockOpen else .semicolon) :
    Placed (⟨line, .word name⟩ :: ts) (⟨name, leadingWords ts, line, isBlock⟩ :: hs) quiet := by
  obtain ⟨args, hts, hargs⟩ := exists_words ts
  rw [hrest] at hts
  have hhead : ∀ gap, Head.StandsAt ⟨name, leadingWords ts, line, isBlock⟩ ⟨⟨line, .word name⟩, args, stop, gap⟩ :=
    fun gap => ⟨rfl, hargs, hstop, rfl⟩
  have hplaced := h.segment hhead
  rwa [← hts] at hplaced

/-- The nodes that are read from the tokens stand in them, behind those that were read before. Words are left out only
with an error. -/
theorem build_placed (stack : List Frame) (nodes : List Node) (ts : List Token) :
    ∃ hs, heads (build stack nodes ts).nodes = openHeads stack nodes ++ hs ∧
      Placed ts hs ((build stack nodes ts).errors = []) := by
  fun_induction build stack nodes ts with
  | case1 stack nodes => exact ⟨[], by rw [heads_closeAll, List.append_nil], .nil _⟩
  | case2 nodes line ts f stack ih =>
    obtain ⟨hs, hheads, hplaced⟩ := ih
    exact ⟨hs, by rw [hheads, openHeads_close], hplaced.skip rfl⟩
  | case3 nodes line ts tree ih =>
    obtain ⟨hs, hheads, hplaced⟩ := ih
    exact ⟨hs, hheads, (hplaced.skip rfl).mono fun h => (List.cons_ne_nil _ _ h).elim⟩
  | case4 stack nodes line ts ih =>
    obtain ⟨hs, hheads, hplaced⟩ := ih
    exact ⟨hs, hheads, hplaced.skip rfl⟩
  | case5 stack nodes line ts ih =>
    obtain ⟨hs, hheads, hplaced⟩ := ih
    exact ⟨hs, hheads, hplaced.skip rfl⟩
  | case6 stack nodes line text ts ih =>
    obtain ⟨hs, hheads, hplaced⟩ := ih
    exact ⟨hs, hheads, hplaced.skip rfl⟩
  | case7 stack nodes line name ts args line' rest hd ih =>
    obtain ⟨hs, hheads, hplaced⟩ := ih
    refine ⟨⟨name, args, line, true⟩ :: hs, ?_, placed_statement hd hplaced name line rfl⟩
    rw [hheads, openHeads, List.append_assoc]
    rfl
  | case8 stack nodes line name ts args line' rest hd ih =>
    obtain ⟨hs, hheads, hplaced⟩ := ih
    refine ⟨⟨name, args, line, false⟩ :: hs, ?_, placed_statement hd hplaced name line rfl⟩
    rw [hheads, openHeads_cons, heads_directive, List.append_assoc]
    rfl
  | case9 stack nodes line name ts hopen hsemi tree ih =>
    obtain ⟨hs, hheads, hplaced⟩ := ih
    -- the words of the statement and the rest of its line are skipped
    obtain ⟨dropped, hdropped⟩ : (dropWords ts).dropWhile (·.line == line) <:+ (⟨line, .word name⟩ :: ts) :=
      ((List.dropWhile_suffix _).trans (dropWords_suffix ts)).trans (List.suffix_cons _ _)
    refine ⟨hs, hheads, ?_⟩
    rw [← hdropped]
    exact (hplaced.drop dropped).mono fun h => List.cons_ne_nil _ _ h

/-- The nodes of a text, each before its children, are statements of the text in the same order: each one a run of
words with the semicolon or the opening brace directly after it, on the line of its first word. Their lines never
decrease, and directives have no children. Without errors no word of the text stands outside of them. -/
theorem ofText_segments (text : String) : ∃ lead segments,
    tokenize text = lead ++ segments.flatMap Segment.tokens ∧
      List.Forall₂ (fun n s => n.head.StandsAt s) (preorderAll (ofText text).nodes) segments ∧
      ((preorderAll (ofText text).nodes).map Node.line).Pairwise (· ≤ ·) ∧
      (∀ n ∈ preorderAll (ofText text).nodes, n.isBlock = false → n.children = []) ∧
      ((ofText text).errors = [] → ∀ t ∈ lead ++ segments.flatMap Segment.gap, t.lexeme.isWord = false) := by
  obtain ⟨hs, hheads, lead, segments, htokens, hstands, hquiet⟩ := build_placed [] [] (tokenize text)
  rw [show hs = heads (ofText text).nodes from hheads.symm, heads, List.forall₂_map_left_iff] at hstands
  refine ⟨lead, segments, htokens, hstands, ?_, fun n _ hn => ?_, hquiet⟩
  · -- the lines are those of the first words, and tokens stand in the order of their lines
    have hlines : (preorderAll (ofText text).nodes).map Node.line = (segments.map Segment.name).map Token.line := by
      rw [List.map_map, ← List.forall₂_eq_eq_eq, List.forall₂_map_left_iff, List.forall₂_map_right_iff]
      exact hstands.imp fun n s h => h.line.symm
    have hnames : (segments.map Segment.name).Sublist (tokenize text) := by
      rw [htokens]
      exact (sublist_flatMap_tokens segments).trans (List.sublist_append_right _ _)
    rw [hlines, List.pairwise_map]
    exact (inOrder_tokenize text).sublist hnames
  · cases n with
    | directive => rfl
    | block => cases hn

end Tree
end SiteConf
