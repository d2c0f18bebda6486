import SiteConf.Proofs.Accepted

/-!
# No letter comes from nowhere

The weight of a text is how often it holds the letter `v`. Writing a tree adds names, arguments, quotes and
punctuation, and reading a text makes words of its characters, so neither adds to the weight: the lines of a
tree weigh what its words weigh (`weight_serialize`), and a tree weighs no more than its text
(`weight_ofText_le`).

The letter is one that a single one of the directives of a proxy holds, which no text of a user names.
-/

namespace SiteConf
open Text Token

def weight (s : String) : Nat := s.toList.count 'v'

def linesWeight (lines : List String) : Nat := (lines.map weight).sum

/-- The weight of the words. -/
def Lexeme.weight : Lexeme → Nat
  | word w => SiteConf.weight w
  | _ => 0

def lexemesWeight (ls : List Lexeme) : Nat := (ls.map Lexeme.weight).sum

theorem weight_append (s t : String) : weight (s ++ t) = weight s + weight t := by
  rw [weight, String.toList_append, List.count_append]
  rfl

theorem linesWeight_cons (l : String) (lines : List String) :
    linesWeight (l :: lines) = weight l + linesWeight lines := List.sum_cons

theorem linesWeight_append (xs ys : List String) : linesWeight (xs ++ ys) = linesWeight xs + linesWeight ys := by
  rw [linesWeight, List.map_append, List.sum_append]
  rfl

theorem lexemesWeight_cons (l : Lexeme) (ls : List Lexeme) :
    lexemesWeight (l :: ls) = l.weight + lexemesWeight ls := List.sum_cons

theorem lexemesWeight_append (xs ys : List Lexeme) :
    lexemesWeight (xs ++ ys) = lexemesWeight xs + lexemesWeight ys := by
  rw [lexemesWeight, List.map_append, List.sum_append]
  rfl

theorem lexemesWeight_words (ws : List String) : lexemesWeight (ws.map .word) = linesWeight ws := by
  rw [lexemesWeight, List.map_map]
  rfl

theorem weight_joinWith {sep : String} (hsep : weight sep = 0) (ss : List String) :
    weight (joinWith sep ss) = linesWeight ss := by
  induction ss with
  | nil => rfl
  | cons s ss ih =>
    cases ss with
    | nil => rw [joinWith_singleton, linesWeight_cons]; rfl
    | cons t ss => rw [joinWith_cons_cons, weight_append, weight_append, ih, hsep, linesWeight_cons s]; rfl

/-! ### Writing -/

theorem count_escapeQuotes (cs : List Char) : (escapeQuotes cs).count 'v' = cs.count 'v' := by
  induction cs with
  | nil => rfl
  | cons c cs ih =>
    rw [escapeQuotes]
    split_ifs with hc
    · rw [hc, List.count_cons_of_ne (by decide), List.count_cons_of_ne (by decide),
        List.count_cons_of_ne (by decide), ih]
    · rw [List.count_cons, List.count_cons, ih]

theorem count_mergeEscapes (cs : List Char) : (mergeEscapes cs).count 'v' = cs.count 'v' := by
  fun_induction mergeEscapes cs with
  | case1 cs ih =>
    rw [List.count_cons_of_ne (by decide), List.count_cons_of_ne (by decide), ih,
      List.count_cons_of_ne (by decide), List.count_cons_of_ne (by decide), List.count_cons_of_ne (by decide)]
  | case2 c cs _ ih => rw [List.count_cons, List.count_cons, ih]
  | case3 => rfl

theorem weight_quoteArg (arg : String) : weight (quoteArg arg) = weight arg := by
  have hquoted : ∀ (q : Char) (cs : List Char), q ≠ 'v' → (q :: cs ++ [q]).count 'v' = cs.count 'v' := by
    intro q cs hq
    rw [List.count_append, List.count_cons_of_ne hq, List.count_singleton, beq_false_of_ne hq]
    rfl
  rw [weight, quoteArg, String.toList_ofList, quoteChars]
  split_ifs
  · rfl
  · exact hquoted _ _ (by decide)
  · exact hquoted _ _ (by decide)
  · rw [hquoted _ _ (by decide), count_mergeEscapes, count_escapeQuotes]
    rfl

theorem weight_statement (name : String) (args : List String) :
    weight (statement name args) = weight name + linesWeight args := by
  have hargs : linesWeight (args.map quoteArg) = linesWeight args := by
    rw [linesWeight, List.map_map]
    exact congrArg List.sum (List.map_congr_left fun a _ => weight_quoteArg a)
  rw [statement, weight_joinWith (by decide), linesWeight_cons, hargs]

theorem weight_directiveLine (name : String) (args : List String) :
    weight (directiveLine name args) = weight name + linesWeight args := by
  rw [directiveLine, weight_append, weight_statement]
  rfl

theorem weight_pad (level : Int) : weight (pad level) = 0 := by
  rw [weight, pad, String.toList_ofList, List.count_replicate]
  rfl

mutual
theorem weight_toLines (level : Int) : ∀ n : Node, linesWeight (n.toLines level) = lexemesWeight n.flatten
  | .directive name args line => by
    rw [Node.toLines, Node.flatten, linesWeight_cons, weight_append, weight_pad, weight_directiveLine,
      lexemesWeight_cons, lexemesWeight_append, lexemesWeight_words]
    simp [linesWeight, lexemesWeight, Lexeme.weight]
  | .block name args line children => by
    rw [Node.toLines, Node.flatten, linesWeight_append, linesWeight_cons, weight_append, weight_append, weight_pad,
      weight_statement, weight_serialize (level + 1) children, lexemesWeight_cons, lexemesWeight_append,
      lexemesWeight_words, lexemesWeight_cons, lexemesWeight_append]
    have hopen : weight " \x7b" = 0 := by decide
    have hclose : linesWeight [pad level ++ "\x7d"] = 0 := by
      rw [linesWeight_cons, weight_append, weight_pad]
      rfl
    rw [hopen, hclose]
    simp [lexemesWeight, Lexeme.weight, Nat.add_assoc]

/-- The lines of a tree weigh what its words weigh. -/
theorem weight_serialize (level : Int) : ∀ ns : List Node,
    linesWeight (serialize level ns) = lexemesWeight (flattenAll ns)
  | [] => rfl
  | n :: ns => by
    rw [serialize, flattenAll, linesWeight_append, lexemesWeight_append, weight_toLines level n,
      weight_serialize level ns]
end

/-! ### Reading -/

theorem lexemesWeight_structural (after : Bool) (ls : List Lexeme) :
    lexemesWeight (structural after ls) = lexemesWeight ls := by
  induction ls generalizing after with
  | nil => rfl
  | cons l ls ih =>
    cases l with
    | word w => rw [structural, lexemesWeight_cons, lexemesWeight_cons, ih]
    | blockClose => rw [structural, lexemesWeight_cons, lexemesWeight_cons, ih]
    | comment text => rw [structural, ih, lexemesWeight_cons]; exact (Nat.zero_add _).symm
    | blockOpen =>
      rw [structural]
      · split_ifs
        · rw [lexemesWeight_cons, lexemesWeight_cons, ih]
        · rw [ih, lexemesWeight_cons]; exact (Nat.zero_add _).symm
      all_goals simp
    | semicolon =>
      rw [structural]
      · split_ifs
        · rw [lexemesWeight_cons, lexemesWeight_cons, ih]
        · rw [ih, lexemesWeight_cons]; exact (Nat.zero_add _).symm
      all_goals simp

theorem lexemesWeight_scan_le (line : Int) (cs : List Char) :
    lexemesWeight ((scan line cs).map Token.lexeme) ≤ cs.count 'v' := by
  have hcons : ∀ (c : Char) (cs : List Char), cs.count 'v' ≤ (c :: cs).count 'v' :=
    fun c cs => List.count_le_count_cons
  induction line, cs using scan_induction with
  | nil => simp [lexemesWeight]
  | blank line c cs hc ih =>
    rw [scan_blank _ hc]
    exact Nat.le_trans ih (hcons _ _)
  | comment line cs ih =>
    rw [scan_comment, List.map_cons, lexemesWeight_cons]
    have hdrop : (cs.dropWhile (· != '\n')).count 'v' ≤ cs.count 'v' :=
      (List.dropWhile_sublist _).count_le _
    have hcs := hcons '#' cs
    simp only [Lexeme.weight]
    omega
  | punctuation line c lexeme cs hc ih =>
    have hlexeme : lexeme.weight = 0 := by
      unfold punctuation? at hc
      split_ifs at hc <;> cases hc <;> rfl
    rw [scan_punctuation _ hc, List.map_cons, lexemesWeight_cons, hlexeme, Nat.zero_add]
    exact Nat.le_trans ih (hcons _ _)
  | quoted line q cs hq ih =>
    -- value and rest of a quoted word are parts of the text
    have hparts : (splitQuoted q q cs).1.count 'v' + (splitQuoted q q cs).2.count 'v' ≤ cs.count 'v' := by
      rcases splitQuoted_cover q q cs with hcover | hcover
      · have hcount := congrArg (List.count 'v') hcover
        rw [List.count_append] at hcount
        have hrest := hcons q (splitQuoted q q cs).2
        omega
      · rw [hcover]
        simp
    rw [scan_quoted _ hq, List.map_cons, lexemesWeight_cons, Lexeme.weight, weight, String.toList_ofList]
    have hcs := hcons q cs
    omega
  | bare line c cs hc hh hq ih =>
    have hparts : (cs.takeWhile isWordChar).count 'v' + (cs.dropWhile isWordChar).count 'v' = cs.count 'v' := by
      rw [← List.count_append, List.takeWhile_append_dropWhile]
    rw [scan_bare _ hc hh hq, List.map_cons, lexemesWeight_cons, Lexeme.weight, weight, String.toList_ofList,
      List.count_cons, List.count_cons]
    omega

theorem weight_ofText_le {text : String} (h : (Tree.ofText text).errors = []) (level : Int) :
    linesWeight (serialize level (Tree.ofText text).nodes) ≤ weight text := by
  rw [weight_serialize, Tree.ofText, Tree.flattenAll_ofTokens h, lexemesWeight_structural]
  exact lexemesWeight_scan_le 1 text.toList

end SiteConf
