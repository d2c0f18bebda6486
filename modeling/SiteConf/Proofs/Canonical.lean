import SiteConf.Proofs.RoundTrip

/-!
# Canonical text

A tree is written, read and written again: the lines stay the same (`Tree.serialize_canonical`) if every
argument is `Delimited`, so that its written form ends where the argument ends, and every name is itself
written as a statement (`NamesStatement`).

The arguments themselves need not come back. One that holds both kinds of quotes is written with a
backslash before each double quote, and is read with these backslashes (`escaped`); but what is read has
the same written form (`exists_quotable`). So a tree has the same lines as a legible one.
-/

namespace SiteConf
open Text Token

/-! ### Escaped quotes -/

/-- The text between the quotes, if the argument holds both kinds of them. -/
def escaped (cs : List Char) : List Char := mergeEscapes (escapeQuotes cs)

theorem escaped_quote (cs : List Char) : escaped ('"' :: cs) = '\\' :: '"' :: escaped cs := by
  simp [escaped, escapeQuotes, mergeEscapes]

theorem escaped_escape (cs : List Char) : escaped ('\\' :: '"' :: cs) = '\\' :: '"' :: escaped cs := by
  simp [escaped, escapeQuotes, mergeEscapes]

theorem escaped_cons {c : Char} {cs : List Char} (hc : c ≠ '"') (h : ¬(c = '\\' ∧ cs.head? = some '"')) :
    escaped (c :: cs) = c :: escaped cs := by
  rw [escaped, escapeQuotes, if_neg hc, mergeEscapes, escaped]
  -- two backslashes before a quote: the second one is there because the quote is escaped
  rintro rest rfl hrest
  cases cs with
  | nil => cases hrest
  | cons d cs =>
    rw [escapeQuotes] at hrest
    split_ifs at hrest with hd
    · exact h ⟨rfl, by rw [hd]; rfl⟩
    · exact head_escapeQuotes cs (by rw [(List.cons.inj hrest).2]; rfl)

/-- The three ways in which `escaped` goes on. -/
theorem escaped_induction {motive : List Char → List Char → Prop} (nil : motive [] [])
    (quote : ∀ cs, motive cs (escaped cs) → motive ('"' :: cs) ('\\' :: '"' :: escaped cs))
    (escape : ∀ cs, motive cs (escaped cs) → motive ('\\' :: '"' :: cs) ('\\' :: '"' :: escaped cs))
    (other : ∀ c cs, c ≠ '"' → motive cs (escaped cs) → motive (c :: cs) (c :: escaped cs)) :
    ∀ cs, motive cs (escaped cs)
  | [] => nil
  | [c] => by
    by_cases hc : c = '"'
    · rw [hc, escaped_quote]
      exact quote [] nil
    · rw [escaped_cons hc (by simp)]
      exact other c [] hc nil
  | c :: d :: cs => by
    by_cases hc : c = '"'
    · rw [hc, escaped_quote]
      exact quote _ (escaped_induction nil quote escape other (d :: cs))
    · by_cases h : c = '\\' ∧ d = '"'
      · rw [h.1, h.2, escaped_escape]
        exact escape cs (escaped_induction nil quote escape other cs)
      · rw [escaped_cons hc (by simpa using h)]
        exact other c _ hc (escaped_induction nil quote escape other (d :: cs))

theorem quotesEscaped_escaped (cs : List Char) : ∀ before, quotesEscaped before (escaped cs) = true := by
  refine escaped_induction (motive := fun _ es => ∀ before, quotesEscaped before es = true) ?_ ?_ ?_ ?_ cs
  · exact fun _ => rfl
  · intro cs ih before
    simp [quotesEscaped, ih]
  · intro cs ih before
    simp [quotesEscaped, ih]
  · intro c cs hc ih before
    simp [quotesEscaped, ih, hc]

theorem getLast?_escaped (cs : List Char) : (escaped cs).getLast? = cs.getLast? := by
  refine escaped_induction (motive := fun cs es => es.getLast? = cs.getLast?) rfl ?_ ?_ ?_ cs
  · intro cs ih
    simp [List.getLast?_cons, ih]
  · intro cs ih
    simp [List.getLast?_cons, ih]
  · intro c cs _ ih
    simp [List.getLast?_cons, ih]

theorem mem_escaped {c : Char} (hc : c ≠ '\\') (cs : List Char) : c ∈ escaped cs ↔ c ∈ cs := by
  refine escaped_induction (motive := fun cs es => c ∈ es ↔ c ∈ cs) Iff.rfl ?_ ?_ ?_ cs
  · intro cs ih
    simp [ih, hc]
  · intro cs ih
    simp [ih, hc]
  · intro d cs _ ih
    simp [ih]

/-! ### Arguments -/

/-- The written form of the argument ends where the argument ends: a bare one holds no white space, and one in
quotes has no backslash at its end. -/
def Delimited (arg : String) : Prop :=
  IsBare arg.toList ∨
    ((arg.toList = [] ∨ arg.toList.any needsQuotes = true) ∧ arg.toList.getLast? ≠ some '\\')

instance (arg : String) : Decidable (Delimited arg) := inferInstanceAs (Decidable (_ ∨ _))

/-- A delimited argument is written like one that is read back. -/
theorem exists_quotable {arg : String} (h : Delimited arg) : ∃ v, Quotable v ∧ quoteArg v = quoteArg arg := by
  rcases h with hbare | ⟨hneed, hlast⟩
  · exact ⟨arg, .inl hbare, rfl⟩
  by_cases hd : '"' ∈ arg.toList
  · by_cases hs : '\'' ∈ arg.toList
    · have hd' : '"' ∈ escaped arg.toList := (mem_escaped (by decide) _).2 hd
      have hs' : '\'' ∈ escaped arg.toList := (mem_escaped (by decide) _).2 hs
      have hneeds : ∀ cs : List Char, '"' ∈ cs → cs.any needsQuotes = true :=
        fun cs hmem => List.any_eq_true.2 ⟨_, hmem, rfl⟩
      have hwritten : ∀ cs : List Char, '"' ∈ cs → '\'' ∈ cs → quoteChars cs = '"' :: escaped cs ++ ['"'] := by
        intro cs hd hs
        simp [quoteChars, hneeds cs hd, hd, hs, escaped]
      have hquotes := quotesEscaped_escaped arg.toList '"'
      refine ⟨.ofList (escaped arg.toList), .inr ?_, ?_⟩
      · rw [String.toList_ofList]
        exact ⟨.inr (hneeds _ hd'), by rwa [getLast?_escaped], .inr (.inr hquotes)⟩
      · have hhead : (escaped arg.toList).head? ≠ some '"' := by
          intro hhead
          cases he : escaped arg.toList with
          | nil =>
            rw [he] at hhead
            cases hhead
          | cons c cs =>
            rw [he] at hhead hquotes
            rw [Option.some.inj hhead] at hquotes
            simp [quotesEscaped] at hquotes
        have hagain : escaped (escaped arg.toList) = escaped arg.toList := mergeEscapes_escapeQuotes hquotes hhead
        rw [quoteArg, quoteArg, String.toList_ofList, hwritten _ hd' hs', hwritten _ hd hs, hagain]
    · exact ⟨arg, .inr ⟨hneed, hlast, .inr (.inl hs)⟩, rfl⟩
  · exact ⟨arg, .inr ⟨hneed, hlast, .inl hd⟩, rfl⟩

theorem exists_quotables {args : List String} (h : ∀ a ∈ args, Delimited a) :
    ∃ vs : List String, (∀ v ∈ vs, Quotable v) ∧ vs.map quoteArg = args.map quoteArg := by
  induction args with
  | nil => exact ⟨[], by simp, rfl⟩
  | cons a args ih =>
    obtain ⟨v, hv, hwritten⟩ := exists_quotable (h a (by simp))
    obtain ⟨vs, hvs, hall⟩ := ih fun x hx => h x (by simp [hx])
    exact ⟨v :: vs, List.forall_mem_cons.2 ⟨hv, hvs⟩, by rw [List.map_cons, List.map_cons, hwritten, hall]⟩

/-! ### Statements -/

/-- The name is the written form of a statement. One word is; a name that was in quotes may be a longer one. -/
def NamesStatement (name : String) : Prop :=
  ∃ first args, IsName first ∧ (∀ a ∈ args, Delimited a) ∧ name = statement first args

theorem NamesStatement.of_isName {name : String} (h : IsName name) : NamesStatement name :=
  ⟨name, [], h, by simp, rfl⟩

theorem joinWith_joinWith (sep : String) {xs : List String} (hx : xs ≠ []) (ys : List String) :
    joinWith sep (joinWith sep xs :: ys) = joinWith sep (xs ++ ys) := by
  cases ys with
  | nil => rw [List.append_nil, joinWith_singleton]
  | cons y ys => rw [joinWith_cons_cons, joinWith_append sep hx (by simp)]

theorem exists_statement {name : String} {args : List String} (hn : NamesStatement name)
    (ha : ∀ a ∈ args, Delimited a) :
    ∃ first vs, IsName first ∧ (∀ v ∈ vs, Quotable v) ∧ statement first vs = statement name args := by
  obtain ⟨first, inner, hfirst, hinner, rfl⟩ := hn
  have hall : ∀ a ∈ inner ++ args, Delimited a := List.forall_mem_append.2 ⟨hinner, ha⟩
  obtain ⟨vs, hvs, hwritten⟩ := exists_quotables hall
  refine ⟨first, vs, hfirst, hvs, ?_⟩
  calc statement first vs = joinWith " " ((first :: inner.map quoteArg) ++ args.map quoteArg) := by
        rw [statement, hwritten, List.map_append, List.cons_append]
    _ = statement (statement first inner) args := by
        rw [statement, statement, joinWith_joinWith " " (List.cons_ne_nil _ _)]

/-! ### Trees -/

mutual
/-- Name and arguments are delimited, also in the children. -/
def Node.Delimited : Node → Prop
  | .directive name args _ => NamesStatement name ∧ ∀ a ∈ args, SiteConf.Delimited a
  | .block name args _ children => (NamesStatement name ∧ ∀ a ∈ args, SiteConf.Delimited a) ∧ AllDelimited children

def AllDelimited : List Node → Prop
  | [] => True
  | n :: ns => n.Delimited ∧ AllDelimited ns
end

mutual
theorem Node.exists_legible : ∀ n : Node, n.Delimited →
    ∃ m : Node, m.Legible ∧ ∀ level, m.toLines level = n.toLines level
  | .directive name args line, h => by
    rw [Node.Delimited] at h
    obtain ⟨first, vs, hfirst, hvs, hwritten⟩ := exists_statement h.1 h.2
    refine ⟨.directive first vs line, ?_, fun level => ?_⟩
    · rw [Node.Legible]
      exact ⟨hfirst, hvs⟩
    · rw [Node.toLines, Node.toLines, directiveLine, directiveLine, hwritten]
  | .block name args line children, h => by
    rw [Node.Delimited] at h
    obtain ⟨first, vs, hfirst, hvs, hwritten⟩ := exists_statement h.1.1 h.1.2
    obtain ⟨ms, hms, hlines⟩ := exists_allLegible children h.2
    refine ⟨.block first vs line ms, ?_, fun level => ?_⟩
    · rw [Node.Legible]
      exact ⟨⟨hfirst, hvs⟩, hms⟩
    · rw [Node.toLines, Node.toLines, hwritten, hlines]

theorem exists_allLegible : ∀ ns : List Node, AllDelimited ns →
    ∃ ms : List Node, AllLegible ms ∧ ∀ level, serialize level ms = serialize level ns
  | [], _ => ⟨[], trivial, fun _ => rfl⟩
  | n :: ns, h => by
    rw [AllDelimited] at h
    obtain ⟨m, hm, hline⟩ := n.exists_legible h.1
    obtain ⟨ms, hms, hlines⟩ := exists_allLegible ns h.2
    refine ⟨m :: ms, ?_, fun level => ?_⟩
    · rw [AllLegible]
      exact ⟨hm, hms⟩
    · rw [serialize, serialize, hline, hlines]
end

namespace Tree

/-- The lines of a text whose words are delimited are read without an error, and written the same again. -/
theorem serialize_canonical (text : String) (h : AllDelimited (ofText text).nodes) :
    (ofText (joinLines (serialize 0 (ofText text).nodes))).errors = [] ∧
      serialize 0 (ofText (joinLines (serialize 0 (ofText text).nodes))).nodes = serialize 0 (ofText text).nodes := by
  obtain ⟨ms, hms, hlines⟩ := exists_allLegible _ h
  rw [← hlines 0]
  obtain ⟨herrors, hnodes⟩ := (writes_serialize 0 ms hms).ofText (.inl rfl)
  exact ⟨herrors, serialize_congr hnodes 0⟩

/-- A name of two words, an argument that is read back with a backslash, and one with a backslash already. -/
theorem serialize_canonical_quoted :
    let text := "'add_header X' a\"b 'c d' \x7b set say\"it's \"it's \\\"\"; \x7d"
    AllDelimited (ofText text).nodes ∧ (ofText (joinLines (serialize 0 (ofText text).nodes))).errors = [] ∧
      serialize 0 (ofText (joinLines (serialize 0 (ofText text).nodes))).nodes = serialize 0 (ofText text).nodes := by
  intro text
  have hnodes : ofText text = ⟨[.block "add_header X" ["a\"b", "c d"] 1
      [.directive "set" ["say\"it's", "it's \\\""] 1]], []⟩ := by cbv
  have hname : NamesStatement "add_header X" := ⟨"add_header", ["X"], by decide, by decide, by decide⟩
  have h : AllDelimited (ofText text).nodes := by
    rw [hnodes]
    exact ⟨⟨⟨hname, by decide⟩, ⟨.of_isName (by decide), by decide⟩, trivial⟩, trivial⟩
  exact ⟨h, serialize_canonical text h⟩

end Tree
end SiteConf
