import SiteConf.Proofs.Normal
import SiteConf.Proofs.Openings
import SiteConf.Proofs.Preserved
import SiteConf.Proofs.Unmodelled

/-!
# Where caching comes from

An import switches static caching on if the server holds the caching location of some asset class
(`Import.staticCaching_iff`). The switch stands for all classes: the text of the imported site then has the
caching locations of the other classes too, but for those whose extensions the site's own patterns name. Main
statement: `Import.opening_ofText`.
-/

namespace SiteConf
open Text

/-! ### Caching locations of a server -/

/-- The asset classes and expiries of the caching locations. -/
def cachingStanzas (rateLimiting : Bool) (ns : List Node) : List (AssetClass × String) :=
  (ns.filter Node.isLocation).filterMap (Node.stanza? rateLimiting)

theorem Node.stanza?_of_path_eq {n : Node} (rateLimiting : Bool) (h : n.path = "") : n.stanza? rateLimiting = none := by
  unfold stanza?
  rw [h]
  split_ifs <;> rfl

theorem Enters.rateLimiting_eq {k k' : Ledger} {n : Node} (h : Enters k n k') : k'.rateLimiting = k.rateLimiting := by
  cases h <;> rfl

theorem Enters.lookup_caching {k k' : Ledger} {n : Node} (h : Enters k n k') (a : AssetClass) :
    k'.caching.lookup a = (k.caching ++ (n.stanza? k.rateLimiting).toList).lookup a := by
  cases h with
  | skipped hp => rw [Node.stanza?_of_path_eq _ hp, Option.toList_none, List.append_nil]
  | cached s hp hs hnew => rw [hs, Option.toList_some]
  | placed l hp hs hl =>
    cases hstanza : n.stanza? k.rateLimiting with
    | none => rw [Option.toList_none, List.append_nil]
    | some s =>
      have hseen := hs s hstanza
      rw [Option.toList_some, List.lookup_append]
      by_cases ha : a = s.1
      · rw [ha]
        exact (Option.or_of_isSome hseen).symm
      · have hother : [s].lookup a = none := by simp [List.lookup, beq_eq_false_iff_ne.2 ha]
        rw [hother, Option.or_none]

theorem Draft.lookup_caching_run {ns : List Node} {d e : Draft} (h : ns.foldlM Draft.serverStatement d = .ok e)
    (a : AssetClass) : e.ledger.caching.lookup a =
      (d.ledger.caching ++ cachingStanzas d.ledger.rateLimiting ns).lookup a := by
  induction ns generalizing d with
  | nil =>
    cases h
    rw [cachingStanzas, List.filter_nil, List.filterMap_nil, List.append_nil]
  | cons n ns ih =>
    rw [List.foldlM_cons] at h
    obtain ⟨d', hd', hrest⟩ := exists_of_bind_eq_ok h
    have hstep := d.ensures_serverStatement n d' hd'
    rw [ih hrest, List.lookup_append]
    split_ifs at hstep with hn
    · have hstanzas : cachingStanzas d.ledger.rateLimiting (n :: ns) =
          (n.stanza? d.ledger.rateLimiting).toList ++ cachingStanzas d.ledger.rateLimiting ns := by
        unfold cachingStanzas
        rw [List.filter_cons_of_pos hn, List.filterMap_cons]
        cases n.stanza? d.ledger.rateLimiting <;> rfl
      rw [hstep.lookup_caching, hstep.rateLimiting_eq, hstanzas, ← List.append_assoc, ← List.lookup_append]
    · rw [hstep, cachingStanzas, cachingStanzas, List.filter_cons_of_neg hn, List.lookup_append]

/-- A list with the same lookups as another one is empty if that one is. -/
theorem eq_nil_iff_of_lookup_eq {xs ys : List (AssetClass × String)} (h : ∀ a, xs.lookup a = ys.lookup a) :
    xs = [] ↔ ys = [] := by
  have hempty : ∀ {xs ys : List (AssetClass × String)}, (∀ a, xs.lookup a = ys.lookup a) → xs = [] → ys = [] := by
    rintro _ ys h rfl
    cases ys with
    | nil => rfl
    | cons y ys =>
      have hy := h y.1
      simp [List.lookup] at hy
  exact ⟨hempty h, hempty fun a => (h a).symm⟩

/-! ### Locations of a server -/

theorem Node.args_of_targets {n : Node} {path : String} (h : Targets n.args .regexIgnoreCase path) :
    n.arg 0 = "~*" ∧ n.arg 1 = path := by
  generalize hargs : n.args = args at h
  cases h with
  | modified h =>
    simp only [modifiers, List.mem_cons, Prod.mk.injEq, List.not_mem_nil, reduceCtorEq, and_false, or_false, false_or,
      and_true] at h
    simp [arg, hargs, h]

/-! ### Kept statements -/

mutual
theorem indented_toLines {level : Int} (h : 0 < level) : ∀ n : Node, ∀ l ∈ n.toLines level, Indented l
  | .directive name args line, l, hl => by
    rw [Node.toLines, List.mem_singleton] at hl
    exact hl ▸ indented_pad h _
  | .block name args line children, l, hl => by
    rw [Node.toLines, List.cons_append, List.mem_cons, List.mem_append, List.mem_singleton] at hl
    rcases hl with rfl | hl | rfl
    · rw [String.append_assoc]
      exact indented_pad h _
    · exact indented_serialize (Int.lt_add_one_of_le (Int.le_of_lt h)) children l hl
    · exact indented_pad h _

theorem indented_serialize {level : Int} (h : 0 < level) : ∀ ns : List Node, ∀ l ∈ serialize level ns, Indented l
  | [], l, hl => by cases hl
  | n :: ns, l, hl => by
    rw [serialize, List.mem_append] at hl
    rcases hl with hl | hl
    · exact indented_toLines h n l hl
    · exact indented_serialize h ns l hl
end

theorem headWord_block {name : String} (h : IsName name) (args : List String) :
    headWord (statement name args ++ " \x7b") = name.toList := by
  refine headWord_statement (fun c hc => ?_) (fun c hc => ?_) args
  · have hword := h.2 c hc
    rw [Bool.and_eq_true, bne_iff_ne, bne_iff_ne]
    constructor
    · rintro rfl
      exact absurd hword (by decide)
    · rintro rfl
      exact absurd hword (by decide)
  · cases hc
    rfl

theorem headWord_openingLine (a : AssetClass) : headWord a.openingLine = "location".toList := by
  cases a <;> decide

theorem isLocation_of_opening_mem {a : AssetClass} {ns : List Node} (hlegible : AllLegible ns)
    (h : a.openingLine ∈ serialize 0 ns) : ∃ n ∈ ns, n.isLocation = true := by
  have hpad : ∀ l, pad 0 ++ l = l := fun _ => String.empty_append
  induction ns with
  | nil => cases h
  | cons n ns ih =>
    rw [serialize, List.mem_append] at h
    rcases h with h | h
    · refine ⟨n, List.mem_cons_self, ?_⟩
      cases n with
      | directive name args line =>
        rw [Node.toLines, List.mem_singleton, hpad] at h
        exact absurd (h ▸ a.opens_openingLine) (not_opens_directiveLine name args)
      | block name args line children =>
        rw [Node.toLines, List.cons_append, List.mem_cons, List.mem_append, List.mem_singleton, hpad, hpad] at h
        rcases h with h | h | h
        · have hname := headWord_block hlegible.1.1.1 args
          rw [← h, headWord_openingLine, String.toList_inj] at hname
          exact beq_iff_eq.2 hname.symm
        · exact absurd (indented_serialize (by decide) children _ h) a.not_indented_openingLine
        · exact absurd h a.openingLine_ne_brace
    · obtain ⟨m, hm, hlocation⟩ := ih hlegible.2 h
      exact ⟨m, List.mem_cons_of_mem n hm, hlocation⟩

/-- Legible statements that are no locations bring no location into the kept text. -/
theorem openingLine_not_mem_customSection {s : Site} {ns : List Node}
    (htext : s.customDirectives = joinLines (serialize 0 ns)) (hlegible : AllLegible ns)
    (hno : ∀ n ∈ ns, n.isLocation = false) (a : AssetClass) : a.openingLine ∉ s.customSection := by
  obtain ⟨herrors, hnodes⟩ := ofText_serialize 0 ns hlegible
  unfold Site.customSection
  split_ifs
  · exact List.not_mem_nil
  · rw [htext, canonicalLines_of_errors herrors, serialize_congr hnodes, List.mem_cons, not_or]
    refine ⟨fun h => not_opens_banner _ (h ▸ a.opens_openingLine), fun h => ?_⟩
    obtain ⟨n, hn, hlocation⟩ := isLocation_of_opening_mem hlegible h
    rw [hno n hn] at hlocation
    cases hlocation

/-! ### The whole import -/

theorem Performance.staticCaching_settle (p : Performance) (types : Option (List String))
    (caching : List (AssetClass × String)) :
    ((p.settleBrotli types).settleCaching caching).staticCaching = (p.staticCaching || !caching.isEmpty) := by
  cases types <;> cases caching <;> simp [Performance.settleBrotli, Performance.settleCaching]

namespace Import
variable {nodes : List Node} {errors : List String} {i : Import} {s : Node} {ss : List Node}

/-- Static caching is on just if the server has a caching location. -/
theorem staticCaching_iff (h : ofNodes nodes errors = .ok i)
    (hs : (fileScope nodes).filter Node.isServer = s :: ss) : i.site.performance.staticCaching = true ↔
      cachingStanzas i.site.security.rateLimiting (chooseServer s ss).1.children ≠ [] := by
  obtain ⟨d, e, f, ⟨other, redirected, candidates, hd⟩, he, ⟨us, hf⟩, hsite, -⟩ := exists_runs h hs
  obtain ⟨r, hr⟩ := ensures_fileDraft other redirected candidates d hd
  have hledger : f.ledger = e.ledger := ensures_withUpstreams e us f hf
  have hlimit : i.site.security.rateLimiting = r := by
    have hgrows := Draft.grows_run he (hr ▸ Ledger.hasSeen_start r)
    rw [hr, ← hledger] at hgrows
    rw [hsite, Draft.finish_eq]
    exact hgrows.rateLimiting
  have hoff : f.site.performance.staticCaching = false := by
    obtain ⟨upstream, ws, -, rfl⟩ := e.changes_withUpstreams us f hf
    exact (Draft.remainder_run he).2.2.trans
      (congrArg Remainder.staticCaching (remainder_fileDraft other redirected candidates d hd))
  have hcaching : f.caching = [] ↔ cachingStanzas r (chooseServer s ss).1.children = [] := by
    refine eq_nil_iff_of_lookup_eq fun a => ?_
    have hrun := Draft.lookup_caching_run he a
    rw [← hledger, hr] at hrun
    exact hrun
  have hon : i.site.performance.staticCaching = !f.caching.isEmpty := by
    rw [hsite, Draft.finish_eq]
    show ((f.site.performance.settleBrotli _).settleCaching _).staticCaching = _
    rw [Performance.staticCaching_settle, hoff, Bool.false_or]
  rw [hon, hlimit, ne_eq, ← hcaching, Bool.not_eq_true', List.isEmpty_eq_false_iff]

theorem exists_of_mem_locations (h : ofNodes nodes errors = .ok i)
    (hs : (fileScope nodes).filter Node.isServer = s :: ss) {l : Location} (hl : l ∈ i.site.locations) :
    ∃ n ∈ (chooseServer s ss).1.children, n.isLocation = true ∧ Targets n.args l.matchType l.path := by
  obtain ⟨ls, hread, hlocations, -⟩ := exists_readFrom h hs
  rw [hlocations] at hl
  obtain ⟨n, hn, hholds⟩ := exists_of_forall₂ (forall₂_settle (hread.imp fun _ _ h => h.holds)) hl
  obtain ⟨hmem, hlocation⟩ := of_mem_placedBlocks hn
  exact ⟨n, hmem, hlocation, hholds.target⟩

/-- The text of an imported site has the location for the files of a class only if the server has that location, if
it has the caching location of some class and no pattern of the site names an extension of this one, or if a
statement that is kept is not read back from its written form. In the second case the text has the location. -/
theorem opening_ofText {text : String} (h : ofText text = .ok i)
    (hs : (fileScope (Tree.ofText text).nodes).filter Node.isServer = s :: ss) (a : AssetClass) :
    let server := (chooseServer s ss).1
    let covered := cachingStanzas i.site.security.rateLimiting server.children ≠ [] ∧ i.site.servesAssets a = true
    (pad 1 ++ a.openingLine ∈ i.site.lines →
      (∃ n ∈ server.children, n.isLocation = true ∧ n.arg 0 = "~*" ∧ n.arg 1 = a.pattern) ∨ covered ∨
        ¬AllLegible (keptStatements server.children)) ∧
      (covered → pad 1 ++ a.openingLine ∈ i.site.lines) := by
  intro server covered
  have hcaching := staticCaching_iff h hs
  rw [Site.mem_lines_opening, hcaching]
  refine ⟨?_, fun hcovered => .inr (.inl hcovered)⟩
  rintro (⟨l, hl, hmatch, hpath⟩ | hcovered | hkept)
  · obtain ⟨n, hn, hlocation, htarget⟩ := exists_of_mem_locations h hs hl
    rw [hmatch, hpath] at htarget
    exact .inl ⟨n, hn, hlocation, Node.args_of_targets htarget⟩
  · exact .inr (.inl hcovered)
  · refine .inr (.inr fun hlegible => ?_)
    refine openingLine_not_mem_customSection (customDirectives_eq h hs) hlegible (fun n hn => ?_) a hkept
    exact Node.isLocation_of_isUnmodelled (List.mem_filter.1 hn).2

/-- A server with the caching location of one class, and the text with that of another. -/
theorem opening_ofText_css :
    let text := "server \x7b
      location ~* \\.css$ \x7b expires 7d; add_header Cache-Control \"public, immutable\"; \x7d \x7d"
    ∃ i s ss, ofText text = .ok i ∧ (fileScope (Tree.ofText text).nodes).filter Node.isServer = s :: ss ∧
      let server := (chooseServer s ss).1
      let covered := cachingStanzas i.site.security.rateLimiting server.children ≠ [] ∧
        i.site.servesAssets .images = true
      (pad 1 ++ AssetClass.images.openingLine ∈ i.site.lines →
        (∃ n ∈ server.children, n.isLocation = true ∧ n.arg 0 = "~*" ∧ n.arg 1 = AssetClass.images.pattern) ∨
          covered ∨ ¬AllLegible (keptStatements server.children)) ∧
        (covered → pad 1 ++ AssetClass.images.openingLine ∈ i.site.lines) := by
  intro text
  have hone : ((fileScope (Tree.ofText text).nodes).filter Node.isServer).length = 1 := by decide +kernel
  obtain ⟨s, hs⟩ := List.length_eq_one_iff.1 hone
  have hsite : (ofText text).map Import.site = .ok { Site.blank with
      performance := { Site.blank.performance with staticCaching := true, cacheExpiry := "7d" } } := by decide +kernel
  obtain ⟨i, hi, -⟩ := exists_of_map_site hsite
  exact ⟨i, s, [], hi, hs, opening_ofText hi hs .images⟩

end Import
end SiteConf
