import SiteConf.Proofs.Blocks
import SiteConf.Proofs.Kept
import SiteConf.Proofs.Letters
import SiteConf.Proofs.Returning

/-!
# No content of a location is lost

Every location block of the imported server that has a path and is no caching location becomes one location,
in the order of the text (`Import.locations_ofNodes`). The location is kept as the text of its block, or what
is written for it holds the lines of the block, in their order.

A typed reading is checked when it is made, without the headers about the client. It still holds at the end,
when these headers become those of the site, as both writings have the same lines
(`Location.body_settle`). The check passes over the one line that is written for each proxy; that it
passes over no more is seen by the letters (`Location.renders_of_reproduces`).
-/

namespace SiteConf
open Text

/-! ### What a location stands for -/

namespace Location

/-- The written location has the lines of the nodes, in their order. A proxy may have the implied line besides, if
it is not among them. -/
def Renders (l : Location) (realIp : Bool) (ns : List Node) : Prop :=
  let tree := Tree.ofText (joinLines (l.body realIp))
  tree.errors = [] ∧
    (serialize 0 tree.nodes = serialize 0 ns ∨
      l.kind = .proxy ∧ impliedLine ∉ serialize 0 ns ∧
        ∃ before after, serialize 0 ns = before ++ after ∧ serialize 0 tree.nodes = before ++ impliedLine :: after)

/-- The location holds the block: it stands where the block stands, and keeps what the block holds as text or is
written so. -/
structure Holds (realIp rateLimiting : Bool) (n : Node) (l : Location) : Prop where
  target : Targets n.args l.matchType l.path
  contents : ∃ ns, Contents rateLimiting n.children ns ∧
    (l.kind = .custom → l.customDirectives = joinLines (serialize 0 ns)) ∧ (l.kind ≠ .custom → l.Renders realIp ns)

end Location

/-- The location blocks with a path that are no caching locations. Of an asset class in `seen`, none is one. -/
def placedBlocks (rateLimiting : Bool) (seen : List AssetClass) : List Node → List Node
  | [] => []
  | n :: ns =>
    if n.isLocation ∧ n.HasPath then
      match Keyword.all.find? fun a => decide (n.Caches rateLimiting a) with
      | some a =>
        if a ∈ seen then n :: placedBlocks rateLimiting seen ns else placedBlocks rateLimiting (a :: seen) ns
      | none => n :: placedBlocks rateLimiting seen ns
    else placedBlocks rateLimiting seen ns

example : (placedBlocks false [] [.block "location" [] 1 [], .block "location" ["^~", "/a"] 2 [],
    .block "location" ["~*", "\\.css$"] 3 [.directive "expires" ["1d"] 4,
      .directive "add_header" ["Cache-Control", "public, immutable"] 5],
    .block "location" ["~*", "\\.css$"] 6 [.directive "expires" ["2d"] 7,
      .directive "add_header" ["Cache-Control", "public, immutable"] 8]]).map Node.line = [2, 6] := by decide

theorem find?_caches (rateLimiting : Bool) (n : Node) :
    (Keyword.all.find? fun a => decide (n.Caches rateLimiting a)) = (n.stanza? rateLimiting).map Prod.fst := by
  cases hfind : Keyword.all.find? fun a => decide (n.Caches rateLimiting a) with
  | some a =>
    have ha := List.find?_some (p := fun a => decide (n.Caches rateLimiting a)) hfind
    obtain ⟨expiry, hs⟩ := Node.caches_iff.1 (of_decide_eq_true ha)
    rw [hs, Option.map_some]
  | none =>
    cases hs : n.stanza? rateLimiting with
    | none => rfl
    | some s =>
      have hno := List.find?_eq_none.1 hfind s.1 (Keyword.mem_all s.1)
      exact absurd (decide_eq_true (Node.caches_iff.2 ⟨s.2, hs⟩)) hno

theorem of_mem_placedBlocks {rateLimiting : Bool} {seen : List AssetClass} {ns : List Node} {n : Node}
    (h : n ∈ placedBlocks rateLimiting seen ns) : n ∈ ns ∧ n.isLocation = true := by
  induction ns generalizing seen with
  | nil => cases h
  | cons m ns ih =>
    have hrest : ∀ {seen}, n ∈ placedBlocks rateLimiting seen ns → n ∈ m :: ns ∧ n.isLocation = true := fun hn =>
      ⟨List.mem_cons_of_mem m (ih hn).1, (ih hn).2⟩
    have hfirst : ∀ {seen}, m.isLocation = true → n ∈ m :: placedBlocks rateLimiting seen ns →
        n ∈ m :: ns ∧ n.isLocation = true := by
      intro seen hm hn
      rcases List.mem_cons.1 hn with rfl | hn
      · exact ⟨List.mem_cons_self, hm⟩
      · exact hrest hn
    rw [placedBlocks] at h
    split_ifs at h with hm
    · split at h
      · split_ifs at h
        · exact hfirst hm.1 h
        · exact hrest h
      · exact hfirst hm.1 h
    · exact hrest h

/-! ### Letters of a proxy -/

namespace Location

/-- What the arguments of its block have brought into a proxy location. -/
def load (l : Location) : Nat :=
  weight l.proxyPass + (l.proxyHeaders.map fun h => weight h.key + weight h.value).sum

/-- The weight of the arguments. -/
def argsWeight (ns : List Node) : Nat := (ns.map fun n => linesWeight n.args).sum

theorem weight_arg_le (n : Node) (i : Nat) : weight (n.arg i) ≤ linesWeight n.args := by
  unfold Node.arg
  cases hi : n.args[i]? with
  | none => exact Nat.zero_le _
  | some a => exact List.le_sum_of_mem (List.mem_map_of_mem (List.mem_of_getElem? hi))

theorem AddsDirective.load_le {l m : Location} {n : Node} (h : AddsDirective l n m) :
    m.load ≤ l.load + linesWeight n.args := by
  cases h with
  | target =>
    have harg := weight_arg_le n 0
    simp only [load]
    omega
  | header _ hargs => simp [load, hargs, linesWeight, Nat.add_assoc]
  | timeout => exact Nat.le_add_right _ _
  | buffering => exact Nat.le_add_right _ _
  | nothing => exact Nat.le_add_right _ _

theorem AddsDirectives.load_le {l m : Location} {ns : List Node} (h : AddsDirectives l ns m) :
    m.load ≤ l.load + argsWeight ns := by
  induction h with
  | nil => exact Nat.le_add_right _ _
  | @cons _ _ _ n ns first _ ih =>
    have hfirst := first.load_le
    have hsum : argsWeight (n :: ns) = linesWeight n.args + argsWeight ns := List.sum_cons
    omega

theorem load_liftUpgrade_le (l : Location) : l.liftUpgrade.load ≤ l.load := by
  unfold liftUpgrade
  split_ifs
  · exact Nat.add_le_add_left
      (((List.drop_sublist 2 l.proxyHeaders).map _).sum_le_sum fun _ _ => Nat.zero_le _) _
  · exact Nat.le_refl _

theorem argsWeight_le {ns : List Node} (h : ∀ n ∈ ns, n.isBlock = false) :
    argsWeight ns ≤ lexemesWeight (flattenAll ns) := by
  induction ns with
  | nil => exact Nat.le_refl _
  | cons n ns ih =>
    have hns := ih fun x hx => h x (by simp [hx])
    have hn : linesWeight n.args ≤ lexemesWeight n.flatten := by
      cases n with
      | block => cases h _ List.mem_cons_self
      | directive name args line =>
        rw [Node.flatten, lexemesWeight_cons, lexemesWeight_append, lexemesWeight_words]
        simp only [Node.args]
        omega
    have hsum : argsWeight (n :: ns) = linesWeight n.args + argsWeight ns := List.sum_cons
    rw [flattenAll, lexemesWeight_append, hsum]
    omega

theorem weight_headerLine (h : Header) : weight (headerLine h) = weight h.key + weight h.value := by
  rw [headerLine, weight_directiveLine, linesWeight_cons, linesWeight_cons]
  exact Nat.zero_add _

theorem linesWeight_map_headerLine (hs : List Header) :
    linesWeight (hs.map headerLine) = (hs.map fun h => weight h.key + weight h.value).sum := by
  induction hs with
  | nil => rfl
  | cons h hs ih => rw [List.map_cons, List.map_cons, linesWeight_cons, List.sum_cons, weight_headerLine, ih]

theorem weight_seconds {n : Int} (h : 0 ≤ n) : weight (toString n ++ "s") = 0 := by
  have hdigits : (toString n).toList.count 'v' = 0 := by
    rw [toList_toString h, List.count_eq_zero]
    exact fun hmem => absurd (isDigit_toDigits _ _ hmem) (by decide)
  rw [weight_append, weight, hdigits]
  rfl

/-- Of what is written for a proxy, the headers about the client apart, only the implied line adds to its load. -/
theorem linesWeight_proxyLines (l : Location) : linesWeight (l.proxyLines false) ≤ l.load + 1 := by
  have hpass : linesWeight [if l.proxyPass.isEmpty then "proxy_pass;" else directiveLine "proxy_pass" [l.proxyPass],
      directiveLine "proxy_http_version" ["1.1"]] ≤ weight l.proxyPass + 1 := by
    rw [linesWeight_cons, linesWeight_cons, weight_directiveLine]
    split_ifs
    · exact Nat.le_add_left _ _
    · rw [weight_directiveLine, linesWeight_cons]
      exact Nat.le_of_eq (Nat.zero_add _ ▸ rfl)
  have hupgrade : linesWeight (if l.proxyWebSocket then
      [directiveLine "proxy_set_header" ["Upgrade", "$http_upgrade"],
        "proxy_set_header Connection \"upgrade\";"] else []) = 0 := by
    split_ifs
    · decide
    · rfl
  have hheaders : linesWeight ((l.proxyHeaders.filter fun h => !h.key.isEmpty && !h.value.isEmpty).map headerLine) ≤
      (l.proxyHeaders.map fun h => weight h.key + weight h.value).sum := by
    rw [linesWeight_map_headerLine]
    exact (List.filter_sublist.map _).sum_le_sum fun _ _ => Nat.zero_le _
  have htimeout : linesWeight (if 0 < l.proxyTimeout then
      [directiveLine "proxy_read_timeout" [toString l.proxyTimeout ++ "s"],
        directiveLine "proxy_send_timeout" [toString l.proxyTimeout ++ "s"]] else []) = 0 := by
    split_ifs with ht
    · rw [linesWeight_cons, linesWeight_cons, weight_directiveLine, weight_directiveLine, linesWeight_cons,
        weight_seconds (by omega)]
      rfl
    · rfl
  have hbuffering : linesWeight (if l.proxyBuffering then [] else [directiveLine "proxy_buffering" ["off"]]) = 0 := by
    split_ifs
    · rfl
    · decide
  unfold proxyLines load
  rw [linesWeight_append, linesWeight_append, linesWeight_append, linesWeight_append, linesWeight_append, hupgrade,
    htimeout, hbuffering, if_neg Bool.false_ne_true]
  have hnil : linesWeight [] = 0 := rfl
  omega

/-! ### What the check lets pass -/

theorem linesWeight_filter (x : String) (lines : List String) :
    linesWeight lines = linesWeight (lines.filter (· != x)) + lines.count x * weight x := by
  induction lines with
  | nil => simp [linesWeight]
  | cons l lines ih =>
    rw [linesWeight_cons, ih, List.count_cons, List.filter_cons]
    by_cases hl : l = x
    · simp [hl, Nat.add_mul]
      omega
    · simp [hl, linesWeight_cons]
      omega

theorem filter_bne_eq_self {x : String} {lines : List String} (h : x ∉ lines) :
    lines.filter (· != x) = lines := by
  refine List.filter_eq_self.2 fun l hl => ?_
  rw [bne_iff_ne]
  rintro rfl
  exact h hl

/-- A location that was checked has the lines of its block. -/
theorem renders_of_reproduces {l : Location} {ns : List Node} (hr : l.reproduces ns = true)
    (hload : l.kind = .proxy → l.load ≤ lexemesWeight (flattenAll ns)) : l.Renders false ns := by
  unfold reproduces at hr
  dsimp only at hr
  rw [Bool.and_eq_true, List.isEmpty_iff, beq_iff_eq] at hr
  obtain ⟨herrors, hlines⟩ := hr
  refine ⟨herrors, ?_⟩
  split_ifs at hlines with himplied
  · obtain ⟨hk, hnone⟩ := himplied
    have hbound : (serialize 0 (Tree.ofText (joinLines (l.body false))).nodes).count impliedLine ≤ 1 := by
      have hread := weight_ofText_le herrors 0
      have hwritten : weight (joinLines (l.body false)) = linesWeight (l.proxyLines false) := by
        rw [joinLines, weight_joinWith (by decide), body, hk]
      have hproxy := linesWeight_proxyLines l
      have hns := weight_serialize 0 ns
      have htaken := linesWeight_filter impliedLine (serialize 0 (Tree.ofText (joinLines (l.body false))).nodes)
      rw [hlines, show weight impliedLine = 1 by decide] at htaken
      have hl := hload hk
      omega
    by_cases hmem : impliedLine ∈ serialize 0 (Tree.ofText (joinLines (l.body false))).nodes
    · obtain ⟨before, after, hsplit⟩ := List.append_of_mem hmem
      refine .inr ⟨hk, hnone, before, after, ?_, hsplit⟩
      rw [hsplit, List.count_append, List.count_cons_self] at hbound
      have hbefore : impliedLine ∉ before := List.count_eq_zero.1 (by omega)
      have hafter : impliedLine ∉ after := List.count_eq_zero.1 (by omega)
      rw [← hlines, hsplit, List.filter_append, List.filter_cons, filter_bne_eq_self hbefore,
        filter_bne_eq_self hafter]
      simp
    · exact .inl (by rw [← hlines, filter_bne_eq_self hmem])
  · exact .inl hlines

/-! ### Reading a block -/

/-- A typed location stands where its block stands, and a proxy has no more than its arguments. -/
theorem TypedFrom.stands {path : String} {m : MatchType} {ns : List Node} {l : Location}
    (h : TypedFrom path m ns l) : l.path = path ∧ l.matchType = m ∧ l.kind ≠ .custom ∧
      (l.kind = .proxy → l.load ≤ lexemesWeight (flattenAll ns)) := by
  cases h with
  | redirect h =>
    obtain ⟨hpath, hmatch, -, -, hk⟩ := redirect?_eq_some h
    exact ⟨hpath, hmatch, by simp [hk], by simp [hk]⟩
  | files h =>
    obtain ⟨hpath, hmatch, -, -, hk⟩ := files?_eq_some h
    exact ⟨hpath, hmatch, by simp [hk], by simp [hk]⟩
  | @proxy k hplain hadds =>
    have hk := hadds.adds
    have hload := hadds.load_le
    have hargs := argsWeight_le fun n hn => (hplain n hn).1
    have hlift := k.load_liftUpgrade_le
    have hstart : load { path, matchType := m, kind := .proxy } = 0 := by rfl
    obtain ⟨hpath, hmatch, hkind, -⟩ := k.liftUpgrade_other
    refine ⟨hpath.trans hk.path, hmatch.trans hk.matchType, ?_, fun _ => by omega⟩
    rw [hkind, hk.kind]
    simp

/-- The location is what a block with a path is read as. -/
structure ReadFrom (rateLimiting : Bool) (n : Node) (l : Location) : Prop where
  path : n.path ≠ ""
  read : ofChildren n.path n.matchType (n.contents rateLimiting) = .ok l

/-- Before the headers about the client are settled. -/
theorem ReadFrom.holds {rateLimiting : Bool} {n : Node} {l : Location} (h : l.ReadFrom rateLimiting n) :
    l.Holds false rateLimiting n := by
  have hread : Ensures (ofChildren n.path n.matchType (n.contents rateLimiting)) fun l =>
      l.Holds false rateLimiting n := by
    have htarget : Targets n.args n.matchType n.path := (Node.targets_iff h.path).2 ⟨rfl, rfl⟩
    have hcontents : Contents rateLimiting n.children (n.contents rateLimiting) := Node.contents_iff.2 rfl
    refine ensures_ofChildren_of ⟨htarget, _, hcontents, fun _ => rfl, fun hk => absurd rfl hk⟩ fun l hl hr => ?_
    obtain ⟨hpath, hmatch, hk, hload⟩ := hl.stands
    refine ⟨?_, _, hcontents, fun hcustom => absurd hcustom hk, fun _ => renders_of_reproduces hr hload⟩
    rw [hpath, hmatch]
    exact htarget
  exact hread l h.read

/-! ### Settling the headers about the client -/

theorem proxyLines_dropForwarding_true {l : Location} (hk : l.kind = .proxy) (h : l.startsWithForwarding = true) :
    l.dropForwarding.proxyLines true = l.proxyLines false := by
  have hforwarding : forwardingHeaders.filter (fun h => !h.key.isEmpty && !h.value.isEmpty) = forwardingHeaders := by
    decide
  have htake : l.proxyHeaders.take forwardingHeaders.length = forwardingHeaders := by
    simpa [startsWithForwarding] using h
  have hheaders : forwardingHeaders ++ l.dropForwarding.ownHeaders = l.ownHeaders := by
    unfold dropForwarding ownHeaders
    rw [if_pos hk]
    conv_rhs => rw [← List.take_append_drop forwardingHeaders.length l.proxyHeaders, List.filter_append, htake,
      hforwarding]
  rw [proxyLines_eq, proxyLines_eq, if_pos rfl, hheaders]
  unfold dropForwarding
  rw [if_pos hk]
  rfl

/-- Settling whose the headers about the client are changes no line that is written. -/
theorem body_settle {ls : List Location} {l : Location} (hl : l ∈ ls) :
    (if forwards ls then l.dropForwarding else l).body (forwards ls) = l.body false := by
  cases hf : forwards ls with
  | false => rfl
  | true =>
    rw [if_pos rfl]
    by_cases hk : l.kind = .proxy
    · have hstarts : l.startsWithForwarding = true :=
        List.all_eq_true.1 hf l (List.mem_filter.2 ⟨hl, by simpa using hk⟩)
      rw [body, kind_dropForwarding, body, hk]
      exact proxyLines_dropForwarding_true hk hstarts
    · rw [dropForwarding, if_neg hk]
      unfold body
      split
      · rfl
      · next hp => exact absurd hp hk
      · rfl
      · rfl

theorem Holds.settle {ls : List Location} {l : Location} (hl : l ∈ ls) {rateLimiting : Bool} {n : Node}
    (h : l.Holds false rateLimiting n) :
    (if forwards ls then l.dropForwarding else l).Holds (forwards ls) rateLimiting n := by
  have hother : (if forwards ls then l.dropForwarding else l).kind = l.kind ∧
      (if forwards ls then l.dropForwarding else l).customDirectives = l.customDirectives ∧
      (if forwards ls then l.dropForwarding else l).matchType = l.matchType ∧
      (if forwards ls then l.dropForwarding else l).path = l.path := by
    rw [dropForwarding_eq]
    split_ifs <;> exact ⟨rfl, rfl, rfl, rfl⟩
  obtain ⟨hkind, hcustom, hmatch, hpath⟩ := hother
  obtain ⟨htarget, ns, hcontents, htext, hlines⟩ := h
  unfold Renders at hlines
  refine ⟨by rwa [hmatch, hpath], ns, hcontents, by rwa [hkind, hcustom], ?_⟩
  unfold Renders
  rwa [hkind, body_settle hl]

end Location

theorem settleLocations_eq_map (ls : List Location) :
    settleLocations ls = ls.map fun l => if forwards ls then l.dropForwarding else l := by
  unfold settleLocations
  cases forwards ls <;> simp

/-! ### The statements of a server -/

/-- The asset classes that have an expiry. -/
def Ledger.HasSeen (k : Ledger) (seen : List AssetClass) : Prop := ∀ a, a ∈ seen ↔ (k.caching.lookup a).isSome = true

theorem Ledger.hasSeen_start (r : Bool) : (Ledger.start r).HasSeen [] := by
  intro a
  simp [Ledger.start]

/-- `k'` is `k` after blocks that have become locations, one for each of them. -/
structure Ledger.Grows (k k' : Ledger) (blocks : List Node) : Prop where
  rateLimiting : k'.rateLimiting = k.rateLimiting
  reverseProxy : k'.reverseProxy = k.reverseProxy
  locations : ∃ ls, k'.locations = k.locations ++ ls ∧ List.Forall₂ (Location.ReadFrom k.rateLimiting) blocks ls

namespace Ledger

variable {k k' k'' : Ledger} {blocks blocks' : List Node}

theorem Grows.of_eq (h : k'.locations = k.locations) (hrate : k'.rateLimiting = k.rateLimiting)
    (hproxy : k'.reverseProxy = k.reverseProxy) : k.Grows k' [] :=
  ⟨hrate, hproxy, [], by rw [h, List.append_nil], .nil⟩

theorem Grows.trans (h : k.Grows k' blocks) (h' : k'.Grows k'' blocks') : k.Grows k'' (blocks ++ blocks') := by
  obtain ⟨ls, hls, hread⟩ := h.locations
  obtain ⟨ls', hls', hread'⟩ := h'.locations
  rw [h.rateLimiting] at hread'
  refine ⟨h'.rateLimiting.trans h.rateLimiting, h'.reverseProxy.trans h.reverseProxy, ls ++ ls', ?_, ?_⟩
  · rw [hls', hls, List.append_assoc]
  · exact List.rel_append hread hread'

end Ledger

/-- A location block is one of the blocks that are placed, or it is not and adds no location. -/
theorem Enters.grows {k k' : Ledger} {n : Node} (h : Enters k n k') (hn : n.isLocation = true)
    {seen : List AssetClass} (hseen : k.HasSeen seen) :
    ∃ blocks seen', k.Grows k' blocks ∧ k'.HasSeen seen' ∧
      ∀ ns, placedBlocks k.rateLimiting seen (n :: ns) = blocks ++ placedBlocks k.rateLimiting seen' ns := by
  cases h with
  | skipped hp =>
    refine ⟨[], seen, .of_eq rfl rfl rfl, hseen, fun ns => ?_⟩
    rw [placedBlocks, if_neg fun hplaced => Node.hasPath_iff.1 hplaced.2 hp, List.nil_append]
  | cached s hp hs hnew =>
    have hfresh : s.1 ∉ seen := by
      rw [hseen, hnew]
      simp
    refine ⟨[], s.1 :: seen, .of_eq rfl rfl rfl, fun a => ?_, fun ns => ?_⟩
    · rw [List.mem_cons, hseen, List.lookup_append, Option.isSome_or, Bool.or_eq_true, or_comm]
      refine or_congr_right ?_
      by_cases ha : a = s.1
      · simp [ha]
      · simp [ha]
    · rw [placedBlocks, if_pos ⟨hn, Node.hasPath_iff.2 hp⟩, find?_caches, hs, List.nil_append]
      exact if_neg hfresh
  | placed l hp hs hl =>
    refine ⟨[n], seen, ⟨rfl, rfl, [l], rfl, .cons ⟨hp, hl⟩ .nil⟩, hseen, fun ns => ?_⟩
    rw [placedBlocks, if_pos ⟨hn, Node.hasPath_iff.2 hp⟩, find?_caches]
    cases hstanza : n.stanza? k.rateLimiting with
    | some s => exact if_pos ((hseen _).2 (hs s hstanza))
    | none => rfl

theorem Draft.grows_serverStatement {d d' : Draft} {n : Node} (h : d.serverStatement n = .ok d')
    {seen : List AssetClass} (hseen : d.ledger.HasSeen seen) :
    ∃ blocks seen', d.ledger.Grows d'.ledger blocks ∧ d'.ledger.HasSeen seen' ∧
      ∀ ns, placedBlocks d.ledger.rateLimiting seen (n :: ns) =
        blocks ++ placedBlocks d.ledger.rateLimiting seen' ns := by
  have hstep : if n.isLocation then Enters d.ledger n d'.ledger else d'.ledger = d.ledger :=
    d.ensures_serverStatement n d' h
  split_ifs at hstep with hn
  · exact hstep.grows hn hseen
  · rw [hstep]
    refine ⟨[], seen, .of_eq rfl rfl rfl, hseen, fun ns => ?_⟩
    rw [placedBlocks, if_neg fun hplaced => hn hplaced.1, List.nil_append]

theorem Draft.grows_run {ns : List Node} {d e : Draft} (h : ns.foldlM Draft.serverStatement d = .ok e)
    {seen : List AssetClass} (hseen : d.ledger.HasSeen seen) :
    d.ledger.Grows e.ledger (placedBlocks d.ledger.rateLimiting seen ns) := by
  induction ns generalizing d seen with
  | nil =>
    cases h
    exact .of_eq rfl rfl rfl
  | cons n ns ih =>
    rw [List.foldlM_cons] at h
    obtain ⟨d', hd', hrest⟩ := exists_of_bind_eq_ok h
    obtain ⟨blocks, seen', hgrows, hseen', hblocks⟩ := grows_serverStatement hd' hseen
    have hns := ih hrest hseen'
    rw [hgrows.rateLimiting] at hns
    rw [hblocks]
    exact hgrows.trans hns

/-! ### The whole import -/

theorem exists_of_forall₂ {α β : Type} {R : α → β → Prop} {xs : List α} {ys : List β} (h : List.Forall₂ R xs ys)
    {y : β} (hy : y ∈ ys) : ∃ x ∈ xs, R x y := by
  induction h with
  | nil => cases hy
  | cons hxy _ ih =>
    rcases List.mem_cons.1 hy with rfl | hy
    · exact ⟨_, List.mem_cons_self, hxy⟩
    · obtain ⟨x, hx, hR⟩ := ih hy
      exact ⟨x, List.mem_cons_of_mem _ hx, hR⟩

theorem forall₂_settle {rateLimiting : Bool} {blocks : List Node} {ls : List Location}
    (h : List.Forall₂ (Location.Holds false rateLimiting) blocks ls) :
    List.Forall₂ (Location.Holds (forwards ls) rateLimiting) blocks (settleLocations ls) := by
  have hmem : ∀ {bs : List Node} {ms : List Location}, List.Forall₂ (Location.Holds false rateLimiting) bs ms →
      (∀ m ∈ ms, m ∈ ls) → List.Forall₂ (Location.Holds (forwards ls) rateLimiting) bs
        (ms.map fun l => if forwards ls then l.dropForwarding else l) := by
    intro bs ms hms hsub
    induction hms with
    | nil => exact .nil
    | cons hl _ ih => exact .cons (hl.settle (hsub _ (by simp))) (ih fun m hm => hsub m (by simp [hm]))
  rw [settleLocations_eq_map]
  exact hmem h fun _ hm => hm

namespace Import
variable {nodes : List Node} {errors : List String} {i : Import} {s : Node} {ss : List Node}

/-- The locations of the site are those that the blocks of the server are read as, settled. -/
theorem exists_readFrom (h : ofNodes nodes errors = .ok i) (hs : (fileScope nodes).filter Node.isServer = s :: ss) :
    ∃ ls, List.Forall₂ (Location.ReadFrom i.site.security.rateLimiting)
        (placedBlocks i.site.security.rateLimiting [] (chooseServer s ss).1.children) ls ∧
      i.site.locations = settleLocations ls ∧ i.site.reverseProxy.realIpHeaders = forwards ls := by
  obtain ⟨d, e, f, r, hd, hrun, hf, hsite⟩ := exists_draft h hs
  have hgrows := Draft.grows_run hrun (hd ▸ Ledger.hasSeen_start r)
  rw [hd, ← hf] at hgrows
  obtain ⟨ls, hls, hread⟩ := hgrows.locations
  have hlocations : f.site.locations = ls := hls
  have hlimit : i.site.security.rateLimiting = r := by
    rw [hsite, Draft.finish_eq]
    exact hgrows.rateLimiting
  rw [hlimit]
  refine ⟨ls, hread, by rw [hsite, Draft.finish_eq, ← hlocations], ?_⟩
  have hproxy : f.site.reverseProxy = {} := hgrows.reverseProxy
  rw [hsite, Draft.finish_eq, ← hlocations]
  show (f.site.reverseProxy.settle _ _).realIpHeaders = _
  rw [hproxy]
  exact Site.realIpHeaders_settle _ _

/-- Each location block of the imported server that has a path and is no caching location is held by one location
of the site, in the same order. -/
theorem locations_ofNodes (h : ofNodes nodes errors = .ok i)
    (hs : (fileScope nodes).filter Node.isServer = s :: ss) :
    List.Forall₂ (Location.Holds i.site.reverseProxy.realIpHeaders i.site.security.rateLimiting)
      (placedBlocks i.site.security.rateLimiting [] (chooseServer s ss).1.children) i.site.locations := by
  obtain ⟨ls, hread, hlocations, hflag⟩ := exists_readFrom h hs
  rw [hlocations, hflag]
  exact forall₂_settle (hread.imp fun _ _ hl => hl.holds)

/-- A proxy with a rate limit and the headers about the client, a redirect, and a block that is kept as text. -/
theorem locations_ofNodes_mixed :
    let server : Node := .block "server" [] 2 [.block "location" ["/api"] 3 [
        .directive "limit_req" ["zone=req_limit", "burst=7", "nodelay"] 4, .directive "proxy_pass" ["http://app"] 5,
        .directive "proxy_set_header" ["Host", "$host"] 6,
        .directive "proxy_set_header" ["X-Real-IP", "$remote_addr"] 7,
        .directive "proxy_set_header" ["X-Forwarded-For", "$proxy_add_x_forwarded_for"] 8,
        .directive "proxy_set_header" ["X-Forwarded-Proto", "$scheme"] 9],
      .block "location" ["^~", "/old"] 10 [.directive "return" ["301", "/new"] 11],
      .block "location" ["/status"] 12 [.directive "deny" ["all"] 13]]
    let nodes := [.directive "limit_req_zone" ["$binary_remote_addr", "zone=req_limit:10m", "rate=5r/s"] 1, server]
    ∃ i, ofNodes nodes [] = .ok i ∧ (fileScope nodes).filter Node.isServer = [server] ∧
      List.Forall₂ (Location.Holds i.site.reverseProxy.realIpHeaders i.site.security.rateLimiting)
        (placedBlocks i.site.security.rateLimiting [] (chooseServer server []).1.children) i.site.locations := by
  intro server nodes
  have hdigits : AllFewArgumentDigits nodes := by
    simp only [nodes, server, AllFewArgumentDigits, Node.FewArgumentDigits, and_true]
    decide
  obtain ⟨i, hi⟩ := returns_ofNodes hdigits []
  have hserver : (fileScope nodes).filter Node.isServer = [server] := rfl
  exact ⟨i, hi, hserver, locations_ofNodes hi hserver⟩

end Import
end SiteConf
