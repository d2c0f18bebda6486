import SiteConf.Proofs.Lineless
import SiteConf.Proofs.Reading
import SiteConf.Proofs.Written

/-!
# Locations are read back

What the block of a location is read as: `Location.reread`. It is the location with the fields of its
kind only, with the headers that are written in their order, and with single spaces between words. Its own
statements are those of the location (`bodyNodes_reread`), so the reading is kept (`ofChildren_bodyNodes`).
-/

namespace SiteConf
open Text

namespace Location
variable {l : Location} {path : String} {m : MatchType} {ns xs ys : List Node}

/-! ### A reading that is kept -/

theorem reproduces_of_writes (h : Writes true (l.body false) ns)
    (hi : l.kind = .proxy → impliedLine ∈ serialize 0 ns) : l.reproduces ns = true := by
  obtain ⟨herrors, hnodes⟩ := h.ofText (.inl rfl)
  have hs := serialize_congr hnodes 0
  have hc : ¬(l.kind = .proxy ∧ impliedLine ∉ serialize 0 ns) := fun hc => hc.2 (hi hc.1)
  unfold reproduces
  dsimp only
  rw [if_neg hc, herrors, hs]
  simp

theorem ofChildren_of_typed (ht : typed? path m ns = .ok (some l)) (hr : l.reproduces ns = true) :
    ofChildren path m ns = .ok l := by
  unfold ofChildren
  rw [ht]
  show Except.ok (if l.reproduces ns = true then l else asText path m ns) = _
  rw [if_pos hr]

/-! ### What no reading takes -/

theorem redirect?_eq_none (h : ∀ n ∈ ns, n.name ≠ "return") : redirect? path m ns = none := by
  unfold redirect?
  split
  · exact absurd rfl (h _ (List.mem_singleton_self _))
  · rfl

theorem proxy?_eq_none (h : ∀ n ∈ ns, n.name ≠ "proxy_pass") : proxy? path m ns = .ok none := by
  have hc : (ns.map Node.name).contains "proxy_pass" = false := by
    rw [List.contains_eq_mem, decide_eq_false_iff_not, List.mem_map]
    rintro ⟨n, hn, hname⟩
    exact h n hn hname
  unfold proxy?
  dsimp only
  rw [hc]
  rfl

/-! ### Files -/

/-- The location that the statements of a location of files are read as. -/
def rereadFiles (l : Location) : Location :=
  { path := l.path, matchType := l.matchType, root := l.root, tryFiles := joinWith " " (words l.tryFiles),
    index := joinWith " " (words l.index), autoindex := l.autoindex,
    cacheExpiry := joinWith " " (words l.cacheExpiry) }

theorem isBlankText_joinWith_words (s : String) : isBlankText (joinWith " " (words s)) = isBlankText s := by
  rw [Bool.eq_iff_iff, ← words_eq_nil_iff, ← words_eq_nil_iff, words_joinWith_words]

theorem fileNodes_rereadFiles (l : Location) : l.rereadFiles.fileNodes = l.fileNodes := by
  unfold fileNodes rereadFiles
  simp only [isBlankText_joinWith_words, words_joinWith_words]

theorem names_fileNodes (l : Location) :
    (l.fileNodes.map Node.name).Sublist ["root", "try_files", "index", "autoindex", "expires"] := by
  have hif : ∀ (c : Prop) [Decidable c] (name : String) (args : List String),
      ((if c then [] else [Node.stmt name args]).map Node.name).Sublist [name] := by
    intro c _ name args
    split_ifs
    · exact List.nil_sublist _
    · exact List.Sublist.refl _
  have hauto : ((if l.autoindex then [Node.stmt "autoindex" ["on"]] else []).map Node.name).Sublist
      ["autoindex"] := by
    split_ifs
    · exact List.Sublist.refl _
    · exact List.nil_sublist _
  unfold fileNodes
  simp only [List.map_append]
  exact ((((hif _ "root" _).append (hif _ "try_files" _)).append (hif _ "index" _)).append hauto).append
    (hif _ "expires" _)

theorem allDistinct_iff_nodup (ss : List String) : allDistinct ss = true ↔ ss.Nodup := by
  induction ss with
  | nil => simp [allDistinct]
  | cons s ss ih => simp [allDistinct, ih]

theorem foldlM_append_some {b b₁ b₂ : Location} (h : xs.foldlM addFileDirective b = some b₁)
    (h' : ys.foldlM addFileDirective b₁ = some b₂) : (xs ++ ys).foldlM addFileDirective b = some b₂ := by
  rw [List.foldlM_append, h]
  exact h'

/-- A statement with the words of a field sets the field, which is empty before. -/
theorem foldlM_wordsNode {b : Location} (name s : String) (set : String → Location)
    (hset : ∀ w ws, b.addFileDirective (.stmt name (w :: ws)) = some (set (joinWith " " (w :: ws))))
    (hempty : b = set "") :
    (if isBlankText s then [] else [Node.stmt name (words s)]).foldlM addFileDirective b =
      some (set (joinWith " " (words s))) := by
  split_ifs with h
  · rw [(words_eq_nil_iff s).2 h, joinWith_nil, ← hempty]
    rfl
  · cases hw : words s with
    | nil => exact absurd ((words_eq_nil_iff s).1 hw) h
    | cons w ws =>
      rw [List.foldlM_cons, hset w ws]
      rfl

theorem foldlM_fileNodes (l : Location) :
    l.fileNodes.foldlM addFileDirective { path := l.path, matchType := l.matchType } = some l.rereadFiles := by
  have hroot : (if l.root.isEmpty then [] else [Node.stmt "root" [l.root]]).foldlM addFileDirective
      { path := l.path, matchType := l.matchType } = some { l.rereadFiles with
        tryFiles := "", index := "", autoindex := false, cacheExpiry := "" } := by
    split_ifs with h
    · rw [rereadFiles, String.isEmpty_iff.1 h]
      rfl
    · rfl
  have htry := foldlM_wordsNode "try_files" l.tryFiles (fun s => { l.rereadFiles with
    tryFiles := s, index := "", autoindex := false, cacheExpiry := "" }) (fun _ _ => rfl) rfl
  have hindex := foldlM_wordsNode "index" l.index (fun s => { l.rereadFiles with
    index := s, autoindex := false, cacheExpiry := "" }) (fun _ _ => rfl) rfl
  have hauto : (if l.autoindex then [Node.stmt "autoindex" ["on"]] else []).foldlM addFileDirective
      { l.rereadFiles with autoindex := false, cacheExpiry := "" } =
        some { l.rereadFiles with cacheExpiry := "" } := by
    rw [rereadFiles]
    cases l.autoindex <;> rfl
  have hexpires := foldlM_wordsNode (b := { l.rereadFiles with cacheExpiry := "" }) "expires" l.cacheExpiry
    (fun s => { l.rereadFiles with cacheExpiry := s }) (fun _ _ => rfl) rfl
  exact foldlM_append_some (foldlM_append_some (foldlM_append_some (foldlM_append_some hroot htry) hindex) hauto)
    hexpires

theorem typed?_fileNodes (l : Location) :
    typed? l.path l.matchType l.fileNodes = .ok (some l.rereadFiles) := by
  have hname : ∀ n ∈ l.fileNodes, n.name ∈ ["root", "try_files", "index", "autoindex", "expires"] := fun n hn =>
    l.names_fileNodes.subset (List.mem_map_of_mem hn)
  have hne : ∀ name : String, name ∉ ["root", "try_files", "index", "autoindex", "expires"] →
      ∀ n ∈ l.fileNodes, n.name ≠ name := by
    intro name hnot n hn h
    exact hnot (h ▸ hname n hn)
  have hdistinct : allDistinct (l.fileNodes.map Node.name) = true := by
    rw [allDistinct_iff_nodup]
    exact List.Nodup.sublist l.names_fileNodes (by decide)
  unfold typed?
  rw [redirect?_eq_none (hne "return" (by decide)), proxy?_eq_none (hne "proxy_pass" (by decide))]
  show Except.ok (files? l.path l.matchType l.fileNodes) = _
  rw [files?, if_pos hdistinct, foldlM_fileNodes]

/-! ### Redirects -/

/-- The location that the statement of a redirect is read as. -/
def rereadRedirect (l : Location) : Location :=
  { path := l.path, matchType := l.matchType, kind := .redirect, redirectUrl := l.redirectUrl,
    redirectCode := l.redirectCode }

theorem typed?_redirectNodes {l : Location} (h : l.redirectCode ∈ redirectCodes) :
    typed? l.path l.matchType l.redirectNodes = .ok (some l.rereadRedirect) := by
  have hr : redirect? l.path l.matchType l.redirectNodes = some l.rereadRedirect := by
    unfold redirectNodes rereadRedirect
    have hcode : l.redirectCode = 301 ∨ l.redirectCode = 302 := by simpa [redirectCodes] using h
    split_ifs with hu
    · rw [String.isEmpty_iff.1 hu]
      rcases hcode with hc | hc <;> rw [hc] <;> rfl
    · rcases hcode with hc | hc <;> rw [hc] <;> rfl
  unfold typed?
  rw [hr]

/-! ### Proxies -/

/-- The location that the statements of a proxy set, before its headers are looked at. -/
def settledProxy (realIp : Bool) (l : Location) : Location :=
  { path := l.path, matchType := l.matchType, kind := .proxy, proxyPass := l.proxyPass,
    proxyHeaders := l.writtenHeaders realIp, proxyTimeout := if 0 < l.proxyTimeout then l.proxyTimeout else 0,
    proxyBuffering := l.proxyBuffering }

/-- The location that the statements of a proxy are read as. -/
def rereadProxy (realIp : Bool) (l : Location) : Location := (l.settledProxy realIp).liftUpgrade

theorem nonempty_writtenHeaders {realIp : Bool} {l : Location} :
    ∀ h ∈ l.writtenHeaders realIp, (!h.key.isEmpty && !h.value.isEmpty) = true := by
  unfold writtenHeaders
  simp only [List.forall_mem_append]
  refine ⟨⟨?_, ?_⟩, fun h hh => (List.mem_filter.1 hh).2⟩
  · split_ifs
    · decide
    · simp
  · split_ifs
    · decide
    · simp

theorem writtenHeaders_liftUpgrade {p : Location} (hw : p.proxyWebSocket = false)
    (hh : ∀ h ∈ p.proxyHeaders, (!h.key.isEmpty && !h.value.isEmpty) = true) :
    p.liftUpgrade.writtenHeaders false = p.proxyHeaders := by
  unfold liftUpgrade
  split_ifs with hu
  · have hdrop : (p.proxyHeaders.drop 2).filter (fun h => !h.key.isEmpty && !h.value.isEmpty) =
        p.proxyHeaders.drop 2 := List.filter_eq_self.2 fun h hd => hh h (List.mem_of_mem_drop hd)
    show upgradeHeaders ++ [] ++ (p.proxyHeaders.drop 2).filter _ = _
    rw [hdrop, List.append_nil, ← hu, List.take_append_drop]
  · unfold writtenHeaders ownHeaders
    rw [hw, List.filter_eq_self.2 hh]
    rfl

theorem liftUpgrade_other (p : Location) : p.liftUpgrade.path = p.path ∧ p.liftUpgrade.matchType = p.matchType ∧
    p.liftUpgrade.kind = p.kind ∧ p.liftUpgrade.proxyPass = p.proxyPass ∧
    p.liftUpgrade.proxyTimeout = p.proxyTimeout ∧ p.liftUpgrade.proxyBuffering = p.proxyBuffering := by
  unfold liftUpgrade
  split_ifs <;> exact ⟨rfl, rfl, rfl, rfl, rfl, rfl⟩

theorem proxyNodes_rereadProxy (realIp : Bool) (l : Location) :
    (l.rereadProxy realIp).proxyNodes false = l.proxyNodes realIp := by
  obtain ⟨-, -, -, hpass, htime, hbuf⟩ := (l.settledProxy realIp).liftUpgrade_other
  have hheaders := writtenHeaders_liftUpgrade (p := l.settledProxy realIp) rfl nonempty_writtenHeaders
  have htimes : (l.settledProxy realIp).timeoutNodes = l.timeoutNodes := by
    unfold timeoutNodes settledProxy
    by_cases h : 0 < l.proxyTimeout <;> simp [h]
  unfold rereadProxy proxyNodes
  rw [hheaders, hpass]
  unfold timeoutNodes bufferingNodes at *
  rw [htime, hbuf, htimes]
  rfl

theorem names_proxyNodes (realIp : Bool) (l : Location) :
    (((l.proxyNodes realIp).map Node.name).filter (· != "proxy_set_header")).Sublist singleProxyDirectives := by
  have hheaders : ((((l.writtenHeaders realIp).map headerNode).map Node.name).filter
      (· != "proxy_set_header")) = [] := by
    rw [List.filter_eq_nil_iff]
    intro name hname
    simp only [List.mem_map] at hname
    obtain ⟨n, ⟨h, -, rfl⟩, rfl⟩ := hname
    rw [show (headerNode h).name = "proxy_set_header" from rfl]
    decide
  have htimes : ((l.timeoutNodes.map Node.name).filter (· != "proxy_set_header")).Sublist
      ["proxy_read_timeout", "proxy_send_timeout"] := by
    unfold timeoutNodes
    split_ifs
    · exact List.Sublist.refl _
    · exact List.nil_sublist _
  have hbuf : ((l.bufferingNodes.map Node.name).filter (· != "proxy_set_header")).Sublist ["proxy_buffering"] := by
    unfold bufferingNodes
    split_ifs
    · exact List.nil_sublist _
    · exact List.Sublist.refl _
  unfold proxyNodes
  simp only [List.map_append, List.filter_append]
  rw [hheaders, List.append_nil]
  exact ((List.Sublist.refl ["proxy_pass", "proxy_http_version"]).append htimes).append hbuf

theorem mem_proxyNodes {realIp : Bool} {l : Location} {n : Node} (h : n ∈ l.proxyNodes realIp) :
    n.isBlock = false ∧ n.name ∈ proxyDirectives := by
  have hblock : n.isBlock = false := by
    unfold proxyNodes timeoutNodes bufferingNodes at h
    simp only [List.mem_append, List.mem_cons, List.not_mem_nil, or_false, List.mem_map] at h
    rcases h with (((rfl | rfl) | ⟨x, -, rfl⟩) | h) | h
    · rfl
    · rfl
    · rfl
    · split_ifs at h
      · rcases List.mem_pair.1 h with rfl | rfl <;> rfl
      · simp at h
    · split_ifs at h
      · simp at h
      · rw [List.mem_singleton.1 h]; rfl
  refine ⟨hblock, ?_⟩
  by_cases hn : n.name = "proxy_set_header"
  · rw [hn]
    decide
  · refine List.mem_cons_of_mem _ ((names_proxyNodes realIp l).subset ?_)
    rw [List.mem_filter]
    exact ⟨List.mem_map_of_mem h, by simpa using hn⟩

theorem addProxyDirectives_append {b b₁ : Location} (h : b.addProxyDirectives xs = .ok (some b₁))
    (ys : List Node) : b.addProxyDirectives (xs ++ ys) = b₁.addProxyDirectives ys := by
  induction xs generalizing b with
  | nil =>
    cases h
    rfl
  | cons n xs ih =>
    obtain ⟨o, hn, h⟩ := exists_of_bind_eq_ok h
    cases o with
    | none => cases h
    | some b' =>
      rw [List.cons_append, addProxyDirectives, hn]
      exact ih h

theorem addProxyDirectives_headers (b : Location) (hs : List Header) :
    b.addProxyDirectives (hs.map headerNode) = .ok (some { b with proxyHeaders := b.proxyHeaders ++ hs }) := by
  induction hs generalizing b with
  | nil => simp [addProxyDirectives]
  | cons h hs ih =>
    have hadd : b.addProxyDirective (headerNode h) =
        .ok (some { b with proxyHeaders := b.proxyHeaders ++ [h] }) := rfl
    rw [List.map_cons, addProxyDirectives, hadd]
    show addProxyDirectives _ _ = _
    rw [ih]
    simp

theorem positiveSeconds_toString {n : Int} (h : 0 < n) (hf : FewDigits n) :
    positiveSeconds (toString n ++ "s") = .ok (some n.natAbs) := by
  have hn : n.natAbs = (n.natAbs - 1) + 1 := by omega
  unfold positiveSeconds
  rw [readSeconds_toString (by omega) hf, hn]
  rfl

theorem addProxyDirectives_timeout {b l : Location} (hb : b.proxyTimeout = 0)
    (hf : 0 < l.proxyTimeout → FewDigits l.proxyTimeout) : b.addProxyDirectives l.timeoutNodes =
      .ok (some { b with proxyTimeout := if 0 < l.proxyTimeout then l.proxyTimeout else 0 }) := by
  unfold timeoutNodes
  by_cases h : 0 < l.proxyTimeout
  · have hn : (l.proxyTimeout.natAbs : Int) = l.proxyTimeout := by omega
    have hread : ∀ b : Location, b.addProxyDirective (.stmt "proxy_read_timeout" [toString l.proxyTimeout ++ "s"]) =
        .ok (some { b with proxyTimeout := l.proxyTimeout }) := by
      intro b
      show (positiveSeconds (toString l.proxyTimeout ++ "s") >>= _) = _
      rw [positiveSeconds_toString h (hf h), ← hn]
      rfl
    have hsend : ∀ b : Location, b.addProxyDirective (.stmt "proxy_send_timeout" [toString l.proxyTimeout ++ "s"]) =
        .ok (some b) := by
      intro b
      show (positiveSeconds (toString l.proxyTimeout ++ "s") >>= _) = _
      rw [positiveSeconds_toString h (hf h)]
      rfl
    simp only [if_pos h]
    rw [addProxyDirectives, hread]
    show addProxyDirectives _ _ = _
    rw [addProxyDirectives, hsend]
    rfl
  · simp only [if_neg h]
    rw [← hb]
    rfl

/-- What stands before the timeouts of a proxy location can always be read. -/
theorem addProxyDirectives_proxyNodes_eq (realIp : Bool) (l : Location) :
    addProxyDirectives { path := l.path, matchType := l.matchType, kind := .proxy } (l.proxyNodes realIp) =
      addProxyDirectives { l.settledProxy realIp with proxyTimeout := 0, proxyBuffering := true }
        (l.timeoutNodes ++ l.bufferingNodes) := by
  have hpass : addProxyDirectives { path := l.path, matchType := l.matchType, kind := .proxy }
      [.stmt "proxy_pass" (if l.proxyPass.isEmpty then [] else [l.proxyPass]), .stmt "proxy_http_version" ["1.1"]] =
      .ok (some { path := l.path, matchType := l.matchType, kind := .proxy, proxyPass := l.proxyPass }) := by
    split_ifs with h
    · rw [String.isEmpty_iff.1 h]
      rfl
    · rfl
  unfold proxyNodes
  rw [List.append_assoc, List.append_assoc, addProxyDirectives_append hpass,
    addProxyDirectives_append (addProxyDirectives_headers _ _)]
  rfl

theorem addProxyDirectives_proxyNodes {l : Location} (realIp : Bool)
    (hf : 0 < l.proxyTimeout → FewDigits l.proxyTimeout) :
    addProxyDirectives { path := l.path, matchType := l.matchType, kind := .proxy } (l.proxyNodes realIp) =
      .ok (some (l.settledProxy realIp)) := by
  have hbuf : ∀ b : Location, b.proxyBuffering = true →
      b.addProxyDirectives l.bufferingNodes = .ok (some { b with proxyBuffering := l.proxyBuffering }) := by
    intro b hb
    unfold bufferingNodes
    cases l.proxyBuffering with
    | false => rfl
    | true =>
      show Except.ok (some b) = _
      rw [← hb]
  rw [addProxyDirectives_proxyNodes_eq, addProxyDirectives_append (addProxyDirectives_timeout rfl hf), hbuf _ rfl]
  rfl

theorem typed?_proxyNodes_eq (realIp : Bool) (l : Location) :
    typed? l.path l.matchType (l.proxyNodes realIp) = (do
      match ← addProxyDirectives { path := l.path, matchType := l.matchType, kind := .proxy }
        (l.proxyNodes realIp) with
      | some read => pure (some read.liftUpgrade)
      | none => pure (files? l.path l.matchType (l.proxyNodes realIp))) := by
  have hreturn : redirect? l.path l.matchType (l.proxyNodes realIp) = none := by
    refine redirect?_eq_none fun n hn hname => ?_
    have hmem := (mem_proxyNodes hn).2
    rw [hname] at hmem
    exact absurd hmem (by decide)
  have hany : ((l.proxyNodes realIp).any fun n => n.isBlock || !proxyDirectives.contains n.name) = false := by
    rw [List.any_eq_false]
    intro n hn
    obtain ⟨hb, hmem⟩ := mem_proxyNodes hn
    simp [hb, hmem]
  have hcount : (singleProxyDirectives.any fun name =>
      decide (1 < ((l.proxyNodes realIp).map Node.name).count name)) = false := by
    rw [List.any_eq_false]
    intro name hname
    -- a single directive is not a header, so it counts as often as without the headers
    have hne : (name != "proxy_set_header") = true := by
      rw [bne_iff_ne]
      rintro rfl
      exact absurd hname (by decide)
    have hle := (names_proxyNodes realIp l).count_le name
    rw [List.count_filter (p := fun x => x != "proxy_set_header") hne] at hle
    have hone : ∀ name ∈ singleProxyDirectives, singleProxyDirectives.count name ≤ 1 := by decide
    simpa using Nat.le_trans hle (hone name hname)
  unfold typed?
  rw [hreturn]
  unfold proxy?
  dsimp only
  rw [if_neg (by simp [proxyNodes, Node.stmt, Node.name]), hany, hcount]
  cases addProxyDirectives { path := l.path, matchType := l.matchType, kind := .proxy } (l.proxyNodes realIp) with
  | error e => rfl
  | ok read => cases read <;> rfl

theorem typed?_proxyNodes {l : Location} (realIp : Bool) (hf : 0 < l.proxyTimeout → FewDigits l.proxyTimeout) :
    typed? l.path l.matchType (l.proxyNodes realIp) = .ok (some (l.rereadProxy realIp)) := by
  rw [typed?_proxyNodes_eq, addProxyDirectives_proxyNodes realIp hf]
  rfl

/-! ### Every kind -/

/-- The location that the block of a location is read as. -/
def reread (realIp : Bool) (l : Location) : Location :=
  match l.kind with
  | .files => l.rereadFiles
  | .proxy => l.rereadProxy realIp
  | .redirect => l.rereadRedirect
  | .custom => asText l.path l.matchType (l.bodyNodes realIp)

@[simp] theorem path_reread (realIp : Bool) (l : Location) : (l.reread realIp).path = l.path := by
  unfold reread
  split
  · rfl
  · exact (l.settledProxy realIp).liftUpgrade_other.1
  · rfl
  · rfl

@[simp] theorem matchType_reread (realIp : Bool) (l : Location) : (l.reread realIp).matchType = l.matchType := by
  unfold reread
  split
  · rfl
  · exact (l.settledProxy realIp).liftUpgrade_other.2.1
  · rfl
  · rfl

@[simp] theorem kind_reread (realIp : Bool) (l : Location) : (l.reread realIp).kind = l.kind := by
  unfold reread
  split
  · next h => rw [h]; rfl
  · next h => rw [h]; exact (l.settledProxy realIp).liftUpgrade_other.2.2.1
  · next h => rw [h]; rfl
  · next h => rw [h]; rfl

theorem bodyNodes_reread {l : Location} (realIp : Bool) (h : l.kind ≠ .custom) :
    (l.reread realIp).bodyNodes false = l.bodyNodes realIp := by
  rw [bodyNodes, kind_reread, bodyNodes, reread]
  cases hk : l.kind with
  | files => exact l.fileNodes_rereadFiles
  | proxy => exact l.proxyNodes_rereadProxy realIp
  | redirect => rfl
  | custom => exact absurd hk h

theorem legibleBody_reread {l : Location} (realIp : Bool) (hl : l.LegibleBody) (h : l.kind ≠ .custom) :
    (l.reread realIp).LegibleBody := by
  rw [LegibleBody, kind_reread, reread]
  unfold LegibleBody at hl
  cases hk : l.kind with
  | files =>
    rw [hk] at hl
    show (l.root ≠ "" → Quotable l.root) ∧ (∀ w ∈ words (joinWith " " (words l.tryFiles)), Quotable w) ∧
      (∀ w ∈ words (joinWith " " (words l.index)), Quotable w) ∧
        ∀ w ∈ words (joinWith " " (words l.cacheExpiry)), Quotable w
    rw [words_joinWith_words, words_joinWith_words, words_joinWith_words]
    exact hl
  | proxy =>
    rw [hk] at hl
    obtain ⟨hpass, hown⟩ := hl
    obtain ⟨-, -, -, hp, -, -⟩ := (l.settledProxy realIp).liftUpgrade_other
    refine ⟨?_, fun x hx => ?_⟩
    · show (l.rereadProxy realIp).proxyPass ≠ "" → Quotable (l.rereadProxy realIp).proxyPass
      rw [show (l.rereadProxy realIp).proxyPass = l.proxyPass from hp]
      exact hpass
    · have hmem : x ∈ (l.rereadProxy realIp).writtenHeaders false := by
        unfold writtenHeaders
        exact List.mem_append_right _ hx
      rw [rereadProxy, writtenHeaders_liftUpgrade (p := l.settledProxy realIp) rfl nonempty_writtenHeaders] at hmem
      have hfixed : ∀ x ∈ upgradeHeaders ++ forwardingHeaders, Quotable x.key ∧ Quotable x.value := by decide
      rcases List.mem_append.1 hmem with hmem | hmem
      · refine hfixed x ?_
        rcases List.mem_append.1 hmem with hmem | hmem
        · split_ifs at hmem
          · exact List.mem_append_left _ hmem
          · simp at hmem
        · split_ifs at hmem
          · exact List.mem_append_right _ hmem
          · simp at hmem
      · exact hown x hmem
  | redirect =>
    rw [hk] at hl
    exact hl
  | custom => exact absurd hk h

theorem typed?_bodyNodes {l : Location} (realIp : Bool) (hv : l.Valid)
    (hf : l.kind = .proxy → 0 < l.proxyTimeout → FewDigits l.proxyTimeout) (h : l.kind ≠ .custom) :
    typed? l.path l.matchType (l.bodyNodes realIp) = .ok (some (l.reread realIp)) := by
  unfold bodyNodes reread
  cases hk : l.kind with
  | files => exact l.typed?_fileNodes
  | proxy => exact typed?_proxyNodes realIp (hf hk)
  | redirect => exact typed?_redirectNodes hv.2
  | custom => exact absurd hk h

/-- The statements of a legible location are read as the location, up to its other fields. -/
theorem ofChildren_bodyNodes {l : Location} (realIp : Bool) (hl : l.LegibleBody) (hv : l.Valid)
    (hf : l.kind = .proxy → 0 < l.proxyTimeout → FewDigits l.proxyTimeout) (h : l.kind ≠ .custom) :
    ofChildren l.path l.matchType (l.bodyNodes realIp) = .ok (l.reread realIp) := by
  refine ofChildren_of_typed (typed?_bodyNodes realIp hv hf h) (reproduces_of_writes ?_ fun hk => ?_)
  · rw [← bodyNodes_reread realIp h]
    exact writes_body false (legibleBody_reread realIp hl h)
  · rw [kind_reread] at hk
    rw [bodyNodes, hk]
    show impliedLine ∈ serialize 0 (l.proxyNodes realIp)
    unfold proxyNodes
    rw [List.append_assoc, List.append_assoc, serialize_append]
    refine List.mem_append_left _ ?_
    rw [serialize, serialize, serialize, Node.stmt, Node.stmt, Node.toLines, Node.toLines]
    exact List.mem_append_right _ (by decide)

end Location
end SiteConf
