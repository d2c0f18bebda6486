import SiteConf.Proofs.Preserved
import SiteConf.Proofs.Protected
import SiteConf.Proofs.Regenerated

/-!
# Locations survive being written and read

An import of the text of a site enters each block of a location as the location is reread, each caching location as
the expiry of its class, and nothing else (`Draft.ledger_run_serverNodes`). Settling then decides on the headers
about the client, and what comes back has the target of the location and its lines. Only the lines of a location
with upgrade headers of its own change: they come back as its flag, whose second line has quotes
(`Location.body_settled_iff`). Main statement: `Site.render_locations`.
-/

namespace SiteConf
open Text

/-! ### Blocks -/

theorem readSeconds_toString_of_many {n : Int} (h : 0 ≤ n) (hf : ¬FewDigits n) :
    ∃ e, readSeconds (toString n ++ "s") = .error e := by
  have hmany : digitLimit < (Nat.toDigits 10 n.natAbs).length := Nat.lt_of_not_le hf
  refine ⟨.tooManyDigits (Nat.toDigits 10 n.natAbs).length, ?_⟩
  rw [readSeconds, String.toList_append, toList_toString h, show "s".toList = ['s'] from rfl,
    spanDigits_toDigits (by decide)]
  dsimp only
  rw [isEmpty_toDigits, readNumber, if_pos hmany]
  rfl

namespace Location

/-- The statements of a location are read as the location, if they can be read. -/
theorem ensures_ofChildren_bodyNodes {l : Location} (realIp : Bool) (hl : l.LegibleBody) (hv : l.Valid)
    (hk : l.kind ≠ .custom) :
    Ensures (ofChildren l.path l.matchType (l.bodyNodes realIp)) fun read => read = l.reread realIp := by
  by_cases hf : l.kind = .proxy → 0 < l.proxyTimeout → FewDigits l.proxyTimeout
  · rw [ofChildren_bodyNodes realIp hl hv hf hk]
    exact .ok rfl
  · -- a timeout of too many digits stops the import
    simp only [Classical.not_imp] at hf
    obtain ⟨hproxy, hpos, hmany⟩ := hf
    obtain ⟨e, he⟩ := readSeconds_toString_of_many (Int.le_of_lt hpos) hmany
    have hread : addProxyDirectives { path := l.path, matchType := l.matchType, kind := .proxy }
        (l.proxyNodes realIp) = .error e := by
      rw [addProxyDirectives_proxyNodes_eq, timeoutNodes, if_pos hpos]
      show ((readSeconds (toString l.proxyTimeout ++ "s") >>= _) >>= _) >>= _ = _
      rw [he]
      rfl
    have herror : ofChildren l.path l.matchType (l.bodyNodes realIp) = .error e := by
      unfold ofChildren
      rw [bodyNodes, hproxy]
      dsimp only
      rw [typed?_proxyNodes_eq, hread]
      rfl
    rw [herror]
    exact .error

/-- A location that can be written and is found again by its head. -/
structure Recoverable (l : Location) : Prop where
  legible : l.LegibleBody
  valid : l.Valid
  kind : l.kind ≠ .custom
  modifier : l.matchType = .start → l.path ∉ locationModifiers

end Location

namespace Enters
variable {k k' : Ledger}

theorem eq_of_locationNode {s : Site} {l : Location} (hr : k.rateLimiting = s.security.rateLimiting)
    (hl : l.Recoverable) (h : Enters k (s.locationNode l) k') :
    k' = { k with locations := k.locations ++ [l.reread s.reverseProxy.realIpHeaders] } := by
  have htarget : (s.locationNode l).locationTarget = (l.matchType, l.path, false) :=
    Location.locationTarget_headArgs hl.modifier _
  have hmatch : (s.locationNode l).matchType = l.matchType := congrArg Prod.fst htarget
  have hpath : (s.locationNode l).path = l.path := congrArg (fun t => t.2.1) htarget
  have hcontents : (s.locationNode l).contents k.rateLimiting = l.bodyNodes s.reverseProxy.realIpHeaders := by
    rw [hr]
    exact congrArg Prod.fst (Draft.splitLimit_limitNodes s.security _)
  have hstanza : (s.locationNode l).stanza? k.rateLimiting = none := by
    rw [Node.stanza?, hcontents, Location.cachingStanza?_eq_none (Location.ne_addHeader_of_mem_bodyNodes hl.kind),
      ite_self]
  cases h with
  | skipped hp => exact absurd (hpath.symm.trans hp) hl.valid.1
  | cached e hp hs hnew =>
    rw [hstanza] at hs
    cases hs
  | placed read hp hs hread =>
    rw [hpath, hmatch, hcontents] at hread
    rw [Location.ensures_ofChildren_bodyNodes _ hl.legible hl.valid hl.kind read hread]

theorem eq_of_assetNode {p : Performance} {a : AssetClass} (hnew : k.caching.lookup a = none)
    (hw : isBlankText (p.assetExpiry a) = false) (h : Enters k (p.assetNode a) k') :
    k' = { k with caching := k.caching ++ [(a, Draft.writtenExpiry p a)] } := by
  have hlimit : Avoids ["limit_req"] [.stmt "expires" (words (p.assetExpiry a)),
      .stmt "add_header" ["Cache-Control", assetCacheControl]] := .cons (by decide) (.cons (by decide) .nil)
  have hcontents : (p.assetNode a).contents k.rateLimiting = (p.assetNode a).children :=
    congrArg Prod.fst (splitLimit_of_avoids hlimit _)
  have hstanza : (p.assetNode a).stanza? k.rateLimiting = some (a, Draft.writtenExpiry p a) := by
    rw [Node.stanza?, hcontents]
    exact Draft.cachingStanza?_assetNode hw
  have hpath : a.pattern ≠ "" := by cases a <;> decide
  cases h with
  | skipped hp => exact absurd hp hpath
  | cached e hp hs _ =>
    rw [hstanza] at hs
    cases hs
    rfl
  | placed read hp hs _ =>
    have hseen := hs _ hstanza
    rw [hnew] at hseen
    cases hseen

end Enters

/-! ### Servers -/

theorem Site.avoids_groups (s : Site) :
    Avoids [] (s.headNodes ++ s.ssl.nodes ++ s.security.nodes ++ s.performance.nodes ++ s.logging.nodes) := by
  have hlisten : Avoids [] s.listenNodes := .append (.cons (by simp) .nil) (.ite (.cons (by simp) .nil) .nil)
  have hhead : Avoids [] s.headNodes :=
    (hlisten.append (s.avoids_nameNodes.mono (List.nil_subset _))).append
      (s.avoids_fileNodes.mono (List.nil_subset _))
  have hcompression := s.performance.avoids_gzipNodes.append s.performance.avoids_brotliNodes
  have hlimits : Avoids [] (s.performance.sizeNodes ++ s.performance.keepaliveNodes) :=
    .append (.ite (.cons (by simp) .nil) .nil) (.ite (.cons (by simp) .nil) .nil)
  have hperformance : Avoids [] s.performance.nodes := by
    unfold Performance.nodes
    rw [List.append_assoc]
    exact (hcompression.mono (List.nil_subset _)).append hlimits
  exact (((hhead.append (s.ssl.avoids_nodes.mono (List.nil_subset _))).append
    (s.security.avoids_nodes.mono (List.nil_subset _))).append hperformance).append
      (s.logging.avoids_nodes.mono (List.nil_subset _))

namespace Draft
variable {s : Site} {d e : Draft}

theorem ledger_run_of_avoids {ns : List Node} (h : Avoids [] ns) (hrun : ns.foldlM serverStatement d = .ok e) :
    e.ledger = d.ledger := by
  induction ns generalizing d with
  | nil =>
    cases hrun
    rfl
  | cons n ns ih =>
    rw [List.foldlM_cons] at hrun
    obtain ⟨d', hd', hrest⟩ := exists_of_bind_eq_ok hrun
    have hstep := d.ensures_serverStatement n d' hd'
    rw [Node.isLocation, (h n (by simp)).1, Bool.false_and, if_neg Bool.false_ne_true] at hstep
    rw [ih (fun m hm => h m (by simp [hm])) hrest, hstep]

theorem ledger_run_locationNodes {ls : List Location} (h : ∀ l ∈ ls, l.Recoverable)
    (hr : d.ledger.rateLimiting = s.security.rateLimiting)
    (hrun : (ls.map s.locationNode).foldlM serverStatement d = .ok e) : e.ledger = { d.ledger with
      locations := d.ledger.locations ++ ls.map (Location.reread s.reverseProxy.realIpHeaders) } := by
  induction ls generalizing d with
  | nil =>
    cases hrun
    rw [List.map_nil, List.append_nil]
  | cons l ls ih =>
    rw [List.map_cons, List.foldlM_cons] at hrun
    obtain ⟨d', hd', hrest⟩ := exists_of_bind_eq_ok hrun
    have henters : Enters d.ledger (s.locationNode l) d'.ledger := d.ensures_serverStatement _ d' hd'
    have hledger := henters.eq_of_locationNode hr (h l (by simp))
    have hls := ih (fun x hx => h x (by simp [hx])) (by rw [hledger, hr]) hrest
    rw [hls, hledger]
    simp only [List.map_cons, List.append_assoc, List.singleton_append]

theorem ledger_run_assetNodes {p : Performance} {as : List AssetClass} (hdistinct : as.Nodup)
    (hw : ∀ a ∈ as, isBlankText (p.assetExpiry a) = false) (hnew : ∀ a ∈ as, d.ledger.caching.lookup a = none)
    (hrun : (as.map p.assetNode).foldlM serverStatement d = .ok e) : e.ledger = { d.ledger with
      caching := d.ledger.caching ++ as.map fun a => (a, writtenExpiry p a) } := by
  induction as generalizing d with
  | nil =>
    cases hrun
    rw [List.map_nil, List.append_nil]
  | cons a as ih =>
    rw [List.map_cons, List.foldlM_cons] at hrun
    obtain ⟨d', hd', hrest⟩ := exists_of_bind_eq_ok hrun
    rw [List.nodup_cons] at hdistinct
    have henters : Enters d.ledger (p.assetNode a) d'.ledger := d.ensures_serverStatement _ d' hd'
    have hledger := henters.eq_of_assetNode (hnew a (by simp)) (hw a (by simp))
    have hrestnew : ∀ b ∈ as, d'.ledger.caching.lookup b = none := by
      intro b hb
      have hne : (b == a) = false := by
        rw [beq_eq_false_iff_ne]
        rintro rfl
        exact hdistinct.1 hb
      rw [hledger, List.lookup_append, hnew b (by simp [hb])]
      simp [List.lookup, hne]
    rw [ih hdistinct.2 (fun b hb => hw b (by simp [hb])) hrestnew hrest, hledger]
    simp only [List.map_cons, List.append_assoc, List.singleton_append]

/-- All that a run over the server of a site enters. -/
theorem ledger_run_serverNodes (hl : ∀ l ∈ s.effectiveLocations, l.Recoverable)
    (hw : ∀ a ∈ s.servedAssets, isBlankText (s.performance.assetExpiry a) = false)
    (hd : d.ledger = .start s.security.rateLimiting) (hrun : s.serverNodes.foldlM serverStatement d = .ok e) :
    e.ledger = { Ledger.start s.security.rateLimiting with
      locations := s.rereadLocations
      caching := s.servedAssets.map fun a => (a, writtenExpiry s.performance a) } := by
  unfold Site.serverNodes at hrun
  rw [List.foldlM_append, List.foldlM_append] at hrun
  obtain ⟨d₂, hrun, hassets⟩ := exists_of_bind_eq_ok hrun
  obtain ⟨d₁, hgroups, hlocations⟩ := exists_of_bind_eq_ok hrun
  have h₁ : d₁.ledger = .start s.security.rateLimiting := (ledger_run_of_avoids s.avoids_groups hgroups).trans hd
  have h₂ := ledger_run_locationNodes hl (by rw [h₁]; rfl) hlocations
  have h₃ := ledger_run_assetNodes (nodup_servedAssets s) hw (fun a _ => by rw [h₂, h₁]; rfl) hassets
  rw [h₃, h₂, h₁]
  rfl

end Draft

/-! ### The whole import -/

namespace Import

/-- The locations that are imported, and whose headers about the client are those of the site. -/
theorem ensures_locations_nodes {s : Site} (hl : ∀ l ∈ s.effectiveLocations, l.Recoverable)
    (hw : ∀ a ∈ s.servedAssets, isBlankText (s.performance.assetExpiry a) = false) (errors : List String) :
    Ensures (ofNodes s.nodes errors) fun i => i.site.locations = settleLocations s.rereadLocations ∧
      i.site.reverseProxy.realIpHeaders = forwards s.rereadLocations := by
  intro i hi
  obtain ⟨first, rest, hservers, hchoose⟩ := chooseServer_nodes s
  rw [← fileScope_nodes s] at hservers
  obtain ⟨d, e, f, r, hd, hrun, hf, hsite⟩ := exists_draft hi hservers
  rw [hchoose] at hrun
  -- the rate limit of the imported site is that of the start, and of the site
  have hlimit : r = s.security.rateLimiting := by
    have hgrows := Draft.grows_run hrun (hd ▸ Ledger.hasSeen_start r)
    rw [hd, ← hf] at hgrows
    have hprotection := congrArg Protection.rateLimiting (ensures_protection_nodes s errors i hi)
    rw [hsite, Draft.finish_eq] at hprotection
    exact hgrows.rateLimiting.symm.trans hprotection
  rw [hlimit] at hd
  have hledger := Draft.ledger_run_serverNodes hl hw hd hrun
  rw [← hf] at hledger
  have hlocations : f.site.locations = s.rereadLocations := congrArg Ledger.locations hledger
  have hproxy : f.site.reverseProxy = {} := congrArg Ledger.reverseProxy hledger
  rw [hsite, Draft.finish_eq, ← hlocations]
  refine ⟨rfl, ?_⟩
  show (f.site.reverseProxy.settle _ _).realIpHeaders = _
  rw [hproxy]
  exact Site.realIpHeaders_settle _ _

end Import

/-! ### Lines -/

namespace Location
variable {l : Location}

theorem webSocketLine_of_flag (h : l.proxyWebSocket = true) (realIp : Bool) :
    (l.proxyLines realIp)[3]? = some "proxy_set_header Connection \"upgrade\";" := by
  rw [proxyLines_eq, h]
  rfl

theorem webSocketLine_of_own (hw : l.proxyWebSocket = false) (hown : l.ownHeaders.take 2 = upgradeHeaders) :
    (l.proxyLines false)[3]? = some "proxy_set_header Connection upgrade;" := by
  have hheaders : l.ownHeaders = upgradeHeaders ++ l.ownHeaders.drop 2 := by rw [← hown, List.take_append_drop]
  rw [proxyLines_eq, hw, hheaders]
  rfl

/-- The lines of a location come back just if its flag is not read from its own headers. -/
theorem body_settled_iff {realIp drop : Bool} (hl : l.LegibleBody)
    (hd : drop = true → l.kind = .proxy → (l.reread realIp).startsWithForwarding = true) :
    (if drop then (l.reread realIp).dropForwarding else l.reread realIp).body drop = l.body realIp ↔
      l.KeepsUpgrade realIp := by
  refine ⟨fun hbody hk hown => ?_, fun h => body_settled hl h hd⟩
  by_contra hno
  simp only [not_or, Bool.not_eq_true] at hno
  obtain ⟨hw, rfl⟩ := hno
  -- the fourth line has quotes just if it is written for the flag
  have hreread : l.reread false = l.rereadProxy false := by rw [reread, hk]
  have hflag : (l.rereadProxy false).proxyWebSocket = true := by
    have hheaders : (l.settledProxy false).proxyHeaders.take 2 = upgradeHeaders := by
      rw [settledProxy, writtenHeaders, hw]
      exact hown
    rw [rereadProxy, liftUpgrade, if_pos hheaders]
  have hkind : (l.rereadProxy false).kind = .proxy := by rw [← hreread, kind_reread, hk]
  have hdrop : (l.rereadProxy false).dropForwarding.proxyWebSocket = true ∧
      (l.rereadProxy false).dropForwarding.kind = .proxy := by
    rw [dropForwarding_eq]
    exact ⟨hflag, hkind⟩
  have hquoted : ((if drop then (l.reread false).dropForwarding else l.reread false).body drop)[3]? =
      some "proxy_set_header Connection \"upgrade\";" := by
    rw [hreread]
    cases drop with
    | false =>
      rw [if_neg Bool.false_ne_true, body, hkind]
      exact webSocketLine_of_flag hflag false
    | true =>
      rw [if_pos rfl, body, hdrop.2]
      exact webSocketLine_of_flag hdrop.1 true
  have hbare : (l.body false)[3]? = some "proxy_set_header Connection upgrade;" := by
    rw [body, hk]
    exact webSocketLine_of_own hw hown
  rw [hbody, hbare] at hquoted
  exact absurd hquoted (by decide)

end Location

/-! ### The text of a site -/

namespace Site
variable {s : Site}

theorem recoverable_of_plain (hv : s.Valid) (hp : ∀ t ∈ s.strings, Plain t) (hk : ∀ l ∈ s.locations, l.kind ≠ .custom)
    (hm : ∀ l ∈ s.locations, l.matchType = .start → l.path ∉ locationModifiers) :
    ∀ l ∈ s.effectiveLocations, l.Recoverable := by
  intro l hl
  have hroot : "/" ≠ "" ∧ 301 ∈ redirectCodes := by decide
  have hmodifier : "/" ∉ locationModifiers := by decide
  exact {
    legible := ((legible_of_plain hp hk).locations l hl).2
    valid := forall_effectiveLocations hv.locations hroot hroot l hl
    kind := forall_effectiveLocations hk (by simp) (by simp) l hl
    modifier := forall_effectiveLocations hm (fun _ => hmodifier) (fun _ => hmodifier) l hl }

/-- The locations that are imported from the text of a plain site have the targets of its locations, in their order,
and the same lines, but for a proxy location whose own headers are read as its flag. No path may be one of the words
for a modifier, and no caching location may lack its expiry. The text is imported if its numbers can be read. -/
theorem render_locations (hv : s.Valid) (hp : ∀ t ∈ s.strings, Plain t) (hc : isBlankText s.customDirectives = true)
    (hk : ∀ l ∈ s.locations, l.kind ≠ .custom)
    (hm : ∀ l ∈ s.locations, l.matchType = .start → l.path ∉ locationModifiers)
    (hw : ∀ a ∈ s.servedAssets, isBlankText (s.performance.assetExpiry a) = false) :
    (∀ i, Import.ofText s.render = .ok i → List.Forall₂ (fun l read =>
        read.matchType = l.matchType ∧ read.path = l.path ∧
          (read.body i.site.reverseProxy.realIpHeaders = l.body s.reverseProxy.realIpHeaders ↔
            l.KeepsUpgrade s.reverseProxy.realIpHeaders)) s.effectiveLocations i.site.locations) ∧
      ((∀ n ∈ s.writtenIntegers, FewDigits n) → ∃ i, Import.ofText s.render = .ok i) := by
  have hlegible := legible_of_plain hp hk
  have hrecoverable := recoverable_of_plain hv hp hk hm
  constructor
  · intro i hi
    have hread := ensures_ofText_render (P := fun t => t.locations = settleLocations s.rereadLocations ∧
      t.reverseProxy.realIpHeaders = forwards s.rereadLocations) hlegible hc
      (Import.ensures_locations_nodes hrecoverable hw []) i hi
    rw [hread.1, hread.2, settleLocations_rereadLocations, List.forall₂_map_right_iff, List.forall₂_same]
    intro l hl
    obtain ⟨hmatch, hpath⟩ := l.target_settled s.reverseProxy.realIpHeaders (forwards s.rereadLocations)
    exact ⟨hmatch, hpath, Location.body_settled_iff (hrecoverable l hl).legible fun hf hkind =>
      startsWithForwarding_of_forwards hf hl hkind⟩
  · exact returns_ofText_render_of_plain hv hp hc hk

/-- A location that upgrades connections by headers of its own, beside a redirect and files that are cached. -/
theorem render_locations_upgrade :
    let s : Site :=
      { reverseProxy := { realIpHeaders := false }
        performance := { staticCaching := true, assetCacheExpiry := [("css", "7d")] }
        locations := [
          { path := "/ws", kind := .proxy, proxyPass := "http://app", proxyTimeout := 60,
            proxyHeaders := [⟨"Upgrade", "$http_upgrade"⟩, ⟨"Connection", "upgrade"⟩, ⟨"Host", ""⟩] },
          { path := "/old", matchType := .exact, kind := .redirect, redirectUrl := "/new" },
          { path := "\\.php$", matchType := .regex, tryFiles := " $uri  =404 " }] }
    s.Valid ∧ (∀ t ∈ s.strings, Plain t) ∧ isBlankText s.customDirectives = true ∧
      (∀ l ∈ s.locations, l.kind ≠ .custom) ∧
      (∀ l ∈ s.locations, l.matchType = .start → l.path ∉ locationModifiers) ∧
      (∀ a ∈ s.servedAssets, isBlankText (s.performance.assetExpiry a) = false) ∧
      (∀ n ∈ s.writtenIntegers, FewDigits n) ∧
      ∃ i, Import.ofText s.render = .ok i ∧ List.Forall₂ (fun l read =>
        read.matchType = l.matchType ∧ read.path = l.path ∧
          (read.body i.site.reverseProxy.realIpHeaders = l.body s.reverseProxy.realIpHeaders ↔
            l.KeepsUpgrade s.reverseProxy.realIpHeaders)) s.effectiveLocations i.site.locations := by
  intro s
  have hv : s.Valid := by decide
  have hp : ∀ t ∈ s.strings, Plain t := by decide
  have hc : isBlankText s.customDirectives = true := by decide
  have hk : ∀ l ∈ s.locations, l.kind ≠ .custom := by decide
  have hm : ∀ l ∈ s.locations, l.matchType = .start → l.path ∉ locationModifiers := by decide
  have hw : ∀ a ∈ s.servedAssets, isBlankText (s.performance.assetExpiry a) = false := by decide
  have hn : ∀ n ∈ s.writtenIntegers, FewDigits n := by decide
  obtain ⟨hlocations, hread⟩ := render_locations hv hp hc hk hm hw
  obtain ⟨i, hi⟩ := hread hn
  exact ⟨hv, hp, hc, hk, hm, hw, hn, i, hi, hlocations i hi⟩

end Site
end SiteConf
