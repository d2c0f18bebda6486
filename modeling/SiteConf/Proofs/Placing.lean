import SiteConf.Proofs.Rereading

/-!
# What a server reads from its own location blocks

The blocks of a site's locations give the locations as they are reread, in their order, and set the burst
of the rate limit. The caching locations after them give the expiry of their classes.
-/

namespace SiteConf
open Text

/-! ### Locations -/

/-- The words that are taken for a modifier if they stand in the place of a path. -/
def locationModifiers : List String := ["=", "~", "~*", "^~"]

namespace Location

/-- The block of the location is read as a location of its kind. -/
structure ReadBack (realIp : Bool) (l : Location) : Prop where
  path : l.path ≠ ""
  modifier : l.matchType = .start → l.path ∉ locationModifiers
  stanza : l.matchType = .regexIgnoreCase → cachingStanza? l.path (l.bodyNodes realIp) = none
  children : ofChildren l.path l.matchType (l.bodyNodes realIp) = .ok (l.reread realIp)

theorem locationTarget_headArgs {l : Location} (h : l.matchType = .start → l.path ∉ locationModifiers)
    (children : List Node) :
    (Node.scope "location" l.headArgs children).locationTarget = (l.matchType, l.path, false) := by
  unfold headArgs
  cases hm : l.matchType with
  | start =>
    have hpath := h hm
    simp only [locationModifiers, List.mem_cons, List.not_mem_nil, or_false, not_or] at hpath
    obtain ⟨h1, h2, h3, h4⟩ := hpath
    unfold Node.locationTarget
    rw [show (Node.scope "location" [l.path] children).arg 0 = l.path from rfl]
    split
    · next hp => exact absurd hp h1
    · next hp => exact absurd hp h2
    · next hp => exact absurd hp h3
    · next hp => exact absurd hp h4
    · rfl
  | exact => rfl
  | regex => rfl
  | regexIgnoreCase => rfl

theorem cachingStanza?_eq_none {path : String} {ns : List Node} (h : ∀ n ∈ ns, n.name ≠ "add_header") :
    cachingStanza? path ns = none := by
  unfold cachingStanza?
  split
  · exact absurd rfl (h _ (List.mem_cons_of_mem _ (List.mem_singleton_self _)))
  · rfl

theorem ne_addHeader_of_mem_bodyNodes {l : Location} {realIp : Bool} (h : l.kind ≠ .custom) :
    ∀ n ∈ l.bodyNodes realIp, n.name ≠ "add_header" := by
  intro n hn hname
  unfold bodyNodes at hn
  cases hk : l.kind with
  | files =>
    rw [hk] at hn
    have hmem := l.names_fileNodes.subset (List.mem_map_of_mem hn)
    rw [hname] at hmem
    exact absurd hmem (by decide)
  | proxy =>
    rw [hk] at hn
    have hmem := (mem_proxyNodes hn).2
    rw [hname] at hmem
    exact absurd hmem (by decide)
  | redirect =>
    rw [hk] at hn
    rw [List.mem_singleton.1 hn] at hname
    exact absurd hname (by show ¬"return" = "add_header"; decide)
  | custom => exact absurd hk h

/-- A legible location that is not given as text is read back. -/
theorem readBack_of_kind {l : Location} (realIp : Bool) (hl : l.LegibleBody) (hv : l.Valid)
    (hf : FewDigits l.proxyTimeout) (hk : l.kind ≠ .custom)
    (hm : l.matchType = .start → l.path ∉ locationModifiers) : l.ReadBack realIp where
  path := hv.1
  modifier := hm
  stanza := fun _ => cachingStanza?_eq_none (ne_addHeader_of_mem_bodyNodes hk)
  children := ofChildren_bodyNodes realIp hl hv (fun _ _ => hf) hk

end Location

namespace Draft

theorem place_of_ofChildren {d : Draft} {m : MatchType} {path : String} {ns : List Node} {l : Location}
    (hs : m = .regexIgnoreCase → cachingStanza? path ns = none) (h : Location.ofChildren path m ns = .ok l) :
    d.place m path ns = .ok { d with site.locations := d.site.locations ++ [l] } := by
  have hnone : (if m = .regexIgnoreCase then cachingStanza? path ns else none) = none := by
    split_ifs with hm
    · exact hs hm
    · rfl
  unfold place
  rw [hnone, h]
  rfl

theorem burst_nonneg (s : Security) : 0 ≤ s.burst := by
  unfold Security.burst
  split_ifs
  · omega
  · decide

/-- The rate limit at the head of a location sets the burst, if the text has a rate limit. -/
theorem splitLimit_limitNodes (s : Security) (ns : List Node) :
    splitLimit s.rateLimiting (s.limitNodes ++ ns) =
      (ns, if s.rateLimiting then some (Nat.toDigits 10 s.burst.natAbs) else none) := by
  unfold Security.limitNodes
  cases s.rateLimiting with
  | false =>
    show splitLimit false ns = (ns, none)
    unfold splitLimit
    split <;> rfl
  | true =>
    show splitLimit true (.stmt "limit_req"
      ["zone=" ++ rateLimitZone, "burst=" ++ toString s.burst, "nodelay"] :: ns) = _
    simp only [splitLimit, Node.stmt, if_true, limitBurst?_toString (burst_nonneg s)]

theorem setBurst_toDigits (d : Draft) (r : Bool) {n : Int} (hn : 0 ≤ n) (hf : FewDigits n) :
    d.setBurst (if r then some (Nat.toDigits 10 n.natAbs) else none) =
      .ok { d with site.security.rateBurst := if r then n else d.site.security.rateBurst } := by
  cases r with
  | false => rfl
  | true =>
    have hi : (n.natAbs : Int) = n := by omega
    rw [if_pos rfl, setBurst, readNumber_toDigits hf]
    show Except.ok ({ d with site.security.rateBurst := (n.natAbs : Int) } : Draft) = _
    rw [hi]
    rfl

theorem fewDigits_burst {s : Security} (h : FewDigits s.rateBurst) : FewDigits s.burst := by
  unfold Security.burst
  split_ifs
  · exact h
  · decide

variable {d : Draft} {s : Site}

theorem reads_locationNode {l : Location} (hr : d.site.security.rateLimiting = s.security.rateLimiting)
    (hf : FewDigits s.security.rateBurst) (h : l.ReadBack s.reverseProxy.realIpHeaders) :
    d.Reads [s.locationNode l] { d with
      locationSeen := true
      site.security.rateBurst := if s.security.rateLimiting then s.security.burst else d.site.security.rateBurst
      site.locations := d.site.locations ++ [l.reread s.reverseProxy.realIpHeaders] } := by
  refine .single ?_
  show d.location (s.locationNode l) = _
  have hne : l.path.isEmpty = false := by
    rw [String.isEmpty_eq_false_iff]
    exact h.path
  have hsplit := splitLimit_limitNodes s.security (l.bodyNodes s.reverseProxy.realIpHeaders)
  rw [← hr] at hsplit
  rw [location_eq, Site.locationNode, l.locationTarget_headArgs h.modifier]
  dsimp only
  rw [hne]
  show ((({ d with locationSeen := true } : Draft).setBurst
    (splitLimit d.site.security.rateLimiting (s.security.limitNodes ++ _)).2).bind fun d' =>
      d'.place l.matchType l.path (splitLimit d.site.security.rateLimiting (s.security.limitNodes ++ _)).1) = _
  rw [hsplit, setBurst_toDigits _ _ (burst_nonneg _) (fewDigits_burst hf), ← hr]
  exact place_of_ofChildren h.stanza h.children

theorem reads_locationNodes {l : Location} {ls : List Location}
    (hr : d.site.security.rateLimiting = s.security.rateLimiting) (hf : FewDigits s.security.rateBurst)
    (h : ∀ l' ∈ l :: ls, l'.ReadBack s.reverseProxy.realIpHeaders) :
    d.Reads ((l :: ls).map s.locationNode) { d with
      locationSeen := true
      site.security.rateBurst := if s.security.rateLimiting then s.security.burst else d.site.security.rateBurst
      site.locations := d.site.locations ++ (l :: ls).map (Location.reread s.reverseProxy.realIpHeaders) } := by
  have hfirst := reads_locationNode hr hf (h l (by simp))
  induction ls generalizing l d with
  | nil => exact hfirst
  | cons l' ls ih =>
    have hrest := ih (d := { d with
      locationSeen := true
      site.security.rateBurst := if s.security.rateLimiting then s.security.burst else d.site.security.rateBurst
      site.locations := d.site.locations ++ [l.reread s.reverseProxy.realIpHeaders] }) hr
      (fun x hx => h x (by simp [hx])) (reads_locationNode hr hf (h l' (by simp)))
    have hall := hfirst.append hrest
    cases hb : s.security.rateLimiting <;> simpa [hb] using hall

/-! ### Caching locations -/

/-- The expiry of a class with single spaces between words. -/
def writtenExpiry (p : Performance) (a : AssetClass) : String := joinWith " " (words (p.assetExpiry a))

theorem place_of_stanza {path : String} {ns : List Node} {e : AssetClass × String}
    (hs : cachingStanza? path ns = some e) (hn : d.caching.lookup e.1 = none) :
    d.place .regexIgnoreCase path ns = .ok { d with caching := d.caching ++ [e] } := by
  have hfilter : (some e).filter (fun s => (d.caching.lookup s.1).isNone) = some e := by
    rw [Option.filter_some_eq_some, hn]
    rfl
  unfold place
  rw [if_pos rfl, hs, hfilter]

theorem cachingStanza?_assetNode {p : Performance} {a : AssetClass} (hw : isBlankText (p.assetExpiry a) = false) :
    cachingStanza? a.pattern [.stmt "expires" (words (p.assetExpiry a)),
      .stmt "add_header" ["Cache-Control", assetCacheControl]] = some (a, writtenExpiry p a) := by
  have hempty : (words (p.assetExpiry a)).isEmpty = false := by
    rw [List.isEmpty_eq_false_iff, Ne, words_eq_nil_iff, hw]
    simp
  unfold cachingStanza?
  rw [AssetClass.ofPattern?_eq_some_iff.2 rfl]
  show (if (words (p.assetExpiry a)).isEmpty || _ then _ else _) = _
  rw [hempty, if_neg (by decide)]
  rfl

theorem reads_assetNode {p : Performance} {a : AssetClass} (hseen : d.locationSeen = true)
    (hnew : d.caching.lookup a = none) (hw : isBlankText (p.assetExpiry a) = false) :
    d.Reads [p.assetNode a] { d with caching := d.caching ++ [(a, writtenExpiry p a)] } := by
  refine .single ?_
  show d.location (p.assetNode a) = _
  rw [location_eq]
  have hpattern : a.pattern.isEmpty = false := by cases a <;> decide
  show (if a.pattern.isEmpty = true then _ else (({ d with locationSeen := true } : Draft).setBurst none).bind
    fun d' => d'.place .regexIgnoreCase a.pattern _) = _
  rw [hpattern]
  show ({ d with locationSeen := true } : Draft).place .regexIgnoreCase a.pattern
    [.stmt "expires" (words (p.assetExpiry a)), .stmt "add_header" ["Cache-Control", assetCacheControl]] = _
  rw [← hseen]
  exact place_of_stanza (cachingStanza?_assetNode hw) hnew

theorem reads_assetNodes {p : Performance} {as : List AssetClass} (hseen : d.locationSeen = true)
    (hnew : ∀ a ∈ as, d.caching.lookup a = none) (hdistinct : as.Nodup)
    (hw : ∀ a ∈ as, isBlankText (p.assetExpiry a) = false) :
    d.Reads (as.map p.assetNode) { d with
      caching := d.caching ++ as.map fun a => (a, writtenExpiry p a) } := by
  induction as generalizing d with
  | nil => simpa using Reads.nil d
  | cons a as ih =>
    rw [List.nodup_cons] at hdistinct
    have hfirst := reads_assetNode hseen (hnew a (by simp)) (hw a (by simp))
    have hrest := ih (d := { d with caching := d.caching ++ [(a, writtenExpiry p a)] }) hseen (fun b hb => ?_)
      hdistinct.2 fun b hb => hw b (by simp [hb])
    · simpa using hfirst.append hrest
    · have hne : (b == a) = false := by
        rw [beq_eq_false_iff_ne]
        rintro rfl
        exact hdistinct.1 hb
      rw [List.lookup_append, hnew b (by simp [hb])]
      simp [List.lookup, hne]

end Draft

end SiteConf
