import SiteConf.Proofs.Preserved
import SiteConf.Proofs.Sound
import SiteConf.Proofs.Stable

/-!
# One import makes a text normal

The text of an imported site is imported without errors and warnings as a site with the same text, if the
imported site is normal and what it keeps of a location as text is legible (`Import.render_normal`). A site that is
not normal holds a location that its own text does not keep: one whose path is a modifier, one that looks like the
caching location of a class, or one for a class whose expiry is blank.
-/

namespace SiteConf
open Text

/-- A site whose texts are read back, and whose locations stand where they stood. -/
structure Site.Normal (s : Site) : Prop where
  legible : s.Legible
  /-- The path of a prefix match does not stand where a modifier does. -/
  modifiers : ∀ l ∈ s.locations, l.matchType = .start → l.path ∉ locationModifiers
  /-- A second caching location of one class would be read as the first one. -/
  stanzas : ∀ l ∈ s.locations, l.matchType = .regexIgnoreCase → cachingStanza? l.path (l.bodyNodes false) = none
  expiries : ∀ a ∈ s.servedAssets, isBlankText (s.performance.assetExpiry a) = false

/-! ### What is kept as text -/

/-- Statements of a location that are kept as text. -/
def Location.IsKept (path : String) (m : MatchType) (ns : List Node) : Prop :=
  ofChildren path m ns = .ok (asText path m ns)

/-- The blocks of the server that locations are read from. -/
def Import.placed (rateLimiting : Bool) (nodes : List Node) : List Node :=
  match (fileScope nodes).filter Node.isServer with
  | [] => []
  | s :: ss => placedBlocks rateLimiting [] (chooseServer s ss).1.children

/-- What is kept of a location as text is legible, or else its text is kept again. -/
def Import.KeepsText (rateLimiting : Bool) (nodes : List Node) : Prop :=
  ∀ n ∈ placed rateLimiting nodes,
    let ns := n.contents rateLimiting
    Location.IsKept n.path n.matchType ns →
      AllLegible ns ∨ Location.IsKept n.path n.matchType (Tree.ofText (joinLines (serialize 0 ns))).nodes

namespace Location
variable {path : String} {m : MatchType} {ns : List Node}

theorem ReadFrom.eq_asText {rateLimiting : Bool} {n : Node} {l : Location} (h : l.ReadFrom rateLimiting n)
    (hk : l.kind = .custom) : l = asText n.path n.matchType (n.contents rateLimiting) := by
  have hread : Ensures (ofChildren n.path n.matchType (n.contents rateLimiting)) fun l =>
      l.kind = .custom → l = asText n.path n.matchType (n.contents rateLimiting) :=
    ensures_ofChildren_of (fun _ => rfl) fun l hl _ hk => absurd hk hl.stands.2.2.1
  exact hread l h.read hk

/-- Legible statements that are kept are kept again when their text is read. -/
theorem IsKept.reread (h : IsKept path m ns) (hlegible : AllLegible ns) :
    IsKept path m (Tree.ofText (joinLines (serialize 0 ns))).nodes := by
  have hnodes := (ofText_serialize 0 ns hlegible).2
  unfold IsKept at h ⊢
  rw [← ofChildren_withoutLines, ← asText_withoutLines, hnodes, ofChildren_withoutLines, asText_withoutLines]
  exact h

theorem bodyNodes_asText (realIp : Bool) :
    (asText path m ns).bodyNodes realIp = (Tree.ofText (joinLines (serialize 0 ns))).nodes := by
  show (if isBlankText (joinLines (serialize 0 ns)) then [] else _) = _
  split_ifs with hblank
  · exact (nodes_ofText_of_blank hblank).symm
  · rfl

end Location

theorem of_mem_settleLocations {ls : List Location} {l : Location} (h : l ∈ settleLocations ls)
    (hk : l.kind = .custom) : l ∈ ls := by
  rw [settleLocations_eq_map, List.mem_map] at h
  obtain ⟨m, hm, rfl⟩ := h
  split_ifs at hk ⊢ with hforwards
  · rw [Location.kind_dropForwarding] at hk
    rw [Location.dropForwarding, if_neg (by rw [hk]; decide)]
    exact hm
  · exact hm

/-- What an imported site keeps as text is kept when it is imported again. -/
theorem Import.isKept_bodyNodes {nodes : List Node} {errors : List String} {i : Import}
    (h : ofNodes nodes errors = .ok i) (hkeeps : KeepsText i.site.security.rateLimiting nodes) {l : Location}
    (hl : l ∈ i.site.locations) (hk : l.kind = .custom) :
    Location.IsKept l.path l.matchType (l.bodyNodes false) := by
  cases hs : (fileScope nodes).filter Node.isServer with
  | nil =>
    unfold ofNodes at h
    simp only [hs] at h
    cases h
    rw [List.mem_singleton.1 hl] at hk
    cases hk
  | cons s ss =>
    obtain ⟨ls, hread, hlocations, -⟩ := exists_readFrom h hs
    rw [hlocations] at hl
    obtain ⟨n, hn, hfrom⟩ := exists_of_forall₂ hread (of_mem_settleLocations hl hk)
    have hl := hfrom.eq_asText hk
    have hkept : Location.IsKept n.path n.matchType (n.contents i.site.security.rateLimiting) := by
      rw [Location.IsKept, ← hl]
      exact hfrom.read
    rw [hl, Location.bodyNodes_asText]
    rw [KeepsText, placed, hs] at hkeeps
    rcases hkeeps n hn hkept with hlegible | hagain
    · exact hkept.reread hlegible
    · exact hagain

/-! ### Importing again -/

namespace Site
variable {s : Site}

theorem bodyNodes_custom {l : Location} (h : l.kind = .custom) (realIp : Bool) :
    l.bodyNodes realIp = l.bodyNodes false := by
  unfold Location.bodyNodes
  rw [h]

/-- A sound site that is normal is read back, if its text is kept. -/
theorem Normal.readable (h : s.Normal) (hs : s.Sound)
    (hkept : ∀ l ∈ s.locations, l.kind = .custom → Location.IsKept l.path l.matchType (l.bodyNodes false)) :
    s.Readable where
  port := hs.port
  limits := hs.limits
  sizes := ⟨hs.size.2, hs.keepalive⟩
  members := hs.members
  realm _ := hs.realm
  locations := by
    refine forall_readBack (fun l hl hbody => ?_) fun l hl => (h.legible.locations l hl).2
    obtain ⟨hvalid, htimeout⟩ := hs.locations l hl
    by_cases hk : l.kind = .custom
    · refine ⟨hvalid.1, h.modifiers l hl, ?_, ?_⟩
      · rw [bodyNodes_custom hk]
        exact h.stanzas l hl
      · rw [bodyNodes_custom hk, hkept l hl hk, Location.reread, hk]
        rw [← bodyNodes_custom hk s.reverseProxy.realIpHeaders]
    · exact Location.readBack_of_kind _ hbody hvalid htimeout hk (h.modifiers l hl)
  caching := h.expiries

theorem Sound.keepsUpgrade (hs : s.Sound) (hl : ∀ l ∈ s.effectiveLocations, l.LegibleBody) :
    ∀ l ∈ s.effectiveLocations, l.KeepsUpgrade s.reverseProxy.realIpHeaders := by
  have hkeeps : ∀ l ∈ s.effectiveLocations, l.LegibleBody → l.KeepsUpgrade s.reverseProxy.realIpHeaders := by
    refine forall_effectiveLocations hs.upgrades ?_ ?_
    · intro _ _ hown
      rw [hs.headers] at hown
      have hnone : ([] : List Header) = upgradeHeaders := hown
      exact absurd hnone (by decide)
    · intro _ hk
      cases hk
  exact fun l h => hkeeps l h (hl l h)

end Site

/-- The text of an imported site that is normal, and keeps its texts, stays as it is when it is imported and written
again. -/
theorem Import.render_normal {text : String} {i : Import} (h : ofText text = .ok i)
    (hc : isBlankText i.site.customDirectives = true) (hn : i.site.Normal)
    (hkeeps : KeepsText i.site.security.rateLimiting (Tree.ofText text).nodes) :
    ∃ j, ofText i.site.render = .ok j ∧ j.errors = [] ∧ j.warnings = [] ∧ j.site.render = i.site.render := by
  have hs : i.site.Sound := ensures_ofText text i h
  have hreadable := hn.readable hs fun l hl => isKept_bodyNodes h hkeeps hl
  have hupgrades := hs.keepsUpgrade fun l hl => (hn.legible.locations l hl).2
  exact ⟨_, ofText_render hn.legible hreadable hc, rfl, rfl,
    Site.render_reimported hn.legible hreadable hc hupgrades⟩

theorem Import.exists_of_map_site {text : String} {site : Site} (h : (ofText text).map Import.site = .ok site) :
    ∃ i, ofText text = .ok i ∧ i.site = site := by
  cases hi : ofText text with
  | error e =>
    rw [hi] at h
    cases h
  | ok i =>
    rw [hi] at h
    exact ⟨i, rfl, Except.ok.inj h⟩

/-- A text with a caching location, and with a location that is kept as text. -/
theorem Import.render_normal_kept :
    let text := "server \x7b
      location ~* \\.css$ \x7b expires 7d; add_header Cache-Control \"public, immutable\"; \x7d
      location /x \x7b deny all; \x7d \x7d"
    ∃ i, ofText text = .ok i ∧ isBlankText i.site.customDirectives = true ∧ i.site.Normal ∧
      KeepsText i.site.security.rateLimiting (Tree.ofText text).nodes ∧
      ∃ j, ofText i.site.render = .ok j ∧ j.errors = [] ∧ j.warnings = [] ∧ j.site.render = i.site.render := by
  intro text
  have hsite : (ofText text).map Import.site = .ok { Site.blank with
    performance := { Site.blank.performance with staticCaching := true, cacheExpiry := "7d" }
    locations := [{ path := "/x", kind := .custom, customDirectives := "deny all;" }] } := by decide +kernel
  obtain ⟨i, hi, hs⟩ := exists_of_map_site hsite
  have hn : i.site.Normal := by
    rw [hs]
    refine ⟨⟨?_, ?_, ?_, ?_, ?_, ?_, ?_, ?_, ?_⟩, ?_, ?_, ?_⟩
    · decide
    · decide
    · intro hu
      cases hu
    · intro he
      cases he
    · exact ⟨by decide, by decide, fun hb => by cases hb⟩
    · exact ⟨fun hg => (by cases hg), fun hb => by cases hb⟩
    · exact ⟨by decide, fun he => by cases he⟩
    · simp only [Site.effectiveLocations, List.isEmpty_cons, Bool.false_eq_true, if_false, List.forall_mem_singleton]
      refine ⟨by decide, fun _ => by decide +kernel⟩
    · decide +kernel
    · decide
    · decide +kernel
    · decide +kernel
  have hkeeps : KeepsText i.site.security.rateLimiting (Tree.ofText text).nodes := by
    have hblocks : ∀ n ∈ placed false (Tree.ofText text).nodes, AllLegible (n.contents false) := by decide +kernel
    rw [show i.site.security.rateLimiting = false by rw [hs]; rfl]
    exact fun n hn _ => .inl (hblocks n hn)
  exact ⟨i, hi, by rw [hs]; decide, hn, hkeeps, render_normal hi (by rw [hs]; decide) hn hkeeps⟩

end SiteConf
