import SiteConf.Proofs.Plain
import SiteConf.Proofs.Regenerated

/-!
# Written, imported and written again

A regular site (`Site.Regular`) is written as a text that is imported without errors and warnings, and the
imported site is written as the same text (`Site.render_stable`).
-/

namespace SiteConf
open Text

/-- The expiries that are set for assets. -/
def Performance.expiries (p : Performance) : List String := p.cacheExpiry :: p.assetCacheExpiry.map (·.2)

/-! ### Regular sites -/

/-- A site all of whose fields survive being written and read. -/
structure Site.Regular (s : Site) : Prop where
  plain : ∀ t ∈ s.strings, Plain t
  numbers : ∀ n ∈ s.integers, FewDigits n
  custom : isBlankText s.customDirectives = true
  kinds : ∀ l ∈ s.locations, l.kind ≠ .custom
  members : ∀ m ∈ s.upstream.servers, 0 ≤ m.maxFails ∧ 0 ≤ m.failTimeout
  /-- This realm switches passwords off. -/
  realm : s.security.basicAuthRealm ≠ "off"
  paths : ∀ l ∈ s.locations, l.matchType = .start → l.path ∉ locationModifiers
  expiries : ∀ e ∈ s.performance.expiries, e ≠ "" → isBlankText e = false
  upgrades : ∀ l ∈ s.effectiveLocations, l.KeepsUpgrade s.reverseProxy.realIpHeaders

namespace Site
variable {s : Site}

theorem isBlankText_assetExpiry (h : ∀ e ∈ s.performance.expiries, e ≠ "" → isBlankText e = false)
    (a : AssetClass) : isBlankText (s.performance.assetExpiry a) = false := by
  have horElse : ∀ value fallback : String, (value ≠ "" → isBlankText value = false) →
      isBlankText fallback = false → isBlankText (orElse value fallback) = false := by
    intro value fallback hv hf
    unfold orElse
    split_ifs with he
    · exact hf
    · exact hv (by simpa using he)
  refine horElse _ _ ?_ (horElse _ _ (h _ (List.mem_cons_self ..)) (by decide))
  cases hl : s.performance.assetCacheExpiry.lookup (spell a) with
  | none => exact fun hne => absurd rfl hne
  | some v =>
    obtain ⟨before, after, hentries, -⟩ := List.lookup_eq_some_iff.1 hl
    exact h v (by simp [Performance.expiries, hentries])

/-- The locations that can stand in for none are read back like any other. -/
theorem forall_readBack {realIp : Bool} (h : ∀ l ∈ s.locations, l.LegibleBody → l.ReadBack realIp)
    (hbody : ∀ l ∈ s.effectiveLocations, l.LegibleBody) : ∀ l ∈ s.effectiveLocations, l.ReadBack realIp := by
  have hroot : ∀ l : Location, l.path = "/" → l.redirectCode = 301 → l.proxyTimeout = 0 → l.kind ≠ .custom →
      l.LegibleBody → l.ReadBack realIp := by
    intro l hp hc ht hk hbody
    refine Location.readBack_of_kind _ hbody ⟨?_, ?_⟩ ?_ hk fun _ => ?_
    · rw [hp]; decide
    · rw [hc]; decide
    · rw [ht]; decide
    · rw [hp]; decide
  have hread : ∀ l ∈ s.effectiveLocations, l.LegibleBody → l.ReadBack realIp :=
    forall_effectiveLocations h (hroot _ rfl rfl rfl (by simp)) (hroot _ rfl rfl rfl (by simp))
  exact fun l hl => hread l hl (hbody l hl)

theorem Regular.readable (hv : s.Valid) (h : s.Regular) : s.Readable where
  port := ⟨hv.listenPort, h.numbers _ (by simp [integers])⟩
  limits := ⟨h.numbers _ (by simp [integers]), h.numbers _ (by simp [integers])⟩
  sizes := ⟨h.numbers _ (by simp [integers]), h.numbers _ (by simp [integers])⟩
  members m hm := by
    have hdigits : ∀ n ∈ m.integers, FewDigits n := by
      intro n hn
      refine h.numbers n (List.mem_append_left _ (List.mem_append_right _ ?_))
      exact List.mem_flatMap.2 ⟨m, hm, hn⟩
    exact {
      weight := ⟨hv.servers m hm, hdigits _ (by simp [PoolMember.integers])⟩
      maxFails := ⟨(h.members m hm).1, hdigits _ (by simp [PoolMember.integers])⟩
      failTimeout := ⟨(h.members m hm).2, hdigits _ (by simp [PoolMember.integers])⟩ }
  realm _ := h.realm
  locations := by
    refine forall_readBack (fun l hl hbody => ?_) fun l hl => ((legible_of_plain h.plain h.kinds).locations l hl).2
    have hdigits : FewDigits l.proxyTimeout := by
      refine h.numbers _ (List.mem_append_right _ ?_)
      exact List.mem_flatMap.2 ⟨l, hl, by simp [Location.integers]⟩
    exact Location.readBack_of_kind _ hbody (hv.locations l hl) hdigits (h.kinds l hl) (h.paths l hl)
  caching a _ := isBlankText_assetExpiry h.expiries a

/-- A regular site is written, imported and written again without a change to the text. -/
theorem render_stable (hv : s.Valid) (h : s.Regular) :
    ∃ i, Import.ofText s.render = .ok i ∧ i.errors = [] ∧ i.warnings = [] ∧ i.site.render = s.render := by
  have hlegible := legible_of_plain h.plain h.kinds
  have hreadable := Regular.readable hv h
  exact ⟨_, Import.ofText_render hlegible hreadable h.custom, rfl, rfl,
    render_reimported hlegible hreadable h.custom h.upgrades⟩

/-- A site with a pool, encryption, passwords, a rate limit, and a location of each kind. -/
theorem render_stable_pool :
    let s : Site :=
      { serverNames := ["example.org", "www.example.org"]
        listenPort := 443
        ssl := { enabled := true, enableHsts := true, ciphers := "HIGH:!aNULL" }
        security := { rateLimiting := true, rateBurst := 0, ipAllowlist := [" 10.0.0.0/8 "], basicAuth := true }
        performance := { brotli := true, assetCacheExpiry := [("images", "90d"), ("fonts", "1y")] }
        upstream := { enabled := true, method := .leastConn,
                      servers := [{ address := "10.0.0.1:80", weight := 3 }, { address := "10.0.0.2:80" }] }
        locations :=
          [{ path := "/", root := "/srv/my site", tryFiles := "$uri  =404" },
            { path := "/api", kind := .proxy, proxyPass := "http://backend", proxyWebSocket := true,
              proxyHeaders := [⟨"X-Api", "1"⟩], proxyTimeout := 30 },
            { path := "/old", matchType := .exact, kind := .redirect, redirectUrl := "/new" }] }
    s.Valid ∧ s.Regular ∧
      ∃ i, Import.ofText s.render = .ok i ∧ i.errors = [] ∧ i.warnings = [] ∧ i.site.render = s.render := by
  intro s
  have hv : s.Valid := by decide
  have hr : s.Regular :=
    { plain := by decide
      numbers := by decide
      custom := by decide
      kinds := by decide
      members := by decide
      realm := by decide
      paths := by decide
      expiries := by decide
      upgrades := by unfold Location.KeepsUpgrade; decide }
  exact ⟨hv, hr, render_stable hv hr⟩

end Site
end SiteConf
