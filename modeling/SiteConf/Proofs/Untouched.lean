import SiteConf.Proofs.Fixpoint

/-!
# What fixing leaves alone

Fixing a site may touch some of its switches, the values that come with a switch that was off, outdated protocols
and the targets that proxy locations lack (`Spares`). It switches no protection off, but for a redirect to an
encrypted server that does not exist. An encrypted site is left without outdated protocols and with all others.
Main statement: `applyAllFixes_spares`.

Any number of sweeps leads to the site as it is or to the mended one (`applyAllFixes_ruleTable`), so this is said of
the mended site only.
-/

namespace SiteConf
open Codec Text

/-- The first site, with the values of the second one in the fields that rules can fix. -/
def Site.withFixes (s t : Site) : Site :=
  { s with
    ssl := { s.ssl with
      httpRedirect := t.ssl.httpRedirect
      protocols := t.ssl.protocols
      enableHsts := t.ssl.enableHsts }
    reverseProxy := { s.reverseProxy with enabled := t.reverseProxy.enabled }
    security := { s.security with
      hideVersion := t.security.hideVersion
      securityHeaders := t.security.securityHeaders
      rateLimiting := t.security.rateLimiting
      rateLimit := t.security.rateLimit
      rateBurst := t.security.rateBurst }
    performance := { s.performance with
      gzip := t.performance.gzip
      brotli := t.performance.brotli
      http2 := t.performance.http2
      keepaliveTimeout := t.performance.keepaliveTimeout
      staticCaching := t.performance.staticCaching
      cacheExpiry := t.performance.cacheExpiry }
    logging := { s.logging with
      accessLog := t.logging.accessLog
      accessLogPath := t.logging.accessLogPath }
    upstream := { s.upstream with enabled := t.upstream.enabled }
    locations := t.locations }

/-- Only a proxy location without a target may change, and nothing of it but the target. -/
def Location.Spares (l l' : Location) : Prop :=
  l' = l ∨ (l.kind = .proxy ∧ isBlankText l.proxyPass = true) ∧ ∃ target, l' = { l with proxyPass := target }

/-- Compared with the first site, the second one has other values only where rules have something to fix, and protects
no less. -/
structure Spares (s t : Site) : Prop where
  fields : t = s.withFixes t
  locations : List.Forall₂ Location.Spares s.locations t.locations
  rateLimit : s.security.rateLimiting = true →
    t.security.rateLimit = s.security.rateLimit ∧ t.security.rateBurst = s.security.rateBurst
  cacheExpiry : s.performance.staticCaching = true → t.performance.cacheExpiry = s.performance.cacheExpiry
  accessLogPath : s.logging.accessLog = true → t.logging.accessLogPath = s.logging.accessLogPath
  hideVersion : s.security.hideVersion = true → t.security.hideVersion = true
  securityHeaders : s.security.securityHeaders = true → t.security.securityHeaders = true
  rateLimiting : s.security.rateLimiting = true → t.security.rateLimiting = true
  hsts : s.ssl.enableHsts = true → t.ssl.enableHsts = true
  httpRedirect : s.ssl.httpRedirect = true → t.ssl.httpRedirect = false → s.ssl.enabled = false
  /-- Protocols that are not outdated stay, in their order. -/
  protocols : (s.ssl.protocols.filter (!Rules.outdatedProtocols.contains ·)).Sublist t.ssl.protocols
  /-- Without encryption nothing that belongs to it is switched on. -/
  unencrypted : s.ssl.enabled = false → t.ssl.protocols = s.ssl.protocols ∧ t.ssl.enableHsts = s.ssl.enableHsts ∧
    t.performance.http2 = s.performance.http2 ∧ t.performance.brotli = s.performance.brotli

theorem Location.Spares.refl (l : Location) : l.Spares l := .inl rfl

theorem Spares.refl (s : Site) : Spares s s where
  fields := rfl
  locations := List.forall₂_same.2 fun l _ => .refl l
  rateLimit _ := ⟨rfl, rfl⟩
  cacheExpiry _ := rfl
  accessLogPath _ := rfl
  hideVersion h := h
  securityHeaders h := h
  rateLimiting h := h
  hsts h := h
  httpRedirect hon hoff := Bool.noConfusion (hon.symm.trans hoff)
  protocols := List.filter_sublist
  unencrypted _ := ⟨rfl, rfl, rfl, rfl⟩

/-! ### The mended site -/

theorem Rules.spares_retarget (backend : String) (l : Location) : l.Spares (retarget backend l) := by
  unfold retarget
  split_ifs with h
  · rw [Location.lacksTarget, Bool.and_eq_true, beq_iff_eq] at h
    exact .inr ⟨h, backend, rfl⟩
  · exact .refl l

open Rules in
theorem Site.protocols_mended (s : Site) :
    s.mended.ssl.protocols = if s.ssl.enabled && s.ssl.protocols.any outdatedProtocols.contains then
      securedProtocols s.ssl else s.ssl.protocols := rfl

theorem Rules.sublist_securedProtocols (ssl : Ssl) :
    (ssl.protocols.filter (!outdatedProtocols.contains ·)).Sublist (securedProtocols ssl) := by
  unfold securedProtocols
  dsimp only
  split_ifs with hempty
  · rw [List.isEmpty_iff.1 hempty]
    exact List.nil_sublist _
  · exact .refl _

theorem spares_mended (s : Site) : Spares s s.mended where
  fields := rfl
  locations := List.forall₂_map_right_iff.2 (List.forall₂_same.2 fun l _ => Rules.spares_retarget _ l)
  rateLimit h := ⟨if_pos h, if_pos h⟩
  cacheExpiry h := if_pos h
  accessLogPath h := if_pos h
  hideVersion _ := rfl
  securityHeaders _ := rfl
  rateLimiting _ := rfl
  hsts h := by
    show (s.ssl.enableHsts || s.ssl.enabled) = true
    rw [h, Bool.true_or]
  httpRedirect hon hoff := by
    rw [← hoff]
    show s.ssl.enabled = (s.ssl.httpRedirect && s.ssl.enabled)
    rw [hon, Bool.true_and]
  protocols := by
    rw [s.protocols_mended]
    split_ifs
    · exact Rules.sublist_securedProtocols s.ssl
    · exact List.filter_sublist
  unencrypted h := by
    refine ⟨?_, ?_, ?_, ?_⟩
    · rw [s.protocols_mended, h, Bool.false_and, if_neg Bool.false_ne_true]
    · show (s.ssl.enableHsts || s.ssl.enabled) = _
      rw [h, Bool.or_false]
    · show (s.performance.http2 || s.ssl.enabled) = _
      rw [h, Bool.or_false]
    · show (s.performance.brotli || s.ssl.enabled) = _
      rw [h, Bool.or_false]

/-- What fixing switches on for an encrypted site, and that it leaves no outdated protocol in use. -/
structure Secured (s t : Site) : Prop where
  outdated : ∀ p ∈ t.ssl.protocols, p ∉ Rules.outdatedProtocols
  /-- A site that names protocols goes on naming some. -/
  named : s.ssl.protocols ≠ [] → t.ssl.protocols ≠ []
  hsts : t.ssl.enableHsts = true
  httpRedirect : t.ssl.httpRedirect = s.ssl.httpRedirect
  http2 : t.performance.http2 = true
  brotli : t.performance.brotli = true

theorem Rules.securedProtocols_ne_nil (ssl : Ssl) : securedProtocols ssl ≠ [] := by
  unfold securedProtocols
  dsimp only
  split_ifs with hempty
  · decide
  · exact fun h => hempty (List.isEmpty_iff.2 h)

theorem secured_mended {s : Site} (h : s.ssl.enabled = true) : Secured s s.mended where
  outdated := by
    have hquiet : (s.ssl.enabled && s.mended.ssl.protocols.any Rules.outdatedProtocols.contains) = false :=
      sslProtocolsOutdated_quiet s
    rw [h, Bool.true_and, List.any_eq_false] at hquiet
    exact fun p hp hout => hquiet p hp (List.contains_iff_mem.2 hout)
  named hne := by
    rw [s.protocols_mended]
    split_ifs
    · exact Rules.securedProtocols_ne_nil s.ssl
    · exact hne
  hsts := by
    show (s.ssl.enableHsts || s.ssl.enabled) = true
    rw [h, Bool.or_true]
  httpRedirect := by
    show (s.ssl.httpRedirect && s.ssl.enabled) = _
    rw [h, Bool.and_true]
  http2 := by
    show (s.performance.http2 || s.ssl.enabled) = true
    rw [h, Bool.or_true]
  brotli := by
    show (s.performance.brotli || s.ssl.enabled) = true
    rw [h, Bool.or_true]

/-! ### Any number of sweeps -/

/-- Fixing a valid site, in however many sweeps, changes nothing but what rules have to fix, and switches no
protection off. With encryption, one sweep is enough to leave no outdated protocol in use. Only a number of too many
digits in the site makes it break off. -/
theorem applyAllFixes_spares {s : Site} (hs : s.Valid) (n : Int) :
    ((∀ n ∈ s.integers, FewDigits n) → ∃ t, (applyAllFixes ruleTable n s).map (·.1.model) = .ok t ∧
      Spares s t ∧ (s.ssl.enabled = true → 1 ≤ n → Secured s t)) ∧
    ((¬∀ n ∈ s.integers, FewDigits n) → applyAllFixes ruleTable n s = .error .unwritable) := by
  refine ⟨fun hfew => ⟨_, applyAllFixes_ruleTable hs hfew n, ?_⟩, fun hmany => applyAllFixes_unwritable hmany n⟩
  split_ifs with hn
  · exact ⟨spares_mended s, fun henabled _ => secured_mended henabled⟩
  · exact ⟨.refl s, fun _ h => (hn h).elim⟩

/-- An encrypted site with an outdated protocol beside a current one, a rate limit of its own, no logs, and a proxy
location without a target. -/
theorem applyAllFixes_spares_outdated :
    let s : Site :=
      { ssl := { enabled := true, protocols := ["TLSv1.1", "TLSv1.3"] }
        security := { rateLimiting := true, rateLimit := 3, hideVersion := false }
        logging := { accessLog := false, accessLogPath := "/srv/access.log" }
        locations := [{ path := "/", kind := .proxy }, { path := "/files", autoindex := true }] }
    s.Valid ∧ s.ssl.enabled = true ∧ ∃ t, (applyAllFixes ruleTable 2 s).map (·.1.model) = .ok t ∧
      Spares s t ∧ Secured s t := by
  intro s
  have hs : s.Valid := by decide
  obtain ⟨t, ht, hspares, hsecured⟩ := (applyAllFixes_spares hs 2).1 (by decide)
  exact ⟨hs, rfl, t, ht, hspares, hsecured rfl (by decide)⟩

end SiteConf
