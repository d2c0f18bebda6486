import SiteConf.Lint.Catalog
import SiteConf.Proofs.Patch
import SiteConf.Proofs.Repair
import SiteConf.Proofs.Signature
import SiteConf.Proofs.Words

/-!
# Fixing ends after one sweep

`Site.mended` is a valid site with all fixes of the rule table, field by field. Every rule with a fix
amounts to a change of its own fields (`Rule.Mends`), so a sweep over the table leads to the mended
site, and there no such rule fires any more, but for the one that fills in the targets of proxy
locations: it goes on firing where the site has no backend (`proxyLocationWithoutTarget_fires_mended`).
A site with a number of too many digits has no signature, so fixing breaks off there
(`applyAllFixes_unwritable`).
-/

namespace SiteConf
open Codec Text

/-- What a rule makes of valid sites. Only fields that signatures show may change, and no number of many digits
is put in. -/
structure Rule.Mends (r : Rule Site) (f : Site → Site) : Prop where
  mend : ∀ s, s.Valid → r.mend s = f s
  proposes : ∀ s, s.Valid → r.fixable = true → r.fires s = true → r.Proposes s (f s)
  valid : ∀ s, s.Valid → (f s).Valid
  assets : ∀ s, (f s).performance.assetCacheExpiry = s.performance.assetCacheExpiry
  integers : ∀ s, ∀ n ∈ (f s).integers, n ∈ s.integers ∨ FewDigits n

theorem Rule.mends_of_no_fix {r : Rule Site} (h : r.fix = none) : r.Mends fun s => s where
  mend s _ := by simp [Rule.mend, h]
  proposes _ _ hfix _ := by simp [Rule.fixable, h] at hfix
  valid _ hs := hs
  assets _ := rfl
  integers _ _ hn := .inl hn

namespace Rules
variable {r : Rule Site} {p : Site → Bool} {f : Site → Site}

/-- A rule with a fix mends by `f` if the fix does so where the test holds, and `f` changes nothing
elsewhere. -/
theorem mends_of_fix {fix : Site → Except String Site} (htest : r.test = test p) (hr : r.fix = some fix)
    (hfix : ∀ s, s.Valid → p s = true → fix s = .ok (f s)) (hquiet : ∀ s, p s = false → f s = s)
    (hvalid : ∀ s, s.Valid → (f s).Valid)
    (hassets : ∀ s, (f s).performance.assetCacheExpiry = s.performance.assetCacheExpiry)
    (hintegers : ∀ s, ∀ n ∈ (f s).integers, n ∈ s.integers ∨ FewDigits n) : r.Mends f where
  mend s hs := by
    have hfires : r.fires s = p s := by simp [Rule.fires, htest, test]
    cases hp : p s with
    | true => exact Rule.mend_of_fires hr (hfires.trans hp) (hfix s hs hp)
    | false => rw [Rule.mend_of_quiet (hfires.trans hp), hquiet s hp]
  proposes s hs _ hfires := by
    have hp : p s = true := by simpa [Rule.fires, htest, test] using hfires
    exact ⟨hfires, fix, hr, hfix s hs hp⟩
  valid := hvalid
  assets := hassets
  integers := hintegers

theorem patch_eq {s t : Site} {name : String} {fields : Entries} (hn : name ∈ Site.sections)
    (h : s.mergeEntry (name, .map fields) = .ok t) (hport : 1 ≤ t.listenPort) :
    patch name fields s = .ok t := by
  unfold patch mergePatch
  rw [Site.merge_section hn h hport]
  rfl

theorem mends_of_patch {name : String} {fields : Entries} (htest : r.test = test p)
    (hr : r.fix = some (patch name fields)) (hn : name ∈ Site.sections)
    (hentry : ∀ s, s.Valid → p s = true → s.mergeEntry (name, .map fields) = .ok (f s))
    (hquiet : ∀ s, p s = false → f s = s) (hvalid : ∀ s, s.Valid → (f s).Valid)
    (hassets : ∀ s, (f s).performance.assetCacheExpiry = s.performance.assetCacheExpiry)
    (hintegers : ∀ s, ∀ n ∈ (f s).integers, n ∈ s.integers ∨ FewDigits n) : r.Mends f :=
  mends_of_fix htest hr (fun s hs hp => patch_eq hn (hentry s hs hp) (hvalid s hs).listenPort) hquiet
    hvalid hassets hintegers

/-! ### The numbers of a site with other numbers -/

theorem mem_integers_withKeepalive {s : Site} {k n : Int}
    (h : n ∈ { s with performance := { s.performance with keepaliveTimeout := k } }.integers) :
    n ∈ s.integers ∨ n = k := by
  simp only [Site.integers, List.mem_append, List.mem_cons] at h ⊢
  tauto

theorem mem_integers_withRates {s : Site} {rate burst n : Int} {on : Bool}
    (h : n ∈ { s with
      security := { s.security with rateLimiting := on, rateLimit := rate, rateBurst := burst } }.integers) :
    n ∈ s.integers ∨ n = rate ∨ n = burst := by
  simp only [Site.integers, List.mem_append, List.mem_cons] at h ⊢
  tauto

/-! ### The rules one by one -/

theorem serverTokens_mends :
    serverTokens.Mends fun s => { s with security := { s.security with hideVersion := true } } := by
  refine mends_of_patch rfl rfl (by simp [Site.sections]) (fun _ _ _ => rfl) (fun s hp => ?_)
    (fun s hs => ⟨hs.1, hs.2, hs.3, hs.4⟩) (fun _ => rfl) fun _ _ hn => .inl hn
  have h : s.security.hideVersion = true := by simpa using hp
  rw [← h]

theorem headersMissing_mends :
    headersMissing.Mends fun s => { s with security := { s.security with securityHeaders := true } } := by
  refine mends_of_patch rfl rfl (by simp [Site.sections]) (fun _ _ _ => rfl) (fun s hp => ?_)
    (fun s hs => ⟨hs.1, hs.2, hs.3, hs.4⟩) (fun _ => rfl) fun _ _ hn => .inl hn
  have h : s.security.securityHeaders = true := by simpa using hp
  rw [← h]

theorem httpRedirectWithoutSsl_mends :
    httpRedirectWithoutSsl.Mends fun s =>
      { s with ssl := { s.ssl with httpRedirect := s.ssl.httpRedirect && s.ssl.enabled } } := by
  refine mends_of_patch rfl rfl (by simp [Site.sections]) (fun s _ hp => ?_) (fun s hp => ?_)
    (fun s hs => ⟨hs.1, hs.2, hs.3, hs.4⟩) (fun _ => rfl) fun _ _ hn => .inl hn
  · have h : (s.ssl.httpRedirect && s.ssl.enabled) = false := by
      simp only [Bool.and_eq_true, Bool.not_eq_true'] at hp
      rw [hp.2, Bool.and_false]
    rw [h]
    exact Site.mergeEntry_ssl rfl rfl
  · have h : (s.ssl.httpRedirect && s.ssl.enabled) = s.ssl.httpRedirect := by
      cases h1 : s.ssl.httpRedirect <;> cases h2 : s.ssl.enabled <;> simp_all
    rw [h]

theorem proxyEnabledWithoutBackend_mends :
    proxyEnabledWithoutBackend.Mends fun s => { s with
      reverseProxy := { s.reverseProxy with
        enabled := s.reverseProxy.enabled && !isBlankText s.reverseProxy.backendAddress } } := by
  refine mends_of_patch rfl rfl (by simp [Site.sections]) (fun s _ hp => ?_) (fun s hp => ?_)
    (fun s hs => ⟨hs.1, hs.2, hs.3, hs.4⟩) (fun _ => rfl) fun _ _ hn => .inl hn
  · have h : (s.reverseProxy.enabled && !isBlankText s.reverseProxy.backendAddress) = false := by
      simp only [Bool.and_eq_true] at hp
      simp [hp.2]
    rw [h]
    rfl
  · have h : (s.reverseProxy.enabled && !isBlankText s.reverseProxy.backendAddress) =
        s.reverseProxy.enabled := by
      cases h1 : s.reverseProxy.enabled <;> simp_all
    rw [h]

theorem gzipDisabled_mends :
    gzipDisabled.Mends fun s => { s with performance := { s.performance with gzip := true } } := by
  refine mends_of_patch rfl rfl (by simp [Site.sections])
    (fun s hs _ => Site.mergeEntry_performance hs rfl rfl rfl rfl) (fun s hp => ?_)
    (fun s hs => ⟨hs.1, hs.2, hs.3, hs.4⟩) (fun _ => rfl) fun _ _ hn => .inl hn
  have h : s.performance.gzip = true := by simpa using hp
  rw [← h]

theorem or_of_not_lacking {e b : Bool} (h : (e && !b) = false) : (b || e) = b := by
  cases e <;> cases b <;> simp_all

theorem http2Disabled_mends :
    http2Disabled.Mends fun s =>
      { s with performance := { s.performance with http2 := s.performance.http2 || s.ssl.enabled } } := by
  refine mends_of_patch rfl rfl (by simp [Site.sections]) (fun s hs hp => ?_) (fun s hp => ?_)
    (fun s hs => ⟨hs.1, hs.2, hs.3, hs.4⟩) (fun _ => rfl) fun _ _ hn => .inl hn
  · simp only [Bool.and_eq_true] at hp
    rw [hp.1, Bool.or_true]
    exact Site.mergeEntry_performance hs rfl rfl rfl rfl
  · rw [or_of_not_lacking hp]

theorem brotliDisabled_mends :
    brotliDisabled.Mends fun s =>
      { s with performance := { s.performance with brotli := s.performance.brotli || s.ssl.enabled } } := by
  refine mends_of_patch rfl rfl (by simp [Site.sections]) (fun s hs hp => ?_) (fun s hp => ?_)
    (fun s hs => ⟨hs.1, hs.2, hs.3, hs.4⟩) (fun _ => rfl) fun _ _ hn => .inl hn
  · simp only [Bool.and_eq_true] at hp
    rw [hp.1, Bool.or_true]
    exact Site.mergeEntry_performance hs rfl rfl rfl rfl
  · rw [or_of_not_lacking hp]

theorem hstsMissing_mends :
    hstsMissing.Mends fun s =>
      { s with ssl := { s.ssl with enableHsts := s.ssl.enableHsts || s.ssl.enabled } } := by
  refine mends_of_patch rfl rfl (by simp [Site.sections]) (fun s _ hp => ?_) (fun s hp => ?_)
    (fun s hs => ⟨hs.1, hs.2, hs.3, hs.4⟩) (fun _ => rfl) fun _ _ hn => .inl hn
  · simp only [Bool.and_eq_true] at hp
    have h : (s.ssl.enableHsts || s.ssl.enabled) = true := by rw [hp.1, Bool.or_true]
    rw [h]
    exact Site.mergeEntry_ssl rfl rfl
  · rw [or_of_not_lacking hp]

theorem workerConnectionsLow_mends : workerConnectionsLow.Mends fun s => s :=
  mends_of_patch rfl rfl (by simp [Site.sections]) (fun _ _ hp => by simp at hp) (fun _ _ => rfl)
    (fun _ hs => hs) (fun _ => rfl) fun _ _ hn => .inl hn

theorem keepaliveTimeoutHigh_mends :
    keepaliveTimeoutHigh.Mends fun s => { s with performance := { s.performance with
      keepaliveTimeout := if 75 < s.performance.keepaliveTimeout then 65 else s.performance.keepaliveTimeout } } := by
  refine mends_of_patch rfl rfl (by simp [Site.sections]) (fun s hs hp => ?_) (fun s hp => ?_)
    (fun s hs => ⟨hs.1, hs.2, hs.3, hs.4⟩) (fun _ => rfl) (fun s n hn => ?_)
  · rw [if_pos (of_decide_eq_true hp)]
    exact Site.mergeEntry_performance hs rfl rfl rfl rfl
  · rw [if_neg (of_decide_eq_false hp)]
  · rcases mem_integers_withKeepalive hn with hn | rfl
    · exact .inl hn
    · split_ifs
      · exact .inr (by decide)
      · exact .inl (by simp [Site.integers])

theorem lowKeepalive_mends :
    lowKeepalive.Mends fun s => { s with performance := { s.performance with
      keepaliveTimeout := if 0 < s.performance.keepaliveTimeout ∧ s.performance.keepaliveTimeout < 10 then 65
        else s.performance.keepaliveTimeout } } := by
  refine mends_of_patch rfl rfl (by simp [Site.sections]) (fun s hs hp => ?_) (fun s hp => ?_)
    (fun s hs => ⟨hs.1, hs.2, hs.3, hs.4⟩) (fun _ => rfl) (fun s n hn => ?_)
  · rw [if_pos (by simpa using hp)]
    exact Site.mergeEntry_performance hs rfl rfl rfl rfl
  · rw [if_neg (by simpa using hp)]
  · rcases mem_integers_withKeepalive hn with hn | rfl
    · exact .inl hn
    · split_ifs
      · exact .inr (by decide)
      · exact .inl (by simp [Site.integers])

theorem noRateLimiting_mends :
    noRateLimiting.Mends fun s => { s with security := { s.security with
      rateLimiting := true
      rateLimit := if s.security.rateLimiting then s.security.rateLimit else 10
      rateBurst := if s.security.rateLimiting then s.security.rateBurst else 20 } } := by
  refine mends_of_patch rfl rfl (by simp [Site.sections]) (fun s _ hp => ?_) (fun s hp => ?_)
    (fun s hs => ⟨hs.1, hs.2, hs.3, hs.4⟩) (fun _ => rfl) (fun s n hn => ?_)
  · have h : s.security.rateLimiting = false := by simpa using hp
    rw [h]
    rfl
  · have h : s.security.rateLimiting = true := by simpa using hp
    rw [if_pos h, if_pos h, ← h]
  · rcases mem_integers_withRates hn with hn | rfl | rfl
    · exact .inl hn
    · split_ifs
      · exact .inl (by simp [Site.integers])
      · exact .inr (by decide)
    · split_ifs
      · exact .inl (by simp [Site.integers])
      · exact .inr (by decide)

theorem noStaticCaching_mends :
    noStaticCaching.Mends fun s => { s with performance := { s.performance with
      staticCaching := true
      cacheExpiry := if s.performance.staticCaching then s.performance.cacheExpiry else "30d" } } := by
  refine mends_of_patch rfl rfl (by simp [Site.sections]) (fun s hs hp => ?_) (fun s hp => ?_)
    (fun s hs => ⟨hs.1, hs.2, hs.3, hs.4⟩) (fun _ => rfl) fun _ _ hn => .inl hn
  · have h : s.performance.staticCaching = false := by simpa using hp
    rw [h]
    exact Site.mergeEntry_performance hs rfl rfl rfl rfl
  · have h : s.performance.staticCaching = true := by simpa using hp
    rw [if_pos h, ← h]

theorem loggingDisabled_mends :
    loggingDisabled.Mends fun s => { s with logging := { s.logging with
      accessLog := true
      accessLogPath := if s.logging.accessLog then s.logging.accessLogPath else "/var/log/nginx/access.log" } } := by
  refine mends_of_patch rfl rfl (by simp [Site.sections]) (fun s _ hp => ?_) (fun s hp => ?_)
    (fun s hs => ⟨hs.1, hs.2, hs.3, hs.4⟩) (fun _ => rfl) fun _ _ hn => .inl hn
  · have h : s.logging.accessLog = false := by simpa using hp
    rw [h]
    exact Site.mergeEntry_logging rfl rfl
  · have h : s.logging.accessLog = true := by simpa using hp
    rw [if_pos h, ← h]

theorem upstreamWithoutServers_mends :
    upstreamWithoutServers.Mends fun s => { s with upstream := { s.upstream with
      enabled := s.upstream.enabled && !s.upstream.servers.isEmpty } } := by
  refine mends_of_patch rfl rfl (by simp [Site.sections]) (fun s _ hp => ?_) (fun s hp => ?_)
    (fun s hs => ⟨hs.1, hs.2, hs.3, hs.4⟩) (fun _ => rfl) fun _ _ hn => .inl hn
  · have h : (s.upstream.enabled && !s.upstream.servers.isEmpty) = false := by
      simp only [Bool.and_eq_true] at hp
      rw [hp.2, Bool.not_true, Bool.and_false]
    rw [h]
    exact Site.mergeEntry_upstream rfl rfl
  · have h : (s.upstream.enabled && !s.upstream.servers.isEmpty) = s.upstream.enabled := by
      cases h1 : s.upstream.enabled <;> simp_all
    rw [h]

/-- The protocols after the fix for outdated ones. -/
def securedProtocols (ssl : Ssl) : List String :=
  let kept := ssl.protocols.filter (!outdatedProtocols.contains ·)
  if kept.isEmpty then secureProtocols else kept

theorem sslProtocolsOutdated_mends :
    sslProtocolsOutdated.Mends fun s => { s with ssl := { s.ssl with
      protocols := if s.ssl.enabled && s.ssl.protocols.any outdatedProtocols.contains then
        securedProtocols s.ssl else s.ssl.protocols } } := by
  refine mends_of_fix rfl rfl (fun s hs hp => ?_) (fun s hp => ?_)
    (fun s hs => ⟨hs.1, hs.2, hs.3, hs.4⟩) (fun _ => rfl) fun _ _ hn => .inl hn
  · rw [if_pos hp]
    have hq : mergeSection Ssl.record s.ssl.toEntries (Ssl.fill · s.ssl)
        [("protocols", texts (securedProtocols s.ssl))] = (do
          let protocols ← asTexts (Ssl.record ++ "." ++ "protocols") (texts (securedProtocols s.ssl))
          let preset ← member (spell s.ssl.preset)
          pure { s.ssl with protocols, preset }) := rfl
    rw [asTexts_texts] at hq
    exact patch_eq (by simp [Site.sections]) (Site.mergeEntry_ssl hq rfl) hs.listenPort
  · rw [hp]
    rfl

/-! ### Targets of proxy locations -/

/-- A location that lacks its target, with another one. -/
def retarget (backend : String) (l : Location) : Location :=
  if l.lacksTarget then { l with proxyPass := backend } else l

theorem retarget_valid {backend : String} {l : Location} (h : l.Valid) : (retarget backend l).Valid := by
  unfold retarget
  split
  · exact h
  · exact h

theorem retarget_integers (backend : String) (l : Location) : (retarget backend l).integers = l.integers := by
  unfold retarget
  split
  · rfl
  · rfl

theorem fillTarget_eq (backend : String) {l : Location} (h : l.Valid) :
    fillTarget backend l = .ok (retarget backend l) := by
  have hpath : ({ l with proxyPass := backend } : Location).path != "" := by simpa using h.1
  have hcode : redirectCodes.contains l.redirectCode = true := by simpa using h.2
  unfold fillTarget retarget
  split
  · show (do
      (do
        require .nothing (l.path != "") .emptyLocationPath
        require .nothing (redirectCodes.contains l.redirectCode) (.redirectCode l.redirectCode))
      pure { l with proxyPass := backend }) = Except.ok { l with proxyPass := backend }
    rw [require_of hpath, require_of hcode]
    rfl
  · rfl

theorem mapM_fillTarget (backend : String) {ls : List Location} (h : ∀ l ∈ ls, l.Valid) :
    ls.mapM (fillTarget backend) = .ok (ls.map (retarget backend)) := by
  induction ls with
  | nil => rfl
  | cons l ls ih =>
    rw [List.mapM_cons, fillTarget_eq backend (h l (by simp)), ih fun l hl => h l (by simp [hl])]
    rfl

theorem retarget_of_not_lacking {backend : String} {l : Location} (h : l.lacksTarget = false) :
    retarget backend l = l := by simp [retarget, h]

theorem fillTargets_eq {s : Site} (hs : s.Valid) :
    fillTargets s =
      .ok { s with locations := s.locations.map (retarget (trim s.reverseProxy.backendAddress)) } := by
  have hfill : (s.locations.mapM (fillTarget (trim s.reverseProxy.backendAddress))).mapError Fault.message =
      .ok (s.locations.map (retarget (trim s.reverseProxy.backendAddress))) := by
    rw [mapM_fillTarget _ hs.locations]
    rfl
  have hmerge : ∀ ls : List Location,
      mergePatch s [("locations", .list (ls.map fun l => .map l.toEntries))] = .ok { s with locations := ls } := by
    intro ls
    rw [mergePatch, Site.merge_locations hs.listenPort]
    rfl
  unfold fillTargets
  dsimp only
  rw [hfill]
  exact hmerge _

theorem proxyLocationWithoutTarget_mends :
    proxyLocationWithoutTarget.Mends fun s => { s with
      locations := s.locations.map (retarget (trim s.reverseProxy.backendAddress)) } := by
  refine mends_of_fix rfl rfl (fun s hs _ => fillTargets_eq hs) (fun s hp => ?_)
    (fun s hs => ⟨hs.1, hs.2, hs.3, ?_⟩) (fun _ => rfl) (fun s n hn => ?_)
  · have h : s.locations.map (retarget (trim s.reverseProxy.backendAddress)) = s.locations := by
      rw [List.any_eq_false] at hp
      conv_rhs => rw [← List.map_id s.locations]
      exact List.map_congr_left fun l hl => retarget_of_not_lacking (by simpa using hp l hl)
    rw [h]
  · intro l' hl'
    obtain ⟨l, hl, rfl⟩ := List.mem_map.1 hl'
    exact retarget_valid (hs.locations l hl)
  · left
    simp only [Site.integers, List.flatMap_map, retarget_integers] at hn
    exact hn

theorem retarget_retarget (backend : String) (l : Location) :
    retarget backend (retarget backend l) = retarget backend l := by
  cases h : l.lacksTarget with
  | false => rw [retarget_of_not_lacking h, retarget_of_not_lacking h]
  | true =>
    have h1 : retarget backend l = { l with proxyPass := backend } := by simp [retarget, h]
    rw [h1]
    unfold retarget
    split
    · rfl
    · rfl

/-- A location lacks its target after the fix exactly if it did before and the backend is blank. -/
theorem lacksTarget_retarget (backend : String) (l : Location) :
    (retarget (trim backend) l).lacksTarget = (l.lacksTarget && isBlankText backend) := by
  cases h : l.lacksTarget with
  | false => rw [retarget_of_not_lacking h, h, Bool.false_and]
  | true =>
    simp only [Location.lacksTarget, Bool.and_eq_true, beq_iff_eq] at h
    simp [retarget, Location.lacksTarget, h, isBlankText_trim]

theorem any_lacksTarget_retarget (backend : String) (ls : List Location) :
    (ls.map (retarget (trim backend))).any Location.lacksTarget =
      (ls.any Location.lacksTarget && isBlankText backend) := by
  induction ls with
  | nil => rfl
  | cons l ls ih =>
    rw [List.map_cons, List.any_cons, lacksTarget_retarget, ih, List.any_cons, Bool.and_or_distrib_right]

end Rules

/-! ### The table -/

open Rules in
/-- The site with all fixes of the table. -/
def Site.mended (s : Site) : Site :=
  { s with
    ssl := { s.ssl with
      httpRedirect := s.ssl.httpRedirect && s.ssl.enabled
      protocols := if s.ssl.enabled && s.ssl.protocols.any outdatedProtocols.contains then
        securedProtocols s.ssl else s.ssl.protocols
      enableHsts := s.ssl.enableHsts || s.ssl.enabled }
    reverseProxy := { s.reverseProxy with
      enabled := s.reverseProxy.enabled && !isBlankText s.reverseProxy.backendAddress }
    security := { s.security with
      hideVersion := true
      securityHeaders := true
      rateLimiting := true
      rateLimit := if s.security.rateLimiting then s.security.rateLimit else 10
      rateBurst := if s.security.rateLimiting then s.security.rateBurst else 20 }
    performance := { s.performance with
      gzip := true
      http2 := s.performance.http2 || s.ssl.enabled
      brotli := s.performance.brotli || s.ssl.enabled
      staticCaching := true
      cacheExpiry := if s.performance.staticCaching then s.performance.cacheExpiry else "30d"
      keepaliveTimeout :=
        let high := if 75 < s.performance.keepaliveTimeout then 65 else s.performance.keepaliveTimeout
        if 0 < high ∧ high < 10 then 65 else high }
    logging := { s.logging with
      accessLog := true
      accessLogPath := if s.logging.accessLog then s.logging.accessLogPath else "/var/log/nginx/access.log" }
    upstream := { s.upstream with enabled := s.upstream.enabled && !s.upstream.servers.isEmpty }
    locations := s.locations.map (retarget (trim s.reverseProxy.backendAddress)) }

theorem mendAll_eq_foldl {rules : List (Rule Site)} {fs : List (Site → Site)}
    (h : List.Forall₂ Rule.Mends rules fs) {s : Site} (hs : s.Valid) :
    mendAll rules s = fs.foldl (fun s f => f s) s ∧ (mendAll rules s).Valid := by
  induction h generalizing s with
  | nil => exact ⟨rfl, hs⟩
  | cons h _ ih =>
    have hm := h.mend s hs
    unfold mendAll at ih ⊢
    rw [List.foldl_cons, List.foldl_cons, hm]
    exact ih (h.valid s hs)

open Rules in
/-- Each rule of the table mends by a change of its own, and together they mend the site. -/
theorem ruleTable_mends : ∃ fs : List (Site → Site), List.Forall₂ Rule.Mends ruleTable fs ∧
    ∀ s, fs.foldl (fun s f => f s) s = s.mended :=
  ⟨_, .cons serverTokens_mends <| .cons headersMissing_mends <| .cons (Rule.mends_of_no_fix rfl) <|
    .cons (Rule.mends_of_no_fix rfl) <| .cons httpRedirectWithoutSsl_mends <|
    .cons (Rule.mends_of_no_fix rfl) <| .cons proxyEnabledWithoutBackend_mends <|
    .cons gzipDisabled_mends <| .cons http2Disabled_mends <| .cons workerConnectionsLow_mends <|
    .cons keepaliveTimeoutHigh_mends <| .cons sslProtocolsOutdated_mends <| .cons noRateLimiting_mends <|
    .cons (Rule.mends_of_no_fix rfl) <| .cons (Rule.mends_of_no_fix rfl) <| .cons brotliDisabled_mends <|
    .cons noStaticCaching_mends <| .cons (Rule.mends_of_no_fix rfl) <| .cons lowKeepalive_mends <|
    .cons (Rule.mends_of_no_fix rfl) <| .cons (Rule.mends_of_no_fix rfl) <| .cons loggingDisabled_mends <|
    .cons upstreamWithoutServers_mends <| .cons proxyLocationWithoutTarget_mends <|
    .cons (Rule.mends_of_no_fix rfl) <| .cons hstsMissing_mends .nil, fun _ => rfl⟩

theorem mendAll_ruleTable {s : Site} (hs : s.Valid) : mendAll ruleTable s = s.mended ∧ s.mended.Valid := by
  obtain ⟨fs, hfs, hm⟩ := ruleTable_mends
  obtain ⟨h1, h2⟩ := mendAll_eq_foldl hfs hs
  rw [h1, hm] at h2
  exact ⟨by rw [h1, hm], h2⟩

/-! ### Nothing left to fix -/

theorem lacking_or (e b : Bool) : (e && !(b || e)) = false := by cases e <;> cases b <;> rfl

theorem and_and_not (a b : Bool) : (a && b && !b) = false := by cases a <;> cases b <;> rfl

theorem and_not_and (a b : Bool) : (a && !b && b) = false := by cases a <;> cases b <;> rfl

open Rules in
theorem not_any_outdated_securedProtocols (ssl : Ssl) :
    (securedProtocols ssl).any outdatedProtocols.contains = false := by
  unfold securedProtocols
  dsimp only
  split
  · decide
  · rw [List.any_eq_false]
    intro p hp
    simpa using (List.mem_filter.1 hp).2

open Rules in
theorem sslProtocolsOutdated_quiet (s : Site) : sslProtocolsOutdated.fires s.mended = false := by
  show (s.ssl.enabled && (if s.ssl.enabled && s.ssl.protocols.any outdatedProtocols.contains then
    securedProtocols s.ssl else s.ssl.protocols).any outdatedProtocols.contains) = false
  split
  · rw [not_any_outdated_securedProtocols, Bool.and_false]
  · next h => simpa using h

open Rules in
/-- The two rules about the timeout do not undo each other. -/
theorem keepalive_quiet (s : Site) :
    keepaliveTimeoutHigh.fires s.mended = false ∧ lowKeepalive.fires s.mended = false := by
  have h : ¬75 < s.mended.performance.keepaliveTimeout ∧
      ¬(0 < s.mended.performance.keepaliveTimeout ∧ s.mended.performance.keepaliveTimeout < 10) := by
    simp only [Site.mended]
    split_ifs <;> omega
  refine ⟨decide_eq_false h.1, ?_⟩
  show (decide (0 < s.mended.performance.keepaliveTimeout) &&
    decide (s.mended.performance.keepaliveTimeout < 10)) = false
  rw [← Bool.decide_and]
  exact decide_eq_false h.2

open Rules in
/-- On a mended site no rule with a fix fires, but for the one about targets of proxy locations. -/
theorem quiet_mended (s : Site) {r : Rule Site} (hr : r ∈ ruleTable) (hfix : r.fixable = true)
    (hid : r.id ≠ proxyLocationWithoutTarget.id) : r.fires s.mended = false := by
  simp only [ruleTable, List.mem_cons, List.not_mem_nil, or_false] at hr
  rcases hr with rfl | rfl | rfl | rfl | rfl | rfl | rfl | rfl | rfl | rfl | rfl | rfl | rfl | rfl | rfl |
    rfl | rfl | rfl | rfl | rfl | rfl | rfl | rfl | rfl | rfl | rfl
  · exact (rfl : serverTokens.fires s.mended = false)
  · exact (rfl : headersMissing.fires s.mended = false)
  · exact absurd hfix (by decide)
  · exact absurd hfix (by decide)
  · exact and_and_not s.ssl.httpRedirect s.ssl.enabled
  · exact absurd hfix (by decide)
  · exact and_not_and s.reverseProxy.enabled (isBlankText s.reverseProxy.backendAddress)
  · exact (rfl : gzipDisabled.fires s.mended = false)
  · exact lacking_or s.ssl.enabled s.performance.http2
  · exact (rfl : workerConnectionsLow.fires s.mended = false)
  · exact (keepalive_quiet s).1
  · exact sslProtocolsOutdated_quiet s
  · exact (rfl : noRateLimiting.fires s.mended = false)
  · exact absurd hfix (by decide)
  · exact absurd hfix (by decide)
  · exact lacking_or s.ssl.enabled s.performance.brotli
  · exact (rfl : noStaticCaching.fires s.mended = false)
  · exact absurd hfix (by decide)
  · exact (keepalive_quiet s).2
  · exact absurd hfix (by decide)
  · exact absurd hfix (by decide)
  · exact (rfl : loggingDisabled.fires s.mended = false)
  · exact and_not_and s.upstream.enabled s.upstream.servers.isEmpty
  · exact absurd rfl hid
  · exact absurd hfix (by decide)
  · exact lacking_or s.ssl.enabled s.ssl.enableHsts

open Rules in
/-- The rule about targets fires on a mended site exactly if there is a target to fill in, but no
backend. -/
theorem proxyLocationWithoutTarget_fires_mended (s : Site) :
    proxyLocationWithoutTarget.fires s.mended =
      (s.mended.locations.any Location.lacksTarget && isBlankText s.reverseProxy.backendAddress) := by
  show (s.locations.map (retarget (trim s.reverseProxy.backendAddress))).any Location.lacksTarget =
    ((s.locations.map (retarget (trim s.reverseProxy.backendAddress))).any Location.lacksTarget &&
      isBlankText s.reverseProxy.backendAddress)
  rw [any_lacksTarget_retarget, Bool.and_assoc, Bool.and_self]

theorem ruleTable_ids_nodup : (ruleTable.map Rule.id).Nodup := by decide

open Rules in
theorem eq_of_id_eq {r : Rule Site} (hr : r ∈ ruleTable) (hid : r.id = proxyLocationWithoutTarget.id) :
    r = proxyLocationWithoutTarget :=
  List.inj_on_of_nodup_map ruleTable_ids_nodup hr (by simp [ruleTable]) hid

open Rules in
theorem mend_mended {s : Site} (hs : s.Valid) {r : Rule Site} (hr : r ∈ ruleTable) :
    r.mend s.mended = s.mended := by
  by_cases hid : r.id = proxyLocationWithoutTarget.id
  · -- this rule may fire again, and fills in what it filled in before
    rw [eq_of_id_eq hr hid, proxyLocationWithoutTarget_mends.mend _ (mendAll_ruleTable hs).2]
    have h : s.mended.locations.map (retarget (trim s.mended.reverseProxy.backendAddress)) =
        s.mended.locations := by
      show (s.locations.map (retarget (trim s.reverseProxy.backendAddress))).map
        (retarget (trim s.reverseProxy.backendAddress)) =
        s.locations.map (retarget (trim s.reverseProxy.backendAddress))
      rw [List.map_map]
      exact List.map_congr_left fun l _ => retarget_retarget _ l
    rw [h]
  · cases hfix : r.fixable with
    | true => exact Rule.mend_of_quiet (quiet_mended s hr hfix hid)
    | false =>
      rw [Rule.fixable, Option.isSome_eq_false_iff, Option.isNone_iff_eq_none] at hfix
      rw [Rule.mend, hfix]

theorem exists_mends {rules : List (Rule Site)} {fs : List (Site → Site)}
    (h : List.Forall₂ Rule.Mends rules fs) {r : Rule Site} (hr : r ∈ rules) : ∃ f, r.Mends f := by
  induction h with
  | nil => simp at hr
  | cons h _ ih =>
    rcases List.mem_cons.1 hr with rfl | hr
    · exact ⟨_, h⟩
    · exact ih hr

theorem ruleTable_mends_each {r : Rule Site} (hr : r ∈ ruleTable) : ∃ f, r.Mends f := by
  obtain ⟨fs, hfs, -⟩ := ruleTable_mends
  exact exists_mends hfs hr

/-- A rule of the table that fires on a valid site proposes the mended one, if it has a fix. -/
theorem proposes_mend {s : Site} (hs : s.Valid) {r : Rule Site} (hr : r ∈ ruleTable) (hfix : r.fixable = true)
    (hfires : r.fires s = true) : r.Proposes s (r.mend s) := by
  obtain ⟨f, hf⟩ := ruleTable_mends_each hr
  rw [hf.mend s hs]
  exact hf.proposes s hs hfix hfires

theorem mend_valid {s : Site} (hs : s.Valid) {r : Rule Site} (hr : r ∈ ruleTable) : (r.mend s).Valid := by
  obtain ⟨f, hf⟩ := ruleTable_mends_each hr
  rw [hf.mend s hs]
  exact hf.valid s hs

/-- Valid sites without numbers of many digits stay so under the table, and signatures show what changes. -/
theorem mendable_ruleTable : Mendable ruleTable fun s : Site => s.Valid ∧ ∀ n ∈ s.integers, FewDigits n := by
  have hkeeps : ∀ r ∈ ruleTable, ∀ s : Site, s.Valid ∧ (∀ n ∈ s.integers, FewDigits n) →
      (r.mend s).Valid ∧ ∀ n ∈ (r.mend s).integers, FewDigits n := by
    rintro r hr s ⟨hs, hfew⟩
    obtain ⟨f, hf⟩ := ruleTable_mends_each hr
    refine ⟨mend_valid hs hr, fun n hn => ?_⟩
    rw [hf.mend s hs] at hn
    exact (hf.integers s n hn).elim (hfew n) id
  refine ⟨fun s hs => ⟨_, Site.signature_eq_ok hs.2⟩, hkeeps, fun r hr s hs h => ?_⟩
  obtain ⟨-, he⟩ := Site.eq_of_signature_eq hs.2 (hkeeps r hr s hs).2 h
  obtain ⟨f, hf⟩ := ruleTable_mends_each hr
  rw [hf.mend s hs.1, ← hf.assets s] at he
  rw [hf.mend s hs.1]
  exact he.symm

/-- Without a sweep a site stays as it is, and any number of sweeps mends it. -/
theorem applyAllFixes_ruleTable {s : Site} (hs : s.Valid) (hfew : ∀ n ∈ s.integers, FewDigits n) (n : Int) :
    (applyAllFixes ruleTable n s).map (·.1.model) = .ok (if 1 ≤ n then s.mended else s) := by
  split_ifs with hn
  · have hm := (mendAll_ruleTable hs).1
    rw [← hm]
    refine applyAllFixes_model mendable_ruleTable ⟨hs, hfew⟩ ?_ hn
    rw [hm]
    exact fun r hr => mend_mended hs hr
  · have hrun : (applyAllFixes ruleTable n s).map (·.1) = .ok ⟨s, false, []⟩ :=
      applyAllFixes_of_nonpos (by omega) (Site.signature_eq_ok hfew)
    cases h : applyAllFixes ruleTable n s with
    | error e =>
      rw [h] at hrun
      cases hrun
    | ok outcome =>
      rw [h] at hrun
      exact congrArg (Except.map FixResult.model) hrun

theorem applyAllFixes_unwritable {s : Site} (h : ¬∀ n ∈ s.integers, FewDigits n) (n : Int) :
    applyAllFixes ruleTable n s = .error .unwritable :=
  applyAllFixes_of_unsigned (Site.signature_eq_error h) n

/-- Fixing a valid site ends after one sweep, whatever the number of sweeps allowed, at a valid site
that further fixing leaves alone. There a rule with a fix fires only if it is the one about targets of
proxy locations, and only if a target is lacking and no backend is known. But a site with a number of too many digits
has no signature, and is not fixed at all. -/
theorem applyAllFixes_fixpoint {s : Site} (hs : s.Valid) :
    (∃ r ∈ ruleTable, r.id = "correctness-proxy-location-without-target" ∧ r.fixable = true) ∧
    ((∀ n ∈ s.integers, FewDigits n) →
      ∃ t : Site, t.Valid ∧ (∀ n : Int, 1 ≤ n → (applyAllFixes ruleTable n s).map (·.1.model) = .ok t) ∧
        (∀ n : Int, (applyAllFixes ruleTable n t).map (·.1) = .ok ⟨t, false, []⟩) ∧
        ∀ r ∈ ruleTable, r.fixable = true → (r.fires t = true ↔
          r.id = "correctness-proxy-location-without-target" ∧
            (∃ l ∈ t.locations, l.kind = .proxy ∧ isBlankText l.proxyPass = true) ∧
            isBlankText t.reverseProxy.backendAddress = true)) ∧
    ((¬∀ n ∈ s.integers, FewDigits n) → ∀ n : Int, applyAllFixes ruleTable n s = .error .unwritable) := by
  refine ⟨⟨Rules.proxyLocationWithoutTarget, by simp [ruleTable], rfl, rfl⟩, fun hfew => ?_, applyAllFixes_unwritable⟩
  obtain ⟨hm, hv⟩ := mendAll_ruleTable hs
  have hfew' := (mendable_ruleTable.holds_mendAll ⟨hs, hfew⟩).2
  rw [hm] at hfew'
  refine ⟨s.mended, hv, fun n hn => ?_, fun n => ?_, fun r hr hfix => ?_⟩
  · rw [applyAllFixes_ruleTable hs hfew, if_pos hn]
  · exact applyAllFixes_of_mended (Site.signature_eq_ok hfew') (fun r hr => mend_mended hs hr) n
  · by_cases hid : r.id = Rules.proxyLocationWithoutTarget.id
    · rw [eq_of_id_eq hr hid, proxyLocationWithoutTarget_fires_mended, Bool.and_eq_true, List.any_eq_true]
      have hlacks : ∀ l : Location, l.lacksTarget = true ↔ l.kind = .proxy ∧ isBlankText l.proxyPass = true := by
        intro l
        rw [Location.lacksTarget, Bool.and_eq_true, beq_iff_eq]
      simp only [hlacks]
      exact ⟨fun h => ⟨rfl, h⟩, fun h => h.2⟩
    · rw [quiet_mended s hr hfix hid]
      exact ⟨fun h => absurd h (by simp), fun h => absurd h.1 hid⟩

/-- A site without a backend whose one location wants one. -/
theorem applyAllFixes_fixpoint_without_backend :
    let s : Site := { reverseProxy := { backendAddress := " " }, locations := [{ path := "/", kind := .proxy }] }
    ∃ t : Site, t.Valid ∧ (∀ n : Int, 1 ≤ n → (applyAllFixes ruleTable n s).map (·.1.model) = .ok t) ∧
      (∀ n : Int, (applyAllFixes ruleTable n t).map (·.1) = .ok ⟨t, false, []⟩) ∧
      ∀ r ∈ ruleTable, r.fixable = true → (r.fires t = true ↔
        r.id = "correctness-proxy-location-without-target" ∧
          (∃ l ∈ t.locations, l.kind = .proxy ∧ isBlankText l.proxyPass = true) ∧
          isBlankText t.reverseProxy.backendAddress = true) :=
  (applyAllFixes_fixpoint (by decide)).2.1 (by decide)

end SiteConf
