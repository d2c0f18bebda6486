import SiteConf.Proofs.Unfailing

/-!
# Protection survives being written and read

What the text of a site says on its protection is what the site is set to, group by group of the server.
So the site that is imported from the text of a plain site is protected as the plain site is, but for
passwords with the realm that switches them off (`Site.render_protected`).
-/

namespace SiteConf
open Text

namespace Protection

/-! ### Groups without a part in the protection -/

def Idle (ns : List Node) : Prop := ∀ n ∈ ns, ∀ p : Protection, p.read n = p

theorem foldl_idle {ns : List Node} (h : Idle ns) (p : Protection) : ns.foldl read p = p := by
  induction ns with
  | nil => rfl
  | cons n ns ih =>
    rw [List.foldl_cons, h n (by simp)]
    exact ih fun m hm => h m (by simp [hm])

theorem idle_of_avoids {ns : List Node} (h : Avoids names ns) : Idle ns := by
  intro n hn p
  obtain ⟨hblock, hname⟩ := h n hn
  rw [read, hblock, if_neg (by simp), directive_eq_self hname]

theorem idle_map_scope {α : Type} {f : α → Node} (as : List α) (h : ∀ a, (f a).isBlock = true) :
    Idle (as.map f) := by
  intro n hn p
  obtain ⟨a, -, rfl⟩ := List.mem_map.1 hn
  exact if_pos (h a)

theorem Idle.append {xs ys : List Node} (hx : Idle xs) (hy : Idle ys) : Idle (xs ++ ys) :=
  List.forall_mem_append.2 ⟨hx, hy⟩

theorem idle_rest (s : Site) :
    Idle (s.performance.nodes ++ s.logging.nodes ++ s.locationNodes ++ s.cachingNodes) := by
  have hsub : names ⊆ numericDirectives ++ names := List.subset_append_right _ _
  have hcompression := (s.performance.avoids_gzipNodes.append s.performance.avoids_brotliNodes).mono hsub
  have hsize : Avoids names s.performance.sizeNodes := .ite (.cons (by decide) .nil) .nil
  have hkeepalive : Avoids names s.performance.keepaliveNodes := .ite (.cons (by decide) .nil) .nil
  have hperformance : Avoids names s.performance.nodes := (hcompression.append hsize).append hkeepalive
  exact (((idle_of_avoids hperformance).append (idle_of_avoids (s.logging.avoids_nodes.mono hsub))).append
    (idle_map_scope _ fun _ => rfl)).append (idle_map_scope _ fun _ => rfl)

/-! ### Groups with a part in it -/

theorem foldl_headNodes (p : Protection) (s : Site) :
    s.headNodes.foldl read p = { p with encrypted := p.encrypted || s.ssl.enabled } := by
  have hone : ∀ (p : Protection) address, p.read (.stmt "listen" (address :: s.listenFlags)) =
      { p with encrypted := p.encrypted || s.ssl.enabled } := by
    intro p address
    show { p with encrypted := p.encrypted || s.listenFlags.contains "ssl" } = _
    rw [Draft.listenFlags_ssl]
  have hlisten : s.listenNodes.foldl read p = { p with encrypted := p.encrypted || s.ssl.enabled } := by
    unfold Site.listenNodes
    rw [List.foldl_append, List.foldl_cons, hone]
    split_ifs
    · rw [List.foldl_nil, List.foldl_cons, hone, Bool.or_assoc, Bool.or_self]
      rfl
    · rfl
  have hrest : Idle (s.nameNodes ++ s.fileNodes) :=
    idle_of_avoids ((s.avoids_nameNodes.append s.avoids_fileNodes).mono (List.subset_append_right _ _))
  unfold Site.headNodes
  rw [List.append_assoc, List.foldl_append, hlisten, foldl_idle hrest]

theorem foldl_sslNodes (p : Protection) (s : Ssl) :
    s.nodes.foldl read p = if s.enabled then { p with
      encrypted := true
      protocols := if s.protocols.isEmpty then p.protocols else s.protocols
      hsts := if s.enableHsts then true else p.hsts
      stapling := if s.enableOcsp then true else p.stapling } else p := by
  unfold Ssl.nodes Ssl.protocolNodes Ssl.hstsNodes Ssl.staplingNodes
  cases s.enabled with
  | false => rfl
  | true => cases s.protocols.isEmpty <;> cases s.enableHsts <;> cases s.enableOcsp <;> rfl

theorem foldl_addressNodes {name : String} (add : Protection → List String → Protection)
    (hread : ∀ p a, p.read (.stmt name [a]) = add p [a]) (hnil : ∀ p, add p [] = p)
    (happend : ∀ p as bs, add (add p as) bs = add p (as ++ bs)) (p : Protection) (addresses : List String) :
    (addressNodes name addresses).foldl read p = add p (Draft.writtenAddresses addresses) := by
  unfold addressNodes Draft.writtenAddresses
  induction addresses.filter (!isBlankText ·) generalizing p with
  | nil => exact (hnil p).symm
  | cons a as ih =>
    rw [List.map_cons, List.map_cons, List.foldl_cons, ih, hread, happend]
    rfl

theorem foldl_securityNodes (p : Protection) (s : Security) :
    s.nodes.foldl read p = { p with
      hideVersion := if s.hideVersion then true else p.hideVersion
      securityHeaders := if s.securityHeaders then true else p.securityHeaders
      allowlist := p.allowlist ++ Draft.writtenAddresses s.ipAllowlist
      denylist := p.denylist ++ Draft.writtenAddresses s.ipDenylist
      basicAuth := if s.basicAuth then s.basicAuthRealm != "off" else p.basicAuth } := by
  have htokens : ∀ p : Protection, s.tokenNodes.foldl read p =
      { p with hideVersion := if s.hideVersion then true else p.hideVersion } := by
    intro p
    unfold Security.tokenNodes
    cases s.hideVersion <;> rfl
  have hheaders : ∀ p : Protection, s.headerNodes.foldl read p =
      { p with securityHeaders := if s.securityHeaders then true else p.securityHeaders } := by
    intro p
    unfold Security.headerNodes
    cases s.securityHeaders <;> rfl
  have hallow : ∀ p : Protection, (addressNodes "allow" s.ipAllowlist).foldl read p =
      { p with allowlist := p.allowlist ++ Draft.writtenAddresses s.ipAllowlist } := fun p =>
    foldl_addressNodes (fun p as => { p with allowlist := p.allowlist ++ as }) (fun _ _ => rfl) (by simp) (by simp) p _
  have hdeny : ∀ p : Protection, (addressNodes "deny" s.ipDenylist).foldl read p =
      { p with denylist := p.denylist ++ Draft.writtenAddresses s.ipDenylist } := fun p =>
    foldl_addressNodes (fun p as => { p with denylist := p.denylist ++ as }) (fun _ _ => rfl) (by simp) (by simp) p _
  have hrealm : (orElse s.basicAuthRealm "Restricted" != "off") = (s.basicAuthRealm != "off") := by
    unfold orElse
    split_ifs with h
    · rw [String.isEmpty_iff.1 h]
      decide
    · rfl
  have hauth : ∀ p : Protection, s.authNodes.foldl read p =
      { p with basicAuth := if s.basicAuth then s.basicAuthRealm != "off" else p.basicAuth } := by
    intro p
    unfold Security.authNodes
    cases s.basicAuth with
    | false => rfl
    | true =>
      rw [← hrealm]
      rfl
  unfold Security.nodes
  rw [List.foldl_append, List.foldl_append, List.foldl_append, List.foldl_append, htokens, hheaders, hallow, hdeny,
    hauth]

end Protection

/-! ### The whole site -/

/-- The protection that the text of a site is read as. -/
def Site.writtenProtection (s : Site) : Protection where
  hideVersion := s.security.hideVersion
  securityHeaders := s.security.securityHeaders
  rateLimiting := s.security.rateLimiting
  allowlist := Draft.writtenAddresses s.security.ipAllowlist
  denylist := Draft.writtenAddresses s.security.ipDenylist
  basicAuth := s.security.basicAuth && s.security.basicAuthRealm != "off"
  encrypted := s.ssl.enabled
  protocols := if s.ssl.enabled then s.ssl.protocols else []
  hsts := s.ssl.enabled && s.ssl.enableHsts
  stapling := s.ssl.enabled && s.ssl.enableOcsp
  httpRedirect := s.ssl.enabled && s.ssl.httpRedirect

theorem Protection.foldl_serverNodes (s : Site) :
    s.serverNodes.foldl read (start s.security.rateLimiting (s.ssl.enabled && s.ssl.httpRedirect)) =
      s.writtenProtection := by
  have hnodes : s.serverNodes = s.headNodes ++ s.ssl.nodes ++ s.security.nodes ++
      (s.performance.nodes ++ s.logging.nodes ++ s.locationNodes ++ s.cachingNodes) := by
    simp only [Site.serverNodes, List.append_assoc]
  have hread : s.serverNodes.foldl read (start s.security.rateLimiting (s.ssl.enabled && s.ssl.httpRedirect)) =
      s.security.nodes.foldl read (s.ssl.nodes.foldl read
        (s.headNodes.foldl read (start s.security.rateLimiting (s.ssl.enabled && s.ssl.httpRedirect)))) := by
    rw [hnodes, List.foldl_append, foldl_idle (idle_rest s), List.foldl_append, List.foldl_append]
  have hboth : ∀ b c : Bool, (if b then c else false) = (b && c) := by decide
  rw [hread, foldl_headNodes, foldl_sslNodes, foldl_securityNodes]
  unfold Site.writtenProtection
  cases s.ssl.enabled with
  | false =>
    rw [Protection.mk.injEq]
    exact ⟨flag_eq _, flag_eq _, rfl, rfl, rfl, hboth _ _, rfl, rfl, rfl, rfl, rfl⟩
  | true =>
    rw [Protection.mk.injEq]
    exact ⟨flag_eq _, flag_eq _, rfl, rfl, rfl, hboth _ _, rfl, ite_isEmpty_eq _, flag_eq _, flag_eq _, rfl⟩

namespace Import

theorem ensures_protection_nodes (s : Site) (errors : List String) :
    Ensures (ofNodes s.nodes errors) fun i => i.site.protection = s.writtenProtection := by
  obtain ⟨first, rest, hservers, hchoose⟩ := chooseServer_nodes s
  rw [← fileScope_nodes s] at hservers
  have hzone : s.security.zoneNodes.any Node.isZone = s.security.rateLimiting := by
    unfold Security.zoneNodes
    cases s.security.rateLimiting <;> rfl
  have hread := ensures_protection errors hservers
  rw [hchoose, fileScope_nodes, (filter_nodes s).2.2, hzone] at hread
  rw [← Protection.foldl_serverNodes]
  exact hread

end Import

/-- Another site is protected as the site is. -/
structure Site.KeepsProtection (s t : Site) : Prop where
  hideVersion : t.security.hideVersion = s.security.hideVersion
  securityHeaders : t.security.securityHeaders = s.security.securityHeaders
  rateLimiting : t.security.rateLimiting = s.security.rateLimiting
  /-- Passwords are lost if the realm is the word that switches them off. -/
  basicAuth : t.security.basicAuth = (s.security.basicAuth && s.security.basicAuthRealm != "off")
  allowlist : t.security.ipAllowlist = (s.security.ipAllowlist.filter (!isBlankText ·)).map trim
  denylist : t.security.ipDenylist = (s.security.ipDenylist.filter (!isBlankText ·)).map trim
  encryption : t.ssl.enabled = s.ssl.enabled
  hsts : s.ssl.enabled = true → t.ssl.enableHsts = s.ssl.enableHsts
  stapling : s.ssl.enabled = true → t.ssl.enableOcsp = s.ssl.enableOcsp
  httpRedirect : s.ssl.enabled = true → t.ssl.httpRedirect = s.ssl.httpRedirect
  protocols : s.ssl.enabled = true → t.ssl.protocols = s.ssl.protocols

namespace Site
variable {s : Site}

theorem keepsProtection_of_eq {t : Site} (h : t.protection = s.writtenProtection) : s.KeepsProtection t := by
  unfold protection writtenProtection at h
  rw [Protection.mk.injEq] at h
  obtain ⟨hversion, hheaders, hrate, hallow, hdeny, hauth, hssl, hprotocols, hhsts, hstapling, hredirect⟩ := h
  refine ⟨hversion, hheaders, hrate, hauth, hallow, hdeny, hssl, fun he => ?_, fun he => ?_, fun he => ?_,
    fun he => ?_⟩
  · rw [hhsts, he, Bool.true_and]
  · rw [hstapling, he, Bool.true_and]
  · rw [hredirect, he, Bool.true_and]
  · rw [hprotocols, if_pos he]

/-- The site that is imported from the text of a plain site is protected as the plain site is, and the text
is imported if its numbers can be read. -/
theorem render_protected (hv : s.Valid) (hp : ∀ t ∈ s.strings, Plain t)
    (hc : isBlankText s.customDirectives = true) (hk : ∀ l ∈ s.locations, l.kind ≠ .custom) :
    (∀ i, Import.ofText s.render = .ok i → s.KeepsProtection i.site) ∧
      ((∀ n ∈ s.writtenIntegers, FewDigits n) → ∃ i, Import.ofText s.render = .ok i) := by
  have hlegible := legible_of_plain hp hk
  refine ⟨fun i hi => ?_, fun hn => ?_⟩
  · have hmap := map_site_ofText_render hlegible hc
    rw [hi] at hmap
    cases hj : Import.ofNodes s.nodes [] with
    | error e =>
      rw [hj] at hmap
      cases hmap
    | ok j =>
      rw [hj] at hmap
      have hsite : i.site = j.site := Except.ok.inj hmap
      rw [hsite]
      exact keepsProtection_of_eq (Import.ensures_protection_nodes s [] j hj)
  · exact returns_ofText_render hlegible hc hv.listenPort (forall_effectiveLocations hk (by simp) (by simp)) hn

/-- A site behind https with all protection switched on. Its realm is the word that switches passwords off,
and they are lost. -/
theorem render_protected_off :
    let s : Site :=
      { serverNames := ["example.org"]
        listenPort := 443
        ssl := { enabled := true, enableHsts := true, enableOcsp := true, protocols := ["TLSv1.3"] }
        security := { rateLimiting := true, rateLimit := 0, ipAllowlist := [" 10.0.0.0/8 ", " "],
                      ipDenylist := ["all"], basicAuth := true, basicAuthRealm := "off" }
        upstream := { enabled := true, servers := [{ address := "10.0.0.1:80", maxFails := -1 }] }
        locations := [{ path := "^~", kind := .proxy, proxyPass := "http://backend", proxyTimeout := 30 },
          { path := "/old", matchType := .exact, kind := .redirect, redirectUrl := "/new" }] }
    s.Valid ∧ (∀ t ∈ s.strings, Plain t) ∧ isBlankText s.customDirectives = true ∧
      (∀ l ∈ s.locations, l.kind ≠ .custom) ∧ (∀ n ∈ s.writtenIntegers, FewDigits n) ∧
      ∃ i, Import.ofText s.render = .ok i ∧ s.KeepsProtection i.site ∧
        i.site.security.ipAllowlist = ["10.0.0.0/8"] ∧ i.site.security.basicAuth = false := by
  intro s
  have hv : s.Valid := by decide
  have hp : ∀ t ∈ s.strings, Plain t := by decide
  have hc : isBlankText s.customDirectives = true := by decide
  have hk : ∀ l ∈ s.locations, l.kind ≠ .custom := by decide
  have hn : ∀ n ∈ s.writtenIntegers, FewDigits n := by decide
  obtain ⟨hkeeps, hread⟩ := render_protected hv hp hc hk
  obtain ⟨i, hi⟩ := hread hn
  exact ⟨hv, hp, hc, hk, hn, i, hi, hkeeps i hi, (hkeeps i hi).allowlist, (hkeeps i hi).basicAuth⟩

end Site
end SiteConf
