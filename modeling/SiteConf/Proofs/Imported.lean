import SiteConf.Proofs.Placing

/-!
# What a text gives that was written for a site

`Site.draft` is what an import knows once it has read the text of a site. The whole import settles this
draft, without a warning (`Import.ofText_render`).
-/

namespace SiteConf
open Text

/-! ### Pool members -/

namespace PoolMember

theorem addParameters_append {m m₁ : PoolMember} {ps qs : List String}
    (h : m.addParameters ps = .ok (m₁, [])) : m.addParameters (ps ++ qs) = m₁.addParameters qs := by
  induction ps generalizing m with
  | nil =>
    cases h
    rfl
  | cons p ps ih =>
    obtain ⟨⟨m', w⟩, hp, h⟩ := exists_of_bind_eq_ok h
    obtain ⟨⟨m'', ws⟩, hps, h⟩ := exists_of_bind_eq_ok h
    cases w with
    | cons => cases h
    | nil =>
      cases ws with
      | cons => cases h
      | nil =>
        cases h
        rw [List.cons_append, addParameters, hp]
        show (m'.addParameters (ps ++ qs)).bind _ = _
        rw [ih hps]
        cases m₁.addParameters qs <;> rfl

theorem addParameters_single {m m₁ : PoolMember} {p : String} (h : m.addParameter p = .ok (m₁, [])) :
    m.addParameters [p] = .ok (m₁, []) := by
  rw [addParameters, h]
  rfl

/-- The numbers of the member can be read. -/
structure Readable (m : PoolMember) : Prop where
  weight : 1 ≤ m.weight ∧ FewDigits m.weight
  maxFails : 0 ≤ m.maxFails ∧ FewDigits m.maxFails
  failTimeout : 0 ≤ m.failTimeout ∧ FewDigits m.failTimeout

theorem addParameters_optional {c : Prop} [Decidable c] {b b' : PoolMember} {p : String} (hc : c → b = b')
    (hp : b.addParameter p = .ok (b', [])) : b.addParameters (if c then [] else [p]) = .ok (b', []) := by
  split_ifs with h
  · rw [hc h]; rfl
  · exact addParameters_single hp

theorem addParameters_args {m : PoolMember} (h : m.Readable) :
    ({ address := m.address } : PoolMember).addParameters m.args.tail = .ok (m, []) := by
  have hweight (b : PoolMember) : b.addParameter ("weight=" ++ toString m.weight) =
      .ok ({ b with weight := m.weight }, []) := by
    have hpos : 0 ≤ m.weight := by have := h.weight.1; omega
    rw [addParameter_weight, numberFrom_toString hpos h.weight.2 h.weight.1, Except.map,
      Int.natAbs_of_nonneg hpos]
  have hfails (b : PoolMember) : b.addParameter ("max_fails=" ++ toString m.maxFails) =
      .ok ({ b with maxFails := m.maxFails }, []) := by
    rw [addParameter_maxFails, numberFrom_toString h.maxFails.1 h.maxFails.2 h.maxFails.1, Except.map,
      Int.natAbs_of_nonneg h.maxFails.1]
  have htimeout (b : PoolMember) : b.addParameter ("fail_timeout=" ++ toString m.failTimeout ++ "s") =
      .ok ({ b with failTimeout := m.failTimeout }, []) := by
    rw [String.append_assoc, addParameter_failTimeout, readSeconds_toString h.failTimeout.1 h.failTimeout.2,
      Except.map, Option.getD_some, Int.natAbs_of_nonneg h.failTimeout.1]
  show ({ address := m.address } : PoolMember).addParameters (_ ++ _ ++ _) = _
  rw [List.append_assoc, addParameters_append (addParameters_optional (fun hc => by rw [hc]) (hweight _)),
    addParameters_append (addParameters_optional (fun hc => by rw [hc]) (hfails _)),
    addParameters_optional (fun hc => by rw [hc]) (htimeout _)]

end PoolMember

/-! ### Upstream pools -/

namespace Upstream

theorem addAll_append {u u₁ : Upstream} {xs : List Node} (ys : List Node) (h : u.addAll xs = .ok (u₁, [])) :
    u.addAll (xs ++ ys) = u₁.addAll ys := by
  induction xs generalizing u with
  | nil =>
    cases h
    rfl
  | cons n xs ih =>
    obtain ⟨⟨u', w⟩, hn, h⟩ := exists_of_bind_eq_ok h
    obtain ⟨⟨u'', ws⟩, hns, h⟩ := exists_of_bind_eq_ok h
    cases w with
    | cons => cases h
    | nil =>
      cases ws with
      | cons => cases h
      | nil =>
        cases h
        rw [List.cons_append, addAll, hn]
        show (u'.addAll (xs ++ ys)).bind _ = _
        rw [ih hns]
        cases u₁.addAll ys <;> rfl

theorem addAll_single {u u₁ : Upstream} {n : Node} (h : u.add n = .ok (u₁, [])) :
    u.addAll [n] = .ok (u₁, []) := by
  rw [addAll, h]
  rfl

theorem addAll_servers (u : Upstream) {ms : List PoolMember} (h : ∀ m ∈ ms, m.Readable) :
    u.addAll (ms.map fun m => .stmt "server" m.args) = .ok ({ u with servers := u.servers ++ ms }, []) := by
  induction ms generalizing u with
  | nil => simp [addAll]
  | cons m ms ih =>
    have hm : u.add (.stmt "server" m.args) = .ok ({ u with servers := u.servers ++ [m] }, []) := by
      show (({ address := m.address } : PoolMember).addParameters m.args.tail >>= _) = _
      rw [PoolMember.addParameters_args (h m (by simp))]
      rfl
    rw [List.map_cons, ← List.singleton_append, addAll_append _ (addAll_single hm),
      ih _ fun x hx => h x (by simp [hx])]
    simp

theorem addAll_poolNodes {u : Upstream} (h : ∀ m ∈ u.servers, m.Readable) (name : String) :
    ({ enabled := true, name } : Upstream).addAll u.poolNodes =
      .ok ({ enabled := true, name, method := u.method, servers := u.servers }, []) := by
  have hmethod : ({ enabled := true, name } : Upstream).addAll
      (if u.method = .roundRobin then [] else [.stmt (spell u.method) []]) =
        .ok ({ enabled := true, name, method := u.method }, []) := by
    cases u.method <;> rfl
  unfold poolNodes
  rw [addAll_append _ hmethod, addAll_servers _ h]
  rfl

/-- The pool that is written, and the blank one if none is. -/
def reread (u : Upstream) : Upstream :=
  if u.enabled && !u.servers.isEmpty then { u with name := orElse u.name "backend" } else {}

end Upstream

theorem Draft.upstream_nodes {u : Upstream} (d : Draft) (h : ∀ m ∈ u.servers, m.Readable)
    (hd : d.site.upstream = {}) :
    Import.withUpstreams d u.nodes = .ok { d with site.upstream := u.reread } := by
  unfold Upstream.nodes Upstream.reread
  split_ifs with hu
  · have hne : (orElse u.name "backend").isEmpty = false := by
      unfold orElse
      split_ifs with hn
      · rfl
      · simpa using hn
    show Draft.upstream d (.scope "upstream" [orElse u.name "backend"] u.poolNodes) = _
    unfold Draft.upstream
    rw [show (Node.scope "upstream" [orElse u.name "backend"] u.poolNodes).arg 0 = orElse u.name "backend" from rfl]
    dsimp only
    rw [hne, if_neg (by simp), show (Node.scope "upstream" [orElse u.name "backend"] u.poolNodes).children =
      u.poolNodes from rfl, Upstream.addAll_poolNodes h]
    simp only [Bool.and_eq_true] at hu
    simp [bind, Except.bind, pure, Except.pure, hu.1]
  · rw [← hd]
    rfl

/-! ### File level -/

theorem rate_pos (s : Security) : 0 < s.rate := by
  unfold Security.rate
  split_ifs with h
  · exact h
  · decide

theorem fewDigits_rate {s : Security} (h : FewDigits s.rateLimit) : FewDigits s.rate := by
  unfold Security.rate
  split_ifs
  · exact h
  · decide

theorem Draft.limitReqZone_eq (d : Draft) {s : Security} (hf : FewDigits s.rate) :
    d.limitReqZone (.stmt "limit_req_zone" s.zoneArgs) = .ok { d with
      site.security.rateLimiting := true
      site.security.rateLimit := s.rate } := by
  have hn : (s.rate.natAbs : Int) = s.rate := by have := rate_pos s; omega
  have hfind : s.zoneArgs.findSome? rateDigits? = some (Nat.toDigits 10 s.rate.natAbs) := by
    unfold Security.zoneArgs
    rw [List.findSome?_cons_of_isNone (by decide), List.findSome?_cons_of_isNone (by decide), List.findSome?_cons,
      rateDigits?_toString (Int.le_of_lt (rate_pos s))]
  unfold Draft.limitReqZone
  rw [show (Node.stmt "limit_req_zone" s.zoneArgs).args = s.zoneArgs from rfl, hfind]
  dsimp only
  rw [readNumber_toDigits hf]
  show Except.ok ({ d with
      site.security.rateLimiting := true
      site.security.rateLimit := (s.rate.natAbs : Int) } : Draft) = _
  rw [hn]

/-- The draft once the file level is read. -/
def Site.fileDraft (s : Site) : Draft :=
  { site := { Site.blank with
      ssl.httpRedirect := s.ssl.enabled && s.ssl.httpRedirect
      security.rateLimiting := s.security.rateLimiting
      security.rateLimit := if s.security.rateLimiting then s.security.rate else Site.blank.security.rateLimit } }

theorem Import.fileDraft_zoneNodes {s : Site} (hf : FewDigits s.security.rateLimit) :
    fileDraft s.security.zoneNodes (s.ssl.enabled && s.ssl.httpRedirect) 1 = .ok s.fileDraft := by
  unfold fileDraft Security.zoneNodes Site.fileDraft
  cases hr : s.security.rateLimiting with
  | false => cases s.ssl.enabled && s.ssl.httpRedirect <;> rfl
  | true =>
    have hstmt : Draft.fileStatement {} (.stmt "limit_req_zone" s.security.zoneArgs) = _ :=
      Draft.limitReqZone_eq {} (fewDigits_rate hf)
    rw [if_pos rfl, List.foldlM_cons, hstmt]
    cases s.ssl.enabled && s.ssl.httpRedirect <;> rfl

/-! ### Which server is imported -/

theorem isHttpsRedirect_redirectNodes (s : Site) :
    (Node.scope "server" [] s.redirectNodes).isHttpsRedirect = true := by
  unfold Site.redirectNodes Site.nameNodes
  cases s.listenIpv6 <;> cases s.serverNames.isEmpty <;> rfl

theorem effectiveLocations_ne_nil (s : Site) : s.effectiveLocations ≠ [] := by
  unfold Site.effectiveLocations
  split_ifs with h
  · simp
  · simp
  · simpa using h

/-- The main server has locations, so it does more than redirect. -/
theorem isHttpsRedirect_serverNodes (s : Site) :
    (Node.scope "server" [] s.serverNodes).isHttpsRedirect = false := by
  have hblock : s.serverNodes.any Node.isBlock = true := by
    cases hl : s.effectiveLocations with
    | nil => exact absurd hl (effectiveLocations_ne_nil s)
    | cons l ls =>
      rw [List.any_eq_true]
      refine ⟨s.locationNode l, ?_, rfl⟩
      have hmem : s.locationNode l ∈ s.locationNodes := by
        rw [Site.locationNodes, hl]
        simp
      unfold Site.serverNodes
      simp [hmem]
  unfold Node.isHttpsRedirect
  dsimp only
  rw [show (Node.scope "server" [] s.serverNodes).children = s.serverNodes from rfl, hblock]
  rfl

theorem fileScope_nodes (s : Site) : fileScope s.nodes = s.nodes := by
  unfold Site.nodes Upstream.nodes Security.zoneNodes Site.httpsRedirectNodes
  split_ifs <;> rfl

theorem filter_nodes (s : Site) :
    s.nodes.filter Node.isServer = s.httpsRedirectNodes ++ [.scope "server" [] s.serverNodes] ∧
      s.nodes.filter Node.isUpstream = s.upstream.nodes ∧
      s.nodes.filter (fun n => !n.isServer && !n.isUpstream) = s.security.zoneNodes := by
  unfold Site.nodes Upstream.nodes Security.zoneNodes Site.httpsRedirectNodes
  split_ifs <;> exact ⟨rfl, rfl, rfl⟩

theorem Import.chooseServer_nodes (s : Site) :
    ∃ first rest, s.nodes.filter Node.isServer = first :: rest ∧
      chooseServer first rest =
        (.scope "server" [] s.serverNodes, (s.ssl.enabled && s.ssl.httpRedirect), 1) := by
  rw [(filter_nodes s).1]
  unfold Site.httpsRedirectNodes
  cases s.ssl.enabled && s.ssl.httpRedirect with
  | false =>
    refine ⟨_, [], rfl, ?_⟩
    unfold chooseServer
    rw [List.filter_cons_of_pos (by rw [isHttpsRedirect_serverNodes]; rfl)]
    rfl
  | true =>
    refine ⟨_, [_], rfl, ?_⟩
    unfold chooseServer
    rw [List.filter_cons_of_neg (by rw [isHttpsRedirect_redirectNodes]; simp),
      List.filter_cons_of_pos (by rw [isHttpsRedirect_serverNodes]; rfl)]
    rfl

/-! ### The whole text -/

/-- What an import has to be able to read of a site: numbers of few digits in their ranges, a realm that
does not switch passwords off, locations that are read back, and an expiry for each class with a caching
location. -/
structure Site.Readable (s : Site) : Prop where
  port : 1 ≤ s.listenPort ∧ FewDigits s.listenPort
  limits : FewDigits s.security.rateLimit ∧ FewDigits s.security.rateBurst
  sizes : FewDigits s.performance.clientMaxBodySize ∧ FewDigits s.performance.keepaliveTimeout
  members : ∀ m ∈ s.upstream.servers, m.Readable
  realm : s.security.basicAuth = true → s.security.basicAuthRealm ≠ "off"
  locations : ∀ l ∈ s.effectiveLocations, l.ReadBack s.reverseProxy.realIpHeaders
  caching : ∀ a ∈ s.servedAssets, isBlankText (s.performance.assetExpiry a) = false

/-- Encryption as it is read. -/
def Ssl.reread (s : Ssl) : Ssl :=
  if s.enabled then
    { s with
      certificatePath := orElse s.certificatePath placeholderCertificate
      keyPath := orElse s.keyPath placeholderKey
      preset := .nearest s.effectiveCiphers
      ciphers := if (CipherProfile.ofCiphers? s.effectiveCiphers).isSome then "" else s.effectiveCiphers }
  else Site.blank.ssl

def Security.reread (s : Security) : Security where
  rateLimiting := s.rateLimiting
  rateLimit := if s.rateLimiting then s.rate else Site.blank.security.rateLimit
  rateBurst := if s.rateLimiting then s.burst else Site.blank.security.rateBurst
  securityHeaders := s.securityHeaders
  hideVersion := s.hideVersion
  ipAllowlist := Draft.writtenAddresses s.ipAllowlist
  ipDenylist := Draft.writtenAddresses s.ipDenylist
  basicAuth := s.basicAuth
  basicAuthRealm :=
    if s.basicAuth then orElse s.basicAuthRealm "Restricted" else Site.blank.security.basicAuthRealm
  basicAuthFile :=
    if s.basicAuth then orElse s.basicAuthFile "/etc/nginx/.htpasswd" else Site.blank.security.basicAuthFile

/-- Compression and connections as they are read, without what is settled at the end. -/
def Site.rereadPerformance (s : Site) : Performance :=
  { Site.blank.performance with
    gzip := s.performance.gzip
    gzipTypes := if s.performance.gzip then s.performance.effectiveGzipTypes else []
    brotli := s.performance.brotli
    http2 := s.ssl.enabled && s.performance.http2
    clientMaxBodySize := if 0 < s.performance.clientMaxBodySize then s.performance.clientMaxBodySize else 0
    clientMaxBodyUnit :=
      if 0 < s.performance.clientMaxBodySize then s.performance.clientMaxBodyUnit
      else Site.blank.performance.clientMaxBodyUnit
    keepaliveTimeout := if 0 < s.performance.keepaliveTimeout then s.performance.keepaliveTimeout else 0 }

def Logging.reread (l : Logging) : Logging where
  accessLog := if l.accessTarget = "off" then false else true
  accessLogPath := if l.accessTarget = "off" then Site.blank.logging.accessLogPath else l.accessTarget
  errorLog := l.errorLog
  errorLogPath := if l.errorLog then l.errorTarget else Site.blank.logging.errorLogPath
  errorLogLevel := if l.errorLog then l.errorLogLevel else Site.blank.logging.errorLogLevel

/-- The draft once the whole text of a site is read. -/
def Site.draft (s : Site) : Draft where
  site :=
    { serverNames := s.serverNames
      listenPort := s.listenPort
      listenIpv6 := s.listenIpv6
      rootPath := if s.reverseProxy.enabled then "" else s.rootPath
      indexFiles := if s.reverseProxy.enabled then [] else s.indexFiles
      ssl := s.ssl.reread
      security := s.security.reread
      performance := s.rereadPerformance
      logging := s.logging.reread
      upstream := s.upstream.reread
      locations := s.effectiveLocations.map (Location.reread s.reverseProxy.realIpHeaders) }
  locationSeen := true
  rootSeen := !s.fileNodes.isEmpty
  ipv4Seen := true
  preferServerCiphers := if s.ssl.enabled then some s.ssl.preset.suite.preferServerCiphers else none
  brotliTypes := if s.performance.brotli then some s.performance.effectiveBrotliTypes else none
  caching := s.servedAssets.map fun a => (a, Draft.writtenExpiry s.performance a)

theorem nodup_servedAssets (s : Site) : s.servedAssets.Nodup := by
  have hall : (Keyword.all : List AssetClass).Nodup := by decide
  unfold Site.servedAssets
  split_ifs
  · exact hall.filter _
  · exact List.nodup_nil

/-- The draft once the addresses, names and files of the server are read. -/
def Site.headDraft (s : Site) : Draft :=
  { s.fileDraft with
    site.serverNames := s.serverNames
    site.listenPort := s.listenPort
    site.listenIpv6 := s.listenIpv6
    site.rootPath := s.draft.site.rootPath
    site.indexFiles := s.draft.site.indexFiles
    site.ssl.enabled := s.ssl.enabled
    site.performance.http2 := s.ssl.enabled && s.performance.http2
    rootSeen := s.draft.rootSeen
    ipv4Seen := true }

/-- The draft once encryption is read, too. -/
def Site.sslDraft (s : Site) : Draft :=
  { s.headDraft with site.ssl := s.ssl.reread, preferServerCiphers := s.draft.preferServerCiphers }

/-- The draft once all groups before the locations are read. -/
def Site.groupDraft (s : Site) : Draft :=
  { s.sslDraft with
    site.security := { s.security.reread with rateBurst := Site.blank.security.rateBurst }
    site.performance := s.rereadPerformance
    site.logging := s.logging.reread
    brotliTypes := s.draft.brotliTypes }

theorem Site.reads_headNodes {s : Site} (h : 1 ≤ s.listenPort ∧ FewDigits s.listenPort) :
    s.fileDraft.Reads s.headNodes s.headDraft := by
  have hlisten : s.fileDraft.Reads s.listenNodes { s.fileDraft with
      site.listenPort := s.listenPort
      site.listenIpv6 := s.listenIpv6
      ipv4Seen := true
      site.ssl.enabled := s.ssl.enabled
      site.performance.http2 := s.ssl.enabled && s.performance.http2 } :=
    Draft.reads_listenNodes s.fileDraft h.1 h.2
  have hroot : s.draft.site.rootPath = if s.reverseProxy.enabled || s.rootPath.isEmpty then "" else s.rootPath := by
    unfold Site.draft
    cases s.reverseProxy.enabled with
    | true => rfl
    | false =>
      cases he : s.rootPath.isEmpty with
      | true => exact String.isEmpty_iff.1 he
      | false => rfl
  have hindex : s.draft.site.indexFiles =
      if s.reverseProxy.enabled || s.indexFiles.isEmpty then [] else s.indexFiles := by
    unfold Site.draft
    cases s.reverseProxy.enabled with
    | true => rfl
    | false =>
      cases he : s.indexFiles.isEmpty with
      | true => exact List.isEmpty_iff.1 he
      | false => rfl
  have hseen : s.draft.rootSeen = if s.fileNodes.isEmpty then false else true := by
    unfold Site.draft
    cases s.fileNodes.isEmpty <;> rfl
  unfold Site.headDraft
  rw [hroot, hindex, hseen]
  exact (hlisten.append (Draft.reads_nameNodes _ s)).append (Draft.reads_fileNodes _ s)

theorem flag_eq (b : Bool) : (if b then true else false) = b := by cases b <;> rfl

theorem ite_isEmpty_eq {α : Type} (xs : List α) : (if xs.isEmpty then [] else xs) = xs := by
  split_ifs with h
  · exact (List.isEmpty_iff.1 h).symm
  · rfl

namespace Site
variable {s : Site}

theorem reads_sslNodes (s : Site) : s.headDraft.Reads s.ssl.nodes s.sslDraft := by
  have hssl := Draft.reads_sslNodes s.headDraft s.ssl
  unfold Site.sslDraft Site.draft Ssl.reread
  cases he : s.ssl.enabled with
  | false =>
    rw [he] at hssl
    have hblank : s.headDraft.site.ssl = Site.blank.ssl := by
      unfold Site.headDraft Site.fileDraft
      rw [he]
      rfl
    rw [← hblank]
    exact hssl
  | true =>
    rw [he] at hssl
    have hprotocols : (if s.ssl.protocols.isEmpty then s.headDraft.site.ssl.protocols else s.ssl.protocols) =
        s.ssl.protocols := ite_isEmpty_eq _
    have hredirect : s.headDraft.site.ssl.httpRedirect = s.ssl.httpRedirect := by
      show (s.ssl.enabled && s.ssl.httpRedirect) = _
      rw [he, Bool.true_and]
    have hrecord : ({ s.headDraft.site.ssl with
        enabled := true
        certificatePath := orElse s.ssl.certificatePath placeholderCertificate
        keyPath := orElse s.ssl.keyPath placeholderKey
        protocols := if s.ssl.protocols.isEmpty then s.headDraft.site.ssl.protocols else s.ssl.protocols
        preset := .nearest s.ssl.effectiveCiphers
        ciphers :=
          if (CipherProfile.ofCiphers? s.ssl.effectiveCiphers).isSome then "" else s.ssl.effectiveCiphers
        enableHsts := if s.ssl.enableHsts then true else s.headDraft.site.ssl.enableHsts
        enableOcsp := if s.ssl.enableOcsp then true else s.headDraft.site.ssl.enableOcsp } : Ssl) =
        { s.ssl with
          enabled := true
          certificatePath := orElse s.ssl.certificatePath placeholderCertificate
          keyPath := orElse s.ssl.keyPath placeholderKey
          preset := .nearest s.ssl.effectiveCiphers
          ciphers :=
            if (CipherProfile.ofCiphers? s.ssl.effectiveCiphers).isSome then "" else s.ssl.effectiveCiphers } := by
      rw [Ssl.mk.injEq]
      exact ⟨rfl, rfl, rfl, hprotocols, flag_eq _, flag_eq _, hredirect, rfl, rfl⟩
    rw [if_pos rfl] at hssl ⊢
    rw [hrecord] at hssl
    exact hssl

/-- The burst of the rate limit stands in the locations. -/
theorem reads_securityNodes (h : s.Readable) : s.sslDraft.Reads s.security.nodes { s.sslDraft with
    site.security := { s.security.reread with rateBurst := Site.blank.security.rateBurst } } := by
  have hread := Draft.reads_securityNodes s.sslDraft h.realm
  have hrecord : ({ s.sslDraft.site.security with
      hideVersion := if s.security.hideVersion then true else s.sslDraft.site.security.hideVersion
      securityHeaders := if s.security.securityHeaders then true else s.sslDraft.site.security.securityHeaders
      ipAllowlist := s.sslDraft.site.security.ipAllowlist ++ Draft.writtenAddresses s.security.ipAllowlist
      ipDenylist := s.sslDraft.site.security.ipDenylist ++ Draft.writtenAddresses s.security.ipDenylist
      basicAuth := if s.security.basicAuth then true else s.sslDraft.site.security.basicAuth
      basicAuthRealm := if s.security.basicAuth then orElse s.security.basicAuthRealm "Restricted"
        else s.sslDraft.site.security.basicAuthRealm
      basicAuthFile := if s.security.basicAuth then orElse s.security.basicAuthFile "/etc/nginx/.htpasswd"
        else s.sslDraft.site.security.basicAuthFile } : Security) =
      { s.security.reread with rateBurst := Site.blank.security.rateBurst } := by
    rw [Security.mk.injEq]
    exact ⟨rfl, rfl, rfl, flag_eq _, flag_eq _, rfl, rfl, flag_eq _, rfl, rfl⟩
  rwa [hrecord] at hread

theorem reads_performanceNodes (h : s.Readable) {d : Draft}
    (hd : d.site.performance = s.sslDraft.site.performance) (hb : d.brotliTypes = none) :
    d.Reads s.performance.nodes { d with
      site.performance := s.rereadPerformance
      brotliTypes := s.draft.brotliTypes } := by
  have hread := Draft.reads_performanceNodes d h.sizes.1 h.sizes.2
  rw [hd, hb] at hread
  have hrecord : ({ s.sslDraft.site.performance with
      gzip := if s.performance.gzip then true else s.sslDraft.site.performance.gzip
      gzipTypes := if s.performance.gzip then s.performance.effectiveGzipTypes
        else s.sslDraft.site.performance.gzipTypes
      brotli := if s.performance.brotli then true else s.sslDraft.site.performance.brotli
      clientMaxBodySize := if 0 < s.performance.clientMaxBodySize then s.performance.clientMaxBodySize
        else s.sslDraft.site.performance.clientMaxBodySize
      clientMaxBodyUnit := if 0 < s.performance.clientMaxBodySize then s.performance.clientMaxBodyUnit
        else s.sslDraft.site.performance.clientMaxBodyUnit
      keepaliveTimeout := if 0 < s.performance.keepaliveTimeout then s.performance.keepaliveTimeout
        else s.sslDraft.site.performance.keepaliveTimeout } : Performance) = s.rereadPerformance := by
    unfold Site.rereadPerformance
    rw [Performance.mk.injEq]
    exact ⟨flag_eq _, rfl, flag_eq _, rfl, rfl, rfl, rfl, rfl, rfl, rfl, rfl, rfl⟩
  rw [hrecord] at hread
  exact hread

theorem reads_loggingNodes {d : Draft} (hd : d.site.logging = Site.blank.logging) :
    d.Reads s.logging.nodes { d with site.logging := s.logging.reread } := by
  have hread := Draft.reads_loggingNodes d s.logging
  rw [hd] at hread
  have hrecord : ({ Site.blank.logging with
      accessLog := if s.logging.accessTarget = "off" then false else true
      accessLogPath :=
        if s.logging.accessTarget = "off" then Site.blank.logging.accessLogPath else s.logging.accessTarget
      errorLog := if s.logging.errorLog then true else Site.blank.logging.errorLog
      errorLogPath := if s.logging.errorLog then s.logging.errorTarget else Site.blank.logging.errorLogPath
      errorLogLevel :=
        if s.logging.errorLog then s.logging.errorLogLevel else Site.blank.logging.errorLogLevel } : Logging) =
      s.logging.reread := by
    unfold Logging.reread
    rw [Logging.mk.injEq]
    exact ⟨rfl, rfl, flag_eq _, rfl, rfl⟩
  rw [hrecord] at hread
  exact hread

theorem reads_groups (h : s.Readable) :
    s.sslDraft.Reads (s.security.nodes ++ s.performance.nodes ++ s.logging.nodes) s.groupDraft :=
  ((reads_securityNodes h).append (reads_performanceNodes h rfl rfl)).append (reads_loggingNodes rfl)

end Site

/-- The statements of the main server lead to the draft of the site, but for the pool. -/
theorem Site.reads_serverNodes {s : Site} (h : s.Readable) :
    s.fileDraft.Reads s.serverNodes { s.draft with site.upstream := {} } := by
  have hgroups := ((reads_headNodes h.port).append (s.reads_sslNodes)).append (reads_groups h)
  cases hl : s.effectiveLocations with
  | nil => exact absurd hl (effectiveLocations_ne_nil s)
  | cons l ls =>
    have hread := h.locations
    rw [hl] at hread
    have hlocations : s.groupDraft.Reads s.locationNodes { s.draft with site.upstream := {}, caching := [] } := by
      have hreads := Draft.reads_locationNodes (d := s.groupDraft) (s := s) rfl h.limits.2 hread
      rw [← hl] at hreads
      exact hreads
    have hcaching : Draft.Reads { s.draft with site.upstream := {}, caching := [] } s.cachingNodes
        { s.draft with site.upstream := {} } :=
      Draft.reads_assetNodes rfl (fun _ _ => rfl) (nodup_servedAssets s) h.caching
    have hall := (hgroups.append hlocations).append hcaching
    have hnodes : s.headNodes ++ s.ssl.nodes ++ (s.security.nodes ++ s.performance.nodes ++ s.logging.nodes) ++
        s.locationNodes ++ s.cachingNodes = s.serverNodes := by
      simp only [Site.serverNodes, List.append_assoc]
    rwa [hnodes] at hall

/-- Reading and settling the statements of a site needs no warning. -/
theorem Import.ofNodes_nodes {s : Site} (h : s.Readable) (errors : List String) :
    ofNodes s.nodes errors = .ok ⟨s.draft.finish.site, s.draft.finish.warnings, errors⟩ := by
  obtain ⟨first, rest, hfilter, hchoose⟩ := chooseServer_nodes s
  unfold ofNodes
  dsimp only
  rw [fileScope_nodes, hfilter, (filter_nodes s).2.1, (filter_nodes s).2.2]
  dsimp only
  rw [hchoose]
  dsimp only
  rw [fileDraft_zoneNodes h.limits.1]
  show (Except.bind ((Node.scope "server" [] s.serverNodes).children.foldlM Draft.serverStatement s.fileDraft) _) = _
  rw [show (Node.scope "server" [] s.serverNodes).children.foldlM Draft.serverStatement s.fileDraft = _ from
    Site.reads_serverNodes h]
  show Except.bind (withUpstreams _ s.upstream.nodes) _ = _
  rw [Draft.upstream_nodes _ h.members rfl]
  rfl

theorem Import.ofNodes_of_withoutLines {nodes nodes' : List Node} {errors : List String} {site : Site}
    (hn : withoutLines nodes = withoutLines nodes') (h : ofNodes nodes' errors = .ok ⟨site, [], errors⟩) :
    ofNodes nodes errors = .ok ⟨site, [], errors⟩ := by
  have hmap : (ofNodes nodes errors).map (fun i => { i with warnings := i.warnings.map Warning.withoutLine }) =
      .ok ⟨site, [], errors⟩ := by
    rw [← ofNodes_withoutLines, hn, ofNodes_withoutLines, h]
    rfl
  cases hi : ofNodes nodes errors with
  | error e =>
    rw [hi] at hmap
    cases hmap
  | ok i =>
    rw [hi] at hmap
    obtain ⟨site', warnings, errors'⟩ := i
    simp only [Except.map, Except.ok.injEq, Import.mk.injEq, List.map_eq_nil_iff] at hmap
    obtain ⟨rfl, rfl, rfl⟩ := hmap
    rfl

/-- The site that the text of a site is imported as. -/
def Site.reimported (s : Site) : Site := s.draft.finish.site

/-- The text of a site is imported without errors and warnings, if its arguments can be read. -/
theorem Import.ofText_render {s : Site} (hl : s.Legible) (hr : s.Readable)
    (hc : isBlankText s.customDirectives = true) : ofText s.render = .ok ⟨s.reimported, [], []⟩ := by
  obtain ⟨herrors, hnodes⟩ := Site.ofText_render hl hc
  have hread := ofNodes_nodes hr []
  rw [show s.draft.finish.warnings = [] by rw [Draft.finish_eq]; rfl] at hread
  unfold ofText
  dsimp only
  rw [herrors]
  exact ofNodes_of_withoutLines hnodes hread

end SiteConf
