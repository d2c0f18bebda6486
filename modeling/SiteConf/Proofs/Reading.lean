import SiteConf.Proofs.Changes
import SiteConf.Proofs.Statements
import SiteConf.Proofs.Words

/-!
# What a server reads from its own statements

Group by group, the draft after the statements of a site are read, for any draft before them. Each
group sets the fields that it is written from and leaves all others alone.
-/

namespace SiteConf
open Text

namespace Draft

/-- Reading the statements leads from one draft to the other. -/
def Reads (d : Draft) (ns : List Node) (d' : Draft) : Prop := ns.foldlM Draft.serverStatement d = .ok d'

namespace Reads
variable {d d₁ d₂ : Draft} {xs ys : List Node}

theorem nil (d : Draft) : d.Reads [] d := rfl

theorem append (h : d.Reads xs d₁) (h' : d₁.Reads ys d₂) : d.Reads (xs ++ ys) d₂ := by
  unfold Reads at *
  rw [List.foldlM_append, h]
  exact h'

theorem single {n : Node} (h : d.serverStatement n = .ok d₁) : d.Reads [n] d₁ := by
  unfold Reads
  rw [List.foldlM_cons, h]
  rfl

theorem stmt {name : String} {args : List String} {f : Effect} (hl : serverDirectives.lookup name = some f)
    (hf : f d (.stmt name args) = .ok d₁) (ha : absorbedDirectives.contains name = false) :
    d.Reads [.stmt name args] d₁ := by
  refine single ?_
  show Draft.directive d (.stmt name args) = .ok d₁
  rw [directive, if_neg (by rw [show (Node.stmt name args).name = name from rfl, ha]; simp),
    show (Node.stmt name args).name = name from rfl, hl]
  exact hf

theorem absorbed {name : String} {args : List String} (ha : absorbedDirectives.contains name = true) :
    d.Reads [.stmt name args] d := by
  refine single ?_
  show Draft.directive d (.stmt name args) = .ok d
  rw [directive, if_pos (show absorbedDirectives.contains (Node.stmt name args).name = true from ha)]

end Reads

/-! ### Addresses, names and files -/

variable {d : Draft} {s : Site}

theorem listenFlags_ssl (s : Site) : s.listenFlags.contains "ssl" = s.ssl.enabled := by
  unfold Site.listenFlags
  cases s.ssl.enabled <;> cases s.performance.http2 <;> rfl

theorem listenFlags_http2 (s : Site) :
    s.listenFlags.contains "http2" = (s.ssl.enabled && s.performance.http2) := by
  unfold Site.listenFlags
  cases s.ssl.enabled <;> cases s.performance.http2 <;> rfl

/-- An address with a port; only an address that is not IPv6 has the last word. -/
theorem listen_eq {d : Draft} {address : String} {flags : List String} {port : Int} (hp : 1 ≤ port)
    (h : portOf address = .ok (some port.natAbs)) :
    listen d (.stmt "listen" (address :: flags)) = .ok { d with
      site.listenPort := if startsWith address "[" && d.ipv4Seen then d.site.listenPort else port
      site.listenIpv6 := d.site.listenIpv6 || startsWith address "["
      ipv4Seen := d.ipv4Seen || !startsWith address "["
      site.ssl.enabled := d.site.ssl.enabled || flags.contains "ssl"
      site.performance.http2 := d.site.performance.http2 || flags.contains "http2" } := by
  have hn : (port.natAbs : Int) = port := by omega
  have h0 : (0 : Nat) < port.natAbs := by omega
  unfold listen
  rw [show (Node.stmt "listen" (address :: flags)).arg 0 = address from rfl, h]
  cases startsWith address "[" <;> cases d.ipv4Seen <;>
    simp [bind, Except.bind, pure, Except.pure, Node.args, Node.stmt, hn, h0]

theorem startsWith_toString {n : Int} (h : 0 ≤ n) : startsWith (toString n) "[" = false := by
  rw [startsWith, toList_toString h]
  cases hd : Nat.toDigits 10 n.natAbs with
  | nil => exact absurd hd Nat.toDigits_ne_nil
  | cons c cs =>
    have hc : c.isDigit = true := isDigit_toDigits n.natAbs c (by rw [hd]; simp)
    show ('[' == c && List.isPrefixOf [] cs) = false
    have hne : ('[' == c) = false := by
      rw [beq_eq_false_iff_ne]
      rintro rfl
      exact absurd hc (by decide)
    rw [hne, Bool.false_and]

theorem reads_listenNodes (d : Draft) {s : Site} (hp : 1 ≤ s.listenPort) (hf : FewDigits s.listenPort) :
    d.Reads s.listenNodes { d with
      site.listenPort := s.listenPort
      site.listenIpv6 := d.site.listenIpv6 || s.listenIpv6
      ipv4Seen := true
      site.ssl.enabled := d.site.ssl.enabled || s.ssl.enabled
      site.performance.http2 := d.site.performance.http2 || (s.ssl.enabled && s.performance.http2) } := by
  have hport : 0 ≤ s.listenPort := by omega
  have h4 : ∀ d : Draft, d.Reads [.stmt "listen" (toString s.listenPort :: s.listenFlags)] { d with
      site.listenPort := s.listenPort
      ipv4Seen := true
      site.ssl.enabled := d.site.ssl.enabled || s.ssl.enabled
      site.performance.http2 := d.site.performance.http2 || (s.ssl.enabled && s.performance.http2) } := by
    intro d
    refine .stmt (by rfl) ?_ (by rfl)
    rw [listen_eq hp (portOf_toString hport hf), startsWith_toString hport, listenFlags_ssl, listenFlags_http2]
    simp
  unfold Site.listenNodes
  cases h6 : s.listenIpv6 with
  | false => simpa using h4 d
  | true =>
    refine (h4 d).append (.stmt (by rfl) ?_ (by rfl))
    rw [listen_eq hp (portOf_ipv6 hport hf), listenFlags_ssl, listenFlags_http2]
    have hb : startsWith ("[::]:" ++ toString s.listenPort) "[" = true := by
      rw [startsWith, String.toList_append]
      rfl
    rw [hb]
    simp

theorem reads_nameNodes (d : Draft) (s : Site) :
    d.Reads s.nameNodes { d with site.serverNames := d.site.serverNames ++ s.serverNames } := by
  unfold Site.nameNodes
  split_ifs with h
  · rw [List.isEmpty_iff.1 h, List.append_nil]
    exact .nil d
  · exact .stmt (by rfl) rfl (by rfl)

theorem reads_fileNodes (d : Draft) (s : Site) :
    d.Reads s.fileNodes { d with
      site.rootPath := if s.reverseProxy.enabled || s.rootPath.isEmpty then d.site.rootPath else s.rootPath
      site.indexFiles :=
        if s.reverseProxy.enabled || s.indexFiles.isEmpty then d.site.indexFiles else s.indexFiles
      rootSeen := if s.fileNodes.isEmpty then d.rootSeen else true } := by
  have hroot : ∀ d : Draft, d.Reads [.stmt "root" [s.rootPath]]
      { d with site.rootPath := s.rootPath, rootSeen := true } := fun d => .stmt (by rfl) rfl (by rfl)
  have hindex : ∀ d : Draft, d.Reads [.stmt "index" s.indexFiles]
      { d with site.indexFiles := s.indexFiles, rootSeen := true } := fun d => .stmt (by rfl) rfl (by rfl)
  unfold Site.fileNodes
  cases s.reverseProxy.enabled with
  | true => exact .nil d
  | false =>
    cases s.rootPath.isEmpty <;> cases s.indexFiles.isEmpty
    · exact (hroot d).append (hindex _)
    · exact (hroot d).append (.nil _)
    · exact hindex d
    · exact .nil d

/-! ### Encryption -/

theorem reads_protocolNodes (d : Draft) (s : Ssl) : d.Reads s.protocolNodes { d with
    site.ssl.protocols := if s.protocols.isEmpty then d.site.ssl.protocols else s.protocols } := by
  unfold Ssl.protocolNodes
  cases s.protocols.isEmpty
  · exact .stmt (by rfl) rfl (by rfl)
  · exact .nil d

theorem reads_sessionNodes (d : Draft) (s : Ssl) : d.Reads s.sessionNodes
    { d with preferServerCiphers := some s.preset.suite.preferServerCiphers } := by
  have hprefer : (onOff s.preset.suite.preferServerCiphers == "on") = s.preset.suite.preferServerCiphers := by
    cases s.preset.suite.preferServerCiphers <;> rfl
  refine .append (.stmt (by rfl) ?_ (by rfl)) (.append (.absorbed (by rfl)) (.append (.absorbed (by rfl))
    (.absorbed (by rfl))))
  show Except.ok ({ d with
    preferServerCiphers := some (onOff s.preset.suite.preferServerCiphers == "on") } : Draft) = _
  rw [hprefer]

theorem reads_hstsNodes (d : Draft) (s : Ssl) : d.Reads s.hstsNodes { d with
    site.ssl.enableHsts := if s.enableHsts then true else d.site.ssl.enableHsts } := by
  unfold Ssl.hstsNodes
  cases s.enableHsts
  · exact .nil d
  · exact .stmt (by rfl) rfl (by rfl)

theorem reads_staplingNodes (d : Draft) (s : Ssl) : d.Reads s.staplingNodes { d with
    site.ssl.enableOcsp := if s.enableOcsp then true else d.site.ssl.enableOcsp } := by
  unfold Ssl.staplingNodes
  cases s.enableOcsp
  · exact .nil d
  · exact .append (.stmt (by rfl) rfl (by rfl)) (.absorbed (by rfl))

theorem reads_sslNodes (d : Draft) (s : Ssl) :
    d.Reads s.nodes { d with
      site.ssl := if s.enabled then { d.site.ssl with
          enabled := true
          certificatePath := orElse s.certificatePath placeholderCertificate
          keyPath := orElse s.keyPath placeholderKey
          protocols := if s.protocols.isEmpty then d.site.ssl.protocols else s.protocols
          preset := .nearest s.effectiveCiphers
          ciphers :=
            if (CipherProfile.ofCiphers? s.effectiveCiphers).isSome then "" else s.effectiveCiphers
          enableHsts := if s.enableHsts then true else d.site.ssl.enableHsts
          enableOcsp := if s.enableOcsp then true else d.site.ssl.enableOcsp } else d.site.ssl
      preferServerCiphers :=
        if s.enabled then some s.preset.suite.preferServerCiphers else d.preferServerCiphers } := by
  have hciphers (d : Draft) : d.Reads [.stmt "ssl_ciphers" [s.effectiveCiphers]] _ :=
    .stmt (by rfl) (congrArg Except.ok (sslCiphers_eq d _)) (by rfl)
  unfold Ssl.nodes
  cases s.enabled with
  | false => exact .nil d
  | true =>
    have hfiles : d.Reads [.stmt "ssl_certificate" [orElse s.certificatePath placeholderCertificate],
        .stmt "ssl_certificate_key" [orElse s.keyPath placeholderKey]] { d with
        site.ssl.certificatePath := orElse s.certificatePath placeholderCertificate
        site.ssl.enabled := true
        site.ssl.keyPath := orElse s.keyPath placeholderKey } :=
      .append (.stmt (by rfl) rfl (by rfl)) (.stmt (by rfl) rfl (by rfl))
    exact (((hfiles.append (reads_protocolNodes _ s)).append ((hciphers _).append (reads_sessionNodes _ s))).append
      (reads_hstsNodes _ s)).append (reads_staplingNodes _ s)

/-! ### Protection -/

theorem reads_headerNodes (d : Draft) (s : Security) :
    d.Reads s.headerNodes { d with
      site.security.securityHeaders := if s.securityHeaders then true else d.site.security.securityHeaders } := by
  unfold Security.headerNodes
  cases s.securityHeaders
  · exact .nil d
  · exact .append (.stmt (by rfl) rfl (by rfl)) (.append (.stmt (by rfl) rfl (by rfl))
      (.append (.stmt (by rfl) rfl (by rfl)) (.stmt (by rfl) rfl (by rfl))))

/-- The addresses that are written. -/
def writtenAddresses (addresses : List String) : List String := (addresses.filter (!isBlankText ·)).map trim

theorem reads_allowNodes (d : Draft) (addresses : List String) :
    d.Reads (addressNodes "allow" addresses) { d with
      site.security.ipAllowlist := d.site.security.ipAllowlist ++ writtenAddresses addresses } := by
  unfold addressNodes writtenAddresses
  induction addresses.filter (!isBlankText ·) generalizing d with
  | nil => simpa using Reads.nil d
  | cons a as ih =>
    have ha : d.Reads [.stmt "allow" [trim a]] { d with
        site.security.ipAllowlist := d.site.security.ipAllowlist ++ [trim a] } := .stmt (by rfl) rfl (by rfl)
    simpa using ha.append (ih _)

theorem reads_denyNodes (d : Draft) (addresses : List String) :
    d.Reads (addressNodes "deny" addresses) { d with
      site.security.ipDenylist := d.site.security.ipDenylist ++ writtenAddresses addresses } := by
  unfold addressNodes writtenAddresses
  induction addresses.filter (!isBlankText ·) generalizing d with
  | nil => simpa using Reads.nil d
  | cons a as ih =>
    have ha : d.Reads [.stmt "deny" [trim a]] { d with
        site.security.ipDenylist := d.site.security.ipDenylist ++ [trim a] } := .stmt (by rfl) rfl (by rfl)
    simpa using ha.append (ih _)

theorem reads_authNodes (d : Draft) {s : Security} (h : s.basicAuth = true → s.basicAuthRealm ≠ "off") :
    d.Reads s.authNodes { d with
      site.security.basicAuth := if s.basicAuth then true else d.site.security.basicAuth
      site.security.basicAuthRealm :=
        if s.basicAuth then orElse s.basicAuthRealm "Restricted" else d.site.security.basicAuthRealm
      site.security.basicAuthFile :=
        if s.basicAuth then orElse s.basicAuthFile "/etc/nginx/.htpasswd" else d.site.security.basicAuthFile } := by
  unfold Security.authNodes
  cases hb : s.basicAuth with
  | false => exact .nil d
  | true =>
    have hrealm : orElse s.basicAuthRealm "Restricted" ≠ "off" := by
      unfold orElse
      split_ifs
      · decide
      · exact h hb
    have hauth : d.Reads [.stmt "auth_basic" [orElse s.basicAuthRealm "Restricted"]] { d with
        site.security.basicAuth := true
        site.security.basicAuthRealm := orElse s.basicAuthRealm "Restricted" } :=
      .stmt (by rfl) (congrArg Except.ok (if_neg hrealm)) (by rfl)
    exact hauth.append (.stmt (by rfl) rfl (by rfl))

theorem reads_securityNodes (d : Draft) {s : Security} (h : s.basicAuth = true → s.basicAuthRealm ≠ "off") :
    d.Reads s.nodes { d with
      site.security := { d.site.security with
        hideVersion := if s.hideVersion then true else d.site.security.hideVersion
        securityHeaders := if s.securityHeaders then true else d.site.security.securityHeaders
        ipAllowlist := d.site.security.ipAllowlist ++ writtenAddresses s.ipAllowlist
        ipDenylist := d.site.security.ipDenylist ++ writtenAddresses s.ipDenylist
        basicAuth := if s.basicAuth then true else d.site.security.basicAuth
        basicAuthRealm :=
          if s.basicAuth then orElse s.basicAuthRealm "Restricted" else d.site.security.basicAuthRealm
        basicAuthFile :=
          if s.basicAuth then orElse s.basicAuthFile "/etc/nginx/.htpasswd"
          else d.site.security.basicAuthFile } } := by
  have htokens : d.Reads s.tokenNodes { d with
      site.security.hideVersion := if s.hideVersion then true else d.site.security.hideVersion } := by
    unfold Security.tokenNodes
    cases s.hideVersion
    · exact .nil d
    · exact .stmt (by rfl) rfl (by rfl)
  exact (((htokens.append (reads_headerNodes _ s)).append (reads_allowNodes _ s.ipAllowlist)).append
    (reads_denyNodes _ s.ipDenylist)).append (reads_authNodes _ h)

/-! ### Compression and connections -/

theorem reads_gzipNodes (d : Draft) (p : Performance) :
    d.Reads p.gzipNodes { d with
      site.performance.gzip := if p.gzip then true else d.site.performance.gzip
      site.performance.gzipTypes := if p.gzip then p.effectiveGzipTypes else d.site.performance.gzipTypes } := by
  unfold Performance.gzipNodes
  cases p.gzip
  · exact .nil d
  · exact .append (.stmt (by rfl) rfl (by rfl)) (.append (.absorbed (by rfl)) (.append (.absorbed (by rfl))
      (.append (.absorbed (by rfl)) (.stmt (by rfl) rfl (by rfl)))))

theorem reads_brotliNodes (d : Draft) (p : Performance) :
    d.Reads p.brotliNodes { d with
      site.performance.brotli := if p.brotli then true else d.site.performance.brotli
      brotliTypes := if p.brotli then some p.effectiveBrotliTypes else d.brotliTypes } := by
  unfold Performance.brotliNodes
  cases p.brotli
  · exact .nil d
  · exact .append (.stmt (by rfl) rfl (by rfl)) (.append (.absorbed (by rfl)) (.stmt (by rfl) rfl (by rfl)))

theorem clientMaxBodySize_eq (d : Draft) {size : Int} (hs : 0 ≤ size) (hf : FewDigits size) (unit : SizeUnit) :
    clientMaxBodySize d (.stmt "client_max_body_size" [toString size ++ unit.letter]) = .ok { d with
      site.performance.clientMaxBodySize := size
      site.performance.clientMaxBodyUnit := unit } := by
  have hn : (size.natAbs : Int) = size := by omega
  cases unit with
  | gigabytes =>
    have hsplit : splitSize? (toString size ++ "g") = some (Nat.toDigits 10 size.natAbs, .giga) :=
      splitSize?_toString hs (by decide) (by decide) (by decide)
    unfold clientMaxBodySize
    rw [show (Node.stmt "client_max_body_size" [toString size ++ SizeUnit.gigabytes.letter]).arg 0 =
      toString size ++ "g" from rfl, hsplit]
    dsimp only
    rw [readNumber_toDigits hf, ← hn]
    rfl
  | megabytes =>
    have hsplit : splitSize? (toString size ++ "m") = some (Nat.toDigits 10 size.natAbs, .mega) :=
      splitSize?_toString hs (by decide) (by decide) (by decide)
    unfold clientMaxBodySize
    rw [show (Node.stmt "client_max_body_size" [toString size ++ SizeUnit.megabytes.letter]).arg 0 =
      toString size ++ "m" from rfl, hsplit]
    dsimp only
    rw [readNumber_toDigits hf, ← hn]
    rfl

theorem keepaliveTimeout_eq (d : Draft) {t : Int} (ht : 0 ≤ t) (hf : FewDigits t) :
    keepaliveTimeout d (.stmt "keepalive_timeout" [toString t ++ "s"]) =
      .ok { d with site.performance.keepaliveTimeout := t } := by
  have hn : (t.natAbs : Int) = t := by omega
  unfold keepaliveTimeout
  rw [show (Node.stmt "keepalive_timeout" [toString t ++ "s"]).arg 0 = toString t ++ "s" from rfl,
    readSeconds_toString ht hf]
  show Except.ok ({ d with site.performance.keepaliveTimeout := (t.natAbs : Int) } : Draft) = _
  rw [hn]

theorem reads_performanceNodes (d : Draft) {p : Performance} (hs : FewDigits p.clientMaxBodySize)
    (hk : FewDigits p.keepaliveTimeout) :
    d.Reads p.nodes { d with
      site.performance := { d.site.performance with
        gzip := if p.gzip then true else d.site.performance.gzip
        gzipTypes := if p.gzip then p.effectiveGzipTypes else d.site.performance.gzipTypes
        brotli := if p.brotli then true else d.site.performance.brotli
        clientMaxBodySize :=
          if 0 < p.clientMaxBodySize then p.clientMaxBodySize else d.site.performance.clientMaxBodySize
        clientMaxBodyUnit :=
          if 0 < p.clientMaxBodySize then p.clientMaxBodyUnit else d.site.performance.clientMaxBodyUnit
        keepaliveTimeout :=
          if 0 < p.keepaliveTimeout then p.keepaliveTimeout else d.site.performance.keepaliveTimeout }
      brotliTypes := if p.brotli then some p.effectiveBrotliTypes else d.brotliTypes } := by
  have hsize : ∀ d : Draft, d.Reads p.sizeNodes { d with
      site.performance.clientMaxBodySize :=
        if 0 < p.clientMaxBodySize then p.clientMaxBodySize else d.site.performance.clientMaxBodySize
      site.performance.clientMaxBodyUnit :=
        if 0 < p.clientMaxBodySize then p.clientMaxBodyUnit else d.site.performance.clientMaxBodyUnit } := by
    intro d
    unfold Performance.sizeNodes
    by_cases h : 0 < p.clientMaxBodySize
    · simp only [if_pos h]
      exact .stmt (by rfl) (clientMaxBodySize_eq d (by omega) hs _) (by rfl)
    · simp only [if_neg h]
      exact .nil d
  have hkeep : ∀ d : Draft, d.Reads p.keepaliveNodes { d with
      site.performance.keepaliveTimeout :=
        if 0 < p.keepaliveTimeout then p.keepaliveTimeout else d.site.performance.keepaliveTimeout } := by
    intro d
    unfold Performance.keepaliveNodes
    by_cases h : 0 < p.keepaliveTimeout
    · simp only [if_pos h]
      exact .stmt (by rfl) (keepaliveTimeout_eq d (by omega) hk) (by rfl)
    · simp only [if_neg h]
      exact .nil d
  exact (((reads_gzipNodes d p).append (reads_brotliNodes _ p)).append (hsize _)).append (hkeep _)

/-! ### Logs -/

theorem reads_loggingNodes (d : Draft) (l : Logging) :
    d.Reads l.nodes { d with
      site.logging := { d.site.logging with
        accessLog := if l.accessTarget = "off" then false else true
        accessLogPath := if l.accessTarget = "off" then d.site.logging.accessLogPath else l.accessTarget
        errorLog := if l.errorLog then true else d.site.logging.errorLog
        errorLogPath := if l.errorLog then l.errorTarget else d.site.logging.errorLogPath
        errorLogLevel := if l.errorLog then l.errorLogLevel else d.site.logging.errorLogLevel } } := by
  have haccess : ∀ d : Draft, d.Reads [.stmt "access_log" [l.accessTarget]] { d with
      site.logging.accessLog := if l.accessTarget = "off" then false else true
      site.logging.accessLogPath :=
        if l.accessTarget = "off" then d.site.logging.accessLogPath else l.accessTarget } := by
    intro d
    refine .stmt (by rfl) (congrArg Except.ok ?_) (by rfl)
    show (if l.accessTarget = "off" then _ else _) = _
    split_ifs <;> rfl
  have herror : ∀ d : Draft, d.Reads [.stmt "error_log" [l.errorTarget, spell l.errorLogLevel]] { d with
      site.logging.errorLog := true
      site.logging.errorLogPath := l.errorTarget
      site.logging.errorLogLevel := l.errorLogLevel } := by
    intro d
    refine .stmt (by rfl) (congrArg Except.ok ?_) (by rfl)
    cases l.errorLogLevel <;> rfl
  unfold Logging.nodes
  cases l.errorLog with
  | false => exact (haccess d).append (.nil _)
  | true => exact (haccess d).append (herror _)

end Draft
end SiteConf
