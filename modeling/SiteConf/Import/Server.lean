import SiteConf.Import.Draft
import SiteConf.Import.Size
import SiteConf.Text.Lower

/-!
# Directives of a server

What each directive at server level sets in a draft. A directive that is in neither of the two
tables has no place in a site.
-/

namespace SiteConf
open Text

/-- Directives with one value for all sites, or one that follows from another field. -/
def absorbedDirectives : List String :=
  ["ssl_session_timeout", "ssl_session_cache", "ssl_session_tickets", "ssl_stapling_verify",
    "gzip_vary", "gzip_proxied", "gzip_comp_level", "brotli_comp_level"]

/-- What a directive does to a draft. -/
abbrev Draft.Effect := Draft → Node → Except NumberFault Draft

namespace Draft

/-- An effect that reads no number. -/
def plain (f : Draft → Node → Draft) : Effect := fun d n => .ok (f d n)

/-- The port of an address, if it ends in one. -/
def portOf (address : String) : Except NumberFault (Option Nat) :=
  let ds := afterLast ':' address.toList
  if isNumber ds then some <$> readNumber ds else .ok none

/-- The last IPv4 address decides on the port, and without one the last IPv6 address. -/
def listen : Effect := fun d n => do
  let ipv6 := startsWith (n.arg 0) "["
  let port ← portOf (n.arg 0)
  let listenPort : Int := match port with
    | some p => if 0 < p && !(ipv6 && d.ipv4Seen) then p else d.site.listenPort
    | none => d.site.listenPort
  let flags := n.args.drop 1
  pure { d with
    site.listenPort := listenPort
    site.listenIpv6 := d.site.listenIpv6 || ipv6
    ipv4Seen := d.ipv4Seen || !ipv6
    site.ssl.enabled := d.site.ssl.enabled || flags.contains "ssl"
    site.performance.http2 := d.site.performance.http2 || flags.contains "http2" }

/-- The list is a profile's, or it stands for itself beside the nearest profile. -/
def sslCiphers (d : Draft) (n : Node) : Draft :=
  let ciphers := n.arg 0
  match CipherProfile.ofCiphers? ciphers with
  | some p => { d with site.ssl.preset := p, site.ssl.ciphers := "" }
  | none => { d with site.ssl.preset := .nearest ciphers, site.ssl.ciphers := ciphers }

/-- A header by its name in lower case. -/
def addHeader (d : Draft) (n : Node) : Draft :=
  let name := String.ofList (lower (n.arg 0))
  if name = "strict-transport-security" then { d with site.ssl.enableHsts := true }
  else if (hardeningHeaders.map fun h => String.ofList (lower h.1)).contains name then
    { d with site.security.securityHeaders := true }
  else d.unmodelled n

def authBasic (d : Draft) (n : Node) : Draft :=
  if n.arg 0 = "off" then { d with site.security.basicAuth := false }
  else { d with site.security.basicAuth := true, site.security.basicAuthRealm := n.arg 0 }

def clientMaxBodySize : Effect := fun d n =>
  match splitSize? (n.arg 0) with
  | none => .ok (d.warn (.bodySize (n.arg 0) n.line))
  | some (ds, suffix) => do
    let size ← readNumber ds
    match suffix with
    | .kilo =>
      let size ← megabytes size
      pure { d.warn (.bodySizeRounded (n.arg 0) size) with
        site.performance.clientMaxBodySize := size
        site.performance.clientMaxBodyUnit := .megabytes }
    | _ =>
      pure { d with
        site.performance.clientMaxBodySize := size
        site.performance.clientMaxBodyUnit :=
          if suffix = .giga then .gigabytes else .megabytes }

def keepaliveTimeout : Effect := fun d n => do
  match ← readSeconds (n.arg 0) with
  | none => pure (d.warn (.keepaliveTimeout (n.arg 0) n.line))
  | some s => pure { d with site.performance.keepaliveTimeout := s }

def accessLog (d : Draft) (n : Node) : Draft :=
  if n.arg 0 = "off" then { d with site.logging.accessLog := false }
  else { d with site.logging.accessLog := true, site.logging.accessLogPath := n.arg 0 }

/-- A log without a level, or with a level that has no place, is one for errors. -/
def errorLog (d : Draft) (n : Node) : Draft :=
  let d := { d with site.logging.errorLog := true, site.logging.errorLogPath := n.arg 0 }
  let level := n.arg 1
  if level.isEmpty then { d with site.logging.errorLogLevel := .error }
  else match Keyword.read? level with
    | some l => { d with site.logging.errorLogLevel := l }
    | none => { d.warn (.logLevel level) with site.logging.errorLogLevel := .error }

end Draft

open Draft in
/-- The directives that set fields of a site. -/
def serverDirectives : List (String × Draft.Effect) :=
  [("listen", listen),
    ("server_name", plain fun d n =>
      { d with site.serverNames := d.site.serverNames ++ n.args }),
    ("root", plain fun d n => { d with site.rootPath := n.arg 0, rootSeen := true }),
    ("index", plain fun d n => { d with site.indexFiles := n.args, rootSeen := true }),
    ("ssl_certificate", plain fun d n =>
      { d with site.ssl.certificatePath := n.arg 0, site.ssl.enabled := true }),
    ("ssl_certificate_key", plain fun d n => { d with site.ssl.keyPath := n.arg 0 }),
    ("ssl_protocols", plain fun d n => { d with site.ssl.protocols := n.args }),
    ("ssl_ciphers", plain sslCiphers),
    ("ssl_prefer_server_ciphers", plain fun d n =>
      { d with preferServerCiphers := some (n.arg 0 == "on") }),
    ("ssl_stapling", plain fun d n => { d with site.ssl.enableOcsp := n.arg 0 == "on" }),
    ("server_tokens", plain fun d n => { d with site.security.hideVersion := n.arg 0 == "off" }),
    ("add_header", plain addHeader),
    ("allow", plain fun d n =>
      { d with site.security.ipAllowlist := d.site.security.ipAllowlist ++ [n.arg 0] }),
    ("deny", plain fun d n =>
      { d with site.security.ipDenylist := d.site.security.ipDenylist ++ [n.arg 0] }),
    ("auth_basic", plain authBasic),
    ("auth_basic_user_file", plain fun d n => { d with site.security.basicAuthFile := n.arg 0 }),
    ("gzip", plain fun d n => { d with site.performance.gzip := n.arg 0 == "on" }),
    ("gzip_types", plain fun d n => { d with site.performance.gzipTypes := n.args }),
    ("brotli", plain fun d n => { d with site.performance.brotli := n.arg 0 == "on" }),
    ("brotli_types", plain fun d n => { d with brotliTypes := some n.args }),
    ("http2", plain fun d n => { d with site.performance.http2 := n.arg 0 == "on" }),
    ("client_max_body_size", clientMaxBodySize),
    ("keepalive_timeout", Draft.keepaliveTimeout),
    ("access_log", plain accessLog),
    ("error_log", plain errorLog)]

/-- The effect of a directive at server level. -/
def Draft.directive : Draft.Effect := fun d n =>
  if absorbedDirectives.contains n.name then .ok d
  else match serverDirectives.lookup n.name with
    | some effect => effect d n
    | none => .ok (d.unmodelled n)

/-- The rate of a rate limit zone: the first argument that is one. -/
def Draft.limitReqZone : Draft.Effect := fun d n => do
  let d := { d with site.security.rateLimiting := true }
  match n.args.findSome? rateDigits? with
  | some ds =>
    let rate ← readNumber ds
    pure { d with site.security.rateLimit := rate }
  | none => pure (d.warn (.rate n.line d.site.security.rateLimit))

end SiteConf
