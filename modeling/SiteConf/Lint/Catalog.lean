import SiteConf.Lint.Rule
import SiteConf.Site.Patch
import SiteConf.Text.Blank

/-!
# The rule table

The rules of the audit, in their fixed order. Ids are stable: documentation and lists of ignored
rules refer to them.
-/

namespace SiteConf
open Text

/-- A proxy location whose target is blank. -/
def Location.lacksTarget (l : Location) : Bool := l.kind == .proxy && isBlankText l.proxyPass

/-- The size limit in megabytes. -/
def Performance.bodySizeMegabytes (p : Performance) : Int :=
  if p.clientMaxBodyUnit = .gigabytes then p.clientMaxBodySize * 1024 else p.clientMaxBodySize

namespace Rules

/-! ### Tests and fixes with a name -/

def outdatedProtocols : List String := ["TLSv1", "TLSv1.1"]

def secureProtocols : List String := ["TLSv1.2", "TLSv1.3"]

/-- A backend on the machine itself. -/
def isLocalBackend (address : String) : Bool :=
  contains address "localhost" || contains address "127.0.0.1"

def docs (id : String) : String := "/docs/lint/" ++ id

/-- A test that cannot fail. -/
def test (p : Site → Bool) (s : Site) : Except String Bool := .ok (p s)

/-- Merges a patch into a site; the text of the fault if that fails. -/
def mergePatch (s : Site) (p : Patch) : Except String Site := (s.merge p).mapError Fault.message

/-- A patch of one section. -/
def patch (section_ : String) (fields : Entries) (s : Site) : Except String Site :=
  mergePatch s [(section_, .map fields)]

/-- The protocols that are not outdated, or the secure ones if none is left. -/
def keepSecure (s : Site) : Except String Site :=
  let kept := s.ssl.protocols.filter (!outdatedProtocols.contains ·)
  patch "ssl" [("protocols", Codec.texts (if kept.isEmpty then secureProtocols else kept))] s

/-- A location that lacks its target, with the backend of the site as one. -/
def fillTarget (backend : String) (l : Location) : Except Fault Location :=
  if l.lacksTarget then do
    let l := { l with proxyPass := backend }
    l.check
    pure l
  else .ok l

/-- The backend of the site as the target of every proxy location that lacks one. -/
def fillTargets (s : Site) : Except String Site := do
  let backend := trim s.reverseProxy.backendAddress
  let ls ← (s.locations.mapM (fillTarget backend)).mapError Fault.message
  mergePatch s [("locations", .list (ls.map fun l => .map l.toEntries))]

/-! ### The rules -/

def serverTokens : Rule Site where
  id := "security-server-tokens"
  title := "Server Tokens Visible"
  message :=
    "Nginx version is visible in error pages and headers. Disable server_tokens to obscure " ++
    "version info."
  category := .security
  severity := .warning
  test := test fun s => !s.security.hideVersion
  fix := some <| patch "security" [("hide_version", .bool true)]
  docsUrl := docs "security-server-tokens"

def headersMissing : Rule Site where
  id := "security-headers-missing"
  title := "Missing Security Headers"
  message :=
    "Standard security headers (X-Frame-Options, X-Content-Type-Options, etc.) are " ++
    "disabled."
  category := .security
  severity := .error
  test := test fun s => !s.security.securityHeaders
  fix := some <| patch "security" [("security_headers", .bool true)]
  docsUrl := docs "security-headers-missing"

def sslMissing : Rule Site where
  id := "security-ssl-missing"
  title := "SSL/TLS Disabled"
  message := "Site is served over HTTP. Enable SSL/TLS for encryption."
  category := .security
  severity := .error
  test := test fun s => !s.ssl.enabled && s.listenPort == 80
  docsUrl := docs "security-ssl-missing"

def sslEnabledMissingCerts : Rule Site where
  id := "security-ssl-enabled-missing-certs"
  title := "SSL Enabled Without Certificate Paths"
  message :=
    "SSL/TLS is enabled but certificate or key path is missing. Nginx will fail to start " ++
    "with an invalid TLS server block."
  category := .security
  severity := .error
  test := test fun s =>
    s.ssl.enabled &&
    (isBlankText s.ssl.certificatePath || isBlankText s.ssl.keyPath)
  docsUrl := docs "security-ssl-enabled-missing-certs"

def httpRedirectWithoutSsl : Rule Site where
  id := "bp-http-redirect-without-ssl"
  title := "HTTP Redirect Without SSL"
  message :=
    "HTTP-to-HTTPS redirect is configured but SSL is not enabled. The redirect will fail " ++
    "or cause a loop."
  category := .bestPractice
  severity := .error
  test := test fun s => s.ssl.httpRedirect && !s.ssl.enabled
  fix := some <| patch "ssl" [("http_redirect", .bool false)]
  docsUrl := docs "bp-http-redirect-without-ssl"

def upstreamNeedsSsl : Rule Site where
  id := "security-upstream-needs-ssl"
  title := "Upstream Traffic Unencrypted"
  message :=
    "Proxying to a remote backend without HTTPS. Consider using SSL between Nginx and the " ++
    "upstream if traffic crosses public networks."
  category := .security
  severity := .info
  test := test fun s =>
    s.reverseProxy.enabled && startsWith s.reverseProxy.backendAddress "http://" &&
    !isLocalBackend s.reverseProxy.backendAddress
  docsUrl := docs "security-upstream-needs-ssl"

def proxyEnabledWithoutBackend : Rule Site where
  id := "correctness-proxy-enabled-without-backend"
  title := "Reverse Proxy Enabled Without Backend"
  message :=
    "Reverse proxy mode is enabled, but backend address is empty. Requests will fail " ++
    "because there is no upstream destination."
  category := .correctness
  severity := .error
  test := test fun s => s.reverseProxy.enabled && isBlankText s.reverseProxy.backendAddress
  fix := some <| patch "reverse_proxy" [("enabled", .bool false)]
  docsUrl := docs "correctness-proxy-enabled-without-backend"

def gzipDisabled : Rule Site where
  id := "perf-gzip-disabled"
  title := "Gzip Compression Disabled"
  message :=
    "Gzip compression is disabled. Enable it to reduce bandwidth usage and improve load " ++
    "times."
  category := .performance
  severity := .warning
  test := test fun s => !s.performance.gzip
  fix := some <| patch "performance" [("gzip", .bool true)]
  docsUrl := docs "perf-gzip-disabled"

def http2Disabled : Rule Site where
  id := "perf-http2-disabled"
  title := "HTTP/2 Disabled"
  message := "HTTP/2 is not enabled. Enable it for better multiplexing and performance over SSL."
  category := .performance
  severity := .info
  test := test fun s => s.ssl.enabled && !s.performance.http2
  fix := some <| patch "performance" [("http2", .bool true)]
  docsUrl := docs "perf-http2-disabled"

/-- This rule never fires: the number of connections belongs to the main context. -/
def workerConnectionsLow : Rule Site where
  id := "bp-worker-connections-low"
  title := "Low Worker Connections"
  message :=
    "Worker connections is set low (< 1024). Default is usually 1024 or higher for " ++
    "production."
  category := .bestPractice
  severity := .warning
  test := test fun _ => false
  fix := some <| patch "performance" [("worker_connections", .int 1024)]
  docsUrl := docs "bp-worker-connections-low"

def keepaliveTimeoutHigh : Rule Site where
  id := "bp-keepalive-timeout-high"
  title := "High Keepalive Timeout"
  message := "Keepalive timeout > 75s. Nginx default is 75s. Higher values may waste resources."
  category := .bestPractice
  severity := .info
  test := test fun s => decide (75 < s.performance.keepaliveTimeout)
  fix := some <| patch "performance" [("keepalive_timeout", .int 65)]
  docsUrl := docs "bp-keepalive-timeout-high"

def sslProtocolsOutdated : Rule Site where
  id := "security-ssl-protocols-outdated"
  title := "Outdated SSL/TLS Protocols"
  message :=
    "SSL is enabled but outdated protocols (TLSv1 or TLSv1.1) may be in use. Only TLSv1.2 " ++
    "and TLSv1.3 are considered secure."
  category := .security
  severity := .error
  test := test fun s => s.ssl.enabled && s.ssl.protocols.any outdatedProtocols.contains
  fix := some keepSecure
  docsUrl := docs "security-ssl-protocols-outdated"

def noRateLimiting : Rule Site where
  id := "security-no-rate-limiting"
  title := "Rate Limiting Disabled"
  message :=
    "Rate limiting is not enabled. Without it, your server is more vulnerable to " ++
    "brute-force and DDoS attacks."
  category := .security
  severity := .info
  test := test fun s => !s.security.rateLimiting
  fix := some <| patch "security"
    [("rate_limiting", .bool true), ("rate_limit", .int 10), ("rate_burst", .int 20)]
  docsUrl := docs "security-no-rate-limiting"

def basicAuthNoSsl : Rule Site where
  id := "security-basic-auth-no-ssl"
  title := "Basic Auth Without SSL"
  message :=
    "Basic authentication is enabled without SSL/TLS. Credentials are sent in plain text " ++
    "over HTTP."
  category := .security
  severity := .error
  test := test fun s => s.security.basicAuth && !s.ssl.enabled
  docsUrl := docs "security-basic-auth-no-ssl"

def openAutoindex : Rule Site where
  id := "security-open-autoindex"
  title := "Directory Listing Enabled"
  message :=
    "autoindex is enabled on one or more locations. This exposes your directory structure " ++
    "to visitors."
  category := .security
  severity := .warning
  test := test fun s => s.locations.any (·.autoindex)
  docsUrl := docs "security-open-autoindex"

def brotliDisabled : Rule Site where
  id := "perf-brotli-disabled"
  title := "Brotli Compression Disabled"
  message :=
    "Brotli compression is not enabled. Brotli offers 15-25% better compression than gzip " ++
    "for text content."
  category := .performance
  severity := .info
  test := test fun s => s.ssl.enabled && !s.performance.brotli
  fix := some <| patch "performance" [("brotli", .bool true)]
  docsUrl := docs "perf-brotli-disabled"

def noStaticCaching : Rule Site where
  id := "perf-no-static-caching"
  title := "Static File Caching Disabled"
  message :=
    "Static file caching is not configured. Adding cache headers for assets (.js, .css, " ++
    "images) significantly improves page load times."
  category := .performance
  severity := .warning
  test := test fun s => !s.performance.staticCaching
  fix := some <| patch "performance"
    [("static_caching", .bool true), ("cache_expiry", .text "30d")]
  docsUrl := docs "perf-no-static-caching"

def largeClientBody : Rule Site where
  id := "perf-large-client-body"
  title := "Large Client Body Size Limit"
  message :=
    "client_max_body_size is set above 100 MB. This may allow excessively large file " ++
    "uploads and consume server resources."
  category := .performance
  severity := .warning
  test := test fun s => decide (100 < s.performance.bodySizeMegabytes)
  docsUrl := docs "perf-large-client-body"

def lowKeepalive : Rule Site where
  id := "perf-low-keepalive"
  title := "Keepalive Timeout Too Low"
  message :=
    "Keepalive timeout is set very low (< 10s). This forces frequent TCP reconnections, " ++
    "adding latency."
  category := .performance
  severity := .info
  test := test fun s =>
    decide (0 < s.performance.keepaliveTimeout) && decide (s.performance.keepaliveTimeout < 10)
  fix := some <| patch "performance" [("keepalive_timeout", .int 65)]
  docsUrl := docs "perf-low-keepalive"

def missingRootOrProxy : Rule Site where
  id := "bp-missing-root-or-proxy"
  title := "No Root Path or Reverse Proxy"
  message :=
    "No locations defined and reverse proxy is disabled. Nginx won't know where to find " ++
    "files or where to forward requests."
  category := .bestPractice
  severity := .warning
  test := test fun s => s.locations.isEmpty && !s.reverseProxy.enabled
  docsUrl := docs "bp-missing-root-or-proxy"

def singleServerUpstream : Rule Site where
  id := "bp-single-server-upstream"
  title := "Single Server in Upstream"
  message :=
    "Upstream block has only one server. Consider using proxy_pass directly for " ++
    "simplicity, or add more servers for redundancy."
  category := .bestPractice
  severity := .info
  test := test fun s => s.upstream.enabled && s.upstream.servers.length == 1
  docsUrl := docs "bp-single-server-upstream"

def loggingDisabled : Rule Site where
  id := "bp-logging-disabled"
  title := "Access Logging Disabled"
  message :=
    "Access logging is disabled. Logs are essential for debugging, monitoring, and " ++
    "security auditing."
  category := .bestPractice
  severity := .warning
  test := test fun s => !s.logging.accessLog
  fix := some <| patch "logging"
    [("access_log", .bool true), ("access_log_path", .text "/var/log/nginx/access.log")]
  docsUrl := docs "bp-logging-disabled"

def upstreamWithoutServers : Rule Site where
  id := "correctness-upstream-without-servers"
  title := "Upstream Enabled Without Servers"
  message :=
    "Load balancing is enabled but the upstream pool has no servers. The upstream block is " ++
    "not generated and proxy targets naming it will fail."
  category := .correctness
  severity := .error
  test := test fun s => s.upstream.enabled && s.upstream.servers.isEmpty
  fix := some <| patch "upstream" [("enabled", .bool false)]
  docsUrl := docs "correctness-upstream-without-servers"

def proxyLocationWithoutTarget : Rule Site where
  id := "correctness-proxy-location-without-target"
  title := "Proxy Location Without Target"
  message :=
    "A proxy location has an empty proxy_pass target. Requests to it cannot be forwarded " ++
    "anywhere."
  category := .correctness
  severity := .error
  test := test fun s => s.locations.any Location.lacksTarget
  fix := some fillTargets
  docsUrl := docs "correctness-proxy-location-without-target"

def redirectWithoutTarget : Rule Site where
  id := "correctness-redirect-without-target"
  title := "Redirect Location Without Target"
  message := "A redirect location has no target URL. Nginx will answer with a bare status code."
  category := .correctness
  severity := .warning
  test := test fun s => s.locations.any fun l => l.kind == .redirect && isBlankText l.redirectUrl
  docsUrl := docs "correctness-redirect-without-target"

def hstsMissing : Rule Site where
  id := "security-hsts-missing"
  title := "HSTS Not Enabled"
  message :=
    "SSL is enabled but Strict-Transport-Security is not sent. Browsers may still try " ++
    "plain HTTP first."
  category := .security
  severity := .info
  test := test fun s => s.ssl.enabled && !s.ssl.enableHsts
  fix := some <| patch "ssl" [("enable_hsts", .bool true)]
  docsUrl := docs "security-hsts-missing"

end Rules

open Rules in
/-- The table. -/
def ruleTable : List (Rule Site) :=
  [serverTokens, headersMissing, sslMissing, sslEnabledMissingCerts, httpRedirectWithoutSsl,
    upstreamNeedsSsl, proxyEnabledWithoutBackend, gzipDisabled, http2Disabled,
    workerConnectionsLow, keepaliveTimeoutHigh, sslProtocolsOutdated, noRateLimiting,
    basicAuthNoSsl, openAutoindex, brotliDisabled, noStaticCaching, largeClientBody,
    lowKeepalive, missingRootOrProxy, singleServerUpstream, loggingDisabled,
    upstreamWithoutServers, proxyLocationWithoutTarget, redirectWithoutTarget, hstsMissing]

/-- The rule with an id. -/
def rule? (id : String) : Option (Rule Site) := ruleTable.find? (·.id == id)

end SiteConf
