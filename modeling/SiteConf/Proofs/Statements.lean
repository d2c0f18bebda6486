import SiteConf.Render.Server

/-!
# The statements of a site

The nodes that the text of a site is meant to say, section by section. They are defined beside the
lines, without looking at a text: `Proofs/Written.lean` shows that the lines write these nodes, and the
modules on reading what an import makes of them.
-/

namespace SiteConf
open Text

/-- A directive that stands on no line. -/
def Node.stmt (name : String) (args : List String) : Node := .directive name args 0

/-- A block that stands on no line. -/
def Node.scope (name : String) (args : List String) (children : List Node) : Node := .block name args 0 children

/-! ### File level -/

def Upstream.poolNodes (u : Upstream) : List Node :=
  (if u.method = .roundRobin then [] else [.stmt (spell u.method) []]) ++
    u.servers.map fun m => .stmt "server" m.args

def Upstream.nodes (u : Upstream) : List Node :=
  if u.enabled && !u.servers.isEmpty then [.scope "upstream" [orElse u.name "backend"] u.poolNodes] else []

def Security.zoneArgs (s : Security) : List String :=
  ["$binary_remote_addr", "zone=" ++ rateLimitZone ++ ":10m", "rate=" ++ toString s.rate ++ "r/s"]

def Security.zoneNodes (s : Security) : List Node :=
  if s.rateLimiting then [.stmt "limit_req_zone" s.zoneArgs] else []

def Site.nameNodes (s : Site) : List Node :=
  if s.serverNames.isEmpty then [] else [.stmt "server_name" s.serverNames]

/-- What stands in the server that redirects to https. -/
def Site.redirectNodes (s : Site) : List Node :=
  [.stmt "listen" ["80"]] ++ (if s.listenIpv6 then [.stmt "listen" ["[::]:80"]] else []) ++ s.nameNodes ++
    [.stmt "return" ["301", httpsTarget]]

def Site.httpsRedirectNodes (s : Site) : List Node :=
  if s.ssl.enabled && s.ssl.httpRedirect then [.scope "server" [] s.redirectNodes] else []

/-! ### Groups of the main server -/

def Site.listenNodes (s : Site) : List Node :=
  [.stmt "listen" (toString s.listenPort :: s.listenFlags)] ++
    (if s.listenIpv6 then [.stmt "listen" (("[::]:" ++ toString s.listenPort) :: s.listenFlags)] else [])

/-- The files of a server that is no reverse proxy. -/
def Site.fileNodes (s : Site) : List Node :=
  if s.reverseProxy.enabled then [] else
    (if s.rootPath.isEmpty then [] else [.stmt "root" [s.rootPath]]) ++
    (if s.indexFiles.isEmpty then [] else [.stmt "index" s.indexFiles])

def Site.headNodes (s : Site) : List Node := s.listenNodes ++ s.nameNodes ++ s.fileNodes

def Ssl.protocolNodes (s : Ssl) : List Node :=
  if s.protocols.isEmpty then [] else [.stmt "ssl_protocols" s.protocols]

def Ssl.sessionNodes (s : Ssl) : List Node :=
  [.stmt "ssl_prefer_server_ciphers" [onOff s.preset.suite.preferServerCiphers],
    .stmt "ssl_session_timeout" [s.preset.suite.sessionTimeout],
    .stmt "ssl_session_cache" [sslSessionCache],
    .stmt "ssl_session_tickets" [onOff s.preset.suite.sessionTickets]]

def Ssl.hstsNodes (s : Ssl) : List Node :=
  if s.enableHsts then [.stmt "add_header" ["Strict-Transport-Security", hstsValue, "always"]] else []

def Ssl.staplingNodes (s : Ssl) : List Node :=
  if s.enableOcsp then [.stmt "ssl_stapling" ["on"], .stmt "ssl_stapling_verify" ["on"]] else []

def Ssl.nodes (s : Ssl) : List Node :=
  if s.enabled then
    [.stmt "ssl_certificate" [orElse s.certificatePath placeholderCertificate],
      .stmt "ssl_certificate_key" [orElse s.keyPath placeholderKey]] ++
    s.protocolNodes ++ (.stmt "ssl_ciphers" [s.effectiveCiphers] :: s.sessionNodes) ++ s.hstsNodes ++
    s.staplingNodes
  else []

def Security.tokenNodes (s : Security) : List Node :=
  if s.hideVersion then [.stmt "server_tokens" ["off"]] else []

def Security.headerNodes (s : Security) : List Node :=
  if s.securityHeaders then hardeningHeaders.map fun h => .stmt "add_header" [h.1, h.2, "always"] else []

def addressNodes (name : String) (addresses : List String) : List Node :=
  (addresses.filter (!isBlankText ·)).map fun a => .stmt name [trim a]

def Security.authNodes (s : Security) : List Node :=
  if s.basicAuth then
    [.stmt "auth_basic" [orElse s.basicAuthRealm "Restricted"],
      .stmt "auth_basic_user_file" [orElse s.basicAuthFile "/etc/nginx/.htpasswd"]]
  else []

def Security.nodes (s : Security) : List Node :=
  s.tokenNodes ++ s.headerNodes ++ addressNodes "allow" s.ipAllowlist ++ addressNodes "deny" s.ipDenylist ++
    s.authNodes

/-- The types that are compressed by the newer method. -/
def Performance.effectiveBrotliTypes (p : Performance) : List String :=
  if p.brotliTypes.isEmpty then p.effectiveGzipTypes else p.brotliTypes

def Performance.gzipNodes (p : Performance) : List Node :=
  if p.gzip then
    [.stmt "gzip" ["on"], .stmt "gzip_vary" ["on"], .stmt "gzip_proxied" ["any"],
      .stmt "gzip_comp_level" ["6"], .stmt "gzip_types" p.effectiveGzipTypes] else []

def Performance.brotliNodes (p : Performance) : List Node :=
  if p.brotli then
    [.stmt "brotli" ["on"], .stmt "brotli_comp_level" ["6"], .stmt "brotli_types" p.effectiveBrotliTypes]
  else []

/-- The letter of a unit. -/
def SizeUnit.letter : SizeUnit → String
  | gigabytes => "g"
  | megabytes => "m"

def Performance.sizeNodes (p : Performance) : List Node :=
  if 0 < p.clientMaxBodySize then
    [.stmt "client_max_body_size" [toString p.clientMaxBodySize ++ p.clientMaxBodyUnit.letter]] else []

def Performance.keepaliveNodes (p : Performance) : List Node :=
  if 0 < p.keepaliveTimeout then [.stmt "keepalive_timeout" [toString p.keepaliveTimeout ++ "s"]] else []

def Performance.nodes (p : Performance) : List Node :=
  p.gzipNodes ++ p.brotliNodes ++ p.sizeNodes ++ p.keepaliveNodes

/-- What is written for the place of the access log. -/
def Logging.accessTarget (l : Logging) : String :=
  if l.accessLog then orElse l.accessLogPath "/var/log/nginx/access.log" else "off"

def Logging.errorTarget (l : Logging) : String := orElse l.errorLogPath "/var/log/nginx/error.log"

def Logging.nodes (l : Logging) : List Node :=
  [.stmt "access_log" [l.accessTarget]] ++
    (if l.errorLog then [.stmt "error_log" [l.errorTarget, spell l.errorLogLevel]] else [])

/-! ### Locations -/

namespace Location

def fileNodes (l : Location) : List Node :=
  (if l.root.isEmpty then [] else [.stmt "root" [l.root]]) ++
  (if isBlankText l.tryFiles then [] else [.stmt "try_files" (words l.tryFiles)]) ++
  (if isBlankText l.index then [] else [.stmt "index" (words l.index)]) ++
  (if l.autoindex then [.stmt "autoindex" ["on"]] else []) ++
  (if isBlankText l.cacheExpiry then [] else [.stmt "expires" (words l.cacheExpiry)])

def headerNode (h : Header) : Node := .stmt "proxy_set_header" [h.key, h.value]

/-- The headers of a location that are written: the ones with a name and a value. -/
def ownHeaders (l : Location) : List Header := l.proxyHeaders.filter fun h => !h.key.isEmpty && !h.value.isEmpty

/-- All headers that are written for a location, in their order. -/
def writtenHeaders (realIp : Bool) (l : Location) : List Header :=
  (if l.proxyWebSocket then upgradeHeaders else []) ++ (if realIp then forwardingHeaders else []) ++ l.ownHeaders

def timeoutNodes (l : Location) : List Node :=
  if 0 < l.proxyTimeout then
    [.stmt "proxy_read_timeout" [toString l.proxyTimeout ++ "s"],
      .stmt "proxy_send_timeout" [toString l.proxyTimeout ++ "s"]] else []

def bufferingNodes (l : Location) : List Node :=
  if l.proxyBuffering then [] else [.stmt "proxy_buffering" ["off"]]

def proxyNodes (realIp : Bool) (l : Location) : List Node :=
  [.stmt "proxy_pass" (if l.proxyPass.isEmpty then [] else [l.proxyPass]), .stmt "proxy_http_version" ["1.1"]] ++
    (l.writtenHeaders realIp).map headerNode ++ l.timeoutNodes ++ l.bufferingNodes

def redirectNodes (l : Location) : List Node :=
  [.stmt "return" (toString l.redirectCode :: (if l.redirectUrl.isEmpty then [] else [l.redirectUrl]))]

/-- The statements in a location, without the rate limit before them. -/
def bodyNodes (realIp : Bool) (l : Location) : List Node :=
  match l.kind with
  | .files => l.fileNodes
  | .proxy => l.proxyNodes realIp
  | .redirect => l.redirectNodes
  | .custom => if isBlankText l.customDirectives then [] else (Tree.ofText l.customDirectives).nodes

/-- The arguments of a location block. -/
def headArgs (l : Location) : List String :=
  match l.matchType with
  | .start => [l.path]
  | .exact => ["=", l.path]
  | .regex => ["~", l.path]
  | .regexIgnoreCase => ["~*", l.path]

end Location

def Security.limitNodes (s : Security) : List Node :=
  if s.rateLimiting then
    [.stmt "limit_req" ["zone=" ++ rateLimitZone, "burst=" ++ toString s.burst, "nodelay"]] else []

def Site.locationNode (s : Site) (l : Location) : Node :=
  .scope "location" l.headArgs (s.security.limitNodes ++ l.bodyNodes s.reverseProxy.realIpHeaders)

def Site.locationNodes (s : Site) : List Node := s.effectiveLocations.map s.locationNode

/-! ### Static caching -/

def Performance.assetNode (p : Performance) (a : AssetClass) : Node :=
  .scope "location" ["~*", a.pattern]
    [.stmt "expires" (words (p.assetExpiry a)), .stmt "add_header" ["Cache-Control", assetCacheControl]]

/-- The classes that have a caching location. -/
def Site.servedAssets (s : Site) : List AssetClass :=
  if s.performance.staticCaching then (Keyword.all : List AssetClass).filter s.servesAssets else []

def Site.cachingNodes (s : Site) : List Node := s.servedAssets.map s.performance.assetNode

/-! ### The whole text -/

def Site.serverNodes (s : Site) : List Node :=
  s.headNodes ++ s.ssl.nodes ++ s.security.nodes ++ s.performance.nodes ++ s.logging.nodes ++ s.locationNodes ++
    s.cachingNodes

/-- The statements of a site without custom directives. -/
def Site.nodes (s : Site) : List Node :=
  s.upstream.nodes ++ s.security.zoneNodes ++ s.httpsRedirectNodes ++ [.scope "server" [] s.serverNodes]

end SiteConf
