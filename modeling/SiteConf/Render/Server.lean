import SiteConf.Render.Location
import SiteConf.Text.Decimal
import SiteConf.Text.Lower

/-!
# The text of a site

The sections of a configuration file in their fixed order: upstream pool, rate limit zone, the
server that redirects to https, the main server. Sections and the groups inside the main server are
separated by one blank line. The text is a function of the site alone (`Site.render`). It can be
written if no number in it has too many digits (`Site.write`).
-/

namespace SiteConf
open Text

/-- The comment over a section. -/
def banner (title : String) : String := "# ─── " ++ title ++ " ───"

/-- Sections one after the other with a blank line between neighbours. -/
def joinSections : List (List String) → List String
  | [] => []
  | [s] => s
  | s :: rest => s ++ "" :: joinSections rest

/-- The sections that have lines, joined. -/
def joinNonEmpty (sections : List (List String)) : List String :=
  joinSections (sections.filter (!·.isEmpty))

/-- A section that is left out if it has no lines. -/
def titled (title : String) (ls : List String) : List String :=
  if ls.isEmpty then [] else banner title :: ls

/-- `head`, the lines one level deeper, and the closing brace. -/
def braced (head : String) (body : List String) : List String :=
  (head ++ " \x7b") :: indentLines 1 body ++ ["\x7d"]

/-- A value in double quotes, or in what quotes it needs if it holds a double quote itself. -/
def doubleQuoted (value : String) : String :=
  if value.toList.contains '"' then quoteArg value else "\"" ++ value ++ "\""

/-- `value`, or `fallback` if it is empty. -/
def orElse (value fallback : String) : String := if value.isEmpty then fallback else value

def onOff (b : Bool) : String := if b then "on" else "off"

/-! ### File level -/

def PoolMember.args (m : PoolMember) : List String :=
  m.address ::
    (if m.weight = 1 then [] else ["weight=" ++ toString m.weight]) ++
    (if m.maxFails = 1 then [] else ["max_fails=" ++ toString m.maxFails]) ++
    (if m.failTimeout = 10 then [] else ["fail_timeout=" ++ toString m.failTimeout ++ "s"])

def Upstream.lines (u : Upstream) : List String :=
  if u.enabled && !u.servers.isEmpty then
    banner "Load Balancing" ::
      braced ("upstream " ++ quoteArg (orElse u.name "backend"))
        ((if u.method = .roundRobin then [] else [directiveLine (spell u.method) []]) ++
          u.servers.map fun m => directiveLine "server" m.args)
  else []

/-- The rate that is written. -/
def Security.rate (s : Security) : Int := if 0 < s.rateLimit then s.rateLimit else defaultRate

/-- The burst that is written. -/
def Security.burst (s : Security) : Int := if 0 < s.rateBurst then s.rateBurst else defaultBurst

def Security.zoneLines (s : Security) : List String :=
  if s.rateLimiting then
    [banner "Rate Limiting",
      "limit_req_zone $binary_remote_addr zone=" ++ rateLimitZone ++ ":10m rate=" ++
        toString s.rate ++ "r/s;"]
  else []

/-- The names that the servers of a site answer to. -/
def Site.nameLines (s : Site) : List String :=
  if s.serverNames.isEmpty then [] else [directiveLine "server_name" s.serverNames]

def Site.httpsRedirectLines (s : Site) : List String :=
  if s.ssl.enabled && s.ssl.httpRedirect then
    banner "HTTP to HTTPS Redirect" ::
      braced "server"
        ([directiveLine "listen" ["80"]] ++
          (if s.listenIpv6 then [directiveLine "listen" ["[::]:80"]] else []) ++
          s.nameLines ++ [directiveLine "return" ["301", httpsTarget]])
  else []

/-! ### Groups of the main server -/

/-- What follows the address of a listen directive. -/
def Site.listenFlags (s : Site) : List String :=
  if s.ssl.enabled then "ssl" :: (if s.performance.http2 then ["http2"] else []) else []

def Site.headLines (s : Site) : List String :=
  [directiveLine "listen" (toString s.listenPort :: s.listenFlags)] ++
  (if s.listenIpv6 then
    [directiveLine "listen" (("[::]:" ++ toString s.listenPort) :: s.listenFlags)] else []) ++
  s.nameLines ++
  (if s.reverseProxy.enabled then [] else
    (if s.rootPath.isEmpty then [] else [directiveLine "root" [s.rootPath]]) ++
    (if s.indexFiles.isEmpty then [] else [directiveLine "index" s.indexFiles]))

def Ssl.lines (s : Ssl) : List String :=
  if s.enabled then
    let suite := s.preset.suite
    let ciphers := s.effectiveCiphers
    [banner "SSL",
      directiveLine "ssl_certificate" [orElse s.certificatePath placeholderCertificate],
      directiveLine "ssl_certificate_key" [orElse s.keyPath placeholderKey]] ++
    (if s.protocols.isEmpty then [] else [directiveLine "ssl_protocols" s.protocols]) ++
    [if ciphers.toList.contains '\'' then directiveLine "ssl_ciphers" [ciphers]
      else "ssl_ciphers '" ++ ciphers ++ "';",
      directiveLine "ssl_prefer_server_ciphers" [onOff suite.preferServerCiphers],
      directiveLine "ssl_session_timeout" [suite.sessionTimeout],
      directiveLine "ssl_session_cache" [sslSessionCache],
      directiveLine "ssl_session_tickets" [onOff suite.sessionTickets]] ++
    (if s.enableHsts then
      ["add_header Strict-Transport-Security \"" ++ hstsValue ++ "\" always;"] else []) ++
    (if s.enableOcsp then
      [directiveLine "ssl_stapling" ["on"], directiveLine "ssl_stapling_verify" ["on"]] else [])
  else []

/-- One directive for each address that is not blank. -/
def addressLines (name : String) (addresses : List String) : List String :=
  (addresses.filter (!isBlankText ·)).map fun a => directiveLine name [trim a]

def Security.lines (s : Security) : List String :=
  titled "Security" <|
    (if s.hideVersion then [directiveLine "server_tokens" ["off"]] else []) ++
    (if s.securityHeaders then
      hardeningHeaders.map fun h => "add_header " ++ h.1 ++ " \"" ++ h.2 ++ "\" always;" else []) ++
    addressLines "allow" s.ipAllowlist ++ addressLines "deny" s.ipDenylist ++
    (if s.basicAuth then
      ["auth_basic " ++ doubleQuoted (orElse s.basicAuthRealm "Restricted") ++ ";",
        directiveLine "auth_basic_user_file" [orElse s.basicAuthFile "/etc/nginx/.htpasswd"]]
      else [])

/-- The types that are compressed. -/
def Performance.effectiveGzipTypes (p : Performance) : List String :=
  if p.gzipTypes.isEmpty then defaultGzipTypes else p.gzipTypes

def Performance.lines (p : Performance) : List String :=
  titled "Performance" <|
    (if p.gzip then
      [directiveLine "gzip" ["on"], directiveLine "gzip_vary" ["on"],
        directiveLine "gzip_proxied" ["any"], directiveLine "gzip_comp_level" ["6"],
        directiveLine "gzip_types" p.effectiveGzipTypes] else []) ++
    (if p.brotli then
      [directiveLine "brotli" ["on"], directiveLine "brotli_comp_level" ["6"],
        directiveLine "brotli_types"
          (if p.brotliTypes.isEmpty then p.effectiveGzipTypes else p.brotliTypes)] else []) ++
    (if 0 < p.clientMaxBodySize then
      [directiveLine "client_max_body_size" [toString p.clientMaxBodySize ++
        (match p.clientMaxBodyUnit with | .gigabytes => "g" | .megabytes => "m")]] else []) ++
    (if 0 < p.keepaliveTimeout then
      [directiveLine "keepalive_timeout" [toString p.keepaliveTimeout ++ "s"]] else [])

def Logging.lines (l : Logging) : List String :=
  [banner "Logging",
    directiveLine "access_log"
      [if l.accessLog then orElse l.accessLogPath "/var/log/nginx/access.log" else "off"]] ++
  (if l.errorLog then
    [directiveLine "error_log"
      [orElse l.errorLogPath "/var/log/nginx/error.log", spell l.errorLogLevel]] else [])

/-! ### Locations -/

/-- What stands between the word and the path of a location. -/
def MatchType.modifier : MatchType → String
  | start => ""
  | exact => "= "
  | regex => "~ "
  | regexIgnoreCase => "~* "

/-- The locations of a site, or the one that stands in for none. -/
def Site.effectiveLocations (s : Site) : List Location :=
  if s.locations.isEmpty then
    if s.reverseProxy.enabled then
      [{ path := "/", kind := .proxy, proxyPass := s.reverseProxy.backendAddress,
         proxyWebSocket := s.reverseProxy.webSocket, proxyHeaders := s.reverseProxy.customHeaders }]
    else [{ path := "/", root := s.rootPath, tryFiles := defaultTryFiles }]
  else s.locations

/-- The rate limit of a location. -/
def Security.limitLines (s : Security) : List String :=
  if s.rateLimiting then
    [directiveLine "limit_req" ["zone=" ++ rateLimitZone, "burst=" ++ toString s.burst, "nodelay"]]
  else []

def Site.locationLines (s : Site) (l : Location) : List String :=
  braced ("location " ++ l.matchType.modifier ++ quoteArg l.path)
    (s.security.limitLines ++ l.body s.reverseProxy.realIpHeaders)

def Site.locationSection (s : Site) : List String :=
  banner "Location Blocks" :: joinSections (s.effectiveLocations.map s.locationLines)

/-! ### Static caching -/

/-- The characters of a file extension, and the bar between alternatives. -/
def isExtensionChar (c : Char) : Bool :=
  ('a' ≤ c && c ≤ 'z') || ('0' ≤ c && c ≤ '9') || c == '|'

/-- The text without `(`, `(?:` or `?:` at its start. -/
def skipGroupStart (cs : List Char) : List Char :=
  let cs := match cs with
    | '(' :: rest => rest
    | cs => cs
  match cs with
  | '?' :: ':' :: rest => rest
  | cs => cs

/-- The file extensions that a pattern in lower case names: the alternatives directly after a
literal dot, as far as they hold letters and digits only. -/
def patternExtensions : List Char → List (List Char)
  | [] => []
  | '\\' :: '.' :: rest =>
    splitAtChar '|' ((skipGroupStart rest).takeWhile isExtensionChar) ++ patternExtensions rest
  | _ :: rest => patternExtensions rest

/-- The extensions that the patterns of a site's own locations name. -/
def Site.claimedExtensions (s : Site) : List String :=
  s.locations.flatMap fun l =>
    if l.matchType = .regex ∨ l.matchType = .regexIgnoreCase then
      (patternExtensions (lower l.path)).map .ofList
    else []

/-- No pattern of the site's own names an extension of the class. -/
def Site.servesAssets (s : Site) (a : AssetClass) : Bool :=
  a.extensions.all fun e => !s.claimedExtensions.contains e

/-- How long browsers keep the files of a class. -/
def Performance.assetExpiry (p : Performance) (a : AssetClass) : String :=
  orElse ((p.assetCacheExpiry.lookup (spell a)).getD "") (orElse p.cacheExpiry "30d")

def Performance.assetLines (p : Performance) (a : AssetClass) : List String :=
  braced ("location ~* " ++ quoteArg a.pattern)
    [directiveLine "expires" (words (p.assetExpiry a)),
      "add_header Cache-Control \"" ++ assetCacheControl ++ "\";"]

def Site.cachingSection (s : Site) : List String :=
  if s.performance.staticCaching then
    titled "Static File Caching"
      (joinSections (((Keyword.all : List AssetClass).filter s.servesAssets).map
        s.performance.assetLines))
  else []

/-! ### The whole text -/

def Site.customSection (s : Site) : List String :=
  if isBlankText s.customDirectives then []
  else banner "Custom Directives" :: canonicalLines s.customDirectives

def Site.serverLines (s : Site) : List String :=
  banner "Main Server Block" ::
    braced "server" (joinNonEmpty
      [s.headLines, s.ssl.lines, s.security.lines, s.performance.lines, s.logging.lines,
        s.locationSection, s.cachingSection, s.customSection])

/-- The text of a site. -/
def Site.render (s : Site) : String :=
  joinLines (joinNonEmpty
    [s.upstream.lines, s.security.zoneLines, s.httpsRedirectLines, s.serverLines]) ++ "\n"

/-! ### The numbers in the text -/

def Security.writtenIntegers (s : Security) : List Int :=
  if s.rateLimiting then [s.rate, s.burst] else []

def Performance.writtenIntegers (p : Performance) : List Int :=
  (if 0 < p.clientMaxBodySize then [p.clientMaxBodySize] else []) ++
    if 0 < p.keepaliveTimeout then [p.keepaliveTimeout] else []

def Upstream.writtenIntegers (u : Upstream) : List Int :=
  if u.enabled && !u.servers.isEmpty then u.servers.flatMap PoolMember.integers else []

def Location.writtenIntegers (l : Location) : List Int :=
  match l.kind with
  | .proxy => if 0 < l.proxyTimeout then [l.proxyTimeout] else []
  | .redirect => [l.redirectCode]
  | .files | .custom => []

/-- The numbers that the text of a site is written with. -/
def Site.writtenIntegers (s : Site) : List Int :=
  s.listenPort :: (s.security.writtenIntegers ++ s.performance.writtenIntegers ++
    s.upstream.writtenIntegers ++ s.effectiveLocations.flatMap Location.writtenIntegers)

/-- Writes the text of a site. -/
def Site.write (s : Site) : Except NumberFault String :=
  if ∀ n ∈ s.writtenIntegers, FewDigits n then .ok s.render else .error .unwritable

end SiteConf
