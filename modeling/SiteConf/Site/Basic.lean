import SiteConf.Site.Keyword

/-!
# Sites

One server and what stands around it: an upstream pool and a rate limit zone. A `Site` is plain
data, with a default for every field but the path of a location, the address of a pool member and
the two parts of a header.

`Site.Valid` collects what every reader, importer and patch promises about its result. It is not
part of the type: single fields may be assigned at will.
-/

namespace SiteConf

/-- A header that is set on a proxied request. -/
structure Header where
  key : String
  value : String
  deriving DecidableEq, Repr

/-- Encryption. -/
structure Ssl where
  enabled : Bool := false
  certificatePath : String := ""
  keyPath : String := ""
  protocols : List String := ["TLSv1.2", "TLSv1.3"]
  enableHsts : Bool := false
  enableOcsp : Bool := false
  /-- A second server on port 80 sends requests on to https. -/
  httpRedirect : Bool := true
  preset : CipherProfile := .intermediate
  /-- A cipher list in place of the preset's; empty for none. -/
  ciphers : String := ""
  deriving DecidableEq, Repr

/-- Proxying of the whole server. -/
structure ReverseProxy where
  enabled : Bool := false
  backendAddress : String := "http://127.0.0.1:3000"
  webSocket : Bool := false
  /-- The headers that tell a backend about the client go to every proxy location. -/
  realIpHeaders : Bool := true
  customHeaders : List Header := []
  deriving DecidableEq, Repr

structure Security where
  rateLimiting : Bool := false
  /-- Requests a second. -/
  rateLimit : Int := 10
  rateBurst : Int := 20
  securityHeaders : Bool := true
  hideVersion : Bool := true
  ipAllowlist : List String := []
  ipDenylist : List String := []
  basicAuth : Bool := false
  basicAuthRealm : String := "Restricted"
  basicAuthFile : String := "/etc/nginx/.htpasswd"
  deriving DecidableEq, Repr

/-- The types that are compressed if no others are named. -/
def defaultGzipTypes : List String :=
  ["text/plain", "text/css", "application/json", "application/javascript", "text/xml",
    "application/xml", "application/xml+rss", "text/javascript"]

/-- Compression, caching and connections. -/
structure Performance where
  gzip : Bool := true
  gzipTypes : List String := defaultGzipTypes
  brotli : Bool := false
  /-- Empty for the types of gzip. -/
  brotliTypes : List String := []
  staticCaching : Bool := true
  cacheExpiry : String := "30d"
  /-- The expiry of single asset classes, by the spelling of the class. -/
  assetCacheExpiry : List (String × String) := []
  http2 : Bool := true
  clientMaxBodySize : Int := 10
  clientMaxBodyUnit : SizeUnit := .megabytes
  /-- Seconds. -/
  keepaliveTimeout : Int := 65
  /-- Advice for the main context; no server block can set it. -/
  workerConnections : Int := 1024
  deriving DecidableEq, Repr

structure Logging where
  accessLog : Bool := true
  accessLogPath : String := "/var/log/nginx/access.log"
  errorLog : Bool := true
  errorLogPath : String := "/var/log/nginx/error.log"
  errorLogLevel : LogLevel := .warn
  deriving DecidableEq, Repr

/-- A member of an upstream pool. -/
structure PoolMember where
  address : String
  weight : Int := 1
  maxFails : Int := 1
  /-- Seconds. -/
  failTimeout : Int := 10
  deriving DecidableEq, Repr

/-- A pool of backends that share the load. -/
structure Upstream where
  enabled : Bool := false
  name : String := "backend"
  method : Balancing := .roundRobin
  servers : List PoolMember := []
  deriving DecidableEq, Repr

/-- A location block. Only the fields that belong to its kind are written; the others are kept, so
that a change of kind and back loses nothing. -/
structure Location where
  path : String
  matchType : MatchType := .start
  kind : LocationKind := .files
  root : String := ""
  tryFiles : String := ""
  index : String := ""
  autoindex : Bool := false
  cacheExpiry : String := ""
  proxyPass : String := ""
  proxyWebSocket : Bool := false
  proxyHeaders : List Header := []
  /-- Seconds; zero or less leaves the server's default. -/
  proxyTimeout : Int := 0
  proxyBuffering : Bool := true
  redirectUrl : String := ""
  redirectCode : Int := 301
  customDirectives : String := ""
  deriving DecidableEq, Repr

/-- What files are tried for a request by default. -/
def defaultTryFiles : String := "$uri $uri/ =404"

structure Site where
  serverNames : List String := ["example.com"]
  listenPort : Int := 80
  listenIpv6 : Bool := true
  rootPath : String := "/var/www/html"
  indexFiles : List String := ["index.html", "index.htm"]
  ssl : Ssl := {}
  reverseProxy : ReverseProxy := {}
  security : Security := {}
  performance : Performance := {}
  logging : Logging := {}
  upstream : Upstream := {}
  locations : List Location := [{ path := "/", tryFiles := defaultTryFiles }]
  /-- Directives at server level that no other field holds, as text. -/
  customDirectives : String := ""
  deriving DecidableEq, Repr

instance : Inhabited Site := ⟨{}⟩

/-! ### Valid sites -/

/-- The status codes of a redirect. -/
def redirectCodes : List Int := [301, 302]

def Location.Valid (l : Location) : Prop := l.path ≠ "" ∧ l.redirectCode ∈ redirectCodes

def PoolMember.Valid (m : PoolMember) : Prop := 1 ≤ m.weight

/-- The keys that no asset class has. -/
def Performance.unknownAssets (p : Performance) : List String :=
  (p.assetCacheExpiry.map (·.1)).filter fun k => (Keyword.read? k : Option AssetClass).isNone

/-- Each asset class has at most one expiry, and the size limit is no negative number. -/
def Performance.Valid (p : Performance) : Prop :=
  (p.assetCacheExpiry.map (·.1)).Nodup ∧ p.unknownAssets = [] ∧ 0 ≤ p.clientMaxBodySize

structure Site.Valid (s : Site) : Prop where
  listenPort : 1 ≤ s.listenPort
  performance : s.performance.Valid
  servers : ∀ m ∈ s.upstream.servers, m.Valid
  locations : ∀ l ∈ s.locations, l.Valid

instance (l : Location) : Decidable l.Valid := inferInstanceAs (Decidable (_ ∧ _))

instance (m : PoolMember) : Decidable m.Valid := inferInstanceAs (Decidable (1 ≤ m.weight))

instance (p : Performance) : Decidable p.Valid := inferInstanceAs (Decidable (_ ∧ _))

instance (s : Site) : Decidable s.Valid :=
  decidable_of_iff (1 ≤ s.listenPort ∧ s.performance.Valid ∧ (∀ m ∈ s.upstream.servers, m.Valid) ∧
      ∀ l ∈ s.locations, l.Valid)
    ⟨fun ⟨a, b, c, d⟩ => ⟨a, b, c, d⟩, fun ⟨a, b, c, d⟩ => ⟨a, b, c, d⟩⟩

theorem Site.valid_default : ({} : Site).Valid := by decide

/-! ### The numbers of a site -/

def PoolMember.integers (m : PoolMember) : List Int := [m.weight, m.maxFails, m.failTimeout]

def Location.integers (l : Location) : List Int := [l.proxyTimeout, l.redirectCode]

/-- Every number in a site. -/
def Site.integers (s : Site) : List Int :=
  [s.listenPort, s.security.rateLimit, s.security.rateBurst, s.performance.clientMaxBodySize,
    s.performance.keepaliveTimeout, s.performance.workerConnections] ++
    s.upstream.servers.flatMap PoolMember.integers ++ s.locations.flatMap Location.integers

end SiteConf
