import SiteConf.Data.Json
import SiteConf.Site.Basic
import SiteConf.Site.Fault

/-!
# Sites as data

`toData` writes every field of a record under its name; `read` takes a record back from data. What
the data does not name keeps the value of a base record, which for a whole site is the default, and
keys that are no field have no effect.

Reading goes field by field in the order of declaration and stops at the first value of the wrong
kind. A section is read completely before the fields after it. The conditions on values of the right
kind come last, in the order of the record; `Trust.fields` leaves out those of `Site.Valid`.

The signature of a site is a text that stands for it: its data as JSON with sorted keys. Two sites
count as the same if their signatures are equal. A site with a number of too many digits has none.
-/

namespace SiteConf

/-- Whether a reader checks the conditions of `Site.Valid` or takes the values of fields as they
are. -/
inductive Trust where
  | nothing
  | fields
  deriving DecidableEq, Repr

namespace Codec

/-- Refuses with `fault` unless `ok`, or unless all is trusted. -/
def require (trust : Trust) (ok : Bool) (fault : Fault) : Except Fault Unit :=
  if ok || trust = .fields then .ok () else .error fault

/-! ### Single values -/

/-- A reader of the value at a path. -/
abbrev Reader (α : Type) := String → Data → Except Fault α

def asBool : Reader Bool
  | _, .bool b => .ok b
  | path, d => .error (.wrongType path d)

def asInt : Reader Int
  | _, .int n => .ok n
  | path, d => .error (.wrongType path d)

def asText : Reader String
  | _, .text s => .ok s
  | path, d => .error (.wrongType path d)

/-- The texts of a list that holds nothing else. -/
def texts? : List Data → Option (List String)
  | [] => some []
  | .text s :: rest => (s :: ·) <$> texts? rest
  | _ :: _ => none

def asTexts : Reader (List String)
  | path, .list items => match texts? items with
    | some ss => .ok ss
    | none => .error (.wrongType path (.list items))
  | path, d => .error (.wrongType path d)

/-- The text entries of a map that holds no others. -/
def textEntries? : Entries → Option (List (String × String))
  | [] => some []
  | (k, .text s) :: rest => ((k, s) :: ·) <$> textEntries? rest
  | _ :: _ => none

/-- The entries with the first value of each key. -/
def firstOfEach : List (String × String) → List (String × String)
  | [] => []
  | (k, v) :: rest => (k, v) :: (firstOfEach rest).filter (·.1 != k)

def asTextMap : Reader (List (String × String))
  | path, .map entries => match textEntries? entries with
    | some es => .ok (firstOfEach es)
    | none => .error (.wrongType path (.map entries))
  | path, d => .error (.wrongType path d)

def asMap : Reader Entries
  | _, .map entries => .ok entries
  | path, d => .error (.notMap path d)

/-- The member with a spelling. -/
def member {α : Type} [Keyword α] (word : String) : Except Fault α :=
  match Keyword.read? word with
  | some a => .ok a
  | none => .error (.notMember (.text word) (Keyword.label α))

/-- Reads the items of a list, the first of which has number `i`. -/
def readItems {α : Type} (item : Reader α) (path : String) (i : Nat) :
    List Data → Except Fault (List α)
  | [] => .ok []
  | d :: rest => do
    let a ← item (path ++ "[" ++ toString i ++ "]") d
    let as ← readItems item path (i + 1) rest
    pure (a :: as)

def asList {α : Type} (item : Reader α) : Reader (List α)
  | path, .list items => readItems item path 0 items
  | path, d => .error (.notList path d)

/-- The value of a field, `base` if the entries do not name it. -/
def field {α : Type} (path : String) (entries : Entries) (name : String) (reader : Reader α)
    (base : α) : Except Fault α :=
  match entries.lookup name with
  | none => .ok base
  | some d => reader (path ++ "." ++ name) d

/-- The fields among `names` that the entries do not name. -/
def absent (names : List String) (entries : Entries) : List String :=
  names.filter fun n => (entries.lookup n).isNone

/-- Refuses entries without one of the fields `names`. -/
def needs (record : String) (names : List String) (entries : Entries) : Except Fault Unit :=
  let missing := absent names entries
  if missing.isEmpty then .ok () else .error (.missing record missing)

def texts (ss : List String) : Data := .list (ss.map .text)

def word {α : Type} [Keyword α] (a : α) : Data := .text (spell a)

end Codec

open Codec

/-! ### Headers -/

namespace Header

def record : String := "Header"

def toEntries (h : Header) : Entries := [("key", .text h.key), ("value", .text h.value)]

def fill (path : String) (base : Header) (es : Entries) : Except Fault Header := do
  let key ← field path es "key" asText base.key
  let value ← field path es "value" asText base.value
  pure { key, value }

def read (path : String) (d : Data) : Except Fault Header := do
  let es ← asMap path d
  let h ← fill path ⟨"", ""⟩ es
  needs record ["key", "value"] es
  pure h

end Header

/-! ### Sections -/

namespace Ssl

def record : String := "SSLConfig"

def toEntries (s : Ssl) : Entries :=
  [("enabled", .bool s.enabled),
    ("certificate_path", .text s.certificatePath),
    ("key_path", .text s.keyPath),
    ("protocols", texts s.protocols),
    ("enable_hsts", .bool s.enableHsts),
    ("enable_ocsp", .bool s.enableOcsp),
    ("http_redirect", .bool s.httpRedirect),
    ("preset", word s.preset),
    ("ciphers", .text s.ciphers)]

def fill (path : String) (base : Ssl) (es : Entries) : Except Fault Ssl := do
  let enabled ← field path es "enabled" asBool base.enabled
  let certificatePath ← field path es "certificate_path" asText base.certificatePath
  let keyPath ← field path es "key_path" asText base.keyPath
  let protocols ← field path es "protocols" asTexts base.protocols
  let enableHsts ← field path es "enable_hsts" asBool base.enableHsts
  let enableOcsp ← field path es "enable_ocsp" asBool base.enableOcsp
  let httpRedirect ← field path es "http_redirect" asBool base.httpRedirect
  let preset ← field path es "preset" asText (spell base.preset)
  let ciphers ← field path es "ciphers" asText base.ciphers
  let preset ← member preset
  pure { enabled, certificatePath, keyPath, protocols, enableHsts, enableOcsp, httpRedirect,
         preset, ciphers }

end Ssl

namespace ReverseProxy

def record : String := "ReverseProxyConfig"

def toEntries (p : ReverseProxy) : Entries :=
  [("enabled", .bool p.enabled),
    ("backend_address", .text p.backendAddress),
    ("web_socket", .bool p.webSocket),
    ("real_ip_headers", .bool p.realIpHeaders),
    ("custom_headers", .list (p.customHeaders.map fun h => .map h.toEntries))]

def fill (path : String) (base : ReverseProxy) (es : Entries) : Except Fault ReverseProxy := do
  let enabled ← field path es "enabled" asBool base.enabled
  let backendAddress ← field path es "backend_address" asText base.backendAddress
  let webSocket ← field path es "web_socket" asBool base.webSocket
  let realIpHeaders ← field path es "real_ip_headers" asBool base.realIpHeaders
  let customHeaders ← field path es "custom_headers" (asList Header.read) base.customHeaders
  pure { enabled, backendAddress, webSocket, realIpHeaders, customHeaders }

end ReverseProxy

namespace Security

def record : String := "SecurityConfig"

def toEntries (s : Security) : Entries :=
  [("rate_limiting", .bool s.rateLimiting),
    ("rate_limit", .int s.rateLimit),
    ("rate_burst", .int s.rateBurst),
    ("security_headers", .bool s.securityHeaders),
    ("hide_version", .bool s.hideVersion),
    ("ip_allowlist", texts s.ipAllowlist),
    ("ip_denylist", texts s.ipDenylist),
    ("basic_auth", .bool s.basicAuth),
    ("basic_auth_realm", .text s.basicAuthRealm),
    ("basic_auth_file", .text s.basicAuthFile)]

def fill (path : String) (base : Security) (es : Entries) : Except Fault Security := do
  let rateLimiting ← field path es "rate_limiting" asBool base.rateLimiting
  let rateLimit ← field path es "rate_limit" asInt base.rateLimit
  let rateBurst ← field path es "rate_burst" asInt base.rateBurst
  let securityHeaders ← field path es "security_headers" asBool base.securityHeaders
  let hideVersion ← field path es "hide_version" asBool base.hideVersion
  let ipAllowlist ← field path es "ip_allowlist" asTexts base.ipAllowlist
  let ipDenylist ← field path es "ip_denylist" asTexts base.ipDenylist
  let basicAuth ← field path es "basic_auth" asBool base.basicAuth
  let basicAuthRealm ← field path es "basic_auth_realm" asText base.basicAuthRealm
  let basicAuthFile ← field path es "basic_auth_file" asText base.basicAuthFile
  pure { rateLimiting, rateLimit, rateBurst, securityHeaders, hideVersion, ipAllowlist,
         ipDenylist, basicAuth, basicAuthRealm, basicAuthFile }

end Security

namespace Performance

def record : String := "PerformanceConfig"

def toEntries (p : Performance) : Entries :=
  [("gzip", .bool p.gzip),
    ("gzip_types", texts p.gzipTypes),
    ("brotli", .bool p.brotli),
    ("brotli_types", texts p.brotliTypes),
    ("static_caching", .bool p.staticCaching),
    ("cache_expiry", .text p.cacheExpiry),
    ("asset_cache_expiry", .map (p.assetCacheExpiry.map fun e => (e.1, .text e.2))),
    ("http2", .bool p.http2),
    ("client_max_body_size", .int p.clientMaxBodySize),
    ("client_max_body_unit", word p.clientMaxBodyUnit),
    ("keepalive_timeout", .int p.keepaliveTimeout),
    ("worker_connections", .int p.workerConnections)]

def fill (trust : Trust) (path : String) (base : Performance) (es : Entries) :
    Except Fault Performance := do
  let gzip ← field path es "gzip" asBool base.gzip
  let gzipTypes ← field path es "gzip_types" asTexts base.gzipTypes
  let brotli ← field path es "brotli" asBool base.brotli
  let brotliTypes ← field path es "brotli_types" asTexts base.brotliTypes
  let staticCaching ← field path es "static_caching" asBool base.staticCaching
  let cacheExpiry ← field path es "cache_expiry" asText base.cacheExpiry
  let assetCacheExpiry ← field path es "asset_cache_expiry" asTextMap base.assetCacheExpiry
  let http2 ← field path es "http2" asBool base.http2
  let clientMaxBodySize ← field path es "client_max_body_size" asInt base.clientMaxBodySize
  let unit ← field path es "client_max_body_unit" asText (spell base.clientMaxBodyUnit)
  let keepaliveTimeout ← field path es "keepalive_timeout" asInt base.keepaliveTimeout
  let workerConnections ← field path es "worker_connections" asInt base.workerConnections
  let clientMaxBodyUnit ← member unit
  let p : Performance :=
    { gzip, gzipTypes, brotli, brotliTypes, staticCaching, cacheExpiry, assetCacheExpiry, http2,
      clientMaxBodySize, clientMaxBodyUnit, keepaliveTimeout, workerConnections }
  require trust p.unknownAssets.isEmpty (.unknownAssets p.unknownAssets)
  require trust (0 ≤ clientMaxBodySize) .negativeBodySize
  pure p

end Performance

namespace Logging

def record : String := "LoggingConfig"

def toEntries (l : Logging) : Entries :=
  [("access_log", .bool l.accessLog),
    ("access_log_path", .text l.accessLogPath),
    ("error_log", .bool l.errorLog),
    ("error_log_path", .text l.errorLogPath),
    ("error_log_level", word l.errorLogLevel)]

def fill (path : String) (base : Logging) (es : Entries) : Except Fault Logging := do
  let accessLog ← field path es "access_log" asBool base.accessLog
  let accessLogPath ← field path es "access_log_path" asText base.accessLogPath
  let errorLog ← field path es "error_log" asBool base.errorLog
  let errorLogPath ← field path es "error_log_path" asText base.errorLogPath
  let level ← field path es "error_log_level" asText (spell base.errorLogLevel)
  let errorLogLevel ← member level
  pure { accessLog, accessLogPath, errorLog, errorLogPath, errorLogLevel }

end Logging

namespace PoolMember

def record : String := "UpstreamServer"

def toEntries (m : PoolMember) : Entries :=
  [("address", .text m.address), ("weight", .int m.weight), ("max_fails", .int m.maxFails),
    ("fail_timeout", .int m.failTimeout)]

def fill (path : String) (base : PoolMember) (es : Entries) : Except Fault PoolMember := do
  let address ← field path es "address" asText base.address
  let weight ← field path es "weight" asInt base.weight
  let maxFails ← field path es "max_fails" asInt base.maxFails
  let failTimeout ← field path es "fail_timeout" asInt base.failTimeout
  pure { address, weight, maxFails, failTimeout }

def read (trust : Trust) (path : String) (d : Data) : Except Fault PoolMember := do
  let es ← asMap path d
  let m ← fill path { address := "" } es
  needs record ["address"] es
  require trust (1 ≤ m.weight) .poolMemberWeight
  pure m

end PoolMember

namespace Upstream

def record : String := "UpstreamConfig"

def toEntries (u : Upstream) : Entries :=
  [("enabled", .bool u.enabled), ("name", .text u.name), ("method", word u.method),
    ("servers", .list (u.servers.map fun m => .map m.toEntries))]

def fill (trust : Trust) (path : String) (base : Upstream) (es : Entries) :
    Except Fault Upstream := do
  let enabled ← field path es "enabled" asBool base.enabled
  let name ← field path es "name" asText base.name
  let method ← field path es "method" asText (spell base.method)
  let servers ← field path es "servers" (asList (PoolMember.read trust)) base.servers
  let method ← member method
  pure { enabled, name, method, servers }

end Upstream

/-! ### Locations -/

namespace Location

def record : String := "LocationConfig"

def toEntries (l : Location) : Entries :=
  [("path", .text l.path),
    ("match_type", word l.matchType),
    ("type", word l.kind),
    ("root", .text l.root),
    ("try_files", .text l.tryFiles),
    ("index", .text l.index),
    ("autoindex", .bool l.autoindex),
    ("cache_expiry", .text l.cacheExpiry),
    ("proxy_pass", .text l.proxyPass),
    ("proxy_web_socket", .bool l.proxyWebSocket),
    ("proxy_headers", .list (l.proxyHeaders.map fun h => .map h.toEntries)),
    ("proxy_timeout", .int l.proxyTimeout),
    ("proxy_buffering", .bool l.proxyBuffering),
    ("redirect_url", .text l.redirectUrl),
    ("redirect_code", .int l.redirectCode),
    ("custom_directives", .text l.customDirectives)]

/-- Refuses a location that is not `Location.Valid`. -/
def check (l : Location) : Except Fault Unit := do
  require .nothing (l.path != "") .emptyLocationPath
  require .nothing (redirectCodes.contains l.redirectCode) (.redirectCode l.redirectCode)

def read (trust : Trust) (path : String) (d : Data) : Except Fault Location := do
  let es ← asMap path d
  let base : Location := { path := "" }
  let path' ← field path es "path" asText base.path
  let matchType ← field path es "match_type" asText (spell base.matchType)
  let kind ← field path es "type" asText (spell base.kind)
  let root ← field path es "root" asText base.root
  let tryFiles ← field path es "try_files" asText base.tryFiles
  let index ← field path es "index" asText base.index
  let autoindex ← field path es "autoindex" asBool base.autoindex
  let cacheExpiry ← field path es "cache_expiry" asText base.cacheExpiry
  let proxyPass ← field path es "proxy_pass" asText base.proxyPass
  let proxyWebSocket ← field path es "proxy_web_socket" asBool base.proxyWebSocket
  let proxyHeaders ← field path es "proxy_headers" (asList Header.read) base.proxyHeaders
  let proxyTimeout ← field path es "proxy_timeout" asInt base.proxyTimeout
  let proxyBuffering ← field path es "proxy_buffering" asBool base.proxyBuffering
  let redirectUrl ← field path es "redirect_url" asText base.redirectUrl
  let redirectCode ← field path es "redirect_code" asInt base.redirectCode
  let customDirectives ← field path es "custom_directives" asText base.customDirectives
  needs record ["path"] es
  require trust (path' != "") .emptyLocationPath
  let matchType ← member matchType
  let kind ← member kind
  require trust (redirectCodes.contains redirectCode) (.redirectCode redirectCode)
  pure { path := path', matchType, kind, root, tryFiles, index, autoindex, cacheExpiry, proxyPass,
         proxyWebSocket, proxyHeaders, proxyTimeout, proxyBuffering, redirectUrl, redirectCode,
         customDirectives }

end Location

/-! ### Whole sites -/

namespace Site

def record : String := "NginxConfig"

def toEntries (s : Site) : Entries :=
  [("server_names", texts s.serverNames),
    ("listen_port", .int s.listenPort),
    ("listen_ipv6", .bool s.listenIpv6),
    ("root_path", .text s.rootPath),
    ("index_files", texts s.indexFiles),
    ("ssl", .map s.ssl.toEntries),
    ("reverse_proxy", .map s.reverseProxy.toEntries),
    ("security", .map s.security.toEntries),
    ("performance", .map s.performance.toEntries),
    ("logging", .map s.logging.toEntries),
    ("upstream", .map s.upstream.toEntries),
    ("locations", .list (s.locations.map fun l => .map l.toEntries)),
    ("custom_directives", .text s.customDirectives)]

def toData (s : Site) : Data := .map s.toEntries

/-- A section, read from the map at a path. -/
def readSection {α : Type} (fill : String → Entries → Except Fault α) : Reader α := fun path d => do
  let es ← asMap path d
  fill path es

/-- The fields that are no section, and the sections, over a base. -/
def fill (trust : Trust) (path : String) (base : Site) (es : Entries) : Except Fault Site := do
  let serverNames ← field path es "server_names" asTexts base.serverNames
  let listenPort ← field path es "listen_port" asInt base.listenPort
  let listenIpv6 ← field path es "listen_ipv6" asBool base.listenIpv6
  let rootPath ← field path es "root_path" asText base.rootPath
  let indexFiles ← field path es "index_files" asTexts base.indexFiles
  let ssl ← field path es "ssl" (readSection (Ssl.fill · base.ssl)) base.ssl
  let reverseProxy ← field path es "reverse_proxy"
    (readSection (ReverseProxy.fill · base.reverseProxy)) base.reverseProxy
  let security ← field path es "security" (readSection (Security.fill · base.security))
    base.security
  let performance ← field path es "performance"
    (readSection (Performance.fill trust · base.performance)) base.performance
  let logging ← field path es "logging" (readSection (Logging.fill · base.logging)) base.logging
  let upstream ← field path es "upstream" (readSection (Upstream.fill trust · base.upstream))
    base.upstream
  let locations ← field path es "locations" (asList (Location.read trust)) base.locations
  let customDirectives ← field path es "custom_directives" asText base.customDirectives
  require trust (1 ≤ listenPort) (.listenPort (.int listenPort))
  pure { serverNames, listenPort, listenIpv6, rootPath, indexFiles, ssl, reverseProxy, security,
         performance, logging, upstream, locations, customDirectives }

/-- The site that data describes, checked. -/
def ofData (d : Data) : Except Fault Site := do
  let es ← asMap record d
  fill .nothing record {} es

/-- The site that data describes, with the values of fields taken as they are. -/
def ofTrustedData (d : Data) : Except Fault Site := do
  let es ← asMap record d
  fill .fields record {} es

end Site

/-! ### Signatures -/

/-- A type whose values have texts that stand for them, if they can be written. -/
class Signed (α : Type) (ε : outParam Type) where
  signature : α → Except ε String

export Signed (signature)

/-- The signatures of both values are equal. -/
def sameSignature {α ε : Type} [Signed α ε] (a b : α) : Except ε Bool := do
  return (← signature a) == (← signature b)

def Site.signature (s : Site) : Except Text.NumberFault String := s.toData.writeJson

instance : Signed Site Text.NumberFault := ⟨Site.signature⟩

end SiteConf
