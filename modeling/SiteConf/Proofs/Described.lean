import SiteConf.Proofs.Shape

/-!
# What data describes a site

The fields of every record in a table, with their defaults and the shapes of their values. Each reader
is faithful to its table: proved field by field for the records, and for the site from its sections.

Main statements: data is read as a site just if it fits `Site.shape`, is the data of that site when it
is written out in full, and the site is valid, and what the shape does not name has no effect
(`Site.ofData_faithful`); different sites have different data (`Site.toData_injective`).
-/

namespace SiteConf
open Codec Faithful

/-! ### The tables -/

def Header.fields : List (Field Shape) := [⟨"key", none, .text⟩, ⟨"value", none, .text⟩]

def Ssl.fields : List (Field Shape) :=
  [⟨"enabled", some (.bool false), .bool⟩,
    ⟨"certificate_path", some (.text ""), .text⟩,
    ⟨"key_path", some (.text ""), .text⟩,
    ⟨"protocols", some (texts ["TLSv1.2", "TLSv1.3"]), .list .text⟩,
    ⟨"enable_hsts", some (.bool false), .bool⟩,
    ⟨"enable_ocsp", some (.bool false), .bool⟩,
    ⟨"http_redirect", some (.bool true), .bool⟩,
    ⟨"preset", some (word CipherProfile.intermediate), .keyword CipherProfile⟩,
    ⟨"ciphers", some (.text ""), .text⟩]

def ReverseProxy.fields : List (Field Shape) :=
  [⟨"enabled", some (.bool false), .bool⟩,
    ⟨"backend_address", some (.text "http://127.0.0.1:3000"), .text⟩,
    ⟨"web_socket", some (.bool false), .bool⟩,
    ⟨"real_ip_headers", some (.bool true), .bool⟩,
    ⟨"custom_headers", some (.list []), .list (.record Header.fields)⟩]

def Security.fields : List (Field Shape) :=
  [⟨"rate_limiting", some (.bool false), .bool⟩,
    ⟨"rate_limit", some (.int 10), .int⟩,
    ⟨"rate_burst", some (.int 20), .int⟩,
    ⟨"security_headers", some (.bool true), .bool⟩,
    ⟨"hide_version", some (.bool true), .bool⟩,
    ⟨"ip_allowlist", some (texts []), .list .text⟩,
    ⟨"ip_denylist", some (texts []), .list .text⟩,
    ⟨"basic_auth", some (.bool false), .bool⟩,
    ⟨"basic_auth_realm", some (.text "Restricted"), .text⟩,
    ⟨"basic_auth_file", some (.text "/etc/nginx/.htpasswd"), .text⟩]

def Performance.fields : List (Field Shape) :=
  [⟨"gzip", some (.bool true), .bool⟩,
    ⟨"gzip_types", some (texts defaultGzipTypes), .list .text⟩,
    ⟨"brotli", some (.bool false), .bool⟩,
    ⟨"brotli_types", some (texts []), .list .text⟩,
    ⟨"static_caching", some (.bool true), .bool⟩,
    ⟨"cache_expiry", some (.text "30d"), .text⟩,
    ⟨"asset_cache_expiry", some (.map []), .map .text⟩,
    ⟨"http2", some (.bool true), .bool⟩,
    ⟨"client_max_body_size", some (.int 10), .int⟩,
    ⟨"client_max_body_unit", some (word SizeUnit.megabytes), .keyword SizeUnit⟩,
    ⟨"keepalive_timeout", some (.int 65), .int⟩,
    ⟨"worker_connections", some (.int 1024), .int⟩]

def Logging.fields : List (Field Shape) :=
  [⟨"access_log", some (.bool true), .bool⟩,
    ⟨"access_log_path", some (.text "/var/log/nginx/access.log"), .text⟩,
    ⟨"error_log", some (.bool true), .bool⟩,
    ⟨"error_log_path", some (.text "/var/log/nginx/error.log"), .text⟩,
    ⟨"error_log_level", some (word LogLevel.warn), .keyword LogLevel⟩]

def PoolMember.fields : List (Field Shape) :=
  [⟨"address", none, .text⟩,
    ⟨"weight", some (.int 1), .int⟩,
    ⟨"max_fails", some (.int 1), .int⟩,
    ⟨"fail_timeout", some (.int 10), .int⟩]

def Upstream.fields : List (Field Shape) :=
  [⟨"enabled", some (.bool false), .bool⟩,
    ⟨"name", some (.text "backend"), .text⟩,
    ⟨"method", some (word Balancing.roundRobin), .keyword Balancing⟩,
    ⟨"servers", some (.list []), .list (.record PoolMember.fields)⟩]

def Location.fields : List (Field Shape) :=
  [⟨"path", none, .text⟩,
    ⟨"match_type", some (word MatchType.start), .keyword MatchType⟩,
    ⟨"type", some (word LocationKind.files), .keyword LocationKind⟩,
    ⟨"root", some (.text ""), .text⟩,
    ⟨"try_files", some (.text ""), .text⟩,
    ⟨"index", some (.text ""), .text⟩,
    ⟨"autoindex", some (.bool false), .bool⟩,
    ⟨"cache_expiry", some (.text ""), .text⟩,
    ⟨"proxy_pass", some (.text ""), .text⟩,
    ⟨"proxy_web_socket", some (.bool false), .bool⟩,
    ⟨"proxy_headers", some (.list []), .list (.record Header.fields)⟩,
    ⟨"proxy_timeout", some (.int 0), .int⟩,
    ⟨"proxy_buffering", some (.bool true), .bool⟩,
    ⟨"redirect_url", some (.text ""), .text⟩,
    ⟨"redirect_code", some (.int 301), .int⟩,
    ⟨"custom_directives", some (.text ""), .text⟩]

/-- The one location of a site whose data names none. -/
def Site.defaultLocation : Data :=
  (Shape.record Location.fields).complete
    (.map [("path", .text "/"), ("try_files", .text "$uri $uri/ =404")])

def Site.fields : List (Field Shape) :=
  [⟨"server_names", some (texts ["example.com"]), .list .text⟩,
    ⟨"listen_port", some (.int 80), .int⟩,
    ⟨"listen_ipv6", some (.bool true), .bool⟩,
    ⟨"root_path", some (.text "/var/www/html"), .text⟩,
    ⟨"index_files", some (texts ["index.html", "index.htm"]), .list .text⟩,
    ⟨"ssl", some ((Shape.record Ssl.fields).complete (.map [])), .record Ssl.fields⟩,
    ⟨"reverse_proxy", some ((Shape.record ReverseProxy.fields).complete (.map [])), .record ReverseProxy.fields⟩,
    ⟨"security", some ((Shape.record Security.fields).complete (.map [])), .record Security.fields⟩,
    ⟨"performance", some ((Shape.record Performance.fields).complete (.map [])), .record Performance.fields⟩,
    ⟨"logging", some ((Shape.record Logging.fields).complete (.map [])), .record Logging.fields⟩,
    ⟨"upstream", some ((Shape.record Upstream.fields).complete (.map [])), .record Upstream.fields⟩,
    ⟨"locations", some (.list [Site.defaultLocation]), .list (.record Location.fields)⟩,
    ⟨"custom_directives", some (.text ""), .text⟩]

/-- What the data of a site may look like. -/
def Site.shape : Shape := .record Site.fields

/-! ### The readers -/

theorem Header.faithful :
    Faithful Header.read (.record Header.fields) (fun h => .map h.toEntries) fun _ => True := by
  refine .record (fun path d => rfl) (fun path es h => ?_) (fun es hes => ?_)
    (fun path h _ => Header.read_toEntries path h) fun path es => ?_
  · obtain ⟨key, value⟩ := h
    simp [Header.fill, Header.fields, Header.toEntries, Shape.gives_record, gives_required (.text ""),
      Unique.exists_iff, -bind_pure_comp]
    tauto
  · simp only [Header.fields, List.forall_mem_cons, Faithful.text.fits_required_iff] at hes
    obtain ⟨⟨key, h₁⟩, ⟨value, h₂⟩, -⟩ := hes
    exact ⟨⟨key, value⟩, Shape.gives_record.2 (.cons ⟨h₁, rfl⟩ (.cons ⟨h₂, rfl⟩ .nil))⟩
  · have hneeds : ∀ n ∈ ["key", "value"], n ∈ Header.fields.map Field.name := by decide
    simp (disch := simp [Header.fields]) only [Header.fill, field_known Faithful.text.known, needs_known hneeds]

theorem Ssl.faithful : Faithful (Site.readSection (Ssl.fill · {})) (.record Ssl.fields) (fun s => .map s.toEntries)
    fun _ => True := by
  refine .record (fun path d => rfl) (fun path es s => ?_) (fun es h => ?_)
    (fun path s _ => Ssl.fill_toEntries path {} s) fun path es => ?_
  · cases s
    simp [Ssl.fill, Ssl.fields, Ssl.toEntries, Shape.gives_record, -Bool.exists_bool, -bind_pure_comp]
  · simp only [Ssl.fields, List.forall_mem_cons, Faithful.bool.fits_field_iff, Faithful.text.fits_field_iff,
      Faithful.texts.fits_field_iff, fits_keyword_iff] at h
    obtain ⟨⟨enabled, h₁⟩, ⟨certificatePath, h₂⟩, ⟨keyPath, h₃⟩, ⟨protocols, h₄⟩, ⟨enableHsts, h₅⟩,
      ⟨enableOcsp, h₆⟩, ⟨httpRedirect, h₇⟩, ⟨preset, h₈⟩, ⟨ciphers, h₉⟩, -⟩ := h
    refine ⟨⟨enabled, certificatePath, keyPath, protocols, enableHsts, enableOcsp, httpRedirect, preset, ciphers⟩, ?_⟩
    simp [Shape.gives_record, Ssl.fields, Ssl.toEntries, *]
  · simp (disch := simp [Ssl.fields]) only [Ssl.fill, field_known Faithful.bool.known,
      field_known Faithful.text.known, field_known Faithful.texts.known,
      field_known (Faithful.keyword_known CipherProfile)]

theorem ReverseProxy.faithful : Faithful (Site.readSection (ReverseProxy.fill · {})) (.record ReverseProxy.fields)
    (fun p => .map p.toEntries) fun _ => True := by
  refine .record (fun path d => rfl) (fun path es p => ?_) (fun es h => ?_)
    (fun path p _ => ReverseProxy.fill_toEntries path {} p) fun path es => ?_
  · cases p
    simp [ReverseProxy.fill, ReverseProxy.fields, ReverseProxy.toEntries, Shape.gives_record,
      Header.faithful.list_eq_ok_iff, -Bool.exists_bool, -bind_pure_comp]
  · simp only [ReverseProxy.fields, List.forall_mem_cons, Faithful.bool.fits_field_iff,
      Faithful.text.fits_field_iff, Header.faithful.fits_list_iff] at h
    obtain ⟨⟨enabled, h₁⟩, ⟨backendAddress, h₂⟩, ⟨webSocket, h₃⟩, ⟨realIpHeaders, h₄⟩, ⟨customHeaders, h₅⟩, -⟩ := h
    refine ⟨⟨enabled, backendAddress, webSocket, realIpHeaders, customHeaders⟩, ?_⟩
    simp [Shape.gives_record, ReverseProxy.fields, ReverseProxy.toEntries, *]
  · simp (disch := simp [ReverseProxy.fields]) only [ReverseProxy.fill, field_known Faithful.bool.known,
      field_known Faithful.text.known, field_known Header.faithful.list.known]

theorem Security.faithful : Faithful (Site.readSection (Security.fill · {})) (.record Security.fields)
    (fun s => .map s.toEntries) fun _ => True := by
  refine .record (fun path d => rfl) (fun path es s => ?_) (fun es h => ?_)
    (fun path s _ => Security.fill_toEntries path {} s) fun path es => ?_
  · cases s
    simp [Security.fill, Security.fields, Security.toEntries, Shape.gives_record, -Bool.exists_bool, -bind_pure_comp]
  · simp only [Security.fields, List.forall_mem_cons, Faithful.bool.fits_field_iff, Faithful.int.fits_field_iff,
      Faithful.text.fits_field_iff, Faithful.texts.fits_field_iff] at h
    obtain ⟨⟨rateLimiting, h₁⟩, ⟨rateLimit, h₂⟩, ⟨rateBurst, h₃⟩, ⟨securityHeaders, h₄⟩, ⟨hideVersion, h₅⟩,
      ⟨ipAllowlist, h₆⟩, ⟨ipDenylist, h₇⟩, ⟨basicAuth, h₈⟩, ⟨basicAuthRealm, h₉⟩, ⟨basicAuthFile, h₁₀⟩, -⟩ := h
    refine ⟨⟨rateLimiting, rateLimit, rateBurst, securityHeaders, hideVersion, ipAllowlist, ipDenylist, basicAuth,
      basicAuthRealm, basicAuthFile⟩, ?_⟩
    simp [Shape.gives_record, Security.fields, Security.toEntries, *]
  · simp (disch := simp [Security.fields]) only [Security.fill, field_known Faithful.bool.known,
      field_known Faithful.int.known, field_known Faithful.text.known, field_known Faithful.texts.known]

theorem Performance.faithful : Faithful (Site.readSection (Performance.fill .nothing · {}))
    (.record Performance.fields) (fun p => .map p.toEntries) Performance.Valid := by
  refine .record (fun path d => rfl) (fun path es p => ?_) (fun es h => ?_)
    (fun path p hp => Performance.fill_toEntries hp path {}) fun path es => ?_
  · cases p
    simp [Performance.fill, Performance.fields, Performance.toEntries, Shape.gives_record,
      Performance.Valid, Unique.exists_iff, -Bool.exists_bool, -bind_pure_comp]
    tauto
  · simp only [Performance.fields, List.forall_mem_cons, Faithful.bool.fits_field_iff, Faithful.int.fits_field_iff,
      Faithful.text.fits_field_iff, Faithful.texts.fits_field_iff, fits_textMap_iff, fits_keyword_iff] at h
    obtain ⟨⟨gzip, h₁⟩, ⟨gzipTypes, h₂⟩, ⟨brotli, h₃⟩, ⟨brotliTypes, h₄⟩, ⟨staticCaching, h₅⟩, ⟨cacheExpiry, h₆⟩,
      ⟨assetCacheExpiry, h₇⟩, ⟨http2, h₈⟩, ⟨clientMaxBodySize, h₉⟩, ⟨clientMaxBodyUnit, h₁₀⟩,
      ⟨keepaliveTimeout, h₁₁⟩, ⟨workerConnections, h₁₂⟩, -⟩ := h
    refine ⟨⟨gzip, gzipTypes, brotli, brotliTypes, staticCaching, cacheExpiry, assetCacheExpiry, http2,
      clientMaxBodySize, clientMaxBodyUnit, keepaliveTimeout, workerConnections⟩, ?_⟩
    simp [Shape.gives_record, Performance.fields, Performance.toEntries, *]
  · simp (disch := simp [Performance.fields]) only [Performance.fill, field_known Faithful.bool.known,
      field_known Faithful.int.known, field_known Faithful.text.known, field_known Faithful.texts.known,
      field_known Faithful.textMap.known, field_known (Faithful.keyword_known SizeUnit)]

theorem Logging.faithful : Faithful (Site.readSection (Logging.fill · {})) (.record Logging.fields)
    (fun l => .map l.toEntries) fun _ => True := by
  refine .record (fun path d => rfl) (fun path es l => ?_) (fun es h => ?_)
    (fun path l _ => Logging.fill_toEntries path {} l) fun path es => ?_
  · cases l
    simp [Logging.fill, Logging.fields, Logging.toEntries, Shape.gives_record, -Bool.exists_bool, -bind_pure_comp]
  · simp only [Logging.fields, List.forall_mem_cons, Faithful.bool.fits_field_iff, Faithful.text.fits_field_iff,
      fits_keyword_iff] at h
    obtain ⟨⟨accessLog, h₁⟩, ⟨accessLogPath, h₂⟩, ⟨errorLog, h₃⟩, ⟨errorLogPath, h₄⟩, ⟨errorLogLevel, h₅⟩, -⟩ := h
    refine ⟨⟨accessLog, accessLogPath, errorLog, errorLogPath, errorLogLevel⟩, ?_⟩
    simp [Shape.gives_record, Logging.fields, Logging.toEntries, *]
  · simp (disch := simp [Logging.fields]) only [Logging.fill, field_known Faithful.bool.known,
      field_known Faithful.text.known, field_known (Faithful.keyword_known LogLevel)]

theorem PoolMember.faithful : Faithful (PoolMember.read .nothing) (.record PoolMember.fields)
    (fun m => .map m.toEntries) PoolMember.Valid := by
  refine .record (fun path d => rfl) (fun path es m => ?_) (fun es h => ?_)
    (fun path m hm => PoolMember.read_toEntries path m hm) fun path es => ?_
  · cases m
    simp [PoolMember.fill, PoolMember.fields, PoolMember.toEntries, Shape.gives_record, gives_required (.text ""),
      PoolMember.Valid, Unique.exists_iff, -bind_pure_comp]
    tauto
  · simp only [PoolMember.fields, List.forall_mem_cons, Faithful.text.fits_required_iff,
      Faithful.int.fits_field_iff] at h
    obtain ⟨⟨address, h₁⟩, ⟨weight, h₂⟩, ⟨maxFails, h₃⟩, ⟨failTimeout, h₄⟩, -⟩ := h
    refine ⟨⟨address, weight, maxFails, failTimeout⟩, ?_⟩
    simp [Shape.gives_record, PoolMember.fields, PoolMember.toEntries, *]
  · have hneeds : ∀ n ∈ ["address"], n ∈ PoolMember.fields.map Field.name := by decide
    simp (disch := simp [PoolMember.fields]) only [PoolMember.fill, field_known Faithful.int.known,
      field_known Faithful.text.known, needs_known hneeds]

theorem Upstream.faithful : Faithful (Site.readSection (Upstream.fill .nothing · {})) (.record Upstream.fields)
    (fun u => .map u.toEntries) fun u => ∀ m ∈ u.servers, m.Valid := by
  refine .record (fun path d => rfl) (fun path es u => ?_) (fun es h => ?_)
    (fun path u hu => Upstream.fill_toEntries hu path {}) fun path es => ?_
  · cases u
    simp [Upstream.fill, Upstream.fields, Upstream.toEntries, Shape.gives_record,
      PoolMember.faithful.list_eq_ok_iff, -Bool.exists_bool, -bind_pure_comp]
    tauto
  · simp only [Upstream.fields, List.forall_mem_cons, Faithful.bool.fits_field_iff, Faithful.text.fits_field_iff,
      fits_keyword_iff, PoolMember.faithful.fits_list_iff] at h
    obtain ⟨⟨enabled, h₁⟩, ⟨name, h₂⟩, ⟨method, h₃⟩, ⟨servers, h₄⟩, -⟩ := h
    refine ⟨⟨enabled, name, method, servers⟩, ?_⟩
    simp [Shape.gives_record, Upstream.fields, Upstream.toEntries, *]
  · simp (disch := simp [Upstream.fields]) only [Upstream.fill, field_known Faithful.bool.known,
      field_known Faithful.text.known, field_known (Faithful.keyword_known Balancing),
      field_known PoolMember.faithful.list.known]

theorem Location.faithful : Faithful (Location.read .nothing) (.record Location.fields)
    (fun l => .map l.toEntries) Location.Valid := by
  refine .record (fun path d => rfl) (fun path es l => ?_) (fun es h => ?_)
    (fun path l hl => Location.read_toEntries_of_valid path l hl) fun path es => ?_
  · cases l
    simp [Location.fields, Location.toEntries, Shape.gives_record, gives_required (.text ""), Location.Valid,
      Header.faithful.list_eq_ok_iff, Unique.exists_iff, -Bool.exists_bool, -bind_pure_comp]
    tauto
  · simp only [Location.fields, List.forall_mem_cons, Faithful.bool.fits_field_iff, Faithful.int.fits_field_iff,
      Faithful.text.fits_field_iff, Faithful.text.fits_required_iff, fits_keyword_iff,
      Header.faithful.fits_list_iff] at h
    obtain ⟨⟨path, h₁⟩, ⟨matchType, h₂⟩, ⟨kind, h₃⟩, ⟨root, h₄⟩, ⟨tryFiles, h₅⟩, ⟨index, h₆⟩, ⟨autoindex, h₇⟩,
      ⟨cacheExpiry, h₈⟩, ⟨proxyPass, h₉⟩, ⟨proxyWebSocket, h₁₀⟩, ⟨proxyHeaders, h₁₁⟩, ⟨proxyTimeout, h₁₂⟩,
      ⟨proxyBuffering, h₁₃⟩, ⟨redirectUrl, h₁₄⟩, ⟨redirectCode, h₁₅⟩, ⟨customDirectives, h₁₆⟩, -⟩ := h
    refine ⟨⟨path, matchType, kind, root, tryFiles, index, autoindex, cacheExpiry, proxyPass, proxyWebSocket,
      proxyHeaders, proxyTimeout, proxyBuffering, redirectUrl, redirectCode, customDirectives⟩, ?_⟩
    simp [Shape.gives_record, Location.fields, Location.toEntries, *]
  · have hneeds : ∀ n ∈ ["path"], n ∈ Location.fields.map Field.name := by decide
    simp (disch := simp [Location.fields]) only [field_known Faithful.bool.known, field_known Faithful.int.known,
      field_known Faithful.text.known, field_known (Faithful.keyword_known MatchType),
      field_known (Faithful.keyword_known LocationKind), field_known Header.faithful.list.known, needs_known hneeds]

/-! A section without data is the default section. -/

theorem Ssl.complete_nil : (Shape.record Ssl.fields).complete (.map []) = .map ({} : Ssl).toEntries := rfl

theorem ReverseProxy.complete_nil :
    (Shape.record ReverseProxy.fields).complete (.map []) = .map ({} : ReverseProxy).toEntries := rfl

theorem Security.complete_nil :
    (Shape.record Security.fields).complete (.map []) = .map ({} : Security).toEntries := rfl

theorem Performance.complete_nil :
    (Shape.record Performance.fields).complete (.map []) = .map ({} : Performance).toEntries := rfl

theorem Logging.complete_nil :
    (Shape.record Logging.fields).complete (.map []) = .map ({} : Logging).toEntries := rfl

theorem Upstream.complete_nil :
    (Shape.record Upstream.fields).complete (.map []) = .map ({} : Upstream).toEntries := rfl

theorem Site.defaultLocation_eq :
    Site.defaultLocation = .map ({ path := "/", tryFiles := defaultTryFiles } : Location).toEntries := rfl

namespace Site

theorem valid_iff {s : Site} : s.Valid ↔ 1 ≤ s.listenPort ∧ s.performance.Valid ∧
    (∀ m ∈ s.upstream.servers, m.Valid) ∧ ∀ l ∈ s.locations, l.Valid :=
  ⟨fun h => ⟨h.listenPort, h.performance, h.servers, h.locations⟩, fun h => ⟨h.1, h.2.1, h.2.2.1, h.2.2.2⟩⟩

theorem faithful : Faithful (fun _ => ofData) shape toData Site.Valid := by
  refine .record (fun path d => (rfl : _ = asMap record d >>= fill .nothing record {})) (fun path es s => ?_)
    (fun es h => ?_) (fun path s hs => ofData_toData hs) fun path es => ?_
  · have hperformance : ({} : Performance).Valid := by decide
    have hupstream : ∀ m ∈ ({} : Upstream).servers, m.Valid := by decide
    have hlocations : ∀ l ∈ ({} : Site).locations, l.Valid := by decide
    cases s
    simp [fill, fields, toEntries, Shape.gives_record, valid_iff, Ssl.complete_nil, ReverseProxy.complete_nil,
      Security.complete_nil, Performance.complete_nil, Logging.complete_nil, Upstream.complete_nil,
      defaultLocation_eq, Ssl.faithful.field_eq_ok_iff trivial, ReverseProxy.faithful.field_eq_ok_iff trivial,
      Security.faithful.field_eq_ok_iff trivial, Performance.faithful.field_eq_ok_iff hperformance,
      Logging.faithful.field_eq_ok_iff trivial, Upstream.faithful.field_eq_ok_iff hupstream,
      Location.faithful.list.field_eq_ok_iff hlocations, Unique.exists_iff, -Bool.exists_bool, -bind_pure_comp]
    tauto
  · have hlocations :
        (Field.mk "locations" (some (.list [defaultLocation])) (.list (.record Location.fields))).fits es = true ↔
          ∃ ls : List Location,
            (Field.mk "locations" (some (.list [defaultLocation])) (.list (.record Location.fields))).Gives es
              (.list (ls.map fun l => .map l.toEntries)) :=
      Location.faithful.list.fits_field_iff ({} : Site).locations
    simp only [fields, List.forall_mem_cons, Faithful.bool.fits_field_iff, Faithful.int.fits_field_iff,
      Faithful.text.fits_field_iff, Faithful.texts.fits_field_iff, Ssl.complete_nil, Ssl.faithful.fits_field_iff,
      ReverseProxy.complete_nil, ReverseProxy.faithful.fits_field_iff, Security.complete_nil,
      Security.faithful.fits_field_iff, Performance.complete_nil, Performance.faithful.fits_field_iff,
      Logging.complete_nil, Logging.faithful.fits_field_iff, Upstream.complete_nil,
      Upstream.faithful.fits_field_iff, hlocations] at h
    obtain ⟨⟨serverNames, h₁⟩, ⟨listenPort, h₂⟩, ⟨listenIpv6, h₃⟩, ⟨rootPath, h₄⟩, ⟨indexFiles, h₅⟩, ⟨ssl, h₆⟩,
      ⟨reverseProxy, h₇⟩, ⟨security, h₈⟩, ⟨performance, h₉⟩, ⟨logging, h₁₀⟩, ⟨upstream, h₁₁⟩, ⟨locations, h₁₂⟩,
      ⟨customDirectives, h₁₃⟩, -⟩ := h
    refine ⟨⟨serverNames, listenPort, listenIpv6, rootPath, indexFiles, ssl, reverseProxy, security, performance,
      logging, upstream, locations, customDirectives⟩, ?_⟩
    simp [Shape.gives_record, fields, toEntries, Ssl.complete_nil, ReverseProxy.complete_nil, Security.complete_nil,
      Performance.complete_nil, Logging.complete_nil, Upstream.complete_nil, *]
  · simp (disch := simp [fields]) only [fill, field_known Faithful.bool.known, field_known Faithful.int.known,
      field_known Faithful.text.known, field_known Faithful.texts.known, field_known Ssl.faithful.known,
      field_known ReverseProxy.faithful.known, field_known Security.faithful.known,
      field_known Performance.faithful.known, field_known Logging.faithful.known,
      field_known Upstream.faithful.known, field_known Location.faithful.list.known]

end Site

/-! ### Data tells sites apart -/

theorem injective_of_read {ε α β : Type} {f : α → β} {g : β → Except ε α} (h : ∀ a, g (f a) = .ok a) :
    Function.Injective f := by
  intro a b hab
  have hread := h a
  rw [hab, h b] at hread
  exact (Except.ok.inj hread).symm

theorem spell_eq_iff {α : Type} [Keyword α] {a b : α} : spell a = spell b ↔ a = b :=
  ⟨Keyword.spell_inj, congrArg spell⟩

theorem texts_injective : Function.Injective texts := fun _ _ h =>
  List.map_injective_iff.2 (fun _ _ h => by simpa using h) (Data.list.inj h)

theorem Ssl.toEntries_injective : Function.Injective Ssl.toEntries := injective_of_read (Ssl.fill_toEntries "" {})

theorem ReverseProxy.toEntries_injective : Function.Injective ReverseProxy.toEntries :=
  injective_of_read (ReverseProxy.fill_toEntries "" {})

theorem Security.toEntries_injective : Function.Injective Security.toEntries :=
  injective_of_read (Security.fill_toEntries "" {})

theorem Logging.toEntries_injective : Function.Injective Logging.toEntries :=
  injective_of_read (Logging.fill_toEntries "" {})

theorem Location.toEntries_injective : Function.Injective Location.toEntries :=
  injective_of_read (g := fun es => Location.read .fields "" (.map es)) (Location.read_toEntries "")

/-- The reader of a section with conditions may refuse a record, so it is compared field by field. -/
theorem Performance.toEntries_injective : Function.Injective Performance.toEntries := by
  rintro ⟨⟩ ⟨⟩ h
  simp only [Performance.toEntries, word, List.cons.injEq, Prod.mk.injEq, Data.bool.injEq, Data.int.injEq,
    Data.text.injEq, Data.map.injEq, texts_injective.eq_iff, mapText_injective.eq_iff, spell_eq_iff, true_and,
    and_true] at h
  simpa using h

theorem PoolMember.toEntries_injective : Function.Injective PoolMember.toEntries := by
  rintro ⟨⟩ ⟨⟩ h
  simpa [PoolMember.toEntries] using h

theorem Upstream.toEntries_injective : Function.Injective Upstream.toEntries := by
  have hservers : Function.Injective fun ms : List PoolMember => ms.map fun m => Data.map m.toEntries :=
    List.map_injective_iff.2 fun _ _ h => PoolMember.toEntries_injective (Data.map.inj h)
  rintro ⟨⟩ ⟨⟩ h
  simp only [Upstream.toEntries, word, List.cons.injEq, Prod.mk.injEq, Data.bool.injEq, Data.text.injEq,
    Data.list.injEq, hservers.eq_iff, spell_eq_iff, true_and, and_true] at h
  simpa using h

namespace Site

theorem toData_injective : Function.Injective toData := by
  have hlocations : Function.Injective fun ls : List Location => ls.map fun l => Data.map l.toEntries :=
    List.map_injective_iff.2 fun _ _ h => Location.toEntries_injective (Data.map.inj h)
  rintro ⟨⟩ ⟨⟩ h
  simpa [toData, toEntries, texts_injective.eq_iff, Ssl.toEntries_injective.eq_iff,
    ReverseProxy.toEntries_injective.eq_iff, Security.toEntries_injective.eq_iff,
    Performance.toEntries_injective.eq_iff, Logging.toEntries_injective.eq_iff,
    Upstream.toEntries_injective.eq_iff, hlocations.eq_iff] using h

/-- The data form of sites is a faithful codec. Data is read as a site just if it has the shape of
one, is the data of that site when its defaults are written out, and the site is valid; nothing but
a broken condition stops data of the shape; what the shape does not name has no effect; and the data
of a site that was read is read as that site. -/
theorem ofData_faithful (es : Entries) :
    (∀ s, ofData (.map es) = .ok s ↔
      shape.fits (.map es) = true ∧ shape.complete (.map es) = s.toData ∧ s.Valid) ∧
    ((∃ s, ofData (.map es) = .ok s) ↔
      shape.fits (.map es) = true ∧ ∀ s : Site, shape.complete (.map es) = s.toData → s.Valid) ∧
    ofData (shape.known (.map es)) = ofData (.map es) ∧
    ∀ s, ofData (.map es) = .ok s → ofData s.toData = .ok s := by
  have hreads : ∀ s, ofData (.map es) = .ok s ↔
      shape.fits (.map es) = true ∧ shape.complete (.map es) = s.toData ∧ s.Valid := by
    intro s
    rw [faithful.reads "" (.map es) s, Shape.Gives, and_assoc]
  refine ⟨hreads, ⟨?_, ?_⟩, faithful.known "" _, fun s hs => ?_⟩
  · rintro ⟨s, hs⟩
    obtain ⟨hfits, hdata, hvalid⟩ := (hreads s).1 hs
    exact ⟨hfits, fun t ht => toData_injective (hdata.symm.trans ht) ▸ hvalid⟩
  · rintro ⟨hfits, hvalid⟩
    obtain ⟨s, -, hdata⟩ := faithful.total _ hfits
    exact ⟨s, (hreads s).2 ⟨hfits, hdata, hvalid s hdata⟩⟩
  · exact ofData_toData ((hreads s).1 hs).2.2

/-- A truth value is no number. -/
example : shape.fits (.map [("listen_port", .bool true)]) = false := by decide

end Site
end SiteConf
