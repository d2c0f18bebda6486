import SiteConf.Proofs.Patch

/-!
# A valid site is read back from its data

Each record is read back from its entries, whatever record the reader starts from. The conditions of
`Site.Valid` are those that the reader checks, and one that no list of entries of a map can break: each
asset class is named once.
-/

namespace SiteConf
open Codec

/-! ### Lists and maps of texts -/

theorem textEntries?_map (es : List (String × String)) :
    textEntries? (es.map fun e => (e.1, Data.text e.2)) = some es := by
  induction es with
  | nil => rfl
  | cons e es ih => rw [List.map_cons, textEntries?, ih]; rfl

theorem firstOfEach_eq_self {es : List (String × String)} (h : (es.map (·.1)).Nodup) : firstOfEach es = es := by
  induction es with
  | nil => rfl
  | cons e es ih =>
    rw [List.map_cons, List.nodup_cons] at h
    have hkeys : ∀ x ∈ es, (x.1 != e.1) = true := by
      intro x hx
      rw [bne_iff_ne]
      rintro he
      exact h.1 (he ▸ List.mem_map_of_mem hx)
    rw [firstOfEach, ih h.2, List.filter_eq_self.2 hkeys]

theorem asTextMap_map (path : String) {es : List (String × String)} (h : (es.map (·.1)).Nodup) :
    asTextMap path (.map (es.map fun e => (e.1, .text e.2))) = .ok es := by
  rw [asTextMap, textEntries?_map]
  exact congrArg Except.ok (firstOfEach_eq_self h)

/-! ### Sections -/

theorem Ssl.fill_toEntries (path : String) (base s : Ssl) : Ssl.fill path base s.toEntries = .ok s := by
  show (do
    let protocols ← asTexts (path ++ "." ++ "protocols") (texts s.protocols)
    let preset ← member (spell s.preset)
    pure { s with protocols, preset } : Except Fault Ssl) = .ok s
  rw [asTexts_texts, member_spell]
  rfl

theorem ReverseProxy.fill_toEntries (path : String) (base p : ReverseProxy) :
    ReverseProxy.fill path base p.toEntries = .ok p := by
  show (do
    let customHeaders ← readItems Header.read (path ++ "." ++ "custom_headers") 0
      (p.customHeaders.map fun h => .map h.toEntries)
    pure { p with customHeaders } : Except Fault ReverseProxy) = .ok p
  rw [readItems_map Header.read_toEntries]
  rfl

theorem Security.fill_toEntries (path : String) (base s : Security) : Security.fill path base s.toEntries = .ok s := by
  show (do
    let ipAllowlist ← asTexts (path ++ "." ++ "ip_allowlist") (texts s.ipAllowlist)
    let ipDenylist ← asTexts (path ++ "." ++ "ip_denylist") (texts s.ipDenylist)
    pure { s with ipAllowlist, ipDenylist } : Except Fault Security) = .ok s
  rw [asTexts_texts, asTexts_texts]
  rfl

theorem Performance.fill_toEntries {p : Performance} (h : p.Valid) (path : String) (base : Performance) :
    Performance.fill .nothing path base p.toEntries = .ok p := by
  obtain ⟨hkeys, hassets, hsize⟩ := h
  show (do
    let gzipTypes ← asTexts (path ++ "." ++ "gzip_types") (texts p.gzipTypes)
    let brotliTypes ← asTexts (path ++ "." ++ "brotli_types") (texts p.brotliTypes)
    let assetCacheExpiry ← asTextMap (path ++ "." ++ "asset_cache_expiry")
      (.map (p.assetCacheExpiry.map fun e => (e.1, .text e.2)))
    let clientMaxBodyUnit ← member (spell p.clientMaxBodyUnit)
    let q : Performance := { p with gzipTypes, brotliTypes, assetCacheExpiry, clientMaxBodyUnit }
    require .nothing q.unknownAssets.isEmpty (.unknownAssets q.unknownAssets)
    require .nothing (0 ≤ p.clientMaxBodySize) .negativeBodySize
    pure q : Except Fault Performance) = .ok p
  rw [asTexts_texts, asTexts_texts, asTextMap_map _ hkeys, member_spell]
  show (do
    require .nothing p.unknownAssets.isEmpty (.unknownAssets p.unknownAssets)
    require .nothing (0 ≤ p.clientMaxBodySize) .negativeBodySize
    pure p : Except Fault Performance) = .ok p
  rw [require_of (by rw [hassets]; rfl), require_of (decide_eq_true hsize)]
  rfl

theorem Logging.fill_toEntries (path : String) (base l : Logging) : Logging.fill path base l.toEntries = .ok l := by
  show (do
    let errorLogLevel ← member (spell l.errorLogLevel)
    pure { l with errorLogLevel } : Except Fault Logging) = .ok l
  rw [member_spell]
  rfl

theorem PoolMember.read_toEntries (path : String) (m : PoolMember) (h : m.Valid) :
    PoolMember.read .nothing path (.map m.toEntries) = .ok m := by
  show (do
    require .nothing (1 ≤ m.weight) .poolMemberWeight
    pure m : Except Fault PoolMember) = .ok m
  have hweight : decide (1 ≤ m.weight) = true := decide_eq_true h
  rw [require_of hweight]
  rfl

theorem Upstream.fill_toEntries {u : Upstream} (h : ∀ m ∈ u.servers, m.Valid) (path : String) (base : Upstream) :
    Upstream.fill .nothing path base u.toEntries = .ok u := by
  show (do
    let servers ← readItems (PoolMember.read .nothing) (path ++ "." ++ "servers") 0
      (u.servers.map fun m => .map m.toEntries)
    let method ← member (spell u.method)
    pure { u with servers, method } : Except Fault Upstream) = .ok u
  rw [readItems_map_of PoolMember.read_toEntries _ _ h, member_spell]
  rfl

/-! ### Locations and sites -/

theorem Location.read_toEntries_of_valid (path : String) (l : Location) (h : l.Valid) :
    Location.read .nothing path (.map l.toEntries) = .ok l := by
  have hpath : (l.path != "") = true := by simpa using h.1
  show (do
    let proxyHeaders ← readItems Header.read (path ++ "." ++ "proxy_headers") 0
      (l.proxyHeaders.map fun h => .map h.toEntries)
    require .nothing (l.path != "") .emptyLocationPath
    let matchType ← member (spell l.matchType)
    let kind ← member (spell l.kind)
    require .nothing (redirectCodes.contains l.redirectCode) (.redirectCode l.redirectCode)
    pure { l with proxyHeaders, matchType, kind } : Except Fault Location) = .ok l
  rw [readItems_map Header.read_toEntries, require_of hpath, member_spell, member_spell,
    require_of (List.contains_iff_mem.2 h.2)]
  rfl

namespace Site

/-- A valid site is accepted by the reader that checks all conditions, and comes back the same. -/
theorem ofData_toData {s : Site} (h : s.Valid) : ofData s.toData = .ok s := by
  show (do
    let serverNames ← asTexts (record ++ "." ++ "server_names") (texts s.serverNames)
    let indexFiles ← asTexts (record ++ "." ++ "index_files") (texts s.indexFiles)
    let ssl ← Ssl.fill (record ++ "." ++ "ssl") {} s.ssl.toEntries
    let reverseProxy ← ReverseProxy.fill (record ++ "." ++ "reverse_proxy") {} s.reverseProxy.toEntries
    let security ← Security.fill (record ++ "." ++ "security") {} s.security.toEntries
    let performance ← Performance.fill .nothing (record ++ "." ++ "performance") {} s.performance.toEntries
    let logging ← Logging.fill (record ++ "." ++ "logging") {} s.logging.toEntries
    let upstream ← Upstream.fill .nothing (record ++ "." ++ "upstream") {} s.upstream.toEntries
    let locations ← readItems (Location.read .nothing) (record ++ "." ++ "locations") 0
      (s.locations.map fun l => .map l.toEntries)
    require .nothing (1 ≤ s.listenPort) (.listenPort (.int s.listenPort))
    pure { s with serverNames, indexFiles, ssl, reverseProxy, security, performance, logging, upstream,
                  locations } : Except Fault Site) = .ok s
  rw [asTexts_texts, asTexts_texts, Ssl.fill_toEntries, ReverseProxy.fill_toEntries, Security.fill_toEntries,
    Performance.fill_toEntries h.performance, Logging.fill_toEntries, Upstream.fill_toEntries h.servers,
    readItems_map_of Location.read_toEntries_of_valid _ _ h.locations, require_of (decide_eq_true h.listenPort)]
  rfl

end Site
end SiteConf
