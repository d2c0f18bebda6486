import Mathlib
import SiteConf.Import.Site

/-!
# What settling a draft changes

Settling at the end of an import changes five parts of a site, each by what the draft knows beside the
site, and nothing else (`Draft.finish_eq`).
-/

namespace SiteConf
open Text

/-- The profile that goes with the choice of the cipher, with the same ciphers. -/
def Ssl.settle (s : Ssl) : Option Bool → Ssl
  | none => s
  | some prefer =>
    if s.preset.suite.preferServerCiphers = prefer then s
    else { s with ciphers := s.effectiveCiphers, preset := if prefer then .legacy else .intermediate }

/-- A list of brotli types that is that of gzip is left out. -/
def Performance.settleBrotli (p : Performance) : Option (List String) → Performance
  | none => p
  | some types =>
    { p with brotliTypes :=
        if types = (if p.gzipTypes.isEmpty then defaultGzipTypes else p.gzipTypes) then [] else types }

/-- The expiry of all assets for caching locations: that of images, without it that of the first. -/
def baseExpiry (caching : List (AssetClass × String)) (first : String) : String :=
  if ((caching.lookup .images).getD "").isEmpty then first else (caching.lookup .images).getD ""

def Performance.settleCaching (p : Performance) : List (AssetClass × String) → Performance
  | [] => p
  | (a, first) :: rest =>
    { p with
      staticCaching := true
      cacheExpiry := baseExpiry ((a, first) :: rest) first
      assetCacheExpiry :=
        (((a, first) :: rest).filter fun e => e.2 != baseExpiry ((a, first) :: rest) first).map
          fun e => (spell e.1, e.2) }

/-- The locations that forward requests. -/
def proxies (ls : List Location) : List Location := ls.filter (·.kind = .proxy)

/-- The headers about the client are those of the site. -/
def forwards (ls : List Location) : Bool := (proxies ls).all Location.startsWithForwarding

def ReverseProxy.settle (p : ReverseProxy) (rootSeen : Bool) (ls : List Location) : ReverseProxy :=
  match proxies ls with
  | [] => p
  | first :: _ =>
    if rootSeen then { p with realIpHeaders := forwards ls }
    else { p with
      realIpHeaders := forwards ls
      enabled := true
      backendAddress := first.proxyPass
      webSocket := first.proxyWebSocket }

/-- A location whose headers about the client are those of the site. -/
def Location.dropForwarding (l : Location) : Location :=
  if l.kind = .proxy then { l with proxyHeaders := l.proxyHeaders.drop forwardingHeaders.length } else l

def settleLocations (ls : List Location) : List Location :=
  if forwards ls then ls.map Location.dropForwarding else ls

namespace Location
variable (l : Location)

theorem dropForwarding_eq : l.dropForwarding = { l with
    proxyHeaders :=
      if l.kind = .proxy then l.proxyHeaders.drop forwardingHeaders.length else l.proxyHeaders } := by
  unfold dropForwarding
  split_ifs <;> rfl

@[simp] theorem kind_dropForwarding : l.dropForwarding.kind = l.kind := by rw [dropForwarding_eq]

@[simp] theorem path_dropForwarding : l.dropForwarding.path = l.path := by rw [dropForwarding_eq]

@[simp] theorem matchType_dropForwarding : l.dropForwarding.matchType = l.matchType := by rw [dropForwarding_eq]

end Location

theorem ReverseProxy.customHeaders_settle (p : ReverseProxy) (rootSeen : Bool) (ls : List Location) :
    (p.settle rootSeen ls).customHeaders = p.customHeaders := by
  unfold settle
  split
  · rfl
  · split_ifs <;> rfl

namespace Performance
variable (p : Performance) (types : Option (List String)) (caching : List (AssetClass × String))

theorem clientMaxBodySize_settle :
    ((p.settleBrotli types).settleCaching caching).clientMaxBodySize = p.clientMaxBodySize := by
  cases types <;> cases caching <;> rfl

theorem keepaliveTimeout_settle :
    ((p.settleBrotli types).settleCaching caching).keepaliveTimeout = p.keepaliveTimeout := by
  cases types <;> cases caching <;> rfl

end Performance

namespace Draft

theorem settleCiphers_eq (d : Draft) :
    d.settleCiphers = { d with site.ssl := d.site.ssl.settle d.preferServerCiphers } := by
  obtain ⟨site, warnings, kept, locationSeen, rootSeen, ipv4Seen, prefer, types, caching⟩ := d
  cases prefer with
  | none => rfl
  | some prefer =>
    unfold settleCiphers Ssl.settle
    dsimp only
    split_ifs <;> rfl

theorem settleBrotli_eq (d : Draft) :
    d.settleBrotli = { d with site.performance := d.site.performance.settleBrotli d.brotliTypes } := by
  obtain ⟨site, warnings, kept, locationSeen, rootSeen, ipv4Seen, prefer, types, caching⟩ := d
  cases types <;> rfl

theorem settleCaching_eq (d : Draft) :
    d.settleCaching = { d with site.performance := d.site.performance.settleCaching d.caching } := by
  obtain ⟨site, warnings, kept, locationSeen, rootSeen, ipv4Seen, prefer, types, caching⟩ := d
  cases caching <;> rfl

theorem map_dropForwarding {ls : List Location} (h : proxies ls = []) : ls.map Location.dropForwarding = ls := by
  have hsame : ∀ l ∈ ls, l.dropForwarding = id l := by
    intro l hl
    refine if_neg fun hk => ?_
    have hmem : l ∈ proxies ls := List.mem_filter.2 ⟨hl, by simpa using hk⟩
    rw [h] at hmem
    simp at hmem
  rw [List.map_congr_left hsame, List.map_id]

theorem settleProxies_eq (d : Draft) :
    d.settleProxies = { d with
      site.reverseProxy := d.site.reverseProxy.settle d.rootSeen d.site.locations
      site.locations := settleLocations d.site.locations } := by
  unfold settleProxies ReverseProxy.settle settleLocations forwards
  rw [show d.site.locations.filter (·.kind = .proxy) = proxies d.site.locations from rfl]
  cases hp : proxies d.site.locations with
  | nil =>
    rw [List.all_nil, if_pos rfl, map_dropForwarding hp]
  | cons first rest =>
    dsimp only
    split_ifs <;> rfl

theorem settleKept_eq (d : Draft) :
    d.settleKept = { d with site.customDirectives :=
      if d.kept.isEmpty then d.site.customDirectives else joinLines (serialize 0 d.kept) } := by
  unfold settleKept
  split_ifs <;> rfl

/-- All that settling a draft changes. -/
theorem finish_eq (d : Draft) :
    d.finish = { d with
      site.ssl := d.site.ssl.settle d.preferServerCiphers
      site.performance := (d.site.performance.settleBrotli d.brotliTypes).settleCaching d.caching
      site.reverseProxy := d.site.reverseProxy.settle d.rootSeen d.site.locations
      site.locations := settleLocations d.site.locations
      site.customDirectives :=
        if d.kept.isEmpty then d.site.customDirectives else joinLines (serialize 0 d.kept) } := by
  unfold finish
  rw [settleKept_eq, settleProxies_eq, settleCaching_eq, settleBrotli_eq, settleCiphers_eq]

end Draft
end SiteConf
