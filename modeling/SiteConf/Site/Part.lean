import SiteConf.Site.Codec

/-!
# Sites under edit

A `Part` is a site, or a part of one, in which every field may hold any data. Records and keywords
are marked as such, so that a record is told from a map with the same keys, and a keyword from its
spelling.
-/

namespace SiteConf

inductive Part where
  /-- Data that is neither list nor map. -/
  | single (d : Data)
  | keyword (label spelling : String)
  | list (items : List Part)
  | map (entries : List (String × Part))
  | record (name : String) (fields : List (String × Part))
  deriving Inhabited

/-- The fields of a record, or the entries of a map. -/
abbrev Fields := List (String × Part)

namespace Fields

/-- The fields with the value of `name` replaced, or added at the end. -/
def put (name : String) (value : Part) : Fields → Fields
  | [] => [(name, value)]
  | (k, v) :: rest => if k = name then (k, value) :: rest else (k, v) :: put name value rest

end Fields

namespace Part

/-- The word for a kind of part in messages. -/
def kind : Part → String
  | single d => d.kind
  | keyword label _ => label
  | list _ => "list"
  | map _ => "dict"
  | record name _ => name

/-! ### Parts and data -/

mutual
/-- The part that holds data, without records and keywords. -/
def ofData : Data → Part
  | .list ds => .list (ofItems ds)
  | .map es => .map (ofEntries es)
  | d => .single d

def ofItems : List Data → List Part
  | [] => []
  | d :: rest => ofData d :: ofItems rest

def ofEntries : List (String × Data) → Fields
  | [] => []
  | (k, d) :: rest => (k, ofData d) :: ofEntries rest
end

mutual
/-- The data of a part: records are maps and keywords are texts. -/
def toData : Part → Data
  | single d => d
  | keyword _ spelling => .text spelling
  | list ps => .list (itemsData ps)
  | map es => .map (fieldsData es)
  | record _ fs => .map (fieldsData fs)

def itemsData : List Part → List Data
  | [] => []
  | p :: rest => p.toData :: itemsData rest

def fieldsData : List (String × Part) → Entries
  | [] => []
  | (k, p) :: rest => (k, p.toData) :: fieldsData rest
end

mutual
/-- Equality with data across kinds. A keyword equals its spelling, and a record equals nothing. -/
def same : Part → Data → Bool
  | single d, e => d.same e
  | keyword _ spelling, .text s => spelling == s
  | list ps, .list ds => sameItems ps ds
  | map es, .map ds => es.length == ds.length && sameEntries es ds
  | _, _ => false

def sameItems : List Part → List Data → Bool
  | [], [] => true
  | p :: ps, d :: ds => p.same d && sameItems ps ds
  | _, _ => false

/-- Every entry of the first list has its like in the second. -/
def sameEntries : List (String × Part) → List (String × Data) → Bool
  | [], _ => true
  | (k, p) :: rest, ds =>
    (match ds.lookup k with
      | none => false
      | some d => p.same d) && sameEntries rest ds
end

instance : Signed Part Text.NumberFault := ⟨fun p => p.toData.writeJson⟩

mutual
/-- Both have records, keywords, lists and maps in the same places. -/
def alike : Part → Part → Bool
  | single _, single _ => true
  | keyword label _, keyword label' _ => label == label'
  | list ps, list qs => alikeItems ps qs
  | map es, map fs => alikeFields es fs
  | record name es, record name' fs => name == name' && alikeFields es fs
  | _, _ => false

def alikeItems : List Part → List Part → Bool
  | [], [] => true
  | p :: ps, q :: qs => p.alike q && alikeItems ps qs
  | _, _ => false

def alikeFields : List (String × Part) → List (String × Part) → Bool
  | [], [] => true
  | (k, p) :: es, (k', q) :: fs => k == k' && p.alike q && alikeFields es fs
  | _, _ => false
end

/-! ### Sites as parts -/

def ofKeyword {α : Type} [Keyword α] (a : α) : Part := .keyword (Keyword.label α) (spell a)

def ofHeader (h : Header) : Part := .record Header.record (ofEntries h.toEntries)

def ofSsl (s : Ssl) : Part :=
  .record Ssl.record ((ofEntries s.toEntries).put "preset" (ofKeyword s.preset))

def ofReverseProxy (p : ReverseProxy) : Part :=
  .record ReverseProxy.record
    ((ofEntries p.toEntries).put "custom_headers" (.list (p.customHeaders.map ofHeader)))

def ofSecurity (s : Security) : Part := .record Security.record (ofEntries s.toEntries)

def ofPerformance (p : Performance) : Part :=
  .record Performance.record
    ((ofEntries p.toEntries).put "client_max_body_unit" (ofKeyword p.clientMaxBodyUnit))

def ofLogging (l : Logging) : Part :=
  .record Logging.record
    ((ofEntries l.toEntries).put "error_log_level" (ofKeyword l.errorLogLevel))

def ofPoolMember (m : PoolMember) : Part := .record PoolMember.record (ofEntries m.toEntries)

def ofUpstream (u : Upstream) : Part :=
  .record Upstream.record
    (((ofEntries u.toEntries).put "method" (ofKeyword u.method)).put "servers"
      (.list (u.servers.map ofPoolMember)))

def ofLocation (l : Location) : Part :=
  .record Location.record
    ((((ofEntries l.toEntries).put "match_type" (ofKeyword l.matchType)).put "type"
      (ofKeyword l.kind)).put "proxy_headers" (.list (l.proxyHeaders.map ofHeader)))

def ofSite (s : Site) : Part :=
  .record Site.record
    (([("ssl", ofSsl s.ssl), ("reverse_proxy", ofReverseProxy s.reverseProxy),
        ("security", ofSecurity s.security), ("performance", ofPerformance s.performance),
        ("logging", ofLogging s.logging), ("upstream", ofUpstream s.upstream),
        ("locations", .list (s.locations.map ofLocation))] : Fields).foldl
      (fun (fs : Fields) e => fs.put e.1 e.2) (ofEntries s.toEntries))

/-- The site that a part is, if each of its fields has a value of the field's kind. -/
def site? (p : Part) : Option Site :=
  match Site.ofTrustedData p.toData with
  | .ok s => if (ofSite s).alike p then some s else none
  | .error _ => none

end Part
end SiteConf
