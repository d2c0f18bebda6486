import SiteConf.Site.Part
import SiteConf.Site.Patch

/-!
# Patches of parts

A patch that is read from data may hold values of any kind. In a site under edit such a value takes
the place of the field, and only the conditions of the record are tested on it.

`Part.amend` merges a patch into a part: as `Site.merge` does if the part is a site and the values
have the kinds of their fields, and else field by field (`Part.merge`).
-/

namespace SiteConf
namespace Part

/-! ### Patches from data -/

/-- The reader of the items of a list of records, by the name of its field. -/
def itemReader? : String → Option (Data → Except Fault Part)
  | "locations" => some fun d => ofLocation <$> Location.read .nothing Location.record d
  | "servers" => some fun d => ofPoolMember <$> PoolMember.read .nothing PoolMember.record d
  | "custom_headers" => some fun d => ofHeader <$> Header.read Header.record d
  | "proxy_headers" => some fun d => ofHeader <$> Header.read Header.record d
  | _ => none

mutual
/-- The value of a field, with each item of a list of records checked and given its defaults. -/
def completeValue (name : String) : Data → Except Fault Part
  | .map es => .map <$> completeEntries es
  | .list items => match itemReader? name with
    | some read => .list <$> items.mapM read
    | none => .ok (ofData (.list items))
  | d => .ok (.single d)

def completeEntries : List (String × Data) → Except Fault Fields
  | [] => .ok []
  | (name, d) :: rest => do
    let p ← completeValue name d
    let ps ← completeEntries rest
    pure ((name, p) :: ps)
end

/-- The patch that data describes. -/
def patchOfData (d : Data) : Except Fault Fields :=
  match d with
  | .map es => completeEntries es
  | d => .error (.notPatch d)

/-! ### Conditions of records -/

/-- The member of a keyword type that a part spells. -/
def asKeyword (α : Type) [Keyword α] (p : Part) : Except Fault Part :=
  let word? := match p with
    | keyword _ spelling => some spelling
    | single (.text s) => some s
    | _ => none
  match word?.bind (Keyword.read? : String → Option α) with
  | some a => .ok (ofKeyword a)
  | none => .error (.notMember p.toData (Keyword.label α))

/-- A part as an item of a set. -/
def asSetItem : Part → Except Fault Part
  | .list ps => .error (.notHashable (list ps).kind)
  | .map es => .error (.notHashable (map es).kind)
  | .record name _ => .error (.notHashable name)
  | p => .ok p

/-- The items of a part as a set: the keys of a map, the characters of a text. -/
def setItems : Part → Except Fault (List Part)
  | .list ps => ps.mapM asSetItem
  | .map es => .ok (es.map fun e => single (.text e.1))
  | .single (.text s) | .keyword _ s => .ok (s.toList.map fun c => single (.text c.toString))
  | p => .error (.notIterable p.kind)

/-- A part as the key of an asset class; other texts and values of other kinds are not. -/
def isAssetClass : Part → Bool
  | single (.text s) => (Keyword.read? s : Option AssetClass).isSome
  | _ => false

/-- The text that a part is. -/
def asText : Part → Except Fault String
  | single (.text s) => .ok s
  | p => .error (.notText p.kind)

/-- Refuses a part whose items are not all asset classes. -/
def checkAssets (p : Part) : Except Fault Unit := do
  let unknown := (← setItems p).filter (!isAssetClass ·)
  if !unknown.isEmpty then throw (.unknownAssets (← unknown.mapM asText).eraseDups)

/-- A part is a number less than `n`. -/
def isBelow (n : Int) : Part → Except Fault Bool
  | single (.int m) => .ok (decide (m < n))
  | single (.bool b) => .ok (decide ((if b then 1 else 0) < n))
  | single (.float x) => .ok (x.isBelow n)
  | p => .error (.notOrdered p.kind)

end Part

namespace Fields

/-- The value of a field. -/
def get (name : String) (fs : Fields) : Part := (fs.lookup name).getD (.single .null)

/-- The fields with a keyword in its place. -/
def putKeyword (α : Type) [Keyword α] (name : String) (fs : Fields) : Except Fault Fields := do
  return fs.put name (← Part.asKeyword α (fs.get name))

/-- Tests the conditions of a record, by its name. -/
def checked (record : String) (fs : Fields) : Except Fault Fields :=
  if record = Ssl.record then fs.putKeyword CipherProfile "preset"
  else if record = Logging.record then fs.putKeyword LogLevel "error_log_level"
  else if record = Upstream.record then fs.putKeyword Balancing "method"
  else if record = Performance.record then do
    let fs ← fs.putKeyword SizeUnit "client_max_body_unit"
    Part.checkAssets (fs.get "asset_cache_expiry")
    if ← (fs.get "client_max_body_size").isBelow 0 then throw .negativeBodySize
    return fs
  else if record = Site.record then
    let port := fs.get "listen_port"
    match port with
    | .single (.bool b) => .error (.listenPort (.bool b))
    | _ => do
      if ← port.isBelow 1 then throw (.listenPort port.toData)
      return fs
  else .ok fs

end Fields

namespace Part

/-! ### Merging -/

mutual
/-- The new value of a field: a map is merged into a record, and all else takes its place. -/
def mergeValue (current : Part) : Part → Except Fault Part
  | .map p => match current with
    | .record name fs => do
      let fs ← mergeFields name fs p
      return .record name (← fs.checked name)
    | _ => .ok (.map p)
  | p => .ok p

def mergeFields (record : String) (fs : Fields) : List (String × Part) → Except Fault Fields
  | [] => .ok fs
  | (name, p) :: rest =>
    match fs.lookup name with
    | none => .error (.unknownField record name)
    | some current => do
      let p ← mergeValue current p
      mergeFields record (fs.put name p) rest
end

/-- The part with a patch merged in. -/
def merge (v : Part) (patch : Fields) : Except Fault Part := mergeValue v (.map patch)

/-- The part with a patch merged in, as a site if it is one and stays one. -/
def amend (v : Part) (patch : Fields) : Except Fault Part :=
  match v.site? with
  | none => v.merge patch
  | some s => match s.merge (fieldsData patch) with
    | .ok t => .ok (ofSite t)
    | .error f => if f.isKind then v.merge patch else .error f

end Part
end SiteConf
