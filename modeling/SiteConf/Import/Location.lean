import SiteConf.Import.Draft
import SiteConf.Render.Location

/-!
# Reading locations

A location block is read as a redirect, a proxy or a location of files only if the directives that
would be written for that reading are those of the block (`Location.reproduces`). Any other block is
kept as text, so that nothing inside a location is lost or reordered.
-/

namespace SiteConf
open Text

/-- The match type and the path of a location block, and whether its modifier is the one for a
strong prefix match, which has no match type of its own. -/
def Node.locationTarget (n : Node) : MatchType × String × Bool :=
  match n.arg 0 with
  | "=" => (.exact, n.arg 1, false)
  | "~" => (.regex, n.arg 1, false)
  | "~*" => (.regexIgnoreCase, n.arg 1, false)
  | "^~" => (.start, n.arg 1, true)
  | path => (.start, path, false)

/-! ### Rate limit -/

/-- The digits of `burst=`, if they are there, in the arguments of a limit on the zone of rate
limits; `none` for other arguments. -/
def limitBurst? (args : List String) : Option (Option (List Char)) :=
  let cs := (joinWith " " args).toList
  let lead := ("zone=" ++ rateLimitZone).toList
  if !lead.isPrefixOf cs then none
  else
    let cs := cs.drop lead.length
    let (burst, cs) :=
      if " burst=".toList.isPrefixOf cs then
        let (ds, rest) := spanDigits (cs.drop 7)
        if ds.isEmpty then (none, cs) else (some ds, rest)
      else (none, cs)
    let cs := if " nodelay".toList.isPrefixOf cs then cs.drop 8 else cs
    if atEnd cs then some burst else none

/-- The children of a location without the rate limit at their head, and the burst that it sets. A
limit counts only in a text with a rate limit zone. -/
def splitLimit (rateLimiting : Bool) (children : List Node) : List Node × Option (List Char) :=
  match children with
  | .directive "limit_req" args _ :: rest =>
    if rateLimiting then
      match limitBurst? args with
      | some burst => (rest, burst)
      | none => (children, none)
    else (children, none)
  | _ => (children, none)

/-! ### Caching locations -/

/-- The asset class and the expiry of a location that does nothing but let browsers keep the files
of the class. -/
def cachingStanza? (path : String) (children : List Node) : Option (AssetClass × String) :=
  match AssetClass.ofPattern? path, children with
  | some a, [.directive "expires" args _, .directive "add_header" header _] =>
    if args.isEmpty || header != ["Cache-Control", assetCacheControl] then none
    else some (a, joinWith " " args)
  | _, _ => none

/-! ### Typed readings -/

namespace Location

/-- A single redirect. -/
def redirect? (path : String) (matchType : MatchType) : List Node → Option Location
  | [.directive "return" args _] =>
    if args.length ≤ 2 then
      match args.head? with
      | some "301" => some { path, matchType, kind := .redirect, redirectCode := 301,
                             redirectUrl := args[1]?.getD "" }
      | some "302" => some { path, matchType, kind := .redirect, redirectCode := 302,
                             redirectUrl := args[1]?.getD "" }
      | _ => none
    else none
  | _ => none

/-- The proxy directives that stand at most once. -/
def singleProxyDirectives : List String :=
  ["proxy_pass", "proxy_http_version", "proxy_read_timeout", "proxy_send_timeout",
    "proxy_buffering"]

def proxyDirectives : List String := "proxy_set_header" :: singleProxyDirectives

/-- A positive number of seconds. -/
def positiveSeconds (s : String) : Except NumberFault (Option Nat) := do
  match ← readSeconds s with
  | some (n + 1) => pure (some (n + 1))
  | _ => pure none

/-- A proxy location with the next of its directives; `none` for an argument that has no place. -/
def addProxyDirective (l : Location) (n : Node) : Except NumberFault (Option Location) :=
  match n.name with
  | "proxy_pass" =>
    .ok (if 1 < n.args.length then none else some { l with proxyPass := n.arg 0 })
  | "proxy_set_header" =>
    .ok (match n.args with
      | [key, value] => some { l with proxyHeaders := l.proxyHeaders ++ [⟨key, value⟩] }
      | _ => none)
  | "proxy_read_timeout" => do
    match ← positiveSeconds (n.arg 0) with
    | some s => pure (some { l with proxyTimeout := s })
    | none => pure none
  | "proxy_send_timeout" => do
    match ← positiveSeconds (n.arg 0) with
    | some _ => pure (some l)
    | none => pure none
  | "proxy_buffering" =>
    .ok (match n.arg 0 with
      | "on" => some { l with proxyBuffering := true }
      | "off" => some { l with proxyBuffering := false }
      | _ => none)
  | _ => .ok (some l)

def addProxyDirectives (l : Location) : List Node → Except NumberFault (Option Location)
  | [] => .ok (some l)
  | n :: ns => do
    match ← l.addProxyDirective n with
    | some l => l.addProxyDirectives ns
    | none => pure none

/-- The headers that let a connection be upgraded become a flag if they come first. -/
def liftUpgrade (l : Location) : Location :=
  if l.proxyHeaders.take 2 = upgradeHeaders then
    { l with proxyWebSocket := true, proxyHeaders := l.proxyHeaders.drop 2 }
  else l

/-- A proxy location: proxy directives only, among them a target. -/
def proxy? (path : String) (matchType : MatchType) (children : List Node) :
    Except NumberFault (Option Location) := do
  let names := children.map Node.name
  if !names.contains "proxy_pass" then return none
  if children.any fun n => n.isBlock || !proxyDirectives.contains n.name then return none
  if singleProxyDirectives.any fun name => 1 < names.count name then return none
  match ← addProxyDirectives { path, matchType, kind := .proxy } children with
  | some l => return some l.liftUpgrade
  | none => return none

/-- A location of files with the next of its directives. -/
def addFileDirective (l : Location) (n : Node) : Option Location :=
  let value := joinWith " " n.args
  if n.isBlock || n.args.isEmpty then none
  else match n.name with
    | "root" => some { l with root := value }
    | "try_files" => some { l with tryFiles := value }
    | "index" => some { l with index := value }
    | "autoindex" =>
      if value = "on" then some { l with autoindex := true }
      else if value = "off" then some { l with autoindex := false }
      else none
    | "expires" => some { l with cacheExpiry := value }
    | _ => none

/-- No name stands twice. -/
def allDistinct : List String → Bool
  | [] => true
  | s :: ss => !ss.contains s && allDistinct ss

/-- A location of files: each of its directives at most once. -/
def files? (path : String) (matchType : MatchType) (children : List Node) : Option Location :=
  if allDistinct (children.map Node.name) then
    children.foldlM addFileDirective { path, matchType }
  else none

/-- Directives as text. -/
def asText (path : String) (matchType : MatchType) (children : List Node) : Location :=
  { path, matchType, kind := .custom, customDirectives := joinLines (serialize 0 children) }

/-! ### Choosing a reading -/

/-- The line that is written for every proxy location, and need not stand in a text. -/
def impliedLine : String := "proxy_http_version 1.1;"

/-- What is written for the location is what the block holds, in the same order. -/
def reproduces (l : Location) (children : List Node) : Bool :=
  let tree := Tree.ofText (joinLines (l.body false))
  let expected := serialize 0 tree.nodes
  let actual := serialize 0 children
  let expected :=
    if l.kind = .proxy ∧ impliedLine ∉ actual then expected.filter (· != impliedLine) else expected
  tree.errors.isEmpty && expected == actual

/-- The first typed reading of a block, if it has one. -/
def typed? (path : String) (matchType : MatchType) (children : List Node) :
    Except NumberFault (Option Location) :=
  match redirect? path matchType children with
  | some l => .ok (some l)
  | none => do
    match ← proxy? path matchType children with
    | some l => pure (some l)
    | none => pure (files? path matchType children)

/-- The location that a block stands for. -/
def ofChildren (path : String) (matchType : MatchType) (children : List Node) :
    Except NumberFault Location := do
  match ← typed? path matchType children with
  | some l => pure (if l.reproduces children then l else asText path matchType children)
  | none => pure (asText path matchType children)

end Location

/-- A location block of the server. -/
def Draft.location (d : Draft) (n : Node) : Except NumberFault Draft := do
  let d := { d with locationSeen := true }
  let (matchType, path, strong) := n.locationTarget
  let d := if strong then d.warn (.strongModifier n.line) else d
  if path.isEmpty then return d.warn (.locationWithoutPath n.line)
  let (children, burst) := splitLimit d.site.security.rateLimiting n.children
  let d ← match burst with
    | none => pure d
    | some ds => do
      let b ← readNumber ds
      pure { d with site.security.rateBurst := b }
  let stanza := if matchType = .regexIgnoreCase then cachingStanza? path children else none
  match stanza.filter fun s => (d.caching.lookup s.1).isNone with
  | some s => return { d with caching := d.caching ++ [s] }
  | none =>
    let l ← Location.ofChildren path matchType children
    return { d with site.locations := d.site.locations ++ [l] }

end SiteConf
