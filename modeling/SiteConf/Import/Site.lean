import SiteConf.Import.Location
import SiteConf.Import.Server
import SiteConf.Import.Upstream

/-!
# Importing a configuration

A tree as a site. Import is best effort: all that has no place in the site is reported, and only a
number beyond all bounds stops it.

The first server block that does more than send requests on to https is imported, with the first
upstream block. What follows from several places of the text is settled at the end (`Draft.finish`).
-/

namespace SiteConf
open Text

/-- The outcome of an import. -/
structure Import where
  site : Site
  warnings : List Warning
  /-- The syntax errors of the tree, unchanged. -/
  errors : List String

/-! ### File level -/

mutual
/-- The statements at file level: those of the list, and for an `http` block its own. -/
def Node.fileScope : Node → List Node
  | .directive name args line => [.directive name args line]
  | .block name args line children =>
    if name = "http" then fileScope children else [.block name args line children]

def fileScope : List Node → List Node
  | [] => []
  | n :: ns => n.fileScope ++ fileScope ns
end

def Node.isServer (n : Node) : Bool := n.isBlock && n.name == "server"

def Node.isUpstream (n : Node) : Bool := n.isBlock && n.name == "upstream"

/-- A server that does nothing but send plain requests on to https. -/
def Node.isHttpsRedirect (server : Node) : Bool :=
  let children := server.children
  !children.any Node.isBlock &&
    (match children.filter (·.name == "return") with
      | [r] => match r.args with
        | [code, target] => (code == "301" || code == "302") && startsWith target "https://"
        | _ => false
      | _ => false) &&
    !children.any fun n => n.name == "listen" && n.args.contains "ssl"

/-- A statement at file level that is neither a server nor an upstream pool. -/
def Draft.fileStatement (d : Draft) (n : Node) : Except NumberFault Draft :=
  if !n.isBlock && n.name == "limit_req_zone" then d.limitReqZone n
  else .ok (d.warn (.ignoredTopLevel n.isBlock n.name))

/-! ### Server level -/

/-- A statement of the server. -/
def Draft.serverStatement (d : Draft) (n : Node) : Except NumberFault Draft :=
  match n with
  | .block "location" _ _ _ => d.location n
  | .block _ _ _ _ => .ok (d.unmodelled n)
  | .directive _ _ _ => d.directive n

/-! ### Settling a draft -/

/-- The headers of a proxy location start with those about the client. -/
def Location.startsWithForwarding (l : Location) : Bool :=
  l.proxyHeaders.take forwardingHeaders.length == forwardingHeaders

namespace Draft

/-- Only one profile lets the server choose the cipher. If the text says otherwise than its profile,
the profile changes and the list is kept as it is. -/
def settleCiphers (d : Draft) : Draft :=
  match d.preferServerCiphers with
  | none => d
  | some prefer =>
    let ssl := d.site.ssl
    if ssl.preset.suite.preferServerCiphers = prefer then d
    else { d with
      site.ssl.ciphers := ssl.effectiveCiphers
      site.ssl.preset := if prefer then .legacy else .intermediate }

/-- Brotli types that are those of gzip need no list of their own. -/
def settleBrotli (d : Draft) : Draft :=
  match d.brotliTypes with
  | none => d
  | some types =>
    let gzipTypes :=
      if d.site.performance.gzipTypes.isEmpty then defaultGzipTypes
      else d.site.performance.gzipTypes
    { d with site.performance.brotliTypes := if types = gzipTypes then [] else types }

/-- The expiry of images is that of all assets, without it that of the first class; a class with
another has its own. -/
def settleCaching (d : Draft) : Draft :=
  match d.caching with
  | [] => d
  | (_, first) :: _ =>
    let images := (d.caching.lookup .images).getD ""
    let base := if images.isEmpty then first else images
    { d with
      site.performance.staticCaching := true
      site.performance.cacheExpiry := base
      site.performance.assetCacheExpiry :=
        (d.caching.filter fun e => e.2 != base).map fun e => (spell e.1, e.2) }

/-- The headers about the client are the site's if all proxy locations start with them. A server
without files of its own whose locations forward requests is a reverse proxy. -/
def settleProxies (d : Draft) : Draft :=
  match d.site.locations.filter (·.kind = .proxy) with
  | [] => d
  | first :: rest =>
    let realIp := (first :: rest).all Location.startsWithForwarding
    let locations :=
      if realIp then d.site.locations.map fun l =>
        if l.kind = .proxy then
          { l with proxyHeaders := l.proxyHeaders.drop forwardingHeaders.length }
        else l
      else d.site.locations
    let d := { d with site.reverseProxy.realIpHeaders := realIp, site.locations := locations }
    if d.rootSeen then d
    else { d with
      site.reverseProxy.enabled := true
      site.reverseProxy.backendAddress := first.proxyPass
      site.reverseProxy.webSocket := first.proxyWebSocket }

/-- The statements that were kept, as text. -/
def settleKept (d : Draft) : Draft :=
  if d.kept.isEmpty then d
  else { d with site.customDirectives := joinLines (serialize 0 d.kept) }

def finish (d : Draft) : Draft :=
  d.settleCiphers.settleBrotli.settleCaching.settleProxies.settleKept

end Draft

/-! ### The whole import -/

namespace Import

/-- The server that is imported, whether another one sends plain requests on to it, and the number
of servers that could have been imported. -/
def chooseServer (server : Node) (others : List Node) : Node × Bool × Nat :=
  match (server :: others).filter (!·.isHttpsRedirect) with
  | [] => (server, false, others.length + 1)
  | c :: cs => (c, decide (cs.length < others.length), cs.length + 1)

/-- The draft after the file level, for a chosen server. -/
def fileDraft (other : List Node) (redirected : Bool) (candidates : Nat) :
    Except NumberFault Draft := do
  let d ← other.foldlM Draft.fileStatement {}
  let d := if redirected then { d with site.ssl.httpRedirect := true } else d
  pure (if 1 < candidates then d.warn (.manyServers candidates) else d)

/-- The draft after the upstream pools. -/
def withUpstreams (d : Draft) : List Node → Except NumberFault Draft
  | [] => .ok d
  | u :: us =>
    let d := if us.isEmpty then d else d.warn (.manyUpstreams (us.length + 1))
    d.upstream u

/-- The site of a tree. `errors` are the tree's, and come back unchanged. -/
def ofNodes (nodes : List Node) (errors : List String) : Except NumberFault Import :=
  let scope := fileScope nodes
  match scope.filter Node.isServer with
  | [] => .ok ⟨{}, [.noServer], errors⟩
  | s :: ss => do
    let (server, redirected, candidates) := chooseServer s ss
    let other := scope.filter fun n => !n.isServer && !n.isUpstream
    let d ← fileDraft other redirected candidates
    let d ← server.children.foldlM Draft.serverStatement d
    let d ← withUpstreams d (scope.filter Node.isUpstream)
    let d := d.finish
    pure ⟨d.site, d.warnings, errors⟩

/-- The site of a text. -/
def ofText (text : String) : Except NumberFault Import :=
  let tree := Tree.ofText text
  ofNodes tree.nodes (tree.errors.map (·.message))

end Import
end SiteConf
