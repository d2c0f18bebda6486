import SiteConf.Directive.Statement
import SiteConf.Site.Stock
import SiteConf.Text.Blank

/-!
# The text of a location

The directives inside a location block, by its kind, without the rate limit that precedes them.
The same lines are used to check that a location that was read from a text stands for that text.
-/

namespace SiteConf
open Text

/-- Directives given as text, in canonical form. A text with syntax errors is passed on line by
line, trimmed. -/
def canonicalLines (text : String) : List String :=
  let tree := Tree.ofText text
  if tree.errors.isEmpty then serialize 0 tree.nodes
  else ((lines text).map trim).filter (· != "")

/-- The syntax errors of directives given as text. -/
def textErrors (text : String) : List SyntaxError :=
  if isBlankText text then [] else (Tree.ofText text).errors

namespace Location

def fileLines (l : Location) : List String :=
  (if l.root.isEmpty then [] else [directiveLine "root" [l.root]]) ++
  (if isBlankText l.tryFiles then [] else [directiveLine "try_files" (words l.tryFiles)]) ++
  (if isBlankText l.index then [] else [directiveLine "index" (words l.index)]) ++
  (if l.autoindex then [directiveLine "autoindex" ["on"]] else []) ++
  (if isBlankText l.cacheExpiry then [] else [directiveLine "expires" (words l.cacheExpiry)])

/-- The line that sets a header on a proxied request. -/
def headerLine (h : Header) : String := directiveLine "proxy_set_header" [h.key, h.value]

def proxyLines (realIp : Bool) (l : Location) : List String :=
  [if l.proxyPass.isEmpty then "proxy_pass;" else directiveLine "proxy_pass" [l.proxyPass],
    directiveLine "proxy_http_version" ["1.1"]] ++
  (if l.proxyWebSocket then
    [directiveLine "proxy_set_header" ["Upgrade", "$http_upgrade"],
      "proxy_set_header Connection \"upgrade\";"] else []) ++
  (if realIp then forwardingHeaders.map headerLine else []) ++
  (l.proxyHeaders.filter fun h => !h.key.isEmpty && !h.value.isEmpty).map headerLine ++
  (if 0 < l.proxyTimeout then
    [directiveLine "proxy_read_timeout" [toString l.proxyTimeout ++ "s"],
      directiveLine "proxy_send_timeout" [toString l.proxyTimeout ++ "s"]] else []) ++
  (if l.proxyBuffering then [] else [directiveLine "proxy_buffering" ["off"]])

def redirectLines (l : Location) : List String :=
  [directiveLine "return"
    (toString l.redirectCode :: (if l.redirectUrl.isEmpty then [] else [l.redirectUrl]))]

/-- The directives of a location. `realIp` puts the headers about the client into every proxy
location. -/
def body (realIp : Bool) (l : Location) : List String :=
  match l.kind with
  | .files => l.fileLines
  | .proxy => l.proxyLines realIp
  | .redirect => l.redirectLines
  | .custom => if isBlankText l.customDirectives then [] else canonicalLines l.customDirectives

end Location
end SiteConf
