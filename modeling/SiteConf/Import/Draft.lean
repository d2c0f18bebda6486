import SiteConf.Directive.Statement
import SiteConf.Site.Stock
import SiteConf.Text.Decimal

/-!
# Drafts

What is known of a site while its text is read from top to bottom: the site so far, what had no
place in it, and what can be decided only at the end. A draft starts with every optional feature
switched off, so that what is missing from the text stays missing from the site.
-/

namespace SiteConf

/-- What an import could not place, or changed. -/
inductive Warning where
  | noServer
  | ignoredTopLevel (isBlock : Bool) (name : String)
  | ignored (isBlock : Bool) (name : String)
  | manyServers (count : Nat)
  | manyUpstreams (count : Nat)
  | rate (line rate : Int)
  | bodySize (value : String) (line : Int)
  | bodySizeRounded (value : String) (size : Nat)
  | keepaliveTimeout (value : String) (line : Int)
  | logLevel (level : String)
  | locationWithoutPath (line : Int)
  | strongModifier (line : Int)
  | upstreamWithoutName (line : Int)
  | ignoredInUpstream (isBlock : Bool) (name : String)
  | ignoredParameter (parameter : String)
  deriving DecidableEq, Repr

namespace Warning

def kind (isBlock : Bool) : String := if isBlock then "block" else "directive"

def message : Warning → String
  | noServer => "No \"server\" block found in configuration."
  | ignoredTopLevel b name => "Ignored top-level " ++ kind b ++ " \"" ++ name ++ "\""
  | ignored b name => "Ignored " ++ kind b ++ " \"" ++ name ++ "\""
  | manyServers n => "Found " ++ toString n ++ " server blocks. Imported the first one."
  | manyUpstreams n => "Found " ++ toString n ++ " upstream blocks. Imported the first one."
  | rate line r =>
    "Unsupported rate in limit_req_zone at line " ++ toString line ++ ", using " ++ toString r ++
      "r/s"
  | bodySize value line =>
    "Unsupported client_max_body_size \"" ++ value ++ "\" at line " ++ toString line
  | bodySizeRounded value size =>
    "client_max_body_size " ++ value ++ " rounded up to " ++ toString size ++ "MB"
  | keepaliveTimeout value line =>
    "Unsupported keepalive_timeout \"" ++ value ++ "\" at line " ++ toString line
  | logLevel level => "Unsupported error_log level \"" ++ level ++ "\", using \"error\""
  | locationWithoutPath line => "Skipped location without a path at line " ++ toString line
  | strongModifier line =>
    "Location modifier \"^~\" at line " ++ toString line ++ " imported as a prefix match"
  | upstreamWithoutName line => "Ignored upstream block without a name at line " ++ toString line
  | ignoredInUpstream true name => "Ignored block \"" ++ name ++ "\" inside upstream"
  | ignoredInUpstream false name => "Ignored upstream directive \"" ++ name ++ "\""
  | ignoredParameter p => "Ignored upstream server parameter \"" ++ p ++ "\""

end Warning

/-- A site with every optional feature off. -/
def Site.blank : Site where
  serverNames := []
  listenIpv6 := false
  rootPath := ""
  indexFiles := []
  ssl := { protocols := [], httpRedirect := false }
  security := { securityHeaders := false, hideVersion := false }
  performance := { gzip := false, gzipTypes := [], staticCaching := false, http2 := false,
                   clientMaxBodySize := 0, keepaliveTimeout := 0 }
  logging := { accessLog := false, errorLog := false }
  locations := []

structure Draft where
  site : Site := .blank
  warnings : List Warning := []
  /-- Statements at server level that no field holds, kept as text. -/
  kept : List Node := []
  locationSeen : Bool := false
  /-- The server has a root or an index. -/
  rootSeen : Bool := false
  /-- An address that is not IPv6 has set the port. -/
  ipv4Seen : Bool := false
  preferServerCiphers : Option Bool := none
  brotliTypes : Option (List String) := none
  /-- The expiry of each asset class that has a caching location, in the order of the text. -/
  caching : List (AssetClass × String) := []

namespace Draft

def warn (d : Draft) (w : Warning) : Draft := { d with warnings := d.warnings ++ [w] }

/-- A statement that no field holds. It is kept before the first location and dropped after it. -/
def unmodelled (d : Draft) (n : Node) : Draft :=
  if d.locationSeen then d.warn (.ignored n.isBlock n.name)
  else { d with kept := d.kept ++ [n] }

end Draft
end SiteConf
