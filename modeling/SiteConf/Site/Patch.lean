import SiteConf.Site.Codec

/-!
# Patches

Edits of a site as data of the same shape: a map aimed at a section is merged field by field, and
every other value, lists and maps included, replaces a field as a whole.

`Site.merge` refuses a patch that names a field the site does not have, one with a value of another
kind than its field, and one whose result breaks a condition on the site as a whole or on a section
that the patch names. The items of lists are taken as they are.
-/

namespace SiteConf
open Codec

/-- Field names and new values. -/
abbrev Patch := Entries

/-- A section with a patch merged in. `known` are its fields. -/
def mergeSection {α : Type} (record : String) (known : Entries)
    (fill : String → Entries → Except Fault α) (p : Patch) : Except Fault α :=
  match p.find? fun e => (known.lookup e.1).isNone with
  | some e => .error (.unknownField record e.1)
  | none => fill record p

namespace Site

def sections : List String :=
  ["ssl", "reverse_proxy", "security", "performance", "logging", "upstream"]

/-- Merges one entry of a patch, if it is a map aimed at a section. Other fields are left for later
and only have to exist. -/
def mergeEntry (s : Site) : String × Data → Except Fault Site
  | ("ssl", .map p) => do
    let ssl ← mergeSection Ssl.record s.ssl.toEntries (Ssl.fill · s.ssl) p
    pure { s with ssl }
  | ("reverse_proxy", .map p) => do
    let reverseProxy ← mergeSection ReverseProxy.record s.reverseProxy.toEntries
      (ReverseProxy.fill · s.reverseProxy) p
    pure { s with reverseProxy }
  | ("security", .map p) => do
    let security ← mergeSection Security.record s.security.toEntries (Security.fill · s.security) p
    pure { s with security }
  | ("performance", .map p) => do
    let performance ← mergeSection Performance.record s.performance.toEntries
      (Performance.fill .nothing · s.performance) p
    pure { s with performance }
  | ("logging", .map p) => do
    let logging ← mergeSection Logging.record s.logging.toEntries (Logging.fill · s.logging) p
    pure { s with logging }
  | ("upstream", .map p) => do
    let upstream ← mergeSection Upstream.record s.upstream.toEntries
      (Upstream.fill .fields · s.upstream) p
    pure { s with upstream }
  | (name, d) =>
    if sections.contains name then .error (.notMap (record ++ "." ++ name) d)
    else if (s.toEntries.lookup name).isNone then .error (.unknownField record name)
    else .ok s

/-- The site with a patch merged in: first its sections and the names of its fields, in the order of
the patch, then the other fields, then the condition on the whole. A truth value is no port. -/
def merge (s : Site) (p : Patch) : Except Fault Site := do
  let s ← p.foldlM mergeEntry s
  match p.lookup "listen_port" with
  | some (.bool b) => .error (.listenPort (.bool b))
  | _ => do
    let s ← fill .fields record s (p.filter fun e => !sections.contains e.1)
    require .nothing (1 ≤ s.listenPort) (.listenPort (.int s.listenPort))
    pure s

end Site
end SiteConf
