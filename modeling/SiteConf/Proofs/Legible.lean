import SiteConf.Proofs.RoundTrip
import SiteConf.Proofs.Statements

/-!
# Sites whose text is read back

A site is `Legible` if every argument that is written for it is read as one word with the same value.
Most arguments are written in the quotes they need (`Quotable`). A cipher list and a realm always stand
in quotes (`FitsQuotes`).
-/

namespace SiteConf
open Text

/-- The value is read back if it is written between two quotes of this kind, or as it needs to be if it
holds such a quote. -/
def FitsQuotes (q : Char) (value : String) : Prop :=
  if value.toList.contains q then Quotable value else value.toList.getLast? ≠ some '\\'

instance (q : Char) (value : String) : Decidable (FitsQuotes q value) :=
  inferInstanceAs (Decidable (if value.toList.contains q = true then Quotable value else
    value.toList.getLast? ≠ some '\\'))

/-- The addresses that are written can be read. -/
def LegibleAddresses (addresses : List String) : Prop :=
  ∀ a ∈ addresses, isBlankText a = false → Quotable (trim a)

instance (addresses : List String) : Decidable (LegibleAddresses addresses) :=
  inferInstanceAs (Decidable (∀ a ∈ addresses, isBlankText a = false → Quotable (trim a)))

def Upstream.Legible (u : Upstream) : Prop :=
  u.enabled = true → u.servers ≠ [] →
    Quotable (orElse u.name "backend") ∧ ∀ m ∈ u.servers, Quotable m.address

def Ssl.Legible (s : Ssl) : Prop :=
  s.enabled = true →
    Quotable (orElse s.certificatePath placeholderCertificate) ∧ Quotable (orElse s.keyPath placeholderKey) ∧
    (∀ p ∈ s.protocols, Quotable p) ∧ FitsQuotes '\'' s.effectiveCiphers

def Security.Legible (s : Security) : Prop :=
  LegibleAddresses s.ipAllowlist ∧ LegibleAddresses s.ipDenylist ∧
    (s.basicAuth = true → FitsQuotes '"' (orElse s.basicAuthRealm "Restricted") ∧
      Quotable (orElse s.basicAuthFile "/etc/nginx/.htpasswd"))

def Performance.Legible (p : Performance) : Prop :=
  (p.gzip = true → ∀ t ∈ p.effectiveGzipTypes, Quotable t) ∧
    (p.brotli = true → ∀ t ∈ p.effectiveBrotliTypes, Quotable t)

def Logging.Legible (l : Logging) : Prop :=
  Quotable l.accessTarget ∧ (l.errorLog = true → Quotable l.errorTarget)

/-- What is written for the kind of a location. -/
def Location.LegibleBody (l : Location) : Prop :=
  match l.kind with
  | .files => (l.root ≠ "" → Quotable l.root) ∧ (∀ w ∈ words l.tryFiles, Quotable w) ∧
      (∀ w ∈ words l.index, Quotable w) ∧ ∀ w ∈ words l.cacheExpiry, Quotable w
  | .proxy => (l.proxyPass ≠ "" → Quotable l.proxyPass) ∧
      ∀ h ∈ l.ownHeaders, Quotable h.key ∧ Quotable h.value
  | .redirect => l.redirectUrl ≠ "" → Quotable l.redirectUrl
  | .custom => isBlankText l.customDirectives = false →
      (Tree.ofText l.customDirectives).errors = [] ∧ AllLegible (Tree.ofText l.customDirectives).nodes

def Location.Legible (l : Location) : Prop := Quotable l.path ∧ l.LegibleBody

/-- Every argument that is written for the site is read back. -/
structure Site.Legible (s : Site) : Prop where
  names : ∀ n ∈ s.serverNames, Quotable n
  files : s.reverseProxy.enabled = false →
    (s.rootPath ≠ "" → Quotable s.rootPath) ∧ ∀ f ∈ s.indexFiles, Quotable f
  upstream : s.upstream.Legible
  ssl : s.ssl.Legible
  security : s.security.Legible
  performance : s.performance.Legible
  logging : s.logging.Legible
  locations : ∀ l ∈ s.effectiveLocations, l.Legible
  caching : ∀ a ∈ s.servedAssets, ∀ w ∈ words (s.performance.assetExpiry a), Quotable w

end SiteConf
