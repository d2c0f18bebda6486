import SiteConf.Site.Basic
import SiteConf.Text.Split

/-!
# Stock values

The directive values that are written for a site without being fields of it, and by which a text
that was written for a site is recognised: cipher lists, header sets, asset patterns.
-/

namespace SiteConf
open Text

/-! ### Ciphers -/

/-- What a cipher profile stands for. -/
structure CipherSuite where
  ciphers : String
  preferServerCiphers : Bool
  sessionTimeout : String := "1d"
  sessionTickets : Bool := false
  deriving DecidableEq, Repr

def aesGcm : String :=
  "ECDHE-ECDSA-AES128-GCM-SHA256:ECDHE-RSA-AES128-GCM-SHA256:" ++
    "ECDHE-ECDSA-AES256-GCM-SHA384:ECDHE-RSA-AES256-GCM-SHA384"

namespace CipherProfile

def suite : CipherProfile → CipherSuite
  | modern =>
    { ciphers := aesGcm ++ ":ECDHE-ECDSA-CHACHA20-POLY1305:ECDHE-RSA-CHACHA20-POLY1305"
      preferServerCiphers := false }
  | intermediate =>
    { ciphers := aesGcm ++ ":DHE-RSA-AES128-GCM-SHA256:DHE-RSA-AES256-GCM-SHA384"
      preferServerCiphers := false }
  | legacy =>
    { ciphers := aesGcm ++ ":DHE-RSA-AES128-GCM-SHA256:DHE-RSA-AES256-GCM-SHA384" ++
        ":ECDHE-ECDSA-AES128-SHA256:ECDHE-RSA-AES128-SHA256:AES128-SHA:DES-CBC3-SHA"
      preferServerCiphers := true }

/-- The profile whose cipher list this is. -/
def ofCiphers? (ciphers : String) : Option CipherProfile :=
  [modern, intermediate, legacy].find? fun p => p.suite.ciphers == ciphers

/-- The profile nearest to a cipher list. -/
def nearest (ciphers : String) : CipherProfile :=
  match ofCiphers? ciphers with
  | some p => p
  | none =>
    if contains ciphers "CHACHA20" then modern
    else if contains ciphers "DES" then legacy
    else intermediate

@[simp] theorem ofCiphers?_suite (p : CipherProfile) : ofCiphers? p.suite.ciphers = some p := by
  cases p <;> decide +kernel

theorem ciphers_of_ofCiphers? {ciphers : String} {p : CipherProfile}
    (h : ofCiphers? ciphers = some p) : p.suite.ciphers = ciphers := by
  simpa using List.find?_some h

end CipherProfile

/-- The cipher list that a site offers. -/
def Ssl.effectiveCiphers (s : Ssl) : String :=
  if s.ciphers.isEmpty then s.preset.suite.ciphers else s.ciphers

def sslSessionCache : String := "shared:SSL:10m"

def placeholderCertificate : String := "/etc/ssl/certs/cert.pem"

def placeholderKey : String := "/etc/ssl/private/key.pem"

def hstsValue : String := "max-age=63072000; includeSubDomains; preload"

/-- Where plain requests are sent on to. -/
def httpsTarget : String := "https://$host$request_uri"

/-! ### Headers -/

/-- The hardening headers in the order in which they are written. -/
def hardeningHeaders : List (String × String) :=
  [("X-Frame-Options", "SAMEORIGIN"),
    ("X-Content-Type-Options", "nosniff"),
    ("Referrer-Policy", "strict-origin-when-cross-origin"),
    ("X-XSS-Protection", "1; mode=block")]

/-- The headers that let a connection be upgraded. -/
def upgradeHeaders : List Header := [⟨"Upgrade", "$http_upgrade"⟩, ⟨"Connection", "upgrade"⟩]

/-- The headers that tell a backend about the client. -/
def forwardingHeaders : List Header :=
  [⟨"Host", "$host"⟩,
    ⟨"X-Real-IP", "$remote_addr"⟩,
    ⟨"X-Forwarded-For", "$proxy_add_x_forwarded_for"⟩,
    ⟨"X-Forwarded-Proto", "$scheme"⟩]

/-! ### Rate limits -/

def rateLimitZone : String := "req_limit"

/-- What is written for a rate that is not positive. -/
def defaultRate : Int := 10

/-- What is written for a burst that is not positive. -/
def defaultBurst : Int := 5

/-! ### Assets -/

namespace AssetClass

/-- The pattern of the paths of a class. -/
def pattern : AssetClass → String
  | images => "\\.(jpg|jpeg|png|gif|ico|svg|webp|avif)$"
  | css => "\\.css$"
  | js => "\\.js$"
  | fonts => "\\.(woff|woff2|ttf|otf|eot)$"

def extensions : AssetClass → List String
  | images => ["jpg", "jpeg", "png", "gif", "ico", "svg", "webp", "avif"]
  | css => ["css"]
  | js => ["js"]
  | fonts => ["woff", "woff2", "ttf", "otf", "eot"]

/-- The class with a pattern. -/
def ofPattern? (s : String) : Option AssetClass :=
  [images, css, js, fonts].find? fun a => a.pattern == s

theorem ofPattern?_eq_some_iff {s : String} {a : AssetClass} : ofPattern? s = some a ↔ s = a.pattern := by
  constructor
  · intro h
    have ha := List.find?_some (show List.find? _ _ = some a from h)
    exact (eq_of_beq ha).symm
  · rintro rfl
    cases a <;> decide

end AssetClass

def assetCacheControl : String := "public, immutable"

end SiteConf
