/-!
# Keywords

Types with a fixed number of members, each with a spelling of its own in files and messages.
Reading a spelling gives back the member (`Keyword.read?_spell`).
-/

namespace SiteConf

/-- A finite type of words. -/
class Keyword (α : Type) where
  /-- The name of the type in messages. -/
  label : String
  all : List α
  spell : α → String
  find?_spell : ∀ a, all.find? (fun b => spell b == spell a) = some a

export Keyword (spell)

/-- The member with a spelling. -/
def Keyword.read? {α : Type} [Keyword α] (s : String) : Option α :=
  (Keyword.all : List α).find? (fun a => spell a == s)

@[simp] theorem Keyword.read?_spell {α : Type} [Keyword α] (a : α) :
    Keyword.read? (spell a) = some a := Keyword.find?_spell a

theorem Keyword.mem_all {α : Type} [Keyword α] (a : α) : a ∈ Keyword.all :=
  List.mem_of_find?_eq_some (Keyword.find?_spell a)

theorem Keyword.spell_of_read? {α : Type} [Keyword α] {s : String} {a : α}
    (h : Keyword.read? s = some a) : spell a = s := by
  simpa using List.find?_some h

theorem Keyword.spell_inj {α : Type} [Keyword α] {a b : α} (h : spell a = spell b) : a = b := by
  have := Keyword.read?_spell a
  rw [h, Keyword.read?_spell] at this
  exact (Option.some.inj this).symm

/-- How the path of a location is compared with the path of a request. -/
inductive MatchType where
  /-- The request's path starts with it. -/
  | start
  | exact
  | regex
  | regexIgnoreCase
  deriving DecidableEq, Repr

instance : Keyword MatchType where
  label := "MatchType"
  all := [.start, .exact, .regex, .regexIgnoreCase]
  spell
    | .start => "prefix"
    | .exact => "exact"
    | .regex => "regex"
    | .regexIgnoreCase => "regex_case_insensitive"
  find?_spell a := by cases a <;> rfl

/-- What a location does with a request. -/
inductive LocationKind where
  | files
  | proxy
  | redirect
  /-- Directives kept as text. -/
  | custom
  deriving DecidableEq, Repr

instance : Keyword LocationKind where
  label := "LocationType"
  all := [.files, .proxy, .redirect, .custom]
  spell
    | .files => "static"
    | .proxy => "proxy"
    | .redirect => "redirect"
    | .custom => "custom"
  find?_spell a := by cases a <;> rfl

/-- A named choice of ciphers. -/
inductive CipherProfile where
  | modern
  | intermediate
  | legacy
  deriving DecidableEq, Repr

instance : Keyword CipherProfile where
  label := "CipherPreset"
  all := [.modern, .intermediate, .legacy]
  spell
    | .modern => "modern"
    | .intermediate => "intermediate"
    | .legacy => "legacy"
  find?_spell a := by cases a <;> rfl

/-- How an upstream pool picks the member for a request. -/
inductive Balancing where
  /-- Each in turn; needs no directive. -/
  | roundRobin
  | leastConn
  | ipHash
  | random
  deriving DecidableEq, Repr

instance : Keyword Balancing where
  label := "UpstreamMethod"
  all := [.roundRobin, .leastConn, .ipHash, .random]
  spell
    | .roundRobin => "round-robin"
    | .leastConn => "least_conn"
    | .ipHash => "ip_hash"
    | .random => "random"
  find?_spell a := by cases a <;> rfl

inductive SizeUnit where
  | megabytes
  | gigabytes
  deriving DecidableEq, Repr

instance : Keyword SizeUnit where
  label := "BodySizeUnit"
  all := [.megabytes, .gigabytes]
  spell
    | .megabytes => "MB"
    | .gigabytes => "GB"
  find?_spell a := by cases a <;> rfl

/-- The least severity that the error log records. -/
inductive LogLevel where
  | warn
  | error
  | crit
  deriving DecidableEq, Repr

instance : Keyword LogLevel where
  label := "ErrorLogLevel"
  all := [.warn, .error, .crit]
  spell
    | .warn => "warn"
    | .error => "error"
    | .crit => "crit"
  find?_spell a := by cases a <;> rfl

/-- The files for which browsers are told how long to keep them. -/
inductive AssetClass where
  | images
  | css
  | js
  | fonts
  deriving DecidableEq, Repr

instance : Keyword AssetClass where
  label := "asset class"
  all := [.images, .css, .js, .fonts]
  spell
    | .images => "images"
    | .css => "css"
    | .js => "js"
    | .fonts => "fonts"
  find?_spell a := by cases a <;> rfl

end SiteConf
