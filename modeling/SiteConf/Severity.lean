import SiteConf.Site.Keyword

/-!
# Severities
-/

namespace SiteConf

/-- How much a finding matters. -/
inductive Severity where
  /-- The site breaks or is exposed. -/
  | error
  | warning
  /-- Advice. -/
  | info
  deriving DecidableEq, Repr

namespace Severity

instance : Keyword Severity where
  label := "Severity"
  all := [.error, .warning, .info]
  spell
    | .error => "error"
    | .warning => "warning"
    | .info => "info"
  find?_spell a := by cases a <;> rfl

/-- The place in an order by severity, the worst first. -/
def rank : Severity → Nat
  | error => 0
  | warning => 1
  | info => 2

end Severity
end SiteConf
