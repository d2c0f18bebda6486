import SiteConf.Severity

/-!
# Findings
-/

namespace SiteConf

/-- The area of a rule. -/
inductive Category where
  | security
  | performance
  | correctness
  | bestPractice
  deriving DecidableEq, Repr

namespace Category

instance : Keyword Category where
  label := "Category"
  all := [.security, .performance, .correctness, .bestPractice]
  spell
    | .security => "security"
    | .performance => "performance"
    | .correctness => "correctness"
    | .bestPractice => "best-practice"
  find?_spell a := by cases a <;> rfl

/-- The name of a category as a heading. -/
def heading : Category → String
  | security => "Security"
  | performance => "Performance"
  | correctness => "Correctness"
  | bestPractice => "Best Practice"

end Category

/-- A rule that fired. -/
structure Finding where
  ruleId : String
  severity : Severity
  title : String
  message : String
  category : Category
  docsUrl : Option String := none
  /-- The rule can repair the site. -/
  fixable : Bool := false
  deriving DecidableEq, Repr

/-- The order of findings in a report: by severity, then by title. -/
def Finding.le (a b : Finding) : Bool :=
  decide (a.severity.rank < b.severity.rank) ||
    (a.severity.rank == b.severity.rank && decide (a.title ≤ b.title))

end SiteConf
