import SiteConf.Lint.Rule
import SiteConf.Lint.Score

/-!
# Lint reports
-/

namespace SiteConf

/-- The outcome of running rules on a model. -/
structure LintReport where
  /-- No error was found. -/
  valid : Bool
  score : Nat
  findings : List Finding
  counts : Counts
  categoryPenalties : List (Category × Nat)
  deriving DecidableEq, Repr

variable {α : Type}

/-- The findings of the rules that fire, in the order of the rules. -/
def firedFindings (rules : List (Rule α)) (a : α) : List Finding :=
  (rules.filter (·.fires a)).map Rule.finding

def LintReport.ofFindings (fs : List Finding) : LintReport where
  valid := (Counts.ofFindings fs).error == 0
  score := SiteConf.score fs
  findings := fs
  counts := .ofFindings fs
  categoryPenalties := Keyword.all.map fun c => (c, categoryPenalty fs c)

/-- The report on a model: the findings by severity and title, in the order of the rules where these
are equal. -/
def lint (rules : List (Rule α)) (a : α) : LintReport :=
  .ofFindings ((firedFindings rules a).mergeSort Finding.le)

/-- The incidents of `lint`. -/
def lintIncidents (rules : List (Rule α)) (a : α) : List Incident :=
  rules.flatMap (·.testIncidents a)

end SiteConf
