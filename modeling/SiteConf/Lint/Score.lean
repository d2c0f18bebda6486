import SiteConf.Lint.Finding

/-!
# Scores

Every finding costs points by its severity. A site starts with 100 points and never has less than
none.
-/

namespace SiteConf

/-- What a finding costs. -/
def Severity.penalty : Severity → Nat
  | error => 20
  | warning => 10
  | info => 2

/-- How often each severity occurs. -/
structure Counts where
  error : Nat := 0
  warning : Nat := 0
  info : Nat := 0
  deriving DecidableEq, Repr

namespace Counts

def ofFindings (fs : List Finding) : Counts where
  error := fs.countP (·.severity = .error)
  warning := fs.countP (·.severity = .warning)
  info := fs.countP (·.severity = .info)

end Counts

/-- The points that findings cost. -/
def penaltySum : List Finding → Nat
  | [] => 0
  | f :: fs => f.severity.penalty + penaltySum fs

/-- The points that the findings of a category cost. -/
def categoryPenalty (fs : List Finding) (c : Category) : Nat :=
  penaltySum (fs.filter (·.category = c))

/-- The points that are left, from 100 down to 0. -/
def score (fs : List Finding) : Nat := 100 - penaltySum fs

theorem penaltySum_eq (fs : List Finding) :
    penaltySum fs = 20 * (Counts.ofFindings fs).error + 10 * (Counts.ofFindings fs).warning +
      2 * (Counts.ofFindings fs).info := by
  induction fs with
  | nil => rfl
  | cons f fs ih =>
    simp only [penaltySum, Counts.ofFindings, List.countP_cons] at ih ⊢
    rw [ih]
    cases f.severity <;> simp [Severity.penalty] <;> omega

end SiteConf
