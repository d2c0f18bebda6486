import SiteConf.Lint.Finding

/-!
# Rules

A rule on models of a type, such as sites, has a test, which holds of the models that break it, and
perhaps a fix, which gives the repaired model. Test and fix may fail with a text.
-/

namespace SiteConf

structure Rule (α : Type) where
  id : String
  title : String
  message : String
  category : Category
  severity : Severity
  test : α → Except String Bool
  fix : Option (α → Except String α) := none
  docsUrl : Option String := none

/-- What goes wrong in a run without stopping it. -/
inductive Incident where
  | unknownRule (id : String)
  | testFailed (id message : String)
  | fixFailed (id message : String)
  deriving DecidableEq, Repr

def Incident.message : Incident → String
  | unknownRule id => "Unknown lint rule " ++ id
  | testFailed id m => "Lint rule " ++ id ++ " failed: " ++ m
  | fixFailed id m => "Fix for lint rule " ++ id ++ " failed: " ++ m

namespace Rule

variable {α : Type}

def fixable (r : Rule α) : Bool := r.fix.isSome

/-- The rule fires on a model. A test that fails counts as passed. -/
def fires (r : Rule α) (a : α) : Bool :=
  match r.test a with
  | .ok b => b
  | .error _ => false

/-- The incidents of a test. -/
def testIncidents (r : Rule α) (a : α) : List Incident :=
  match r.test a with
  | .ok _ => []
  | .error m => [.testFailed r.id m]

/-- The finding of a rule that fires. -/
def finding (r : Rule α) : Finding where
  ruleId := r.id
  severity := r.severity
  title := r.title
  message := r.message
  category := r.category
  docsUrl := r.docsUrl
  fixable := r.fixable

end Rule
end SiteConf
