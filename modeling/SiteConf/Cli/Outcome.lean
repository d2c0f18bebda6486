import SiteConf.Cli.Arguments
import SiteConf.Cli.Files
import SiteConf.Report.Console
import SiteConf.Site.Fault

/-!
# Outcomes of runs

A run ends with an exit code and what it prints. It can also break off without one: for arguments
that nothing can be made of, and for faults that no command answers with a message of its own.
-/

namespace SiteConf.Cli
open Console

/-- What a run prints, and its exit code. -/
structure Outcome where
  exit : Nat := 0
  stdout : String := ""
  stderr : String := ""

/-- The outcome with something before its error output. -/
def Outcome.after (o : Outcome) (stderr : String) : Outcome :=
  { o with stderr := stderr ++ o.stderr }

/-- Why a run breaks off. -/
inductive Abort where
  | usage (fault : UsageFault)
  /-- A text that is printed is markup out of order. -/
  | markup (fault : MarkupFault)
  /-- A number cannot be read or written. -/
  | number (fault : Text.NumberFault)
  /-- A value in a file cannot be made, or one for a file cannot be written. -/
  | value (reason : String)
  /-- The settings name no set of rules to hide. -/
  | ignored (fault : Fault)
  | file (fault : FileFault)

def Abort.message : Abort → String
  | usage f => f.message
  | markup f => f.message
  | number f => f.message
  | value reason => reason
  | ignored f => f.message
  | file f => f.message

/-- A run on files that may break off. What it has written by then stays written. -/
abbrev Run (m : Type → Type) := ExceptT Abort m

variable {m : Type → Type} [Monad m]

/-- The printed form of markup. -/
def say (markup : String) : Run m String :=
  match printedMarkup markup with
  | .ok ls => pure (output ls)
  | .error f => throw (.markup f)

/-- A text that may be markup out of order. -/
def orMarkup (text : Except MarkupFault String) : Run m String :=
  match text with
  | .ok s => pure s
  | .error f => throw (.markup f)

/-- A text, or a value, with a number that may have too many digits. -/
def orNumber {α : Type} (r : Except Text.NumberFault α) : Run m α :=
  match r with
  | .ok a => pure a
  | .error f => throw (.number f)

/-- A run that ends with a message about a failure. -/
def failure (message : String) : Run m Outcome := do
  return { exit := 1, stderr := ← say ("[bold red]Error:[/] " ++ Markup.escape message) }

end SiteConf.Cli
