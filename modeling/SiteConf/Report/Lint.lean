import SiteConf.Data.Json
import SiteConf.Lint.Explanation
import SiteConf.Lint.Fix
import SiteConf.Lint.Report
import SiteConf.Report.Console

/-!
# Reports for readers

Lint reports, fix results and messages as printed lines in each output format, and the exit code of
a lint report. Ignored rules are hidden from the findings and do not count for the exit code; the
score stays as it is.
-/

namespace SiteConf
open Console

/-- How reports are written. -/
inductive OutputFormat where
  /-- Boxes and tables for a terminal. -/
  | rich
  | plain
  | json
  deriving DecidableEq, Repr

instance : Keyword OutputFormat where
  label := "output format"
  all := [.rich, .plain, .json]
  spell
    | .rich => "rich"
    | .plain => "plain"
    | .json => "json"
  find?_spell a := by cases a <;> rfl

namespace LintReport

/-- The report without the findings of some rules. -/
def ignoring (ids : List String) (r : LintReport) : LintReport :=
  if ids.isEmpty then r else
    let shown := r.findings.filter fun f => !ids.contains f.ruleId
    { r with
      valid := (Counts.ofFindings shown).error == 0
      findings := shown
      counts := .ofFindings shown }

/-- 2 if errors were found, 1 if only warnings, else 0. -/
def exitCode (r : LintReport) : Nat :=
  if r.counts.error ≠ 0 then 2 else if r.counts.warning ≠ 0 then 1 else 0

end LintReport

def Counts.summary (c : Counts) : String :=
  "Summary: " ++ toString c.error ++ " error, " ++ toString c.warning ++ " warning, " ++
    toString c.info ++ " info"

/-- `Health Score: 100/100`, and the source in parentheses if it is named. -/
def scoreTitle (r : LintReport) (source : String) : String :=
  "Health Score: " ++ toString r.score ++ "/100" ++
    (if source.isEmpty then "" else " (" ++ source ++ ")")

/-- An explanation, its lines after `indent`. -/
def Explanation.lines (indent : String) (e : Explanation) : List String :=
  [indent ++ "Why: " ++ e.why, indent ++ "Risk: " ++ e.risk, indent ++ "Ignore if: " ++ e.ignore]

/-! ### Terminal -/

namespace Rich

def icon : Severity → String
  | .error => "x"
  | .warning => "!"
  | .info => "i"

def finding (explain : Bool) (f : Finding) : List String :=
  printed ("[" ++ spell f.severity ++ "] " ++ icon f.severity ++ " [" ++ f.ruleId ++ "] " ++
    f.title ++ (if f.fixable then " (fixable)" else "")) ++
  printed ("   " ++ f.message) ++
  (match f.docsUrl with
    | some url => ["   Docs: " ++ url]
    | none => []) ++
  (match if explain then explanation? f.ruleId else none with
    | some e => "   Explanation:" :: e.lines "      "
    | none => []) ++
  [""]

/-- The title of the box with the score, as markup. -/
def title (source : String) (r : LintReport) : String :=
  scoreTitle r "" ++ (if source.isEmpty then "" else " [dim](" ++ Markup.escape source ++ ")[/]")

def lint (explain : Bool) (source : String) (r : LintReport) :
    Except MarkupFault (List String) := do
  let title ← Markup.render (title source r)
  return [""] ++
    box title (r.categoryPenalties.map fun p => (p.1.heading, "-" ++ toString p.2)) ++
    ["", "Lint Results", "   " ++ r.counts.summary, ""] ++
    (if r.findings.isEmpty then ["   PASS: No issues found."]
      else r.findings.flatMap (finding explain))

/-- The rules of a repair. Their ids are markup. -/
def fix (applied : Bool) (ids : List String) : Except MarkupFault (List String) :=
  if applied then
    table "Applied Fixes" [{ heading := "#", right := true }, { heading := "Rule" }]
      ((List.range ids.length).zip ids |>.map fun p => [toString (p.1 + 1), p.2])
  else .ok ["Nothing to fix."]

end Rich

/-! ### Plain text -/

namespace Plain

def label : Severity → String
  | .error => "[ERROR]"
  | .warning => "[WARNING]"
  | .info => "[INFO]"

def finding (explain : Bool) (f : Finding) : List String :=
  printed (label f.severity ++ ": " ++ f.ruleId ++ ": " ++ f.title) ++
  printed ("   " ++ f.message) ++
  (if f.fixable then ["   Fixable: yes"] else []) ++
  (match if explain then explanation? f.ruleId else none with
    | some e => e.lines "   "
    | none => []) ++
  [""]

def lint (explain : Bool) (source : String) (r : LintReport) : List String :=
  [""] ++ printed (scoreTitle r source) ++
  (r.categoryPenalties.map fun p => spell p.1 ++ ": -" ++ toString p.2) ++
  ["", "LINT RESULTS", r.counts.summary, ""] ++ r.findings.flatMap (finding explain)

def fix (applied : Bool) (ids : List String) : List String :=
  if applied then "Applied fixes:" :: ids.flatMap fun id => printed ("   - " ++ id)
  else ["Nothing to fix."]

end Plain

/-- Messages under a heading; nothing without messages. -/
def messageLines (heading : String) (messages : List String) : List String :=
  if messages.isEmpty then []
  else (heading ++ ":") :: messages.flatMap fun m => printed ("   - " ++ m)

/-! ### JSON -/

namespace Json

def explanation (e : Explanation) : Data :=
  .map [("why", .text e.why), ("risk", .text e.risk), ("ignore", .text e.ignore)]

def finding (f : Finding) : Entries :=
  [("rule_id", .text f.ruleId),
    ("severity", .text (spell f.severity)),
    ("title", .text f.title),
    ("message", .text f.message),
    ("category", .text (spell f.category)),
    ("docs_url", match f.docsUrl with
      | some url => .text url
      | none => .null),
    ("fixable", .bool f.fixable)]

def counts (c : Counts) : Data :=
  .map [("error", .int c.error), ("warning", .int c.warning), ("info", .int c.info)]

def penalties (ps : List (Category × Nat)) : Data :=
  .map (ps.map fun p => (spell p.1, .int p.2))

def lint (explain : Bool) (source : String) (r : LintReport) : Data :=
  .map [("source", .text source),
    ("valid", .bool r.valid),
    ("score", .int r.score),
    ("counts", counts r.counts),
    ("category_penalties", penalties r.categoryPenalties),
    ("results", .list (r.findings.map fun f => .map (finding f ++
      (if explain then
        [("explanation", match explanation? f.ruleId with
          | some e => explanation e
          | none => .null)]
      else []))))]

def fix (applied : Bool) (ids : List String) : Data :=
  .map [("applied", .bool applied), ("applied_rule_ids", .list (ids.map .text))]

def messages (key : String) (ms : List String) : Data := .map [(key, .list (ms.map .text))]

end Json

/-! ### Any format -/

/-- What heads a list of messages. -/
inductive MessageKind where
  | errors
  | warnings
  deriving DecidableEq, Repr

def MessageKind.heading : MessageKind → String
  | errors => "Syntax errors"
  | warnings => "Warnings"

/-- The key of a list of messages in JSON. -/
def MessageKind.key : MessageKind → String
  | errors => "syntax errors"
  | warnings => "warnings"

namespace OutputFormat

/-- A lint report as text. -/
def lintText (format : OutputFormat) (explain : Bool) (source : String) (r : LintReport) :
    Except MarkupFault String :=
  match format with
  | rich => output <$> Rich.lint explain source r
  | plain => .ok (output (Plain.lint explain source r))
  | json => .ok ((Json.lint explain source r).indented "" ++ "\n")

/-- A fix result as text. -/
def fixText (format : OutputFormat) (applied : Bool) (ids : List String) :
    Except MarkupFault String :=
  match format with
  | rich => output <$> Rich.fix applied ids
  | plain => .ok (output (Plain.fix applied ids))
  | json => .ok ((Json.fix applied ids).indented "" ++ "\n")

/-- Messages as text. -/
def messageText (format : OutputFormat) (kind : MessageKind) (ms : List String) : String :=
  match format with
  | json => if ms.isEmpty then "" else (Json.messages kind.key ms).indented "" ++ "\n"
  | _ => output (messageLines kind.heading ms)

end OutputFormat
end SiteConf
