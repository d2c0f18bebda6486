import SiteConf.Check
import SiteConf.Cli.Preferences
import SiteConf.Import.Site
import SiteConf.Lint.Catalog
import SiteConf.Render.Server
import SiteConf.Report.Lint
import SiteConf.Text.Lower

/-!
# Running commands

Each command reads its files, calls the library and says what to print. Reports on the way and
failures go to the error output, so that a text on the standard output can be passed on.
-/

namespace SiteConf.Cli
open Text Console

/-- The place in which a run starts. -/
structure Environment where
  home : String
  currentDirectory : String
  /-- A directory for the settings in place of the one at home. -/
  configDirectory : Option String := none
  yaml : YamlCodec := .standard

/-- A line of the log. -/
def logLine (level source message : String) : String :=
  level ++ " " ++ source ++ ": " ++ message ++ "\n"

def settingsLog (path : String) (ws : List SettingsWarning) : String :=
  String.join (ws.map fun w => logLine "WARNING" "nginx_confgen.config" (w.message path))

def incidentLog (is : List Incident) : String :=
  String.join (is.map fun i => logLine "WARNING" "nginx_confgen.engine.linter" i.message)

/-- What the log says of an import if it is verbose. -/
def importLog (text : String) (i : Import) : String :=
  let scope := fileScope (Tree.ofText text).nodes
  let servers := (scope.filter Node.isServer).length
  let upstreams := (scope.filter Node.isUpstream).length
  let source := "nginx_confgen.parser.nginx_conf"
  logLine "DEBUG" source ("Found " ++ toString servers ++ " server blocks and " ++
    toString upstreams ++ " upstream blocks") ++
  (if servers = 0 then "" else
    logLine "DEBUG" source ("Imported " ++ toString i.site.locations.length ++ " locations"))

/-- What is wrong with the text of a model file. -/
inductive ModelFault where
  | unreadable
  | notMap
  | invalid (fault : Fault)
  /-- A value in the file cannot be made. -/
  | value (reason : String)

def ModelFault.message (path : String) : ModelFault → String
  | unreadable => "Cannot read model file " ++ path ++ ": no valid YAML"
  | notMap => "Model file " ++ path ++ " must contain a mapping"
  | invalid f => "Invalid model in " ++ path ++ ": " ++ f.message
  | value reason => reason

/-- The site in the text of a model file. A value that counts as nothing is an empty map. -/
def readModel (y : YamlCodec) (text : String) : Except ModelFault Site :=
  match y.read text with
  | .error .invalid => .error .unreadable
  | .error (.value reason) => .error (.value reason)
  | .ok d =>
    let d := if d.isEmpty then .map [] else d
    match d with
    | .map _ => (Site.ofData d).mapError .invalid
    | _ => .error .notMap

/-- The file is a model by its name. -/
def isModelFile (path : String) : Bool :=
  let s := String.ofList (lower (suffix path))
  s == ".yaml" || s == ".yml"

variable {m : Type → Type} [Monad m] [Files m]

/-- Writes a text to a file, or to the standard output without one. -/
def writeOrPrint (text : String) (file : Option String) (what : String) : Run m Outcome :=
  match file.filter (!·.isEmpty) with
  | none => pure { stdout := text }
  | some path => do
    match ← (Files.write (normalPath path) text : m _) with
    | .ok () =>
      return { stderr := ← say ("[bold green]✓ Wrote " ++ what ++ ":[/] " ++ path) }
    | .error f => failure ("Cannot write " ++ path ++ ": " ++ f.message)

/-- What a command knows beside its arguments: the settings, the directory where they are kept, the
text of its input file, and how YAML is read and written. -/
structure Context where
  settings : Settings
  settingsDirectory : String
  verbose : Bool
  input : String
  yaml : YamlCodec

/-- A site as the text of a model file. -/
def modelText (c : Context) (s : Site) : Run m String :=
  match c.yaml.write s.toData with
  | (text, none) => pure text
  | (_, some reason) => throw (.value reason)

/-- Reads the input as a model, and goes on with the site. -/
def withModel (c : Context) (path : String) (next : Site → Run m Outcome) : Run m Outcome :=
  match readModel c.yaml c.input with
  | .ok s => next s
  | .error (.value reason) => throw (.value reason)
  | .error f => failure (f.message (normalPath path))

/-- Imports the input, and goes on with the outcome and its log. -/
def withImport (c : Context) (next : Import → Run m Outcome) : Run m Outcome :=
  match Import.ofText c.input with
  | .error f => throw (.number f)
  | .ok i => do
    let o ← next i
    pure (if c.verbose then o.after (importLog c.input i) else o)

def generateCommand (c : Context) (file : String) (out : Option String) : Run m Outcome :=
  withModel c file fun s => do
    let (text, problems) ← orNumber s.generate
    let warnings ← problems.mapM fun p =>
      say ("[yellow]Warning (" ++ p.field ++ "):[/] " ++ Markup.escape p.message)
    return (← writeOrPrint text out "config").after (String.join warnings)

def importCommand (c : Context) (out : Option String) (strict : Bool) : Run m Outcome :=
  withImport c fun i => do
    let messages := OutputFormat.rich.messageText .errors i.errors ++
      OutputFormat.rich.messageText .warnings (i.warnings.map (·.message))
    if strict && !i.errors.isEmpty then return { exit := 1, stderr := messages }
    return (← writeOrPrint (← modelText c i.site) out "model").after messages

/-- The lint report on a site. -/
def lintSite (c : Context) (target : String) (format : OutputFormat) (explain : Bool) (s : Site) :
    Run m Outcome := do
  match c.settings.ignoredIds with
  | .error f => throw (.ignored f)
  | .ok ids =>
    let r := (lint ruleTable s).ignoring ids
    return { exit := r.exitCode
             stdout := ← orMarkup (format.lintText explain (fileName target) r)
             stderr := incidentLog (lintIncidents ruleTable s) }

def lintCommand (c : Context) (target : String) (format : Option OutputFormat) (explain : Bool) :
    Run m Outcome :=
  let format := format.getD c.settings.outputFormat
  let explain := explain || c.settings.explains
  if isModelFile target then withModel c target (lintSite c target format explain)
  else
    withImport c fun i => do
      let messages := if format = .json then "" else
        format.messageText .errors i.errors ++
          format.messageText .warnings (i.warnings.map (·.message))
      return (← lintSite c target format explain i.site).after messages

def fixCommand (c : Context) (file : String) (ruleId : Option String) (maxPasses : Option Int)
    (out : Option String) : Run m Outcome :=
  withModel c file fun s => do
    let finish (r : Except NumberFault (FixResult Site × List Incident)) : Run m Outcome := do
      let (result, incidents) ← orNumber r
      let report ← orMarkup (OutputFormat.rich.fixText result.applied result.ruleIds)
      return (← writeOrPrint (← modelText c result.model) out "model").after
        (incidentLog incidents ++ report)
    match ruleId.filter (!·.isEmpty) with
    | some id =>
      if (rule? id).isNone then failure ("Unknown rule: " ++ id)
      else finish (applyFix ruleTable id s)
    | none => finish (applyAllFixes ruleTable (maxPasses.getD c.settings.maxFixPasses) s)

def validateCommand (c : Context) (file : String) : Run m Outcome :=
  withModel c file fun s => do
    let problems ← orNumber s.problems
    if problems.isEmpty then return { stdout := "PASS: No structural problems.\n" }
    return { exit := if problems.any (·.severity = .error) then 1 else 0
             stdout := ← orMarkup <| output <$> table "Validation"
               [{ heading := "Severity" }, { heading := "Field" }, { heading := "Message" }]
               (problems.map fun p =>
                 [spell p.severity, Markup.escape p.field, Markup.escape p.message]) }

def rulesCommand : Run m Outcome := do
  return { stdout := ← orMarkup <| output <$> table "Lint Rules"
             [{ heading := "ID" }, { heading := "Severity" }, { heading := "Category" },
               { heading := "Fix" }, { heading := "Title" }]
             (ruleTable.map fun r =>
               [r.id, spell r.severity, spell r.category, if r.fixable then "yes" else "",
                 r.title]) }

def explainCommand (id : String) : Run m Outcome :=
  match rule? id with
  | none => failure ("Unknown rule: " ++ id)
  | some r => pure
    { stdout := output
        ([r.id ++ ": " ++ r.title,
          "   Severity: " ++ spell r.severity ++ "   Category: " ++ spell r.category,
          "   " ++ r.message] ++
        (match explanation? r.id with
          | some e => e.lines "   "
          | none => [])) }

/-- Shows the settings, one a line. The values are markup. -/
def showCommand (c : Context) : Run m Outcome := do
  let file ← say ("[dim]Settings file:[/] " ++ settingsFile c.settingsDirectory)
  let values ← c.settings.toEntries.mapM fun e => do
    say ("[bold green]" ++ e.1 ++ "[/]: " ++ (← orNumber (Settings.shown e.2)))
  return { stdout := file ++ String.join values }

/-- Changes a setting, read anew from its file. -/
def setCommand (c : Context) (key value : String) : Run m Outcome :=
  match c.yaml.read value with
  | .error .invalid => failure ("no valid YAML: " ++ value)
  | .error (.value reason) => failure reason
  | .ok d => do
    let (result, warnings) ← changeSetting c.yaml c.settingsDirectory key d
    let log := settingsLog (settingsFile c.settingsDirectory) warnings
    match result with
    | .error (.unknownKey key) => return (← failure ("Unknown setting: " ++ key)).after log
    | .error f => return (← failure f.message).after log
    | .ok _ =>
      return { stdout := ← say ("[bold green]✓ Updated setting:[/] " ++ key), stderr := log }

/-- The input file of a command. -/
def Command.input? : Command → Option String
  | generate file _ => some file
  | importText file _ _ => some file
  | lint file _ _ => some file
  | fix file _ _ _ => some file
  | validate file => some file
  | _ => none

def runCommand (c : Context) : Command → Run m Outcome
  | .init out => do writeOrPrint (← modelText c {}) out "model"
  | .generate file out => generateCommand c file out
  | .importText _ out strict => importCommand c out strict
  | .lint target format explain => lintCommand c target format explain
  | .fix file rule passes out => fixCommand c file rule passes out
  | .validate file => validateCommand c file
  | .rules => rulesCommand
  | .explain id => explainCommand id
  | .showSettings => showCommand c
  | .setSetting key value => setCommand c key value

/-- The directory with the settings: the one of the options, the one of the environment, or the one
at home. An empty name counts as none. -/
def Environment.settingsDirectory (env : Environment) (options : Options) : String :=
  match options.configDir.filter (!·.isEmpty), env.configDirectory.filter (!·.isEmpty) with
  | some d, _ => normalPath d
  | none, some d =>
    if d == "~" || startsWith d "~/" then
      resolve env.currentDirectory (inside env.home (.ofList (d.toList.drop 1)))
    else resolve env.currentDirectory d
  | none, none => inside env.home ".nginx-confgen"

/-- The text of an input file; a command without one has an empty input. -/
def readInput (c : Command) : Run m String :=
  match c.input? with
  | none => pure ""
  | some path => do
    match ← (Files.look path : m _) with
    | .ok (.text t) => return .ofList (unifyLineEnds t.toList)
    | _ => throw (.usage (.badFile path))

def orUsage {α : Type} (r : Except UsageFault α) : Run m α :=
  match r with
  | .ok a => pure a
  | .error f => throw (.usage f)

def usage : String :=
  "Usage: nginx-confgen [OPTIONS] COMMAND [ARGS]...\n\n" ++
    "Commands: init, generate, import, lint, fix, validate, rules, explain, config show, " ++
    "config set\n"

/-- Runs the program. The settings are read before the arguments of the command. -/
def run (env : Environment) (args : List String) : Run m Outcome := do
  match ← orUsage (Request.ofArguments args) with
  | .help => return { stdout := usage }
  | .version => return { stdout := "nginx-confgen, version 0.1.0\n" }
  | .run options name args =>
    let directory := env.settingsDirectory options
    let (settings, warnings) ← loadSettings env.yaml directory
    let log := settingsLog (settingsFile directory) warnings
    match ← orUsage (Command.ofArguments name args) with
    | none => return { stdout := usage, stderr := log }
    | some command =>
      let input ← readInput command
      let o ← runCommand
        { settings, settingsDirectory := directory, verbose := options.verbose, input,
          yaml := env.yaml } command
      return o.after log

end SiteConf.Cli
