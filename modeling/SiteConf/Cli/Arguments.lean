import SiteConf.Report.Lint
import SiteConf.Text.Alphanumeric
import SiteConf.Text.Blank
import SiteConf.Text.Decimal
import SiteConf.Text.Split

/-!
# Command line arguments

What a list of arguments asks for. Options may stand anywhere among the arguments of a command,
those of the whole program before its name; an option with a value takes the next argument, what
follows `=`, or, for one letter, what follows the letter. After `--` nothing is an option. Of an
option that stands twice the last counts.

Arguments are read in two stages: `Request.ofArguments` reads up to the name of the command, and
`Command.ofArguments` the rest.
-/

namespace SiteConf.Cli
open Text

/-- A command with its arguments. -/
inductive Command where
  | init (output : Option String)
  | generate (file : String) (output : Option String)
  | importText (file : String) (output : Option String) (strict : Bool)
  | lint (target : String) (format : Option OutputFormat) (explain : Bool)
  | fix (file : String) (rule : Option String) (maxPasses : Option Int) (output : Option String)
  | validate (file : String)
  | rules
  | explain (rule : String)
  | showSettings
  | setSetting (key value : String)
  deriving Repr

/-- The options of the whole program. -/
structure Options where
  configDir : Option String := none
  verbose : Bool := false
  deriving Repr

/-- The names of the commands. -/
inductive CommandName where
  | init
  | generate
  | importText
  | lint
  | fix
  | validate
  | rules
  | explain
  | config
  deriving DecidableEq, Repr

instance : Keyword CommandName where
  label := "command"
  all := [.init, .generate, .importText, .lint, .fix, .validate, .rules, .explain, .config]
  spell
    | .init => "init"
    | .generate => "generate"
    | .importText => "import"
    | .lint => "lint"
    | .fix => "fix"
    | .validate => "validate"
    | .rules => "rules"
    | .explain => "explain"
    | .config => "config"
  find?_spell a := by cases a <;> rfl

/-- The commands on settings. -/
inductive ConfigName where
  | display
  | set
  deriving DecidableEq, Repr

instance : Keyword ConfigName where
  label := "command"
  all := [.display, .set]
  spell
    | .display => "show"
    | .set => "set"
  find?_spell a := by cases a <;> rfl

inductive Request where
  | help
  | version
  | run (options : Options) (name : CommandName) (args : List String)
  deriving Repr

/-- Why arguments are refused. -/
inductive UsageFault where
  | noSuchOption (option : String)
  | needsValue (option : String)
  | takesNoValue (option : String)
  | badValue (option value : String)
  | noSuchCommand (name : String)
  | missingCommand
  | missingArgument
  | extraArgument (argument : String)
  /-- An input file is not there, or is a directory. -/
  | badFile (path : String)
  deriving Repr

def UsageFault.message : UsageFault → String
  | noSuchOption o => "No such option: " ++ o
  | needsValue o => "Option '" ++ o ++ "' requires an argument."
  | takesNoValue o => "Option '" ++ o ++ "' does not take a value."
  | badValue o v => "Invalid value for '" ++ o ++ "': '" ++ v ++ "'"
  | noSuchCommand n => "No such command '" ++ n ++ "'."
  | missingCommand => "Missing command."
  | missingArgument => "Missing argument."
  | extraArgument a => "Got unexpected extra argument (" ++ a ++ ")"
  | badFile p => "File '" ++ p ++ "' does not exist or is a directory."

/-! ### Options -/

/-- An option: its long name, the letter for it, and whether it has a value. -/
structure OptionSpec where
  long : String
  letter : Option Char := none
  hasValue : Bool := true

/-- The long names and values of options in the order of the arguments, and the other arguments. -/
structure Parsed where
  options : List (String × String) := []
  arguments : List String := []

namespace Parsed

def addOption (p : Parsed) (name value : String) : Parsed :=
  { p with options := p.options ++ [(name, value)] }

/-- The value of the last occurrence. -/
def value? (p : Parsed) (name : String) : Option String := p.options.reverse.lookup name

def has (p : Parsed) (name : String) : Bool := (p.value? name).isSome

end Parsed

def helpSpec : OptionSpec := { long := "--help", hasValue := false }

/-- The letters of an argument such as `-vc`. A letter with a value takes the other letters, or the
`next` argument; the truth value says whether it took that. -/
def readLetters (specs : List OptionSpec) (next : Option String) (p : Parsed) :
    List Char → Except UsageFault (Parsed × Bool)
  | [] => .ok (p, false)
  | c :: cs =>
    match specs.find? (·.letter == some c) with
    | none => .error (.noSuchOption (.ofList ['-', c]))
    | some spec =>
      if spec.hasValue then
        if cs.isEmpty then
          match next with
          | some v => .ok (p.addOption spec.long v, true)
          | none => .error (.needsValue spec.long)
        else .ok (p.addOption spec.long (.ofList cs), false)
      else readLetters specs next (p.addOption spec.long "") cs

/-- An argument that starts with a dash; the truth value says whether it took the `next` one. -/
def readOption (specs : List OptionSpec) (next : Option String) (p : Parsed) (arg : String) :
    Except UsageFault (Parsed × Bool) :=
  let attached := arg.toList.contains '='
  let (name, value) := cutAtChar '=' arg
  match specs.find? (·.long == name) with
  | some spec =>
    if spec.hasValue then
      if attached then .ok (p.addOption spec.long value, false)
      else match next with
        | some v => .ok (p.addOption spec.long v, true)
        | none => .error (.needsValue spec.long)
    else if attached then .error (.takesNoValue spec.long)
    else .ok (p.addOption spec.long "", false)
  | none =>
    if startsWith arg "--" then .error (.noSuchOption arg)
    else readLetters specs next p (arg.toList.drop 1)

/-- Reads options and arguments. Without `anywhere` the options end at the first other argument. -/
def readArguments (specs : List OptionSpec) (anywhere : Bool) (p : Parsed) :
    List String → Except UsageFault Parsed
  | [] => .ok p
  | arg :: rest =>
    if arg == "--" then .ok { p with arguments := p.arguments ++ rest }
    else if startsWith arg "-" && arg != "-" then do
      let (p, tookNext) ← readOption specs rest.head? p arg
      readArguments specs anywhere p (rest.drop (if tookNext then 1 else 0))
    else if anywhere then
      readArguments specs anywhere { p with arguments := p.arguments ++ [arg] } rest
    else .ok { p with arguments := p.arguments ++ arg :: rest }
termination_by args => args.length
decreasing_by
  · simp only [List.length_drop, List.length_cons]; omega
  · simp

def parse (specs : List OptionSpec) (anywhere : Bool) (args : List String) :
    Except UsageFault Parsed :=
  readArguments (helpSpec :: specs) anywhere {} args

/-! ### Values -/

/-- Digits with single underscores between them. -/
def groupedDigits : List Char → Option (List Char)
  | [] => none
  | [c] => if isDecimal c then some [c] else none
  | c :: '_' :: cs => if isDecimal c then (c :: ·) <$> groupedDigits cs else none
  | c :: cs => if isDecimal c then (c :: ·) <$> groupedDigits cs else none

/-- The blanks around a number: the white space of ASCII without its four separators, and all white
space beyond. -/
def isNumberBlank (c : Char) : Bool :=
  if c.toNat < 0x80 then c == ' ' || (9 ≤ c.toNat && c.toNat ≤ 13) else isBlank c

/-- A number from its digits, if they are not too many. -/
def boundedInt? (cs : List Char) : Option Int := do
  let ds ← groupedDigits cs
  match readNumber ds with
  | .ok n => some n
  | .error _ => none

/-- A whole number with a sign or without, blanks around it. -/
def readInt? (s : String) : Option Int :=
  let cs := s.toList.dropWhile isNumberBlank
  match (cs.reverse.dropWhile isNumberBlank).reverse with
  | '-' :: cs => (boundedInt? cs).map fun n => -n
  | '+' :: cs => boundedInt? cs
  | cs => boundedInt? cs

def readPasses (p : Parsed) : Except UsageFault (Option Int) :=
  match p.value? "--max-passes" with
  | none => .ok none
  | some v => match readInt? v with
    | some n => if 1 ≤ n then .ok (some n) else .error (.badValue "--max-passes" v)
    | none => .error (.badValue "--max-passes" v)

def readFormat (p : Parsed) : Except UsageFault (Option OutputFormat) :=
  match p.value? "--format" with
  | none => .ok none
  | some v => match Keyword.read? v with
    | some f => .ok (some f)
    | none => .error (.badValue "--format" v)

/-! ### Commands -/

def outputSpec : OptionSpec := { long := "--output", letter := some 'o' }

def noArgument (p : Parsed) : Except UsageFault Unit :=
  match p.arguments with
  | [] => .ok ()
  | a :: _ => .error (.extraArgument a)

def oneArgument (p : Parsed) : Except UsageFault String :=
  match p.arguments with
  | [] => .error .missingArgument
  | [a] => .ok a
  | _ :: a :: _ => .error (.extraArgument a)

/-- Reads the arguments of a command; `--help` goes before all else. -/
def command (specs : List OptionSpec) (args : List String)
    (read : Parsed → Except UsageFault Command) : Except UsageFault (Option Command) := do
  let p ← parse specs true args
  if p.has "--help" then pure none else some <$> read p

/-- A command by its name; nothing if the name cannot be one, which is taken as a call for help. -/
def readName (α : Type) [Keyword α] (name : String) : Except UsageFault (Option α) :=
  match Keyword.read? name with
  | some a => .ok (some a)
  | none => match name.toList with
    | c :: _ => if isAlphanumeric c then .error (.noSuchCommand name) else .ok none
    | [] => .error (.noSuchCommand name)

def readConfigCommand (args : List String) : Except UsageFault (Option Command) := do
  let p ← parse [] false args
  if p.has "--help" then return none
  match p.arguments with
  | [] => if args.isEmpty then return none else throw .missingCommand
  | name :: args => match ← readName ConfigName name with
    | none => return none
    | some .display => command [] args fun p => do
      noArgument p
      pure .showSettings
    | some .set => command [] args fun p =>
      match p.arguments with
      | [key, value] => .ok (.setSetting key value)
      | _ :: _ :: a :: _ => .error (.extraArgument a)
      | _ => .error .missingArgument

/-- The arguments of a command; nothing if it is asked for help. -/
def Command.ofArguments (name : CommandName) (args : List String) :
    Except UsageFault (Option Command) :=
  match name with
  | .init => command [outputSpec] args fun p => do
    noArgument p
    pure (.init (p.value? "--output"))
  | .generate => command [outputSpec] args fun p => do
    pure (.generate (← oneArgument p) (p.value? "--output"))
  | .importText => command [outputSpec, { long := "--strict", hasValue := false }] args fun p => do
    pure (.importText (← oneArgument p) (p.value? "--output") (p.has "--strict"))
  | .lint =>
    command [{ long := "--format" }, { long := "--explain", hasValue := false }] args fun p => do
      pure (.lint (← oneArgument p) (← readFormat p) (p.has "--explain"))
  | .fix =>
    command [{ long := "--rule" }, { long := "--max-passes" }, outputSpec] args fun p => do
      pure (.fix (← oneArgument p) (p.value? "--rule") (← readPasses p) (p.value? "--output"))
  | .validate => command [] args fun p => do pure (.validate (← oneArgument p))
  | .rules => command [] args fun p => do
    noArgument p
    pure .rules
  | .explain => command [] args fun p => do pure (.explain (← oneArgument p))
  | .config => readConfigCommand args

/-- The first of two options without value that the arguments name. -/
def Parsed.first? (p : Parsed) (names : List String) : Option String :=
  (p.options.map (·.1)).find? names.contains

/-- What the arguments of the program ask for. -/
def Request.ofArguments (args : List String) : Except UsageFault Request := do
  let p ← parse
    [{ long := "--config", letter := some 'c' },
      { long := "--verbose", letter := some 'v', hasValue := false },
      { long := "--version", hasValue := false }] false args
  if args.isEmpty then return .help
  match p.first? ["--help", "--version"] with
  | some "--version" => return .version
  | some _ => return .help
  | none => match p.arguments with
    | [] => throw .missingCommand
    | name :: args => match ← readName CommandName name with
      | none => return .help
      | some name =>
        return .run { configDir := p.value? "--config", verbose := p.has "--verbose" } name args

end SiteConf.Cli
