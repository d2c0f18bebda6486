import SiteConf.Data.Json
import SiteConf.Data.Yaml
import SiteConf.Report.Lint
import SiteConf.Site.Fault

/-!
# Settings

The preferences of a user: the output format, the number of sweeps of a repair, the rules to hide,
and whether findings are explained. They are kept in a file as a map. What cannot be used is
reported and replaced by the defaults, all of them at once.
-/

namespace SiteConf

structure Settings where
  outputFormat : OutputFormat := .rich
  maxFixPasses : Int := 3
  /-- A list of rule ids; other data is kept as it is. -/
  ignoredRules : Data := .list []
  /-- A truth value; other data is kept as it is. -/
  explain : Data := .bool false

/-- Why a value is not kept. -/
inductive SettingsFault where
  | outputFormat
  | passesKind
  | passesRange
  | unknownKey (key : String)
  /-- The file with the settings could not be written to its end. -/
  | notWritten (reason : String)
  deriving DecidableEq, Repr

/-- What is wrong with a settings file. -/
inductive SettingsWarning where
  | unreadable (reason : String)
  | notMap
  | invalid (fault : SettingsFault)
  deriving DecidableEq, Repr

def SettingsFault.message : SettingsFault → String
  | outputFormat =>
    "output_format must be one of " ++
      Text.joinWith ", " ((Keyword.all : List OutputFormat).map spell)
  | passesKind => "max_fix_passes must be an integer"
  | passesRange => "max_fix_passes must be at least 1"
  | unknownKey key => Data.quoted key
  | notWritten reason => reason

def SettingsWarning.message (path : String) : SettingsWarning → String
  | unreadable reason => "Cannot read settings file " ++ path ++ ": " ++ reason
  | notMap => "Settings file " ++ path ++ " must contain a mapping"
  | invalid f => "Invalid settings in " ++ path ++ ": " ++ f.message

/-- What stands in the place of the settings file. -/
inductive SettingsFile where
  | missing
  | unreadable (reason : String)
  | data (d : Data)

/-- The settings file with a text. A value in it that cannot be made is a fault of its own, for a
reason that the reader gives. -/
def SettingsFile.ofText (y : YamlCodec) (t : String) : Except String SettingsFile :=
  match y.read t with
  | .ok d => .ok (.data d)
  | .error .invalid => .ok (.unreadable "no valid YAML")
  | .error (.value reason) => .error reason

namespace Settings

def toEntries (s : Settings) : Entries :=
  [("output_format", .text (spell s.outputFormat)), ("max_fix_passes", .int s.maxFixPasses),
    ("ignored_rules", s.ignoredRules), ("explain", s.explain)]

def readFormat : Data → Except SettingsFault OutputFormat
  | .text word => match Keyword.read? word with
    | some f => .ok f
    | none => .error .outputFormat
  | _ => .error .outputFormat

def readPasses : Data → Except SettingsFault Int
  | .int n => if n < 1 then .error .passesRange else .ok n
  | _ => .error .passesKind

/-- The settings of a map; what it does not name is the default, and other keys do not count. -/
def ofEntries (es : Entries) : Except SettingsFault Settings := do
  let base : Settings := {}
  let outputFormat ← match es.lookup "output_format" with
    | none => pure base.outputFormat
    | some d => readFormat d
  let maxFixPasses ← match es.lookup "max_fix_passes" with
    | none => pure base.maxFixPasses
    | some d => readPasses d
  pure { outputFormat, maxFixPasses,
         ignoredRules := (es.lookup "ignored_rules").getD base.ignoredRules,
         explain := (es.lookup "explain").getD base.explain }

/-- The settings in a file, and what is wrong with it. A file that is not there, or that holds a
value that counts as nothing, gives the defaults. -/
def load : SettingsFile → Settings × List SettingsWarning
  | .missing => ({}, [])
  | .unreadable reason => ({}, [.unreadable reason])
  | .data d =>
    if d.isEmpty then ({}, [])
    else match d with
      | .map es => match ofEntries es with
        | .ok s => (s, [])
        | .error f => ({}, [.invalid f])
      | _ => ({}, [.notMap])

/-- The content of a file with the settings. -/
def toData (s : Settings) : Data := .map s.toEntries

/-- The settings with one value changed. -/
def set (key : String) (value : Data) (s : Settings) : Except SettingsFault Settings :=
  if (s.toEntries.lookup key).isNone then .error (.unknownKey key)
  else ofEntries (Entries.insert key value s.toEntries)

/-- The texts among the items of a list, none of which may be a list or map. -/
def idTexts : List Data → Except Fault (List String)
  | [] => .ok []
  | .text t :: rest => (t :: ·) <$> idTexts rest
  | .list ds :: _ => .error (.notHashable (Data.list ds).kind)
  | .map es :: _ => .error (.notHashable (Data.map es).kind)
  | _ :: rest => idTexts rest

/-- The rules to hide: the texts of a list, the keys of a map, the characters of a text. A value
that counts as nothing hides none; any other value, a list that holds lists or maps included, is no
set of rules. -/
def ignoredIds (s : Settings) : Except Fault (List String) :=
  match s.ignoredRules with
  | .list ds => idTexts ds
  | .map es => .ok (es.map (·.1))
  | .text t => .ok (t.toList.map String.singleton)
  | d => if d.isEmpty then .ok [] else .error (.notIterable d.kind)

/-- Findings are explained. -/
def explains (s : Settings) : Bool := !s.explain.isEmpty

/-- A value as it is shown. -/
def shown : Data → Except Text.NumberFault String
  | .text s => .ok s
  | d => d.writeLiteral

end Settings
end SiteConf
