import SiteConf.Cli.Outcome
import SiteConf.Settings
import SiteConf.Text.Blank

/-!
# Keeping settings

The settings stand in the file `settings.yaml` of a directory, which is made when they are first
written. Writing starts with an empty file: if it breaks off, what was written by then is there.
-/

namespace SiteConf.Cli

/-- The file with the settings in a directory. -/
def settingsFile (directory : String) : String := inside directory "settings.yaml"

variable {m : Type → Type} [Monad m] [Files m] (y : YamlCodec)

/-- What stands at the path of the settings. -/
def readSettingsFile (path : String) : Run m SettingsFile := do
  match ← (Files.look path : m _) with
  | .ok (.text t) => match SettingsFile.ofText y (.ofList (Text.unifyLineEnds t.toList)) with
    | .ok f => return f
    | .error reason => throw (.value reason)
  | .ok .directory => return .unreadable (FileFault.message ⟨.isDirectory, path⟩)
  | .error ⟨.noEntry, _⟩ | .error ⟨.notDirectory, _⟩ => return .missing
  | .error f => throw (.file f)

/-- The settings in a directory, and what is wrong with their file. -/
def loadSettings (directory : String) : Run m (Settings × List SettingsWarning) := do
  return Settings.load (← readSettingsFile y (settingsFile directory))

def orFileFault (r : Except FileFault Unit) : Run m Unit :=
  match r with
  | .ok () => pure ()
  | .error f => throw (.file f)

/-- Writes settings into a directory, and gives the reason if that breaks off. -/
def saveSettings (directory : String) (s : Settings) : Run m (Option String) := do
  orFileFault (← (Files.createDirectories directory : m _))
  let (text, reason?) := y.write s.toData
  orFileFault (← (Files.write (settingsFile directory) text : m _))
  return reason?

/-- Changes one value in the settings of a directory, if it can be changed, and tells what is wrong
with their file before. -/
def changeSetting (directory key : String) (value : Data) :
    Run m (Except SettingsFault Settings × List SettingsWarning) := do
  let (current, warnings) ← loadSettings y directory
  match current.set key value with
  | .error f => return (.error f, warnings)
  | .ok s => match ← saveSettings y directory s with
    | none => return (.ok s, warnings)
    | some reason => return (.error (.notWritten reason), warnings)

end SiteConf.Cli
