import SiteConf.Cli.Run

/-!
# The program

The command line on the files of the machine.
-/

open SiteConf.Cli

/-- What the machine says about a path. -/
def machineFault (path : String) (e : IO.Error) : FileFault :=
  let cause := match e with
    | .noFileOrDirectory .. => .noEntry
    | .alreadyExists .. => .taken
    | .inappropriateType _ 21 _ => .isDirectory
    | .inappropriateType _ 20 _ => .notDirectory
    | .invalidArgument _ 36 _ => .nameTooLong
    | e => .other (toString e)
  ⟨cause, path⟩

/-- Does something with a path of the machine. -/
def onMachine {α : Type} (path : String) (act : IO α) : IO (Except FileFault α) := do
  try
    return .ok (← act)
  catch e => return .error (machineFault path e)

instance : Files IO where
  look path := do
    match ← onMachine path (IO.FS.readFile path) with
    | .ok t => return .ok (.text t)
    | .error ⟨.isDirectory, _⟩ => return .ok .directory
    | .error f => return .error f
  write path text := onMachine path (IO.FS.writeFile path text)
  createDirectories path := onMachine path (IO.FS.createDirAll path)

def main (args : List String) : IO UInt32 := do
  let env : Environment :=
    { home := (← IO.getEnv "HOME").getD "/"
      currentDirectory := toString (← IO.currentDir)
      configDirectory := ← IO.getEnv "NGINX_CONFGEN_CONFIG" }
  match ← (run env args).run with
  | .ok o =>
    (← IO.getStderr).putStr o.stderr
    (← IO.getStdout).putStr o.stdout
    return o.exit.toUInt32
  | .error (.usage f) =>
    (← IO.getStderr).putStr (usage ++ "\nError: " ++ f.message ++ "\n")
    return 2
  | .error e =>
    (← IO.getStderr).putStr (e.message ++ "\n")
    return 1
