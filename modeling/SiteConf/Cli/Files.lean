import SiteConf.Data.Literal
import SiteConf.Text.Split

/-!
# Files

What the command line needs of a place with files: looking at a path, writing a text, and making the
directories on the way to a file. `Store` is such a place that is plain data.

Paths are texts whose names are separated by slashes. A `Store` walks along a path name by name, so
that a file in the middle, or with a slash at the end, is told from a path that is not there.
-/

namespace SiteConf.Cli
open Text

/-- What stands at a path. -/
inductive Contents where
  | directory
  | text (s : String)

/-- Why a path cannot be read or written. -/
inductive FileCause where
  | noEntry
  | taken
  | notDirectory
  | isDirectory
  | nameTooLong
  | other (reason : String)

/-- A cause, and the path that it is about. -/
structure FileFault where
  cause : FileCause
  path : String

/-- The system's text for a fault. -/
def FileFault.message (f : FileFault) : String :=
  let about (reason : String) : String := reason ++ ": " ++ Data.quoted f.path
  match f.cause with
  | .noEntry => about "[Errno 2] No such file or directory"
  | .taken => about "[Errno 17] File exists"
  | .notDirectory => about "[Errno 20] Not a directory"
  | .isDirectory => about "[Errno 21] Is a directory"
  | .nameTooLong => about "[Errno 36] File name too long"
  | .other reason => reason

/-- A place with files. -/
class Files (m : Type → Type) where
  look : String → m (Except FileFault Contents)
  write : String → String → m (Except FileFault Unit)
  createDirectories : String → m (Except FileFault Unit)

/-! ### Paths -/

/-- The names on a path. -/
def pathNames (path : String) : List String := (splitAtChar '/' path.toList).map .ofList

/-- The names on a path that are neither empty nor the directory itself. -/
def pathParts (path : String) : List String := (pathNames path).filter fun p => p != "" && p != "."

/-- The path with some names on it, and `.` for none. -/
def joinPath (absolute : Bool) (parts : List String) : String :=
  let body := joinWith "/" parts
  if absolute then "/" ++ body else if body.isEmpty then "." else body

/-- A path without empty names. -/
def normalPath (path : String) : String := joinPath (startsWith path "/") (pathParts path)

/-- The last name on a path. -/
def fileName (path : String) : String := (pathParts path).getLast?.getD ""

/-- What follows the last dot of a file name, with the dot; nothing if the dot is first or last. -/
def suffix (path : String) : String :=
  let name := (fileName path).toList
  let tail := afterLast '.' name
  if tail.length + 1 < name.length && !tail.isEmpty then .ofList ('.' :: tail) else ""

/-- A path inside a directory. -/
def inside (directory path : String) : String := normalPath (directory ++ "/" ++ path)

/-- The directory above, for each two dots among the names on a path from its start. -/
def dropBack (absolute : Bool) (parts : List String) : List String :=
  parts.foldl (fun ps p =>
    if p != ".." then ps ++ [p]
    else match ps.getLast? with
      | none => if absolute then [] else [".."]
      | some ".." => ps ++ [".."]
      | some _ => ps.dropLast) []

/-- A path as seen from a directory, without two dots after a name. -/
def resolve (directory path : String) : String :=
  let path := if startsWith path "/" then path else inside directory path
  let absolute := startsWith path "/"
  joinPath absolute (dropBack absolute (pathParts path))

/-! ### A place that is plain data -/

/-- A place: the names on the way from the directory where a run starts, or from the root, which is
the name `/`. -/
abbrev Position := List String

/-- Files by their positions, and the directories without files. -/
structure Store where
  files : List (Position × String) := []
  directories : List Position := []

namespace Position

/-- The directory above. -/
def up (p : Position) : Position :=
  if p = ["/"] then p else if p.all (· == "..") then p ++ [".."] else p.dropLast

/-- The directories that are always there: the root, the one where a run starts, those above. -/
def isBase (p : Position) : Bool := p == ["/"] || p.all (· == "..")

/-- The start of a path, and the names to follow. -/
def start (path : String) : Position × List String :=
  if startsWith path "/" then (["/"], pathNames path) else ([], pathNames path)

end Position

namespace Store

/-- Lengths in bytes of the longest name and the longest path. -/
def longestName : Nat := 255

def longestPath : Nat := 4095

/-- What stands at a position. -/
def contents (s : Store) (p : Position) : Option Contents :=
  match s.files.lookup p with
  | some t => some (.text t)
  | none =>
    if p.isBase || s.directories.contains p || s.files.any (fun f => p.isPrefixOf f.1) then
      some .directory
    else none

/-- The position that names lead to from `p`, and what stands there. -/
def walk (s : Store) (p : Position) :
    List String → Except FileCause (Position × Option Contents)
  | [] => .ok (p, s.contents p)
  | name :: rest =>
    match s.contents p with
    | none => .error .noEntry
    | some (.text _) => .error .notDirectory
    | some .directory =>
      if name == "" || name == "." then s.walk p rest
      else if name == ".." then s.walk p.up rest
      else if longestName < name.utf8ByteSize then .error .nameTooLong
      else s.walk (p ++ [name]) rest

/-- The position of a path, and what stands there. -/
def locate (s : Store) (path : String) : Except FileCause (Position × Option Contents) :=
  if path.isEmpty then .error .noEntry
  else if longestPath < path.utf8ByteSize then .error .nameTooLong
  else
    let (p, names) := Position.start path
    s.walk p names

def look (s : Store) (path : String) : Except FileFault Contents :=
  match s.locate path with
  | .ok (_, some c) => .ok c
  | .ok (_, none) => .error ⟨.noEntry, path⟩
  | .error c => .error ⟨c, path⟩

def put (s : Store) (p : Position) (text : String) : Store :=
  { s with files := (p, text) :: s.files.filter (·.1 != p) }

def write (s : Store) (path text : String) : Except FileFault Store :=
  match s.locate path with
  | .ok (_, some .directory) => .error ⟨.isDirectory, path⟩
  | .ok (p, _) => .ok (s.put p text)
  | .error c => .error ⟨c, path⟩

/-- Makes one directory, if it is not there. -/
def createDirectory (s : Store) (path : String) : Except FileCause Store :=
  match s.locate path with
  | .ok (p, none) => .ok { s with directories := p :: s.directories }
  | .ok (_, some .directory) => .ok s
  | .ok (_, some (.text _)) => .error .taken
  | .error c => .error c

/-- Makes the directory whose names are given, the last one first, and those above it. -/
def createAlong (s : Store) (absolute : Bool) : List String → Except FileFault Store
  | [] => .ok s
  | name :: above =>
    let path := joinPath absolute (name :: above).reverse
    match s.createDirectory path with
    | .ok s => .ok s
    | .error .noEntry => do
      let s ← s.createAlong absolute above
      (s.createDirectory path).mapError (⟨·, path⟩)
    | .error c => .error ⟨c, path⟩

def createDirectories (s : Store) (path : String) : Except FileFault Store :=
  s.createAlong (startsWith path "/") (pathParts path).reverse

end Store

/-- Keeps the store that a change gives. -/
def Store.change (f : Store → Except FileFault Store) : StateM Store (Except FileFault Unit) := do
  match f (← get) with
  | .ok s => do
    MonadStateOf.set s
    return .ok ()
  | .error e => return .error e

instance : Files (StateM Store) where
  look path := do return (← get).look path
  write path text := Store.change fun s => s.write path text
  createDirectories path := Store.change fun s => s.createDirectories path

end SiteConf.Cli
