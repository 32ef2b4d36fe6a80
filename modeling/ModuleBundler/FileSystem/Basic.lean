import ModuleBundler.Path.Basic

/-!
A file system: which places hold a directory or a file. A place is named by the names on the way to it
from the root. Paths are looked up name by name, and each name but the last one has to be that of a
directory, before a step up as well.
-/

namespace ModuleBundler

abbrev Location := List String

def Location.text (location : Location) : String :=
  "/" ++ "/".intercalate location

inductive Node where
  | directory
  | file (content : ByteArray)
  deriving Inhabited

instance : DecidableEq Node
  | .directory, .directory => .isTrue rfl
  | .directory, .file _ | .file _, .directory => .isFalse nofun
  | .file left, .file right =>
    match ByteArray.decEq left right with
    | .isTrue same => .isTrue (congrArg Node.file same)
    | .isFalse differ => .isFalse fun same => differ (Node.file.inj same)

/-- Why the file system refuses something. -/
inductive AccessError where
  | notFound
  | alreadyExists
  | notADirectory
  | isADirectory
  | nameTooLong
  | busy
  | nulInPath
  | notText
  | noRoot
  deriving DecidableEq, Repr, Inhabited

def AccessError.message : AccessError → String
  | notFound => "No such file or directory (os error 2)"
  | alreadyExists => "File exists (os error 17)"
  | notADirectory => "Not a directory (os error 20)"
  | isADirectory => "Is a directory (os error 21)"
  | nameTooLong => "File name too long (os error 36)"
  | busy => "Device or resource busy (os error 16)"
  | nulInPath => "file name contained an unexpected NUL byte"
  | notText => "stream did not contain valid UTF-8"
  | noRoot => "failed to create whole tree"

/-- The places of a file system, apart from the root, and the directory that relative paths start
from. There are no links: a place holds a directory or a file of its own. A single action takes effect
as a whole or leaves everything as it was, so that a write that fails has left nothing behind. -/
structure FileSystem where
  nodes : List (Location × Node)
  workingDirectory : Location
  deriving Inhabited

namespace FileSystem

def empty : FileSystem := ⟨[], []⟩

def find? (disk : FileSystem) : Location → Option Node
  | [] => some .directory
  | location => (disk.nodes.find? (·.1 == location)).map Prod.snd

def set (disk : FileSystem) (location : Location) (node : Node) : FileSystem :=
  { disk with nodes := (location, node) :: disk.nodes.filter (·.1 != location) }

def clear (disk : FileSystem) (location : Location) : FileSystem :=
  { disk with nodes := disk.nodes.filter (·.1 != location) }

def clearBelow (disk : FileSystem) (location : Location) : FileSystem :=
  { disk with nodes := disk.nodes.filter fun entry => !location.isPrefixOf entry.1 }

def nameLimit : Nat := 255

def pathLimit : Nat := 4095

def pathCount : Nat := Nat.pow 257 pathLimit

def step (disk : FileSystem) (here : Location) (name : String) : Except AccessError Location :=
  match disk.find? here with
  | some .directory =>
    if name = "." then .ok here
    else if name = ".." then .ok here.dropLast
    else if nameLimit < name.utf8ByteSize then .error .nameTooLong
    else .ok (here ++ [name])
  | some (.file _) => .error .notADirectory
  | none => .error .notFound

def walk (disk : FileSystem) (here : Location) (names : List String) :
    Except AccessError Location :=
  names.foldlM disk.step here

end FileSystem

namespace Path

def names (path : Path) : List String :=
  ((splitSlashes path.characters).filter (· ≠ [])).map String.ofList

def endsOpen (path : Path) : Bool :=
  path.characters.getLast? == some '/'

def origin (path : Path) (disk : FileSystem) : Location :=
  if path.isAbsolute then [] else disk.workingDirectory

def fault? (path : Path) : Option AccessError :=
  if path.characters.contains '\x00' then some .nulInPath
  else if path.text = "" then some .notFound
  else if FileSystem.pathLimit < path.text.utf8ByteSize then some .nameTooLong
  else none

end Path

namespace FileSystem

def locate (disk : FileSystem) (path : Path) : Except AccessError Location :=
  match path.fault? with
  | some fault => .error fault
  | none =>
    disk.walk (path.origin disk) (path.names ++ if path.endsOpen then ["."] else [])

def stat (disk : FileSystem) (path : Path) : Except AccessError (Location × Node) := do
  let location ← disk.locate path
  match disk.find? location with
  | some node => return (location, node)
  | none => throw .notFound

def isFile (disk : FileSystem) (path : Path) : Bool :=
  match disk.stat path with
  | .ok (_, .file _) => true
  | _ => false

def isDirectory (disk : FileSystem) (path : Path) : Bool :=
  match disk.stat path with
  | .ok (_, .directory) => true
  | _ => false

def read (disk : FileSystem) (path : Path) : Except AccessError ByteArray := do
  match ← disk.stat path with
  | (_, .file content) => return content
  | (_, .directory) => throw .isADirectory

def readText (disk : FileSystem) (path : Path) : Except AccessError String := do
  match String.fromUTF8? (← disk.read path) with
  | some text => return text
  | none => throw .notText

/-- The place that a path names in a directory which exists, for what makes or takes away a name.
A path that ends with a dot, two dots or the root names no place but `otherwise`. -/
def target (disk : FileSystem) (path : Path) (otherwise : AccessError) :
    Except AccessError Location :=
  match path.fault? with
  | some fault => .error fault
  | none => do
    match path.names.getLast? with
    | none => throw otherwise
    | some name =>
      let directory ← disk.walk (path.origin disk) path.names.dropLast
      let location ← disk.step directory name
      if name = "." ∨ name = ".." then throw otherwise else return location

end FileSystem

end ModuleBundler
