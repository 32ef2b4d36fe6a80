import ModuleBundler.Command.Execute

/-!
The program. A build is carried out on what the disk holds in the directory of the configuration file and
in those that the configuration names; what it changes is written to the disk when it is over.
-/

namespace ModuleBundler

/-- What the disk holds at a place and below it. What is neither a directory nor a file is left out. -/
partial def scan (location : Location) (entry : IO.FS.DirEntry) : IO (List (Location × Node)) := do
  match (← entry.path.symlinkMetadata).type with
  | .dir =>
    let below ← (← entry.path.readDir).toList.mapM fun inner =>
      scan (location ++ [inner.fileName]) inner
    return (location, .directory) :: below.flatten
  | .file => return [(location, .file (← IO.FS.readBinFile entry.path))]
  | _ => return []

def above (location : Location) : List Location :=
  (List.range (location.length - 1)).map fun count => location.take (count + 1)

/-- Adds what the disk holds in a directory, and the directories on the way to it. A directory that is
known is not read again, and one that cannot be read stays unknown. -/
def addTree (disk : FileSystem) (directory : Path) : IO FileSystem := do
  let location := directory.normalize.names
  match location.getLast?, disk.find? location with
  | some name, none =>
    try
      let nodes ← scan location { root := Location.text location.dropLast, fileName := name }
      let ways := (above location).map fun place => (place, Node.directory)
      return (ways ++ nodes).foldl (fun disk (place, node) => disk.set place node) disk
    catch _ => return disk
  | _, _ => return disk

def readDisk (request : Command.Request) : IO FileSystem := do
  let here : Path := ⟨(← IO.currentDir).toString⟩
  let start : FileSystem := { FileSystem.empty with workingDirectory := here.names }
  let configFile := (here.join ⟨request.config⟩).normalize
  let disk ← addTree start (configFile.parent?.getD here)
  match request.configuration disk with
  | .ok config => [config.contextDirectory, config.outputDirectory].foldlM addTree disk
  | .error _ => return disk

def writeDisk (before after : FileSystem) : IO Unit := do
  for (location, _) in before.nodes do
    if (after.find? location).isNone then IO.FS.removeFile (Location.text location)
  for (location, node) in after.nodes.reverse do
    if before.find? location ≠ some node then
      match node with
      | .directory => IO.FS.createDirAll (Location.text location)
      | .file content => IO.FS.writeBinFile (Location.text location) content

def LogLine.text (line : LogLine) : String :=
  match line.level with
  | .info => "INFO " ++ line.message
  | .warn => "WARN " ++ line.message

def Report.Duration.ofNanoseconds (count : Nat) : Report.Duration :=
  ⟨count / 1000000000, count % 1000000000⟩

namespace Command

def UsageError.text : UsageError → String
  | help | helpOnMissingSubcommand | missingSubcommand =>
    "Usage: modpack [--config <FILE>] [--verbose] build [--outdir <DIR>] [--filename <PATTERN>] " ++
      "[--context <DIR>] [--json]"
  | version => "modpack " ++ Command.version
  | invalidSubcommand => "error: unrecognized subcommand"
  | unknownArgument => "error: unexpected argument"
  | invalidValue => "error: a value is missing or empty"
  | tooManyValues => "error: a value where none is taken"
  | argumentConflict => "error: an argument is given more than once"

def UsageError.tell (error : UsageError) : IO UInt32 := do
  match error with
  | help | version =>
    IO.println error.text
    return 0
  | _ =>
    IO.eprintln error.text
    return 2

def Console.flush (console : Console) (before : FileSystem) : IO Unit := do
  writeDisk before console.disk
  for line in console.log do IO.eprintln line.text
  IO.eprint console.messages
  IO.print console.output

def Request.perform (request : Request) : IO UInt32 := do
  let start ← IO.monoNanosNow
  let disk ← readDisk request
  let fail (error : Failure) (console : Console) : IO UInt32 := do
    console.flush disk
    IO.eprintln ("Error: " ++ error.message)
    return 1
  match ← IO.lazyPure fun _ => request.produce (.new disk) with
  | .error error console => fail error console
  | .ok product console =>
    let elapsed := Report.Duration.ofNanoseconds ((← IO.monoNanosNow) - start)
    match request.report elapsed product console with
    | .error error console => fail error console
    | .ok _ console =>
      console.flush disk
      return 0

end Command

end ModuleBundler

def main (arguments : List String) : IO UInt32 := do
  match ModuleBundler.Command.Request.parse arguments with
  | .error error => error.tell
  | .ok request => request.perform
