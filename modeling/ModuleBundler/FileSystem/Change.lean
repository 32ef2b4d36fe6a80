import ModuleBundler.FileSystem.Basic

/-!
What changes a file system. Each action either takes effect or fails; one that fails has changed
nothing, unless it is made of several.
-/

namespace ModuleBundler

abbrev DiskAction := EStateM AccessError FileSystem

namespace FileSystem

def change (compute : FileSystem → Except AccessError FileSystem) : DiskAction Unit := fun disk =>
  match compute disk with
  | .ok changed => .ok () changed
  | .error error => .error error disk

def makeDirectory (path : Path) : DiskAction Unit :=
  change fun disk => do
    let location ← disk.target path .alreadyExists
    match disk.find? location with
    | some _ => throw .alreadyExists
    | none => return disk.set location .directory

/-- Makes the first of some paths a directory, each of which is the parent of the one before it. Where
a parent is missing it is made first. -/
def makeDirectoriesAlong : List Path → DiskAction Unit
  | [] => throw .noRoot
  | path :: parents => fun disk =>
    if path.text = "" then .ok () disk
    else
      match makeDirectory path disk with
      | .ok _ changed => .ok () changed
      | .error .notFound _ =>
        match makeDirectoriesAlong parents disk with
        | .error error changed => .error error changed
        | .ok _ changed =>
          match makeDirectory path changed with
          | .ok _ changed => .ok () changed
          | .error error changed =>
            if changed.isDirectory path then .ok () changed else .error error changed
      | .error error _ => if disk.isDirectory path then .ok () disk else .error error disk

def makeDirectories (path : Path) : DiskAction Unit :=
  makeDirectoriesAlong (path :: path.ancestors)

def write (path : Path) (content : ByteArray) : DiskAction Unit :=
  change fun disk => do
    let location ← disk.target path .isADirectory
    match disk.find? location with
    | some .directory => throw .isADirectory
    | _ => if path.endsOpen then throw .isADirectory else return disk.set location (.file content)

def removeFile (path : Path) : DiskAction Unit :=
  change fun disk => do
    let location ← disk.target path .isADirectory
    match disk.find? location with
    | none => throw .notFound
    | some .directory => throw .isADirectory
    | some (.file _) => if path.endsOpen then throw .notADirectory else return disk.clear location

def rename (source target : Path) : DiskAction Unit :=
  change fun disk => do
    let fromLocation ← disk.target source .busy
    let toLocation ← disk.target target .busy
    match disk.find? fromLocation, disk.find? toLocation with
    | none, _ => throw .notFound
    | some .directory, _ => throw .isADirectory
    | some (.file _), some .directory => throw .isADirectory
    | some (.file content), _ =>
      if source.endsOpen || target.endsOpen then throw .notADirectory
      else return (disk.clear fromLocation).set toLocation (.file content)

end FileSystem

end ModuleBundler
