import ModuleBundler.Build.Session
import ModuleBundler.FileSystem.Change

/-!
Writing assets to the output directory. Every asset is staged beside its target first; only when all of them
are staged they are moved to their targets. A file that is replaced is kept aside until all targets are in
place, so that a failure can put everything back.
-/

namespace ModuleBundler.Persist

structure Desk where
  disk : FileSystem
  log : List LogLine
  deriving Inhabited

abbrev Writing := EStateM AccessError Desk

def onDisk (action : DiskAction α) : Writing α := fun desk =>
  match action desk.disk with
  | .ok found disk => .ok found { desk with disk }
  | .error error disk => .error error { desk with disk }

def orWarn (message : String) (action : DiskAction Unit) (desk : Desk) : Desk :=
  match action desk.disk with
  | .ok _ disk => { desk with disk }
  | .error error disk => ⟨disk, desk.log ++ [⟨.warn, message ++ ": " ++ error.message⟩]⟩

def orIgnore (action : DiskAction Unit) (desk : Desk) : Desk :=
  match action desk.disk with
  | .ok _ disk | .error _ disk => { desk with disk }

def stagingSuffix : String := "modpack-tmp"
def backupSuffix : String := "modpack-bak"

def sibling (target : Path) (suffix : String) : Path :=
  target.withFileName ("." ++ target.fileName?.getD "" ++ "." ++ suffix)

def isAssetName (name : String) : Bool :=
  name != "" && (Path.components ⟨name⟩).all fun component =>
    match component with
    | .normal _ | .current => true
    | .root | .parent => false

structure Staged where
  staging : Path
  target : Path
  deriving DecidableEq, Repr, Inhabited

def Staged.of (directory : Path) (name : String) : Staged :=
  let target := directory.join ⟨name⟩
  ⟨sibling target stagingSuffix, target⟩

def stage (staged : Staged) (asset : Asset) : Writing Unit := do
  match staged.target.parent? with
  | some directory => onDisk (FileSystem.makeDirectories directory)
  | none => pure ()
  onDisk (FileSystem.write staged.staging asset.bytes)

def discard (staged : List Staged) (desk : Desk) : Desk :=
  staged.foldl (fun desk entry =>
    orWarn ("Failed to remove staged file " ++ entry.staging.text)
      (FileSystem.removeFile entry.staging) desk) desk

def stageAll (directory : Path) (done : List Staged) :
    List (String × Asset) → EStateM BuildError Desk (List Staged)
  | [] => return done
  | (name, asset) :: assets => fun desk =>
    let staged := Staged.of directory name
    match stage staged asset desk with
    | .ok _ desk => stageAll directory (done ++ [staged]) assets desk
    | .error error desk =>
      .error (.io staged.target error)
        (orIgnore (FileSystem.removeFile staged.staging) (discard done desk))

structure Committed where
  target : Path
  backup : Option Path
  deriving DecidableEq, Repr, Inhabited

def restore (backup target : Path) (desk : Desk) : Desk :=
  orWarn ("Failed to restore " ++ target.text ++ " from " ++ backup.text)
    (FileSystem.rename backup target) desk

def keepAside (target : Path) : Writing (Option Path) := fun desk =>
  if desk.disk.isFile target then
    let backup := sibling target backupSuffix
    match onDisk (FileSystem.rename target backup) desk with
    | .ok _ desk => .ok (some backup) desk
    | .error error desk => .error error desk
  else .ok none desk

def commit (staged : Staged) : Writing Committed := fun desk =>
  match keepAside staged.target desk with
  | .error error desk => .error error desk
  | .ok backup desk =>
    match onDisk (FileSystem.rename staged.staging staged.target) desk with
    | .ok _ desk => .ok ⟨staged.target, backup⟩ desk
    | .error error desk =>
      .error error
        (match backup with
        | some kept => restore kept staged.target desk
        | none => desk)

def rollBack (committed : List Committed) (desk : Desk) : Desk :=
  committed.reverse.foldl (fun desk entry =>
    let desk := orWarn ("Failed to remove " ++ entry.target.text)
      (FileSystem.removeFile entry.target) desk
    match entry.backup with
    | some backup => restore backup entry.target desk
    | none => desk) desk

/-- Moves staged files to their targets one after another. If one cannot be moved, everything is put
back. -/
def commitAll (done : List Committed) :
    List Staged → EStateM BuildError Desk (List Committed)
  | [] => return done
  | staged :: rest => fun desk =>
    match commit staged desk with
    | .ok committed desk => commitAll (done ++ [committed]) rest desk
    | .error error desk =>
      .error (.io staged.target error) (discard (staged :: rest) (rollBack done desk))

def dropBackups (committed : List Committed) (desk : Desk) : Desk :=
  (committed.filterMap Committed.backup).foldl (fun desk backup =>
    orWarn ("Failed to remove backup " ++ backup.text) (FileSystem.removeFile backup) desk) desk

def writeAssets (assets : Table Asset) (directory : Path) :
    EStateM BuildError Desk (List String) := do
  match assets.names.find? fun name => !isAssetName name with
  | some name => throw (.invalidAssetName name)
  | none =>
    fun desk =>
      match onDisk (FileSystem.makeDirectories directory) desk with
      | .error error desk => .error (.io directory error) desk
      | .ok _ desk => (do
          let staged ← stageAll directory [] assets.entries
          let committed ← commitAll [] staged
          modify (dropBackups committed)
          return assets.names) desk

end ModuleBundler.Persist
