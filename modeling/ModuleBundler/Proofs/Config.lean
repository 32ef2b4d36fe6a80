import ModuleBundler.Config.Decode
import ModuleBundler.Proofs.Resolver

/-!
Configurations that have been loaded: they are checked, and their directories are absolute.
-/

namespace ModuleBundler.Config

theorem validate_eq_ok {config checked : Config} :
    config.validate = .ok checked ↔ config.fault? = none ∧ config = checked := by
  unfold validate
  cases config.fault? with
  | none => simp
  | some fault => simp

theorem length_names (config : Config) :
    config.entries.names.length = config.entry.paths.size := by
  simp [entries, Table.names, Table.map, Table.size]

/-- The pattern of a configuration that passes its check asks for the name, unless there is only one. -/
theorem asks_for_name {config : Config} (sound : config.fault? = none) {name other : String}
    (listed : name ∈ config.entries.names) (among : other ∈ config.entries.names)
    (different : name ≠ other) :
    Text.occurs namePlaceholder.toList config.output.filename.toList = true := by
  have several : 1 < config.entry.paths.size := by
    rw [← length_names]
    match known : config.entries.names with
    | [] => simp [known] at listed
    | [only] =>
      rw [known, List.mem_singleton] at listed among
      exact absurd (listed.trans among.symm) different
    | _ :: _ :: _ => simp
  unfold fault? at sound
  dsimp only at sound
  split at sound
  · cases sound
  · split at sound
    · cases sound
    · rename_i fine
      simpa [several] using fine

theorem root_of_ofMembers? {root : Path} {members : List (String × Toml)} {config : Config}
    (read : ofMembers? root members = some config) : config.root = root := by
  unfold ofMembers? at read
  simp only [bind, Option.bind_eq_some_iff] at read
  obtain ⟨_, -, _, -, _, -, _, -, _, -, _, -, same⟩ := read
  cases same
  rfl

theorem isAbsolute_pathOf (location : Location) : (pathOf location).isAbsolute = true := by
  simp [Path.isAbsolute, Path.characters, pathOf]

/-- A configuration that has been loaded passes its check, and its root is absolute. -/
theorem fault?_and_root_of_load {disk : FileSystem} {path : Path} {config : Config}
    (loaded : load disk path = .ok config) :
    config.fault? = none ∧ config.root.isAbsolute = true := by
  unfold load at loaded
  generalize place : (if path.isAbsolute then path
    else (pathOf disk.workingDirectory).join path) = whole at loaded
  have absolute : whole.isAbsolute = true := by
    rw [← place]
    split
    · assumption
    · rw [Path.isAbsolute_join, isAbsolute_pathOf, Bool.or_true]
  dsimp only at loaded
  cases held : disk.readText whole with
  | error cause =>
    rw [held] at loaded
    cases loaded
  | ok text =>
    rw [held] at loaded
    dsimp only at loaded
    cases decoded : (Toml.ofText? text).bind (ofMembers? (whole.parent?.getD ⟨"."⟩)) with
    | none =>
      rw [decoded] at loaded
      cases loaded
    | some read =>
      rw [decoded] at loaded
      obtain ⟨sound, rfl⟩ := validate_eq_ok.1 loaded
      obtain ⟨members, -, made⟩ := Option.bind_eq_some_iff.1 decoded
      rw [root_of_ofMembers? made]
      exact ⟨sound, Path.isAbsolute_parent absolute (FileSystem.isFile_of_readText held)⟩

theorem isAbsolute_contextDirectory {config : Config} (rooted : config.root.isAbsolute = true) :
    config.contextDirectory.isAbsolute = true := by
  unfold contextDirectory
  cases config.context with
  | none => exact rooted
  | some context => rw [Path.isAbsolute_join, rooted, Bool.or_true]

end ModuleBundler.Config
