import ModuleBundler.Import.Basic
import ModuleBundler.Proofs.Outcome
import ModuleBundler.Proofs.Path.Normal
import ModuleBundler.Proofs.Text.Quoted
import ModuleBundler.Resolver
import Mathlib.Data.Finset.Dedup
import Mathlib.Data.Finset.Filter

/-!
What a resolver finds, and the ids that it gives to files. Where it starts from an absolute path it finds
absolute ones, and the id of an absolute path depends on its place alone. As seen from an absolute root two
files have one id exactly if the ways to them are written alike but for backslashes.
-/

namespace ModuleBundler

namespace FileSystem

def holdsFile (disk : FileSystem) (place : Location) : Bool :=
  match disk.find? place with
  | some (.file _) => true
  | _ => false

theorem holdsFile_iff {disk : FileSystem} {place : Location} :
    disk.holdsFile place = true ↔ ∃ content, disk.find? place = some (.file content) := by
  unfold holdsFile
  cases disk.find? place with
  | none => simp
  | some node => cases node <;> simp

/-- The places that hold files. -/
def files (disk : FileSystem) : Finset Location :=
  {place ∈ (disk.nodes.map Prod.fst).toFinset | disk.holdsFile place = true}

theorem mem_files {disk : FileSystem} {place : Location} :
    place ∈ disk.files ↔ ∃ content, disk.find? place = some (.file content) := by
  rw [files, Finset.mem_filter, holdsFile_iff, List.mem_toFinset, and_iff_right_iff_imp]
  rintro ⟨content, held⟩
  unfold find? at held
  split at held
  · cases held
  · obtain ⟨entry, found, -⟩ := Option.map_eq_some_iff.1 held
    have same : entry.1 = place := by simpa using List.find?_some found
    exact List.mem_map.2 ⟨entry, List.mem_of_find?_eq_some found, same⟩

theorem placeOf_mem_files {disk : FileSystem} {path : Path} (isFile : disk.isFile path = true) :
    disk.placeOf path ∈ disk.files :=
  mem_files.2 (isFile_iff.1 isFile).2

theorem isFile_of_readText {disk : FileSystem} {path : Path} {text : String}
    (held : disk.readText path = .ok text) : disk.isFile path = true := by
  obtain ⟨content, reading, -⟩ := except_bind_eq_ok.1 held
  obtain ⟨located, here⟩ := read_eq_ok.1 reading
  exact isFile_iff.2 ⟨located, content, here⟩

theorem placeOf_ne_nil_of_isFile {disk : FileSystem} {path : Path} (isFile : disk.isFile path = true) :
    disk.placeOf path ≠ [] := by
  intro root
  obtain ⟨-, content, held⟩ := isFile_iff.1 isFile
  rw [root] at held
  cases held

/-- No file or directory has a backslash in its path. -/
def BackslashFree (disk : FileSystem) : Prop :=
  ∀ entry ∈ disk.nodes, ∀ name ∈ entry.1, '\\' ∉ name.toList

theorem BackslashFree.placeOf {disk : FileSystem} (free : disk.BackslashFree) {path : Path}
    (isFile : disk.isFile path = true) : ∀ name ∈ disk.placeOf path, '\\' ∉ name.toList := by
  have listed := (Finset.mem_filter.1 (placeOf_mem_files isFile)).1
  obtain ⟨entry, member, same⟩ := List.mem_map.1 (List.mem_toFinset.1 listed)
  rw [← same]
  exact free entry member

end FileSystem

namespace Path

/-- A file at an absolute path lies in the directory of an absolute path. -/
theorem isAbsolute_parent {path : Path} (absolute : path.isAbsolute = true) {disk : FileSystem}
    (isFile : disk.isFile path = true) : (path.parent?.getD ⟨"."⟩).isAbsolute = true := by
  cases above : path.parent? with
  | some parent =>
    obtain ⟨-, -, same⟩ := names_of_parent? above
    exact same.trans absolute
  | none =>
    exfalso
    obtain ⟨rest, whole⟩ := exists_rest absolute
    have parts : path.parts = (['/'], splitSlashes rest) := by
      unfold Path.parts
      rw [whole]
      rfl
    have trimmed : trimIdle (splitSlashes rest) = [] := by
      unfold parent? at above
      rw [parts] at above
      cases reversed : (trimIdle (splitSlashes rest)).reverse with
      | nil => exact List.reverse_eq_nil_iff.1 reversed
      | cons last earlier =>
        dsimp only at above
        rw [reversed] at above
        cases above
    -- only idle pieces are left, which lead nowhere
    obtain ⟨idles, cut, idle⟩ := trimIdle_append (splitSlashes rest)
    rw [trimmed, List.nil_append] at cut
    apply FileSystem.placeOf_ne_nil_of_isFile isFile
    rw [FileSystem.placeOf, place, if_pos absolute, names_eq, whole, splitSlashes_slash,
      namesOf_nil_cons, cut]
    exact Location.follow_dots _ fun dot member => eq_dot_of_mem_namesOf idle member

end Path

theorem Path.unixText_of_not_mem {path : Path} (free : '\\' ∉ path.characters) :
    path.unixText = path.text := by
  have kept : path.characters.map (fun c => if c = '\\' then '/' else c) = path.characters := by
    calc path.characters.map (fun c => if c = '\\' then '/' else c)
      _ = path.characters.map fun c => c := by
        apply List.map_congr_left
        intro c member
        apply if_neg
        rintro rfl
        exact free member
      _ = path.characters := List.map_id' _
  rw [Path.unixText, kept, Path.characters, String.ofList_toList]

theorem Location.unixText_relative (base : Location) {place : Location}
    (free : ∀ name ∈ place, '\\' ∉ name.toList) :
    (Location.relative base place).unixText = (Location.relative base place).text := by
  apply Path.unixText_of_not_mem
  intro member
  rw [relative, Path.characters_ofCharacters] at member
  rcases mem_joinSlashes member with slash | ⟨piece, listed, within⟩
  · cases slash
  · obtain ⟨name, onWay, rfl⟩ := List.mem_map.1 listed
    rcases mem_way onWay with rfl | below
    · simp at within
    · exact free name below within

namespace Resolver

variable {resolver : Resolver} {disk : FileSystem} {specifier : String} {context path : Path}

theorem isFile_of_resolve? (found : resolver.resolve? disk specifier context = some path) :
    disk.isFile path = true :=
  List.find?_some found

theorem cases_of_resolve? (found : resolver.resolve? disk specifier context = some path) :
    path = (context.join ⟨specifier⟩).normalize ∨
      ∃ suffix ∈ resolver.extensions, path = (context.join ⟨specifier⟩).normalize.append suffix := by
  rcases List.mem_cons.1 (List.mem_of_find?_eq_some found) with exact' | extended
  · exact .inl exact'
  · obtain ⟨suffix, listed, same⟩ := List.mem_map.1 extended
    exact .inr ⟨suffix, listed, same.symm⟩

theorem isAbsolute_of_resolve? (absolute : context.isAbsolute = true)
    (found : resolver.resolve? disk specifier context = some path) : path.isAbsolute = true := by
  have joined : (context.join ⟨specifier⟩).isAbsolute = true := by
    rw [Path.isAbsolute_join, absolute, Bool.or_true]
  rcases cases_of_resolve? found with rfl | ⟨suffix, -, rfl⟩
  · exact Path.isAbsolute_normalize joined
  · exact Path.isAbsolute_append (Path.isAbsolute_normalize joined) suffix

/-- Without slashes in the extensions, what is found is in normal form. -/
theorem eq_path_of_resolve? (absolute : context.isAbsolute = true)
    (clean : ∀ suffix ∈ resolver.extensions, '/' ∉ suffix.toList)
    (found : resolver.resolve? disk specifier context = some path) :
    path = (disk.placeOf path).path := by
  have joined : (context.join ⟨specifier⟩).isAbsolute = true := by
    rw [Path.isAbsolute_join, absolute, Bool.or_true]
  have plain := Path.plain_place joined []
  have isFile := isFile_of_resolve? found
  have known {place : Location} (same : path = place.path) (plain : place.Plain) :
      path = (disk.placeOf path).path := by
    rw [same, FileSystem.placeOf, Location.place_path plain]
  rcases cases_of_resolve? found with exact' | ⟨suffix, listed, extended⟩
  · exact known (exact'.trans (Path.normalize_of_isAbsolute joined)) plain
  · rw [Path.normalize_of_isAbsolute joined] at extended
    rcases List.eq_nil_or_concat ((context.join ⟨specifier⟩).place []) with root | ⟨front, last, whole⟩
    · rw [root, Location.append_path_nil] at extended
      by_cases named : Location.Plain [suffix]
      · exact known extended named
      · apply absurd _ (FileSystem.placeOf_ne_nil_of_isFile isFile)
        rw [extended]
        exact Location.place_path_singleton (clean suffix listed) named _
    · rw [List.concat_eq_append] at whole
      rw [whole] at extended plain
      exact known (extended.trans (Location.append_path_concat front last suffix))
        (plain.append (clean suffix listed))

def fileId (resolver : Resolver) (place : Location) : String :=
  resolver.moduleId place.path

theorem moduleId_of_isAbsolute (resolver : Resolver) (disk : FileSystem)
    (absolute : path.isAbsolute = true) :
    resolver.moduleId path = resolver.fileId (disk.placeOf path) := by
  have normal : (path.place []).path.normalize = path.normalize := by
    rw [Location.normalize_path (Path.plain_place absolute []),
      Path.normalize_of_isAbsolute absolute]
  rw [FileSystem.placeOf, Path.place_of_isAbsolute absolute, fileId, moduleId, moduleId, normal]

theorem fileId_new {root : Path} (rooted : root.isAbsolute = true) (extensions : List String)
    {place : Location} (plain : place.Plain) :
    (Resolver.new root extensions).fileId place =
      idStart ++ (Location.relative (root.place []) place).unixText := by
  rw [fileId, moduleId, Location.normalize_path plain, new, Path.normalize_of_isAbsolute rooted,
    Location.relativeTo?_path (Path.plain_place rooted []) plain, Option.getD_some]

theorem fileId_eq_iff {root : Path} (rooted : root.isAbsolute = true) (extensions : List String)
    {place other : Location} (plain : place.Plain) (clear : other.Plain) :
    (Resolver.new root extensions).fileId place = (Resolver.new root extensions).fileId other ↔
      (Location.relative (root.place []) place).unixText =
        (Location.relative (root.place []) other).unixText := by
  rw [fileId_new rooted extensions plain, fileId_new rooted extensions clear, String.append_right_inj]

theorem eq_of_fileId_eq {root : Path} (rooted : root.isAbsolute = true) (extensions : List String)
    {place other : Location} (plain : place.Plain) (clear : other.Plain)
    (free : ∀ name ∈ place, '\\' ∉ name.toList) (spare : ∀ name ∈ other, '\\' ∉ name.toList)
    (same : (Resolver.new root extensions).fileId place =
      (Resolver.new root extensions).fileId other) : place = other := by
  have written := (fileId_eq_iff rooted extensions plain clear).1 same
  rw [Location.unixText_relative (root.place []) free,
    Location.unixText_relative (root.place []) spare] at written
  exact Location.relative_injective plain clear (congrArg Path.mk written)

theorem placeOf_eq_of_moduleId_eq {root : Path} (rooted : root.isAbsolute = true)
    (extensions : List String) (free : disk.BackslashFree) {other : Path}
    (absolute : path.isAbsolute = true) (isFile : disk.isFile path = true)
    (also : other.isAbsolute = true) (held : disk.isFile other = true)
    (same : (Resolver.new root extensions).moduleId path =
      (Resolver.new root extensions).moduleId other) : disk.placeOf path = disk.placeOf other := by
  rw [moduleId_of_isAbsolute _ disk absolute, moduleId_of_isAbsolute _ disk also] at same
  exact eq_of_fileId_eq rooted extensions (Path.plain_place absolute _) (Path.plain_place also _)
    (free.placeOf isFile) (free.placeOf held) same

theorem isAbsolute_idStart (way : String) : (Path.mk (idStart ++ way)).isAbsolute = false := by
  rw [Path.isAbsolute, Path.characters, String.toList_append]
  rfl

theorem names_idStart (way : String) :
    (Path.mk (idStart ++ way)).names = "." :: (Path.mk way).names := by
  have cut : splitSlashes (idStart.toList ++ way.toList) =
      splitSlashes ['.'] ++ splitSlashes way.toList := splitSlashes_append ['.'] _
  rw [Path.names_eq, Path.characters, String.toList_append, cut, namesOf_append]
  rfl

/-- An id that is joined onto the root is a path of its file. -/
theorem normalize_join_moduleId {root : Path} (rooted : root.isAbsolute = true)
    (extensions : List String) (absolute : path.isAbsolute = true) (free : '\\' ∉ path.characters) :
    (root.join ⟨(Resolver.new root extensions).moduleId path⟩).normalize = path.normalize := by
  have plain := Path.plain_place absolute []
  have clean : ∀ name ∈ path.place [], '\\' ∉ name.toList := fun name member within =>
    free (Path.mem_characters_of_mem_place absolute member within)
  have written : (Resolver.new root extensions).moduleId path =
      idStart ++ (Location.relative (root.place []) (path.place [])).text := by
    rw [moduleId_of_isAbsolute _ .empty absolute, FileSystem.placeOf,
      Path.place_of_isAbsolute absolute, fileId_new rooted extensions plain,
      Location.unixText_relative _ clean]
  rw [written]
  generalize way : Location.relative (root.place []) (path.place []) = relative
  have names : (Path.mk relative.text).names = Location.way (root.place []) (path.place []) := by
    rw [← Location.names_relative _ plain, way]
  have joined : (root.join ⟨idStart ++ relative.text⟩).isAbsolute = true := by
    rw [Path.isAbsolute_join, rooted, Bool.or_true]
  rw [Path.normalize_of_isAbsolute joined, Path.normalize_of_isAbsolute absolute,
    Path.place_join (isAbsolute_idStart _), names_idStart, names]
  -- the dot stays at the root, and the way leads from there to the place
  exact congrArg Location.path (Location.follow_way [] (root.place []) plain)

/-- As seen from an absolute root, an absolute path without backslashes has an id that starts with a dot and
a slash and that leads back to the path when it is joined onto the root. Two such paths have one id exactly
if they have one normal form. -/
theorem moduleId_round_trip {root other : Path} (rooted : root.isAbsolute = true)
    (extensions : List String) (absolute : path.isAbsolute = true) (free : '\\' ∉ path.characters)
    (also : other.isAbsolute = true) (spare : '\\' ∉ other.characters) :
    (∃ way, (Resolver.new root extensions).moduleId path = "./" ++ way) ∧
      (root.join ⟨(Resolver.new root extensions).moduleId path⟩).normalize = path.normalize ∧
      ((Resolver.new root extensions).moduleId path = (Resolver.new root extensions).moduleId other ↔
        path.normalize = other.normalize) := by
  refine ⟨⟨_, rfl⟩, normalize_join_moduleId rooted extensions absolute free, ?_, fun same => ?_⟩
  · intro same
    rw [← normalize_join_moduleId rooted extensions absolute free, same,
      normalize_join_moduleId rooted extensions also spare]
  · rw [moduleId, moduleId, same]

/-- A path beside the root, and another one of the same file that climbs above the root of the file system. -/
theorem util_round_trip :
    (∃ way, (Resolver.new ⟨"/proj/app/"⟩ []).moduleId ⟨"/proj/./lib//x/../util.js"⟩ = "./" ++ way) ∧
      (Path.join ⟨"/proj/app/"⟩
          ⟨(Resolver.new ⟨"/proj/app/"⟩ []).moduleId ⟨"/proj/./lib//x/../util.js"⟩⟩).normalize =
        Path.normalize ⟨"/proj/./lib//x/../util.js"⟩ ∧
      ((Resolver.new ⟨"/proj/app/"⟩ []).moduleId ⟨"/proj/./lib//x/../util.js"⟩ =
          (Resolver.new ⟨"/proj/app/"⟩ []).moduleId ⟨"/../proj/lib/util.js"⟩ ↔
        Path.normalize ⟨"/proj/./lib//x/../util.js"⟩ = Path.normalize ⟨"/../proj/lib/util.js"⟩) := by
  have rooted : (Path.mk "/proj/app/").isAbsolute = true := by decide
  have absolute : (Path.mk "/proj/./lib//x/../util.js").isAbsolute = true := by decide
  have free : '\\' ∉ (Path.mk "/proj/./lib//x/../util.js").characters := by decide
  have also : (Path.mk "/../proj/lib/util.js").isAbsolute = true := by decide
  have spare : '\\' ∉ (Path.mk "/../proj/lib/util.js").characters := by decide
  exact moduleId_round_trip rooted [] absolute free also spare

example : (Resolver.new ⟨"/proj/app/"⟩ []).moduleId ⟨"/proj/./lib//x/../util.js"⟩ =
    "./../lib/util.js" := by decide +kernel

end Resolver

theorem externalId_injective : Function.Injective externalId := by
  intro first second same
  exact Text.quoted_injective (String.append_right_inj _ |>.1 same)

theorem moduleId_ne_externalId (resolver : Resolver) (path : Path) (request : String) :
    resolver.moduleId path ≠ externalId request := by
  intro same
  have starts := congrArg (fun id => id.toList.head?) same
  rw [Resolver.moduleId, externalId, String.toList_append, String.toList_append] at starts
  cases starts

end ModuleBundler
