import ModuleBundler.Proofs.Path.Direct
import ModuleBundler.Proofs.Resolver

/-!
Looking up paths in two file systems that hold the same files outside of a directory. A path that goes
straight down is the path of a file in both of them or in none, if its place is outside.
-/

namespace ModuleBundler

/-- Whether a place lies inside of a directory. -/
def Location.Inside (directory place : Location) : Prop :=
  directory <+: place ∧ directory ≠ place

instance (directory place : Location) : Decidable (directory.Inside place) :=
  inferInstanceAs (Decidable (_ ∧ _))

theorem Location.follow_prefix (here : Location) {dots : List String}
    (up : ∀ dot ∈ dots, dot = "." ∨ dot = "..") : here.follow dots <+: here := by
  induction dots generalizing here with
  | nil => exact List.prefix_rfl
  | cons dot dots ih =>
    have first : here.enter dot <+: here := by
      unfold enter
      rcases up dot List.mem_cons_self with rfl | rfl
      · simp only [↓reduceIte, List.prefix_rfl]
      · rw [if_neg (by decide), if_pos rfl]
        exact List.dropLast_prefix here
    exact (ih (here.enter dot) fun other member => up other (List.mem_cons_of_mem _ member)).trans first

namespace FileSystem

/-- A walk succeeds where each step starts from a directory and no name is too long. -/
theorem walk_eq_ok {disk : FileSystem} {here final : Location} {names : List String} :
    disk.walk here names = .ok final ↔ final = here.follow names ∧
      ∀ front name back, names = front ++ name :: back →
        disk.find? (here.follow front) = some .directory ∧
          (name = "." ∨ name = ".." ∨ ¬nameLimit < name.utf8ByteSize) := by
  induction names generalizing here with
  | nil => simp [walk, Location.follow, pure, Except.pure, eq_comm]
  | cons name names ih =>
    simp only [walk_cons_eq_ok, step_eq_ok, ih]
    constructor
    · rintro ⟨_, ⟨held, short, rfl⟩, rfl, rest⟩
      refine ⟨rfl, ?_⟩
      intro front other back split
      rcases front with _ | ⟨first, front⟩
      · obtain ⟨rfl, rfl⟩ := List.cons.inj split
        exact ⟨held, short⟩
      · obtain ⟨rfl, later⟩ := List.cons.inj split
        exact rest front other back later
    · rintro ⟨rfl, all⟩
      obtain ⟨held, short⟩ := all [] name names rfl
      exact ⟨_, ⟨held, short, rfl⟩, rfl, fun front other back split =>
        all (name :: front) other back (by rw [split]; rfl)⟩

theorem IsTree.directory_of_prefix {disk : FileSystem} (tree : disk.IsTree) {high low : Location}
    (way : high <+: low) (held : disk.find? low = some .directory) :
    disk.find? high = some .directory := by
  obtain ⟨below, rfl⟩ := way
  by_cases same : below = []
  · rwa [same, List.append_nil] at held
  · exact tree.above below (by simp [held]) same

/-- A path that goes straight down to a file passes directories only, if it starts at one. -/
theorem IsTree.directory_of_direct {disk : FileSystem} (tree : disk.IsTree) {path : Path}
    (start : disk.find? (path.origin disk) = some .directory) (direct : path.Direct)
    {content : ByteArray} (held : disk.find? (disk.placeOf path) = some (.file content))
    {front back : List String} {name : String} (split : path.names = front ++ name :: back) :
    disk.find? ((path.origin disk).follow front) = some .directory := by
  obtain ⟨dots, place, names, up, plain⟩ := direct
  -- the step is one of those up, or one of those down
  rcases List.append_eq_append_iff.1 (split.symm.trans names) with
    ⟨more, rfl, rest⟩ | ⟨more, rfl, rest⟩
  · exact tree.directory_of_prefix
      (Location.follow_prefix _ fun dot member => up dot (List.mem_append_left _ member)) start
  · have low : Location.Plain more := fun other member => plain other (by simp [rest, member])
    have whole : disk.placeOf path =
        (path.origin disk).follow (dots ++ more) ++ name :: back := by
      rw [placeOf_eq, names, Location.follow_append, Location.follow_of_plain plain, rest,
        Location.follow_append, Location.follow_of_plain low, List.append_assoc]
    rw [whole] at held
    refine tree.above (name :: back) ?_ (List.cons_ne_nil _ _)
    rw [held]
    nofun

theorem directory_of_isFile {disk : FileSystem} {path : Path} (isFile : disk.isFile path = true)
    (relative : path.isAbsolute = false) :
    disk.find? disk.workingDirectory = some .directory := by
  obtain ⟨located, -⟩ := isFile_iff.1 isFile
  obtain ⟨sound, walked⟩ := locate_eq_ok.1 located
  have origin : path.origin disk = disk.workingDirectory := by simp [Path.origin, relative]
  have named : path.text ≠ "" := by
    intro empty
    simp [Path.fault?, Path.characters, empty] at sound
  obtain ⟨name, names, whole⟩ := List.exists_cons_of_ne_nil (Path.names_ne_nil relative named)
  rw [whole, origin, List.cons_append] at walked
  obtain ⟨there, step, -⟩ := walk_cons_eq_ok.1 walked
  exact (step_eq_ok.1 step).1

structure SameOutside (directory : Location) (before after : FileSystem) : Prop where
  keeps : Keeps before after
  file_iff : ∀ place content, ¬directory.Inside place →
    (after.find? place = some (.file content) ↔ before.find? place = some (.file content))

namespace SameOutside

variable {directory : Location} {before after : FileSystem} {path : Path}

theorem read (same : SameOutside directory before after)
    (outside : ¬directory.Inside (before.placeOf path)) {content : ByteArray}
    (held : before.read path = .ok content) : after.read path = .ok content := by
  obtain ⟨located, here⟩ := read_eq_ok.1 held
  rw [read_eq_ok, same.keeps.placeOf]
  exact ⟨same.keeps.locate located, (same.file_iff _ _ outside).2 here⟩

theorem readText (same : SameOutside directory before after)
    (outside : ¬directory.Inside (before.placeOf path)) {text : String}
    (held : before.readText path = .ok text) : after.readText path = .ok text := by
  obtain ⟨content, reading, decoded⟩ := except_bind_eq_ok.1 held
  exact except_bind_eq_ok.2 ⟨content, same.read outside reading, decoded⟩

/-- A path that goes straight down to a place outside of the directory is the path of a file in both file
systems or in none. -/
theorem isFile (same : SameOutside directory before after) (tree : before.IsTree)
    (start : before.find? (path.origin before) = some .directory) (direct : path.Direct)
    (outside : ¬directory.Inside (before.placeOf path)) :
    after.isFile path = before.isFile path := by
  rw [Bool.eq_iff_iff, isFile_iff, isFile_iff, same.keeps.placeOf]
  constructor
  · rintro ⟨located, content, held⟩
    have here := (same.file_iff _ _ outside).1 held
    obtain ⟨sound, walked⟩ := locate_eq_ok.1 located
    have closed : path.endsOpen = false := by
      by_contra opened
      rw [if_pos (by simpa using opened)] at walked
      have directory := directory_of_walk walked
      rw [← placeOf_eq, same.keeps.placeOf, held] at directory
      cases directory
    rw [closed, if_neg Bool.false_ne_true, List.append_nil, walk_eq_ok] at walked
    refine ⟨locate_eq_ok.2 ⟨sound, ?_⟩, content, here⟩
    rw [closed, if_neg Bool.false_ne_true, List.append_nil, walk_eq_ok]
    exact ⟨placeOf_eq before path, fun front name back split =>
      ⟨tree.directory_of_direct start direct here split, (walked.2 front name back split).2⟩⟩
  · rintro ⟨located, content, held⟩
    exact ⟨same.keeps.locate located, content, (same.file_iff _ _ outside).2 held⟩

end SameOutside

end FileSystem

namespace Resolver

variable {resolver : Resolver} {disk : FileSystem} {specifier : String} {context : Path}

def tested (resolver : Resolver) (disk : FileSystem) (specifier : String) (context : Path) :
    List Path :=
  (resolver.candidates specifier context).takeWhile (!disk.isFile ·) ++
    (resolver.resolve? disk specifier context).toList

section Candidates

variable (clean : ∀ suffix ∈ resolver.extensions, '/' ∉ suffix.toList)
include clean

theorem direct_of_mem_candidates {path : Path} (member : path ∈ resolver.candidates specifier context) :
    path.Direct := by
  rcases List.mem_cons.1 member with rfl | extended
  · exact Path.direct_normalize _
  · obtain ⟨suffix, listed, rfl⟩ := List.mem_map.1 extended
    exact Path.direct_append_normalize _ (clean suffix listed)

/-- All paths that are tested start at one place. -/
theorem isAbsolute_of_mem_candidates {path : Path}
    (member : path ∈ resolver.candidates specifier context) :
    path.isAbsolute = (context.join ⟨specifier⟩).normalize.isAbsolute := by
  rcases List.mem_cons.1 member with rfl | extended
  · rfl
  · obtain ⟨suffix, listed, rfl⟩ := List.mem_map.1 extended
    rw [Path.isAbsolute, Path.characters_append, Path.isAbsolute]
    cases (context.join ⟨specifier⟩).normalize.characters with
    | cons c rest => rfl
    | nil =>
      rw [List.nil_append]
      have other := clean suffix listed
      cases whole : suffix.toList with
      | nil => rfl
      | cons c rest =>
        have different : c ≠ '/' := by
          rintro rfl
          exact other (by simp [whole])
        simp [different]

theorem directory_of_resolve? {found path : Path}
    (resolved : resolver.resolve? disk specifier context = some found)
    (member : path ∈ resolver.candidates specifier context) :
    disk.find? (path.origin disk) = some .directory := by
  have listed : found ∈ resolver.candidates specifier context := List.mem_of_find?_eq_some resolved
  have alike := (isAbsolute_of_mem_candidates clean member).trans
    (isAbsolute_of_mem_candidates clean listed).symm
  unfold Path.origin
  split
  · rfl
  · rename_i relative
    exact FileSystem.directory_of_isFile (isFile_of_resolve? resolved)
      (by simpa [alike] using relative)

end Candidates

theorem mem_candidates_of_tested {path : Path}
    (member : path ∈ resolver.tested disk specifier context) :
    path ∈ resolver.candidates specifier context := by
  rcases List.mem_append.1 member with passed | found
  · exact List.takeWhile_subset _ passed
  · exact List.mem_of_find?_eq_some (Option.mem_toList.1 found)

/-- What is found depends on what is tested alone. -/
theorem resolve?_congr {other : FileSystem}
    (same : ∀ path ∈ resolver.tested disk specifier context, other.isFile path = disk.isFile path) :
    resolver.resolve? other specifier context = resolver.resolve? disk specifier context := by
  unfold tested resolve? at same
  unfold resolve?
  generalize resolver.candidates specifier context = paths at same
  induction paths with
  | nil => rfl
  | cons first rest ih =>
    rw [List.find?_cons, List.find?_cons, List.takeWhile_cons] at *
    cases known : disk.isFile first with
    | true => rw [same first (by simp [known]), known]
    | false =>
      rw [same first (by simp [known]), known]
      refine ih fun path member => same path ?_
      simp only [known, Bool.not_false, if_true, List.cons_append]
      exact List.mem_cons_of_mem _ member

theorem resolve?_of_sameOutside {directory : Location} {after : FileSystem}
    (same : FileSystem.SameOutside directory disk after) (tree : disk.IsTree)
    (clean : ∀ suffix ∈ resolver.extensions, '/' ∉ suffix.toList)
    (outside : ∀ path ∈ resolver.tested disk specifier context,
      ¬directory.Inside (disk.placeOf path))
    {found : Path} (resolved : resolver.resolve? disk specifier context = some found) :
    resolver.resolve? after specifier context = some found := by
  rw [← resolved]
  refine resolve?_congr fun path member => ?_
  have listed := mem_candidates_of_tested member
  exact same.isFile tree (directory_of_resolve? clean resolved listed)
    (direct_of_mem_candidates clean listed) (outside path member)

end Resolver

end ModuleBundler
