import ModuleBundler.Proofs.Path.Names

/-!
Where paths lead. A path has a place that only its names decide; what the file system holds decides whether
there is a way to it. As long as no directory is lost, every way stays open and leads to the same place.
-/

namespace ModuleBundler

def Location.enter (here : Location) (name : String) : Location :=
  if name = "." then here else if name = ".." then here.dropLast else here ++ [name]

def Location.follow (here : Location) (names : List String) : Location :=
  names.foldl Location.enter here

namespace Location

theorem enter_of_ne {here : Location} {name : String} (notDot : name ≠ ".") (notParent : name ≠ "..") :
    enter here name = here ++ [name] := by
  rw [enter, if_neg notDot, if_neg notParent]

theorem follow_append (here : Location) (front back : List String) :
    follow here (front ++ back) = follow (follow here front) back :=
  List.foldl_append

theorem mem_follow {here : Location} {names : List String} {name : String}
    (member : name ∈ here.follow names) : name ∈ here ∨ name ∈ names := by
  induction names generalizing here with
  | nil => exact .inl member
  | cons first names ih =>
    rcases @ih (here.enter first) member with before | later
    · unfold enter at before
      split at before
      · exact .inl before
      · split at before
        · exact .inl (List.dropLast_subset _ before)
        · exact (List.mem_append.1 before).imp_right fun last =>
            List.mem_cons.2 (.inl (List.mem_singleton.1 last))
    · exact .inr (List.mem_cons_of_mem _ later)

theorem follow_dots (here : Location) {dots : List String} (idle : ∀ dot ∈ dots, dot = ".") :
    follow here dots = here := by
  induction dots with
  | nil => rfl
  | cons dot dots ih =>
    have first : enter here dot = here := by
      rw [idle dot List.mem_cons_self, enter, if_pos rfl]
    rw [follow, List.foldl_cons, first]
    exact ih fun other member => idle other (List.mem_cons_of_mem _ member)

end Location

/-- The place of a path for one who works in a directory, whatever is there. -/
def Path.place (path : Path) (working : Location) : Location :=
  Location.follow (if path.isAbsolute then [] else working) path.names

namespace Path

theorem place_of_fileName? {path : Path} {name : String} (named : path.fileName? = some name)
    (working : Location) : path.place working = path.seat.place working ++ [name] := by
  obtain ⟨before, behind, names, idle, notDot, notParent, -⟩ := names_of_fileName? named
  unfold place
  rw [names, isAbsolute_seat, List.append_assoc, Location.follow_append, Location.follow_append,
    Location.follow_dots _ fun dot member => idle dot (List.mem_append_left _ member),
    ← List.singleton_append, Location.follow_append,
    Location.follow_dots _ fun dot member => idle dot (List.mem_append_right _ member)]
  exact Location.enter_of_ne notDot notParent

theorem place_join {path below : Path} (relative : below.isAbsolute = false) (working : Location) :
    (path.join below).place working = Location.follow (path.place working) below.names := by
  unfold place
  rw [names_join, isAbsolute_join, relative, Bool.false_or, if_neg Bool.false_ne_true,
    Location.follow_append]

end Path

namespace FileSystem

/-- The place of a path. -/
def placeOf (disk : FileSystem) (path : Path) : Location :=
  path.place disk.workingDirectory

theorem placeOf_eq (disk : FileSystem) (path : Path) :
    disk.placeOf path = (path.origin disk).follow path.names :=
  rfl

theorem step_eq_ok {disk : FileSystem} {here there : Location} {name : String} :
    disk.step here name = .ok there ↔
      disk.find? here = some .directory ∧
        (name = "." ∨ name = ".." ∨ ¬nameLimit < name.utf8ByteSize) ∧ there = here.enter name := by
  unfold step Location.enter
  cases disk.find? here with
  | none => simp
  | some node =>
    cases node with
    | file content => simp
    | directory =>
      dsimp only
      by_cases dot : name = "."
      · simp [dot, eq_comm]
      · by_cases parent : name = ".."
        · simp [parent, eq_comm]
        · by_cases long : nameLimit < name.utf8ByteSize
          · simp [dot, parent, long]
          · simp [dot, parent, long, eq_comm]

theorem walk_cons_eq_ok {disk : FileSystem} {here final : Location} {name : String}
    {names : List String} :
    disk.walk here (name :: names) = .ok final ↔
      ∃ there, disk.step here name = .ok there ∧ disk.walk there names = .ok final := by
  unfold walk
  rw [List.foldlM_cons]
  cases disk.step here name with
  | error error => simp [bind, Except.bind]
  | ok there => simp [bind, Except.bind]

theorem walk_append_eq_ok {disk : FileSystem} {here final : Location} {front back : List String} :
    disk.walk here (front ++ back) = .ok final ↔
      ∃ middle, disk.walk here front = .ok middle ∧ disk.walk middle back = .ok final := by
  induction front generalizing here with
  | nil => simp [walk, pure, Except.pure]
  | cons name front ih =>
    simp only [List.cons_append, walk_cons_eq_ok, ih]
    exact ⟨fun ⟨there, step, middle, first, second⟩ => ⟨middle, ⟨there, step, first⟩, second⟩,
      fun ⟨middle, ⟨there, step, first⟩, second⟩ => ⟨there, step, middle, first, second⟩⟩

theorem walk_concat_eq_ok {disk : FileSystem} {here final : Location} {front : List String}
    {name : String} :
    disk.walk here (front ++ [name]) = .ok final ↔
      ∃ directory, disk.walk here front = .ok directory ∧ disk.step directory name = .ok final := by
  rw [walk_append_eq_ok]
  refine exists_congr fun directory => and_congr_right fun _ => ?_
  rw [walk_cons_eq_ok]
  constructor
  · rintro ⟨there, stepped, ended⟩
    cases ended
    exact stepped
  · exact fun stepped => ⟨final, stepped, rfl⟩

theorem eq_follow_of_walk {disk : FileSystem} {here final : Location} {names : List String}
    (walked : disk.walk here names = .ok final) : final = here.follow names := by
  induction names generalizing here with
  | nil =>
    cases walked
    rfl
  | cons name names ih =>
    obtain ⟨there, step, rest⟩ := walk_cons_eq_ok.1 walked
    rw [ih rest, (step_eq_ok.1 step).2.2]
    rfl

theorem walk_dots {disk : FileSystem} {here : Location} (held : disk.find? here = some .directory)
    {dots : List String} (idle : ∀ dot ∈ dots, dot = ".") : disk.walk here dots = .ok here := by
  induction dots with
  | nil => rfl
  | cons dot dots ih =>
    obtain rfl := idle _ List.mem_cons_self
    exact walk_cons_eq_ok.2 ⟨here, step_eq_ok.2 ⟨held, .inl rfl, (if_pos rfl).symm⟩,
      ih fun other member => idle other (List.mem_cons_of_mem _ member)⟩

theorem directory_of_walk {disk : FileSystem} {here final : Location} {front back : List String}
    {name : String} (walked : disk.walk here (front ++ name :: back) = .ok final) :
    disk.find? (here.follow front) = some .directory := by
  obtain ⟨middle, first, second⟩ := walk_append_eq_ok.1 walked
  obtain ⟨there, step, -⟩ := walk_cons_eq_ok.1 second
  rw [← eq_follow_of_walk first]
  exact (step_eq_ok.1 step).1

/-- Every directory of one file system is still there in another. -/
structure Keeps (before after : FileSystem) : Prop where
  workingDirectory : after.workingDirectory = before.workingDirectory
  directory : ∀ {place : Location}, before.find? place = some .directory →
    after.find? place = some .directory

namespace Keeps

variable {before between after : FileSystem}

theorem refl (disk : FileSystem) : Keeps disk disk :=
  ⟨rfl, id⟩

theorem trans (first : Keeps before between) (second : Keeps between after) : Keeps before after :=
  ⟨second.workingDirectory.trans first.workingDirectory, fun held => second.directory (first.directory held)⟩

theorem placeOf (keeps : Keeps before after) (path : Path) : after.placeOf path = before.placeOf path := by
  rw [FileSystem.placeOf, FileSystem.placeOf, keeps.workingDirectory]

theorem origin (keeps : Keeps before after) (path : Path) : path.origin after = path.origin before := by
  rw [Path.origin, Path.origin, keeps.workingDirectory]

theorem step (keeps : Keeps before after) {here there : Location} {name : String}
    (stepped : before.step here name = .ok there) : after.step here name = .ok there := by
  obtain ⟨held, short, place⟩ := step_eq_ok.1 stepped
  exact step_eq_ok.2 ⟨keeps.directory held, short, place⟩

theorem walk (keeps : Keeps before after) {here final : Location} {names : List String}
    (walked : before.walk here names = .ok final) : after.walk here names = .ok final := by
  induction names generalizing here with
  | nil => exact walked
  | cons name names ih =>
    obtain ⟨there, stepped, rest⟩ := walk_cons_eq_ok.1 walked
    exact walk_cons_eq_ok.2 ⟨there, keeps.step stepped, ih rest⟩

end Keeps

/-- Everything lies in a directory. -/
def IsTree (disk : FileSystem) : Prop :=
  ∀ place name, disk.find? (place ++ [name]) ≠ none → disk.find? place = some .directory

theorem isTree_of_nodes {disk : FileSystem}
    (lies : ∀ entry ∈ disk.nodes, disk.find? entry.1.dropLast = some .directory) : disk.IsTree := by
  intro place name held
  have low : place ++ [name] ≠ [] := by simp
  have found : (disk.nodes.find? (·.1 == place ++ [name])).isSome := by
    rw [Option.isSome_iff_ne_none]
    intro missing
    refine held ?_
    unfold find?
    split
    · exact absurd (by assumption) low
    · rw [missing]
      rfl
  obtain ⟨entry, here⟩ := Option.isSome_iff_exists.1 found
  have same : entry.1 = place ++ [name] := by simpa using List.find?_some here
  have parent := lies entry (List.mem_of_find?_eq_some here)
  rwa [same, List.dropLast_concat] at parent

theorem IsTree.above {disk : FileSystem} (tree : disk.IsTree) {place : Location} (below : List String)
    (held : disk.find? (place ++ below) ≠ none) (deeper : below ≠ []) :
    disk.find? place = some .directory := by
  induction below using List.reverseRecOn with
  | nil => exact absurd rfl deeper
  | append_singleton front name ih =>
    rw [← List.append_assoc] at held
    have parent := tree _ _ held
    by_cases direct : front = []
    · rwa [direct, List.append_nil] at parent
    · exact ih (by simp [parent]) direct

theorem locate_eq_ok {disk : FileSystem} {path : Path} {there : Location} :
    disk.locate path = .ok there ↔ path.fault? = none ∧
      disk.walk (path.origin disk) (path.names ++ if path.endsOpen then ["."] else []) = .ok there := by
  unfold locate
  cases path.fault? with
  | some fault => simp
  | none => simp

theorem eq_placeOf_of_locate {disk : FileSystem} {path : Path} {there : Location}
    (located : disk.locate path = .ok there) : there = disk.placeOf path := by
  rw [eq_follow_of_walk (locate_eq_ok.1 located).2, Location.follow_append]
  refine (Location.follow_dots _ ?_).trans rfl
  intro dot member
  split at member
  · exact List.mem_singleton.1 member
  · cases member

theorem stat_eq_ok {disk : FileSystem} {path : Path} {there : Location} {node : Node} :
    disk.stat path = .ok (there, node) ↔
      disk.locate path = .ok there ∧ disk.find? there = some node := by
  unfold stat
  cases disk.locate path with
  | error error => simp [bind, Except.bind]
  | ok location =>
    simp only [bind, Except.bind, Except.ok.injEq]
    cases found : disk.find? location with
    | none =>
      refine iff_of_false (by simp [throw, throwThe, MonadExceptOf.throw]) ?_
      rintro ⟨rfl, held⟩
      simp [found] at held
    | some other =>
      simp only [pure, Except.pure, Except.ok.injEq, Prod.mk.injEq]
      refine and_congr_right fun same => ?_
      rw [← same, found, Option.some.injEq]

theorem isFile_iff {disk : FileSystem} {path : Path} :
    disk.isFile path = true ↔ disk.locate path = .ok (disk.placeOf path) ∧
      ∃ content, disk.find? (disk.placeOf path) = some (.file content) := by
  unfold isFile
  constructor
  · intro held
    split at held
    · rename_i there content found
      obtain ⟨located, here⟩ := stat_eq_ok.1 found
      obtain rfl := eq_placeOf_of_locate located
      exact ⟨located, content, here⟩
    · cases held
  · rintro ⟨located, content, here⟩
    rw [stat_eq_ok.2 ⟨located, here⟩]

theorem isDirectory_iff {disk : FileSystem} {path : Path} :
    disk.isDirectory path = true ↔ disk.locate path = .ok (disk.placeOf path) ∧
      disk.find? (disk.placeOf path) = some .directory := by
  unfold isDirectory
  constructor
  · intro held
    split at held
    · rename_i there found
      obtain ⟨located, here⟩ := stat_eq_ok.1 found
      obtain rfl := eq_placeOf_of_locate located
      exact ⟨located, here⟩
    · cases held
  · rintro ⟨located, here⟩
    rw [stat_eq_ok.2 ⟨located, here⟩]

theorem walk_of_isDirectory {disk : FileSystem} {path : Path} (held : disk.isDirectory path = true) :
    disk.walk (path.origin disk) path.names = .ok (disk.placeOf path) ∧
      disk.find? (disk.placeOf path) = some .directory := by
  obtain ⟨located, here⟩ := isDirectory_iff.1 held
  obtain ⟨middle, walked, -⟩ := walk_append_eq_ok.1 (locate_eq_ok.1 located).2
  rw [placeOf_eq, ← eq_follow_of_walk walked] at here ⊢
  exact ⟨walked, here⟩

theorem read_eq_ok {disk : FileSystem} {path : Path} {content : ByteArray} :
    disk.read path = .ok content ↔ disk.locate path = .ok (disk.placeOf path) ∧
      disk.find? (disk.placeOf path) = some (.file content) := by
  unfold read
  constructor
  · intro held
    cases found : disk.stat path with
    | error error => simp [found, bind, Except.bind] at held
    | ok answer =>
      obtain ⟨there, node⟩ := answer
      obtain ⟨located, here⟩ := stat_eq_ok.1 found
      obtain rfl := eq_placeOf_of_locate located
      cases node with
      | directory => simp [found, bind, Except.bind, throw, throwThe, MonadExceptOf.throw] at held
      | file other =>
        simp only [found, bind, Except.bind, pure, Except.pure, Except.ok.injEq] at held
        exact ⟨located, held ▸ here⟩
  · rintro ⟨located, here⟩
    rw [stat_eq_ok.2 ⟨located, here⟩]
    rfl

def Leads (disk : FileSystem) (path : Path) : Prop :=
  path.fault? = none ∧ ∃ front name, path.names = front ++ [name] ∧ name ≠ "." ∧ name ≠ ".." ∧
    disk.walk (path.origin disk) path.names = .ok (disk.placeOf path)

theorem target_eq_ok {disk : FileSystem} {path : Path} {otherwise : AccessError} {there : Location} :
    disk.target path otherwise = .ok there ↔ disk.Leads path ∧ there = disk.placeOf path := by
  unfold target Leads
  cases sound : path.fault? with
  | some fault => simp
  | none =>
    dsimp only
    rcases path.names.eq_nil_or_concat with none | ⟨front, name, whole⟩
    · simp [none, throw, throwThe, MonadExceptOf.throw]
    · rw [List.concat_eq_append] at whole
      rw [whole, List.getLast?_concat, List.dropLast_concat]
      dsimp only
      have place (there : Location)
          (walked : disk.walk (path.origin disk) (front ++ [name]) = .ok there) :
          there = disk.placeOf path := by
        rw [eq_follow_of_walk walked, ← whole]
        rfl
      constructor
      · intro found
        cases walked : disk.walk (path.origin disk) front with
        | error error => simp [walked, bind, Except.bind] at found
        | ok directory =>
          cases stepped : disk.step directory name with
          | error error => simp [walked, stepped, bind, Except.bind] at found
          | ok location =>
            have reached := walk_concat_eq_ok.2 ⟨directory, walked, stepped⟩
            simp only [walked, stepped, bind, Except.bind] at found
            split at found
            · simp [throw, throwThe, MonadExceptOf.throw] at found
            · rename_i notDots
              rw [not_or] at notDots
              simp only [pure, Except.pure, Except.ok.injEq] at found
              subst found
              exact ⟨⟨rfl, front, name, rfl, notDots.1, notDots.2, place _ reached ▸ reached⟩,
                place _ reached⟩
      · rintro ⟨⟨-, other, last, same, notDot, notParent, walked⟩, rfl⟩
        obtain ⟨rfl, one⟩ := List.append_inj' same rfl
        obtain rfl := List.singleton_injective one
        obtain ⟨directory, first, second⟩ := walk_concat_eq_ok.1 walked
        simp [first, second, bind, Except.bind, notDot, notParent, pure, Except.pure]

namespace Leads

variable {disk : FileSystem} {path : Path}

theorem keeps {after : FileSystem} (leads : disk.Leads path) (keeps : Keeps disk after) :
    after.Leads path := by
  obtain ⟨sound, front, name, whole, notDot, notParent, walked⟩ := leads
  refine ⟨sound, front, name, whole, notDot, notParent, ?_⟩
  rw [keeps.origin, keeps.placeOf]
  exact keeps.walk walked

theorem place (leads : disk.Leads path) : ∃ directory name, disk.placeOf path = directory ++ [name] ∧
    disk.find? directory = some .directory := by
  obtain ⟨-, front, name, whole, notDot, notParent, walked⟩ := leads
  rw [whole] at walked
  refine ⟨(path.origin disk).follow front, name, ?_, directory_of_walk walked⟩
  rw [eq_follow_of_walk walked, Location.follow_append]
  exact Location.enter_of_ne notDot notParent

theorem placeOf_ne_nil (leads : disk.Leads path) : disk.placeOf path ≠ [] := by
  obtain ⟨directory, name, place, -⟩ := leads.place
  simp [place]

theorem locate (leads : disk.Leads path) (closed : path.endsOpen = false) :
    disk.locate path = .ok (disk.placeOf path) := by
  obtain ⟨sound, -, -, -, -, -, walked⟩ := leads
  rw [locate_eq_ok, closed, if_neg Bool.false_ne_true, List.append_nil]
  exact ⟨sound, walked⟩

theorem isDirectory (leads : disk.Leads path)
    (held : disk.find? (disk.placeOf path) = some .directory) : disk.isDirectory path = true := by
  obtain ⟨sound, -, -, -, -, -, walked⟩ := leads
  refine isDirectory_iff.2 ⟨locate_eq_ok.2 ⟨sound, walk_append_eq_ok.2 ⟨_, walked, ?_⟩⟩, held⟩
  refine walk_dots held fun dot member => ?_
  split at member
  · exact List.mem_singleton.1 member
  · cases member

end Leads

theorem Keeps.locate {before after : FileSystem} (keeps : Keeps before after) {path : Path}
    {there : Location} (located : before.locate path = .ok there) : after.locate path = .ok there := by
  obtain ⟨sound, walked⟩ := locate_eq_ok.1 located
  rw [locate_eq_ok, keeps.origin]
  exact ⟨sound, keeps.walk walked⟩

theorem Keeps.isDirectory {before after : FileSystem} (keeps : Keeps before after) {path : Path}
    (held : before.isDirectory path = true) : after.isDirectory path = true := by
  obtain ⟨located, here⟩ := isDirectory_iff.1 held
  rw [isDirectory_iff, keeps.placeOf]
  exact ⟨keeps.locate located, keeps.directory here⟩

end FileSystem

-- what is known of places is stated above; nothing below computes one by accident
attribute [irreducible] Path.place

/-- Whether a path can be that of a file: nothing is wrong with it, and it does not end with a slash or a
dot. -/
def Path.canBeFile (path : Path) : Bool :=
  path.fault?.isNone && !path.endsOpen && path.names.getLast? != some "."

theorem FileSystem.Leads.canBeFile {disk : FileSystem} {path : Path} (leads : disk.Leads path)
    (closed : path.endsOpen = false) : path.canBeFile = true := by
  obtain ⟨sound, front, name, whole, notDot, -, -⟩ := leads
  simp [Path.canBeFile, sound, closed, whole, notDot]

end ModuleBundler
