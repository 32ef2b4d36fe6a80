import ModuleBundler.Proofs.FileSystem.Lookup

/-!
Absolute paths and their normal forms in a file system. Wherever a path leads name by name, its normal form
leads as well, so that a specifier finds the file that it is the path of.
-/

namespace ModuleBundler

def bytesOf : List String → Nat
  | [] => 0
  | name :: names => name.utf8ByteSize + 1 + bytesOf names

theorem bytesOf_cons (name : String) (names : List String) :
    bytesOf (name :: names) = name.utf8ByteSize + 1 + bytesOf names :=
  rfl

theorem utf8ByteSize_slash : (String.ofList ['/']).utf8ByteSize = 1 := by
  decide

theorem bytesOf_append (front back : List String) :
    bytesOf (front ++ back) = bytesOf front + bytesOf back := by
  induction front with
  | nil => exact (Nat.zero_add _).symm
  | cons name front ih =>
    rw [List.cons_append, bytesOf_cons, bytesOf_cons, ih]
    omega

namespace Location

/-- Following names takes no more bytes than writing them behind. -/
theorem bytesOf_follow_le (here : Location) (names : List String) :
    bytesOf (here.follow names) ≤ bytesOf here + bytesOf names := by
  induction names generalizing here with
  | nil => exact Nat.le_add_right _ _
  | cons name names ih =>
    have entered : bytesOf (here.enter name) ≤ bytesOf here + bytesOf [name] := by
      unfold enter
      split
      · exact Nat.le_add_right _ _
      · split
        · rcases here.eq_nil_or_concat with rfl | ⟨front, last, rfl⟩
          · exact Nat.zero_le _
          · rw [List.concat_eq_append, List.dropLast_concat, bytesOf_append]
            omega
        · rw [bytesOf_append]
    have rest := ih (here.enter name)
    have whole : bytesOf (name :: names) = bytesOf [name] + bytesOf names := bytesOf_append [name] names
    rw [follow, List.foldl_cons, ← follow]
    omega

end Location

theorem utf8ByteSize_joinSlashes (first : String) (names : List String) :
    (String.ofList (joinSlashes ((first :: names).map String.toList))).utf8ByteSize + 1 =
      bytesOf (first :: names) := by
  induction names generalizing first with
  | nil => simp [joinSlashes, bytesOf]
  | cons next names ih =>
    have rest := ih next
    rw [List.map_cons, List.map_cons, joinSlashes_cons_cons, ← List.singleton_append,
      String.ofList_append, String.ofList_append, String.utf8ByteSize_append, String.utf8ByteSize_append,
      String.ofList_toList, utf8ByteSize_slash, bytesOf_cons first, ← rest, List.map_cons]
    omega

theorem bytesOf_splitSlashes (text : List Char) :
    bytesOf ((splitSlashes text).map String.ofList) = (String.ofList text).utf8ByteSize + 1 := by
  have front (c : Char) (behind : List Char) : (String.ofList (c :: behind)).utf8ByteSize =
      (String.ofList [c]).utf8ByteSize + (String.ofList behind).utf8ByteSize := by
    rw [← String.utf8ByteSize_append, ← String.ofList_append, List.singleton_append]
  induction text with
  | nil => rfl
  | cons c text ih =>
    by_cases slash : c = '/'
    · have first : bytesOf ((([] : List Char) :: splitSlashes text).map String.ofList) =
          1 + bytesOf ((splitSlashes text).map String.ofList) := bytesOf_cons "" _
      rw [slash, splitSlashes_slash, first, ih, front, utf8ByteSize_slash]
      omega
    · obtain ⟨piece, pieces, found⟩ := List.exists_cons_of_ne_nil (splitSlashes_ne_nil text)
      have cut : splitSlashes (c :: text) = (c :: piece) :: pieces := by
        simp only [splitSlashes, slash, if_false, found]
      rw [found, List.map_cons] at ih
      rw [cut, List.map_cons, bytesOf_cons, front c piece, front c text]
      rw [bytesOf_cons] at ih
      omega

theorem bytesOf_namesOf_le (pieces : List (List Char)) :
    bytesOf (namesOf pieces) ≤ bytesOf (pieces.map String.ofList) := by
  induction pieces with
  | nil => exact Nat.le_refl _
  | cons piece pieces ih =>
    rw [List.map_cons, bytesOf_cons]
    by_cases empty : piece = []
    · subst empty
      rw [namesOf_nil_cons]
      omega
    · rw [namesOf_cons _ empty, bytesOf_cons]
      omega

/-- The normal form of an absolute path takes no more bytes than the path. -/
theorem Path.utf8ByteSize_normalize_le {path : Path} (absolute : path.isAbsolute = true) :
    path.normalize.text.utf8ByteSize ≤ path.text.utf8ByteSize := by
  obtain ⟨rest, whole⟩ := exists_rest absolute
  have size : path.text.utf8ByteSize = 1 + (String.ofList rest).utf8ByteSize := by
    have spelled : path.text = String.ofList ['/'] ++ String.ofList rest := by
      rw [← String.ofList_append, List.singleton_append, ← whole, characters, String.ofList_toList]
    rw [spelled, String.utf8ByteSize_append, utf8ByteSize_slash]
  have place : bytesOf (path.place []) ≤ path.text.utf8ByteSize := by
    have names : path.names = namesOf (splitSlashes rest) := by
      rw [names_eq, whole, splitSlashes_slash, namesOf_nil_cons]
    have followed := Location.bytesOf_follow_le [] path.names
    have written := bytesOf_namesOf_le (splitSlashes rest)
    rw [bytesOf_splitSlashes, ← names] at written
    rw [Path.place, if_pos absolute]
    have nothing : bytesOf [] = 0 := rfl
    omega
  rw [normalize_of_isAbsolute absolute]
  generalize path.place [] = there at place
  cases there with
  | nil =>
    rw [size]
    exact Nat.le_add_right _ _
  | cons first names =>
    have written := utf8ByteSize_joinSlashes first names
    have text : (Location.path (first :: names)).text =
        String.ofList ['/'] ++ String.ofList (joinSlashes ((first :: names).map String.toList)) := by
      rw [← String.ofList_append, List.singleton_append, ← Location.characters_path, Path.characters,
        String.ofList_toList]
    rw [text, String.utf8ByteSize_append, utf8ByteSize_slash]
    omega

/-- Only the root is written with a slash at its end. -/
theorem Location.endsOpen_path {place : Location} (plain : place.Plain) (low : place ≠ []) :
    place.path.endsOpen = false := by
  rcases place.eq_nil_or_concat with rfl | ⟨front, last, rfl⟩
  · exact absurd rfl low
  · obtain ⟨filled, -, -, clean⟩ := plain last (by simp)
    have split := joinSlashes_concat_append (front.map String.toList) [] last.toList
    rw [List.nil_append] at split
    have named : last.toList ≠ [] := fun none => filled (String.toList_eq_nil_iff.1 none)
    rw [Path.endsOpen, characters_path, List.concat_eq_append, List.map_append, List.map_singleton,
      ← split, ← List.cons_append, List.getLast?_append_of_ne_nil _ named,
      List.getLast?_eq_getLast_of_ne_nil named]
    have inside := List.getLast_mem named
    simp only [beq_eq_false_iff_ne, ne_eq, Option.some.injEq]
    intro slash
    exact clean (slash ▸ inside)

/-- Nothing is wrong with the normal form of an absolute path with which nothing is. -/
theorem Path.fault?_normalize {path : Path} (absolute : path.isAbsolute = true)
    (sound : path.fault? = none) : path.normalize.fault? = none := by
  have size := utf8ByteSize_normalize_le absolute
  have written : path.normalize.characters = '/' :: joinSlashes ((path.place []).map String.toList) := by
    rw [normalize_of_isAbsolute absolute, Location.characters_path]
  unfold fault? at sound ⊢
  split at sound
  · cases sound
  · rename_i clean
    split at sound
    · cases sound
    · split at sound
      · cases sound
      · rename_i short
        rw [if_neg, if_neg, if_neg]
        · omega
        · intro empty
          rw [characters, empty] at written
          cases written
        · rw [written, List.contains_iff_mem, List.mem_cons, not_or]
          refine ⟨by decide, fun within => ?_⟩
          rcases mem_joinSlashes within with slash | ⟨piece, listed, inside⟩
          · revert slash
            decide
          · obtain ⟨name, member, rfl⟩ := List.mem_map.1 listed
            exact clean (List.contains_iff_mem.2 (mem_characters_of_mem_place absolute member inside))

namespace FileSystem

variable {disk : FileSystem}

def Open (disk : FileSystem) (place : Location) : Prop :=
  ∀ front name back, place = front ++ name :: back →
    disk.find? front = some .directory ∧ ¬nameLimit < name.utf8ByteSize

theorem open_nil (disk : FileSystem) : disk.Open [] := by
  intro front name back split
  simp at split

theorem Open.step {here there : Location} (opened : disk.Open here) {name : String}
    (stepped : disk.step here name = .ok there) : disk.Open there := by
  obtain ⟨held, short, rfl⟩ := step_eq_ok.1 stepped
  unfold Location.enter
  split
  · exact opened
  · rename_i notDot
    split
    · rcases here.eq_nil_or_concat with rfl | ⟨high, last, rfl⟩
      · exact opened
      · rw [List.concat_eq_append, List.dropLast_concat]
        intro front other back split
        exact opened front other (back ++ [last]) (by rw [List.concat_eq_append, split]; simp)
    · rename_i notParent
      intro front other back split
      rcases List.eq_nil_or_concat back with rfl | ⟨middle, last, rfl⟩
      · obtain ⟨rfl, one⟩ := List.append_inj' split rfl
        obtain rfl := List.singleton_injective one
        exact ⟨held, (short.resolve_left notDot).resolve_left notParent⟩
      · rw [List.concat_eq_append, ← List.cons_append, ← List.append_assoc] at split
        exact opened front other middle (List.append_inj' split rfl).1

theorem Open.walk {here there : Location} (opened : disk.Open here) {names : List String}
    (walked : disk.walk here names = .ok there) : disk.Open there := by
  induction names generalizing here with
  | nil =>
    cases walked
    exact opened
  | cons name names ih =>
    obtain ⟨next, stepped, rest⟩ := walk_cons_eq_ok.1 walked
    exact ih (opened.step stepped) rest

theorem Open.walk_plain {place : Location} (opened : disk.Open place) (plain : place.Plain) :
    disk.walk [] place = .ok place := by
  refine walk_eq_ok.2 ⟨(Location.follow_of_plain plain []).symm, fun front name back split => ?_⟩
  obtain ⟨held, short⟩ := opened front name back split
  have high : Location.Plain front := fun other member => plain other (by simp [split, member])
  rw [Location.follow_of_plain high, List.nil_append]
  exact ⟨held, .inr (.inr short)⟩

/-- Wherever an absolute path leads, its normal form leads. -/
theorem locate_normalize {path : Path} (absolute : path.isAbsolute = true) {there : Location}
    (located : disk.locate path = .ok there) : disk.locate path.normalize = .ok there := by
  obtain rfl := eq_placeOf_of_locate located
  obtain ⟨sound, walked⟩ := locate_eq_ok.1 located
  have plain : (disk.placeOf path).Plain := Path.plain_place absolute disk.workingDirectory
  have start : path.origin disk = [] := if_pos absolute
  rw [start] at walked
  have straight : disk.walk [] (disk.placeOf path) = .ok (disk.placeOf path) :=
    ((open_nil disk).walk walked).walk_plain plain
  refine locate_eq_ok.2 ⟨Path.fault?_normalize absolute sound, ?_⟩
  have written : path.normalize = (disk.placeOf path).path := by
    rw [Path.normalize_of_isAbsolute absolute, placeOf,
      Path.place_of_isAbsolute absolute disk.workingDirectory]
  rw [written, Path.origin, Location.isAbsolute_path, if_pos rfl, Location.names_path plain]
  by_cases root : disk.placeOf path = []
  · rw [root]
    rfl
  · rw [Location.endsOpen_path plain root, if_neg Bool.false_ne_true, List.append_nil]
    exact straight

theorem stat_normalize {path : Path} (absolute : path.isAbsolute = true) {there : Location}
    {node : Node} (found : disk.stat path = .ok (there, node)) :
    disk.stat path.normalize = .ok (there, node) := by
  obtain ⟨located, held⟩ := stat_eq_ok.1 found
  exact stat_eq_ok.2 ⟨locate_normalize absolute located, held⟩

end FileSystem

namespace Resolver

variable {resolver : Resolver} {disk : FileSystem} {specifier : String} {context path : Path}

theorem resolve_eq_ok_iff : resolver.resolve disk specifier context = .ok path ↔
    ∃ earlier later, resolver.candidates specifier context = earlier ++ path :: later ∧
      disk.isFile path = true ∧ ∀ other ∈ earlier, disk.isFile other = false := by
  have answer : resolver.resolve disk specifier context = .ok path ↔
      resolver.resolve? disk specifier context = some path := by
    cases found : resolver.resolve? disk specifier context with
    | some other => simp [resolve_of_some found]
    | none => simp [resolve_of_none found]
  rw [answer, resolve?, List.find?_eq_some_iff_append]
  constructor
  · rintro ⟨isFile, earlier, later, split, passed⟩
    exact ⟨earlier, later, split, isFile, fun other member => by simpa using passed other member⟩
  · rintro ⟨earlier, later, split, isFile, passed⟩
    exact ⟨isFile, earlier, later, split, fun other member => by simpa using passed other member⟩

theorem resolve_eq_error_iff {failure : BuildError} :
    resolver.resolve disk specifier context = .error failure ↔
      failure = .moduleNotFound specifier context ∧
        ∀ other ∈ resolver.candidates specifier context, disk.isFile other = false := by
  have lost : resolver.resolve? disk specifier context = none ↔
      ∀ other ∈ resolver.candidates specifier context, disk.isFile other = false := by
    simp [resolve?]
  rw [← lost]
  cases found : resolver.resolve? disk specifier context with
  | some other => simp [resolve_of_some found]
  | none => simp [resolve_of_none found, eq_comm]

theorem resolve_of_stat (absolute : context.isAbsolute = true) {there : Location}
    {content : ByteArray}
    (held : disk.stat (context.join ⟨specifier⟩) = .ok (there, .file content)) :
    ∃ found, resolver.resolve disk specifier context = .ok found ∧
      disk.stat found = .ok (there, .file content) := by
  have joined : (context.join ⟨specifier⟩).isAbsolute = true := by
    rw [Path.isAbsolute_join, absolute, Bool.or_true]
  have normal := FileSystem.stat_normalize joined held
  have isFile : disk.isFile (context.join ⟨specifier⟩).normalize = true := by
    rw [FileSystem.isFile, normal]
  exact ⟨_, resolve_eq_ok_iff.2 ⟨[], _, rfl, isFile, by simp⟩, normal⟩

/-- A specifier finds the file that the file system itself comes to by its path from the directory, whatever
the extensions are; and in general the first file among its normal form and this with each extension behind
it. Where none of them is a file, the failure names the specifier and the directory as they were given. -/
theorem resolve_first_file (resolver : Resolver) (disk : FileSystem) (specifier : String)
    (absolute : context.isAbsolute = true) :
    let exact := (context.join ⟨specifier⟩).normalize
    (∀ there content, disk.stat (context.join ⟨specifier⟩) = .ok (there, .file content) →
      ∃ found, resolver.resolve disk specifier context = .ok found ∧
        disk.stat found = .ok (there, .file content)) ∧
    (∀ found, resolver.resolve disk specifier context = .ok found ↔
      ∃ earlier later, exact :: resolver.extensions.map exact.append = earlier ++ found :: later ∧
        disk.isFile found = true ∧ ∀ other ∈ earlier, disk.isFile other = false) ∧
    ∀ failure, resolver.resolve disk specifier context = .error failure ↔
      failure = .moduleNotFound specifier context ∧
        ∀ other ∈ exact :: resolver.extensions.map exact.append, disk.isFile other = false :=
  ⟨fun _ _ held => resolve_of_stat absolute held, fun _ => resolve_eq_ok_iff,
    fun _ => resolve_eq_error_iff⟩

/-- A directory with a file, beside which there is one with an extension more. -/
def utilDisk : FileSystem where
  nodes := [(["proj"], .directory), (["proj", "src"], .directory), (["proj", "util"], .file ⟨#[1]⟩),
    (["proj", "util.js"], .file ⟨#[2]⟩)]
  workingDirectory := []

theorem util_found : (Path.mk "/proj/src").isAbsolute = true ∧
    utilDisk.stat (Path.join ⟨"/proj/src"⟩ ⟨"..//src/./../util"⟩) =
      .ok (["proj", "util"], .file ⟨#[1]⟩) ∧
    ∃ found, (Resolver.new ⟨"/proj"⟩ [".js"]).resolve utilDisk "..//src/./../util" ⟨"/proj/src"⟩ =
        .ok found ∧ utilDisk.stat found = .ok (["proj", "util"], .file ⟨#[1]⟩) := by
  have absolute : (Path.mk "/proj/src").isAbsolute = true := by decide
  have held : utilDisk.stat (Path.join ⟨"/proj/src"⟩ ⟨"..//src/./../util"⟩) =
      .ok (["proj", "util"], .file ⟨#[1]⟩) := by decide
  exact ⟨absolute, held, (resolve_first_file _ utilDisk _ absolute).1 _ _ held⟩

end Resolver

end ModuleBundler
