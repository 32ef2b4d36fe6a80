import ModuleBundler.FileSystem.Change
import ModuleBundler.Proofs.FileSystem.Place
import ModuleBundler.Proofs.Outcome

/-!
What each action on a file system does, place by place: when it succeeds, what it leaves alone, and which
directories there are afterwards.
-/

namespace ModuleBundler.FileSystem

theorem exists_file {found : Option Node} (filled : found ≠ none) (free : found ≠ some .directory) :
    ∃ content, found = some (.file content) := by
  match found with
  | none => exact absurd rfl filled
  | some .directory => exact absurd rfl free
  | some (.file content) => exact ⟨content, rfl⟩

theorem eq_none_of_free {found : Option Node} (free : found ≠ some .directory)
    (empty : ∀ content, found ≠ some (.file content)) : found = none := by
  by_contra filled
  obtain ⟨content, held⟩ := exists_file filled free
  exact empty content held

theorem comes_trans {before between after : Option Node} {early late : Prop}
    (first : between = before ∨ before = none ∧ between = some .directory ∧ early)
    (second : after = between ∨ between = none ∧ after = some .directory ∧ late) :
    after = before ∨ before = none ∧ after = some .directory ∧ (early ∨ late) := by
  rcases second with rfl | ⟨missing, made, new⟩
  · refine first.imp_right ?_
    rintro ⟨missing, made, new⟩
    exact ⟨missing, made, .inl new⟩
  · rcases first with rfl | ⟨-, made', -⟩
    · exact .inr ⟨missing, made, .inr new⟩
    · rw [made'] at missing
      cases missing

theorem find?_eq {disk : FileSystem} {place : Location} (low : place ≠ []) :
    disk.find? place = (disk.nodes.find? (·.1 == place)).map Prod.snd := by
  cases place with
  | nil => exact absurd rfl low
  | cons name place => rfl

theorem find?_nodes_filter (nodes : List (Location × Node)) (place other : Location) :
    (nodes.filter (·.1 != place)).find? (·.1 == other) =
      if other = place then none else nodes.find? (·.1 == other) := by
  rw [List.find?_filter]
  by_cases same : other = place
  · rw [if_pos same, List.find?_eq_none]
    intro entry _
    simp [same]
  · rw [if_neg same]
    congr 1
    funext entry
    by_cases here : entry.1 = other
    · simp [here, same]
    · simp [here]

theorem find?_set {disk : FileSystem} {place : Location} (low : place ≠ []) (node : Node)
    (other : Location) :
    (disk.set place node).find? other = if other = place then some node else disk.find? other := by
  by_cases root : other = []
  · subst root
    rw [if_neg (Ne.symm low)]
    rfl
  · rw [find?_eq root, find?_eq root, set, List.find?_cons]
    by_cases same : other = place
    · simp [same]
    · have apart : (place == other) = false := by simpa using Ne.symm same
      rw [apart, find?_nodes_filter, if_neg same, if_neg same]

theorem find?_clear {disk : FileSystem} {place : Location} (low : place ≠ []) (other : Location) :
    (disk.clear place).find? other = if other = place then none else disk.find? other := by
  by_cases root : other = []
  · subst root
    rw [if_neg (Ne.symm low)]
    rfl
  · rw [find?_eq root, find?_eq root, clear, find?_nodes_filter]
    split <;> rfl

structure Alike (before after : FileSystem) : Prop where
  keeps : Keeps before after
  kept : Keeps after before

namespace Alike

variable {before between after : FileSystem}

theorem refl (disk : FileSystem) : Alike disk disk :=
  ⟨.refl disk, .refl disk⟩

theorem trans (first : Alike before between) (second : Alike between after) : Alike before after :=
  ⟨first.keeps.trans second.keeps, second.kept.trans first.kept⟩

theorem placeOf (alike : Alike before after) (path : Path) : after.placeOf path = before.placeOf path :=
  alike.keeps.placeOf path

theorem directory_iff (alike : Alike before after) (place : Location) :
    after.find? place = some .directory ↔ before.find? place = some .directory :=
  ⟨alike.kept.directory, alike.keeps.directory⟩

theorem file_ne_directory (alike : Alike before after) (place : Location) (content : ByteArray)
    (held : before.find? place = some (.file content)) : after.find? place ≠ some .directory := by
  rw [Ne, alike.directory_iff, held]
  nofun

theorem leads_iff (alike : Alike before after) (path : Path) : after.Leads path ↔ before.Leads path :=
  ⟨fun leads => leads.keeps alike.kept, fun leads => leads.keeps alike.keeps⟩

end Alike

theorem alike_set {disk : FileSystem} {place : Location} (low : place ≠ [])
    (free : disk.find? place ≠ some .directory) (content : ByteArray) :
    Alike disk (disk.set place (.file content)) := by
  have directory_iff (other : Location) :
      (disk.set place (.file content)).find? other = some .directory ↔
        disk.find? other = some .directory := by
    rw [find?_set low]
    by_cases same : other = place
    · rw [if_pos same, same]
      simp [free]
    · rw [if_neg same]
  exact ⟨⟨rfl, (directory_iff _).2⟩, ⟨rfl, (directory_iff _).1⟩⟩

theorem alike_clear {disk : FileSystem} {place : Location} (low : place ≠ [])
    (free : disk.find? place ≠ some .directory) : Alike disk (disk.clear place) := by
  have directory_iff (other : Location) :
      (disk.clear place).find? other = some .directory ↔ disk.find? other = some .directory := by
    rw [find?_clear low]
    by_cases same : other = place
    · rw [if_pos same, same]
      simp [free]
    · rw [if_neg same]
  exact ⟨⟨rfl, (directory_iff _).2⟩, ⟨rfl, (directory_iff _).1⟩⟩

section Files

variable {disk after : FileSystem} {path : Path} {content : ByteArray}

theorem change_eq_ok {compute : FileSystem → Except AccessError FileSystem} :
    change compute disk = .ok () after ↔ compute disk = .ok after := by
  unfold change
  cases compute disk <;> simp

theorem change_eq_error {compute : FileSystem → Except AccessError FileSystem} {error : AccessError}
    (failed : change compute disk = .error error after) : after = disk := by
  unfold change at failed
  cases found : compute disk with
  | ok changed => simp [found] at failed
  | error cause =>
    rw [found] at failed
    cases failed
    rfl

theorem write_eq_ok : write path content disk = .ok () after ↔
    disk.Leads path ∧ disk.find? (disk.placeOf path) ≠ some .directory ∧ path.endsOpen = false ∧
      after = disk.set (disk.placeOf path) (.file content) := by
  rw [write, change_eq_ok, except_bind_eq_ok]
  constructor
  · rintro ⟨place, found, written⟩
    obtain ⟨leads, rfl⟩ := target_eq_ok.1 found
    split at written
    · cases written
    · rename_i free
      split at written
      · cases written
      · rename_i closed
        cases written
        exact ⟨leads, fun held => free held, by simpa using closed, rfl⟩
  · rintro ⟨leads, free, closed, rfl⟩
    refine ⟨_, target_eq_ok.2 ⟨leads, rfl⟩, ?_⟩
    split
    · rename_i held
      exact absurd held free
    · rw [closed, if_neg Bool.false_ne_true]
      rfl

theorem removeFile_eq_ok : removeFile path disk = .ok () after ↔
    disk.Leads path ∧ (∃ content, disk.find? (disk.placeOf path) = some (.file content)) ∧
      path.endsOpen = false ∧ after = disk.clear (disk.placeOf path) := by
  rw [removeFile, change_eq_ok, except_bind_eq_ok]
  constructor
  · rintro ⟨place, found, removed⟩
    obtain ⟨leads, rfl⟩ := target_eq_ok.1 found
    split at removed
    · cases removed
    · cases removed
    · rename_i content held
      split at removed
      · cases removed
      · rename_i closed
        cases removed
        exact ⟨leads, ⟨content, held⟩, by simpa using closed, rfl⟩
  · rintro ⟨leads, ⟨content, held⟩, closed, rfl⟩
    refine ⟨_, target_eq_ok.2 ⟨leads, rfl⟩, ?_⟩
    rw [held]
    dsimp only
    rw [closed, if_neg Bool.false_ne_true]
    rfl

theorem rename_eq_ok {source target : Path} : rename source target disk = .ok () after ↔
    disk.Leads source ∧ disk.Leads target ∧ source.endsOpen = false ∧ target.endsOpen = false ∧
      disk.find? (disk.placeOf target) ≠ some .directory ∧
      ∃ content, disk.find? (disk.placeOf source) = some (.file content) ∧
        after = (disk.clear (disk.placeOf source)).set (disk.placeOf target) (.file content) := by
  rw [rename, change_eq_ok, except_bind_eq_ok]
  simp only [except_bind_eq_ok]
  constructor
  · rintro ⟨_, first, _, second, renamed⟩
    obtain ⟨fromLeads, rfl⟩ := target_eq_ok.1 first
    obtain ⟨toLeads, rfl⟩ := target_eq_ok.1 second
    split at renamed
    · cases renamed
    · cases renamed
    · cases renamed
    · rename_i content held free
      split at renamed
      · cases renamed
      · rename_i closed
        rw [Bool.not_eq_true, Bool.or_eq_false_iff] at closed
        cases renamed
        exact ⟨fromLeads, toLeads, closed.1, closed.2, free, content, held, rfl⟩
  · rintro ⟨fromLeads, toLeads, fromClosed, toClosed, free, content, held, rfl⟩
    refine ⟨_, target_eq_ok.2 ⟨fromLeads, rfl⟩, _, target_eq_ok.2 ⟨toLeads, rfl⟩, ?_⟩
    rw [held]
    cases there : disk.find? (disk.placeOf target) with
    | none => simp [fromClosed, toClosed, pure, Except.pure]
    | some node =>
      cases node with
      | directory => exact absurd there free
      | file other => simp [fromClosed, toClosed, pure, Except.pure]

end Files

structure Gains (kind : Location → Prop) (before after : FileSystem) : Prop where
  workingDirectory : after.workingDirectory = before.workingDirectory
  find? : ∀ place, after.find? place = before.find? place ∨
    before.find? place = none ∧ after.find? place = some .directory ∧ kind place

namespace Gains

variable {kind : Location → Prop} {before between after : FileSystem}

theorem refl (kind : Location → Prop) (disk : FileSystem) : Gains kind disk disk :=
  ⟨rfl, fun _ => .inl rfl⟩

theorem keeps (gains : Gains kind before after) : Keeps before after := by
  refine ⟨gains.workingDirectory, fun {place} held => ?_⟩
  rcases gains.find? place with same | ⟨missing, -, -⟩
  · rw [same, held]
  · rw [held] at missing
    cases missing

theorem file (gains : Gains kind before after) {place : Location} {content : ByteArray}
    (held : before.find? place = some (.file content)) : after.find? place = some (.file content) := by
  rcases gains.find? place with same | ⟨missing, -, -⟩
  · rw [same, held]
  · rw [held] at missing
    cases missing

theorem file_ne_directory (gains : Gains kind before after) (place : Location) (content : ByteArray)
    (held : before.find? place = some (.file content)) : after.find? place ≠ some .directory := by
  rw [gains.file held]
  nofun

theorem trans (first : Gains kind before between) (second : Gains kind between after) :
    Gains kind before after := by
  refine ⟨second.workingDirectory.trans first.workingDirectory, fun place => ?_⟩
  simpa only [or_self] using comes_trans (first.find? place) (second.find? place)

theorem mono {wider : Location → Prop} (gains : Gains kind before after)
    (within : ∀ place, kind place → wider place) : Gains wider before after :=
  ⟨gains.workingDirectory, fun place =>
    (gains.find? place).imp_right fun ⟨missing, made, new⟩ => ⟨missing, made, within place new⟩⟩

end Gains

theorem makeDirectory_eq_ok {disk after : FileSystem} {path : Path} :
    makeDirectory path disk = .ok () after ↔
      disk.Leads path ∧ disk.find? (disk.placeOf path) = none ∧
        after = disk.set (disk.placeOf path) .directory := by
  rw [makeDirectory, change_eq_ok, except_bind_eq_ok]
  constructor
  · rintro ⟨place, found, made⟩
    obtain ⟨leads, rfl⟩ := target_eq_ok.1 found
    split at made
    · cases made
    · cases made
      exact ⟨leads, by assumption, rfl⟩
  · rintro ⟨leads, missing, rfl⟩
    refine ⟨_, target_eq_ok.2 ⟨leads, rfl⟩, ?_⟩
    rw [missing]
    rfl

theorem gains_makeDirectory (path : Path) (disk : FileSystem) :
    Gains (· = disk.placeOf path) disk (stateAfter (makeDirectory path disk)) := by
  cases made : makeDirectory path disk with
  | error error after =>
    obtain rfl := change_eq_error made
    exact .refl _ _
  | ok _ after =>
    obtain ⟨leads, missing, rfl⟩ := makeDirectory_eq_ok.1 made
    refine ⟨rfl, fun place => ?_⟩
    dsimp only [stateAfter]
    rw [find?_set leads.placeOf_ne_nil]
    by_cases here : place = disk.placeOf path
    · rw [if_pos here, here]
      exact .inr ⟨missing, rfl, rfl⟩
    · rw [if_neg here]
      exact .inl rfl

/-- The paths of the directories that are made for one: its own and those above it. -/
def onTheWay (path : Path) : List Path :=
  (path :: path.ancestors).filter (·.text ≠ "")

def ensureDirectory (path : Path) : DiskAction Unit := fun disk =>
  match makeDirectory path disk with
  | .ok _ changed => .ok () changed
  | .error error changed => if changed.isDirectory path then .ok () changed else .error error changed

theorem gains_ensureDirectory (path : Path) (disk : FileSystem) :
    Gains (· = disk.placeOf path) disk (stateAfter (ensureDirectory path disk)) := by
  have gains := gains_makeDirectory path disk
  unfold ensureDirectory
  cases made : makeDirectory path disk with
  | ok _ changed =>
    rw [made] at gains
    exact gains
  | error error changed =>
    rw [made] at gains
    dsimp only
    rw [stateAfter_ite]
    exact gains

theorem isDirectory_of_ensureDirectory {path : Path} {disk after : FileSystem}
    (made : ensureDirectory path disk = .ok () after) : after.isDirectory path = true := by
  unfold ensureDirectory at made
  cases first : makeDirectory path disk with
  | ok _ changed =>
    rw [first] at made
    cases made
    have keeps := (gains_makeDirectory path disk).keeps
    rw [first] at keeps
    obtain ⟨leads, -, rfl⟩ := makeDirectory_eq_ok.1 first
    exact (leads.keeps keeps).isDirectory ((find?_set leads.placeOf_ne_nil _ _).trans (if_pos rfl))
  | error error changed =>
    rw [first] at made
    dsimp only at made
    split at made
    · rename_i there
      cases made
      exact there
    · cases made

/-- A directory is made at once, or after those above it. -/
theorem makeDirectoriesAlong_cons {path : Path} (named : path.text ≠ "") (parents : List Path)
    (disk : FileSystem) :
    makeDirectoriesAlong (path :: parents) disk = ensureDirectory path disk ∨
      makeDirectoriesAlong (path :: parents) disk =
        (makeDirectoriesAlong parents >>= fun _ => ensureDirectory path) disk := by
  rw [makeDirectoriesAlong]
  dsimp only
  rw [if_neg named]
  cases first : makeDirectory path disk with
  | ok _ changed => exact .inl (by rw [ensureDirectory, first])
  | error error changed =>
    obtain rfl := change_eq_error first
    cases error with
    | notFound =>
      refine .inr ?_
      change _ = EStateM.bind _ _ _
      unfold EStateM.bind ensureDirectory
      cases makeDirectoriesAlong parents changed <;> rfl
    | _ => exact .inl (by rw [ensureDirectory, first])

theorem gains_makeDirectoriesAlong (paths : List Path) (disk : FileSystem) :
    Gains (fun place => ∃ path ∈ paths, path.text ≠ "" ∧ place = disk.placeOf path) disk
      (stateAfter (makeDirectoriesAlong paths disk)) := by
  induction paths generalizing disk with
  | nil => exact .refl _ _
  | cons path parents ih =>
    by_cases named : path.text = ""
    · rw [show makeDirectoriesAlong (path :: parents) disk = .ok () disk from if_pos named]
      exact .refl _ _
    · have above := (ih disk).mono fun place ⟨other, member, named, here⟩ =>
        (⟨other, List.mem_cons_of_mem _ member, named, here⟩ :
          ∃ other ∈ path :: parents, other.text ≠ "" ∧ place = disk.placeOf other)
      have own (middle : FileSystem) (same : middle.placeOf path = disk.placeOf path) :=
        (gains_ensureDirectory path middle).mono fun place here =>
          (⟨path, List.mem_cons_self, named, same ▸ here⟩ :
            ∃ other ∈ path :: parents, other.text ≠ "" ∧ place = disk.placeOf other)
      rcases makeDirectoriesAlong_cons named parents disk with once | twice
      · rw [once]
        exact own disk rfl
      · rw [twice]
        change Gains _ _ (stateAfter (EStateM.bind _ _ disk))
        unfold EStateM.bind
        cases rest : makeDirectoriesAlong parents disk with
        | error error middle =>
          rw [rest] at above
          exact above
        | ok _ middle =>
          rw [rest] at above
          exact above.trans (own middle (above.keeps.placeOf path))

theorem gains_makeDirectories {path : Path} {disk : FileSystem}
    {result : EStateM.Result AccessError FileSystem Unit} (made : makeDirectories path disk = result) :
    Gains (fun place => ∃ other ∈ onTheWay path, place = disk.placeOf other) disk (stateAfter result) := by
  subst made
  refine (gains_makeDirectoriesAlong (path :: path.ancestors) disk).mono ?_
  rintro place ⟨other, member, named, here⟩
  exact ⟨other, List.mem_filter.2 ⟨member, by simpa using named⟩, here⟩

/-- A way to a directory passes directories only. -/
theorem directory_of_prefix {disk : FileSystem} {path above : Path} {rest : List String}
    (names : path.names = above.names ++ rest) (start : above.isAbsolute = path.isAbsolute)
    (walked : disk.walk (path.origin disk) path.names = .ok (disk.placeOf path))
    (held : disk.find? (disk.placeOf path) = some .directory) :
    disk.find? (disk.placeOf above) = some .directory := by
  cases rest with
  | nil =>
    rw [List.append_nil] at names
    have same : disk.placeOf above = disk.placeOf path := by
      rw [placeOf, placeOf, Path.place, Path.place, names, start]
    rw [same, held]
  | cons name rest =>
    rw [names] at walked
    rw [placeOf_eq, Path.origin, start]
    exact directory_of_walk walked

theorem mem_ancestorsUpTo {count : Nat} {path above : Path} (member : above ∈ path.ancestorsUpTo count) :
    ∃ rest, path.names = above.names ++ rest ∧ above.isAbsolute = path.isAbsolute := by
  induction count generalizing path with
  | zero => cases member
  | succ count ih =>
    unfold Path.ancestorsUpTo at member
    split at member
    · rename_i parent found
      obtain ⟨last, names, start⟩ := Path.names_of_parent? found
      rcases List.mem_cons.1 member with rfl | further
      · exact ⟨last, names, start⟩
      · obtain ⟨rest, others, same⟩ := ih further
        exact ⟨rest ++ last, by rw [names, others, List.append_assoc], same.trans start⟩
    · cases member

theorem isDirectory_of_makeDirectoriesAlong {path : Path} {parents : List Path}
    {disk after : FileSystem} (made : makeDirectoriesAlong (path :: parents) disk = .ok () after)
    (named : path.text ≠ "") : after.isDirectory path = true := by
  rcases makeDirectoriesAlong_cons named parents disk with once | twice
  · exact isDirectory_of_ensureDirectory (once.symm.trans made)
  · obtain ⟨_, middle, -, last⟩ := bind_eq_ok.1 (twice.symm.trans made)
    exact isDirectory_of_ensureDirectory last

theorem isDirectory_of_makeDirectories {path : Path} {disk after : FileSystem}
    (made : makeDirectories path disk = .ok () after) :
    path.text = "" ∨ after.isDirectory path = true :=
  Decidable.or_iff_not_imp_left.2 fun named => isDirectory_of_makeDirectoriesAlong made named

/-- A directory that is there is not made again. -/
theorem makeDirectory_of_isDirectory {disk : FileSystem} {path : Path}
    (held : disk.isDirectory path = true) : makeDirectory path disk = .error .alreadyExists disk := by
  obtain ⟨walked, here⟩ := walk_of_isDirectory held
  obtain ⟨sound, -⟩ := locate_eq_ok.1 (isDirectory_iff.1 held).1
  unfold makeDirectory change target
  rw [sound]
  dsimp only
  rcases path.names.eq_nil_or_concat with none | ⟨front, name, whole⟩
  · rw [none]
    rfl
  · rw [List.concat_eq_append] at whole
    rw [whole] at walked ⊢
    obtain ⟨directory, first, second⟩ := walk_concat_eq_ok.1 walked
    rw [List.getLast?_concat, List.dropLast_concat]
    by_cases dots : name = "." ∨ name = ".."
    · simp [first, second, dots, bind, Except.bind, throw, throwThe, MonadExceptOf.throw]
    · simp [first, second, dots, bind, Except.bind, throw, throwThe, MonadExceptOf.throw, pure,
        Except.pure, here]

theorem makeDirectories_of_isDirectory {disk : FileSystem} {path : Path}
    (held : path.text = "" ∨ disk.isDirectory path = true) :
    makeDirectories path disk = .ok () disk := by
  unfold makeDirectories makeDirectoriesAlong
  split
  · rfl
  · rename_i named
    have there := held.resolve_left named
    rw [makeDirectory_of_isDirectory there]
    exact if_pos there

/-- When directories have been made, there is one wherever the way to them passes. -/
theorem directory_of_makeDirectories {path : Path} {disk after : FileSystem}
    (made : makeDirectories path disk = .ok () after) :
    ∀ other ∈ onTheWay path, after.find? (after.placeOf other) = some .directory := by
  intro other member
  obtain ⟨listed, named⟩ := List.mem_filter.1 member
  rw [decide_eq_true_eq] at named
  by_cases empty : path.text = ""
  · have alone : path.ancestors = [] := by
      obtain ⟨text⟩ := path
      cases empty
      rfl
    rw [alone, List.mem_singleton] at listed
    exact absurd (listed ▸ empty) named
  · obtain ⟨walked, held⟩ :=
      walk_of_isDirectory (isDirectory_of_makeDirectoriesAlong made empty)
    rcases List.mem_cons.1 listed with rfl | above
    · exact held
    · obtain ⟨rest, names, start⟩ := mem_ancestorsUpTo above
      exact directory_of_prefix names start walked held

end ModuleBundler.FileSystem
