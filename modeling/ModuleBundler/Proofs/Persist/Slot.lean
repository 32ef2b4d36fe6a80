import ModuleBundler.Build.Persist
import ModuleBundler.Proofs.FileSystem.Place

/-!
The places that an asset takes up while it is written: its own, and those of the two hidden files beside it.
-/

namespace ModuleBundler.Persist

def stem (target : Path) : String :=
  target.fileName?.getD ""

def hidden (stem suffix : String) : String :=
  "." ++ stem ++ "." ++ suffix

theorem toList_hidden (stem suffix : String) :
    (hidden stem suffix).toList = '.' :: (stem.toList ++ '.' :: suffix.toList) := by
  simp [hidden]

theorem hidden_injective {first second suffix : String}
    (same : hidden first suffix = hidden second suffix) : first = second := by
  have lists := congrArg String.toList same
  rw [toList_hidden, toList_hidden, List.cons.injEq] at lists
  exact String.toList_injective (List.append_cancel_right lists.2)

theorem hidden_ne_self (stem suffix : String) : hidden stem suffix ≠ stem := by
  intro same
  have lengths := congrArg (fun text : String => text.toList.length) same
  simp only [toList_hidden, List.length_cons, List.length_append] at lengths
  omega

theorem hidden_staging_ne_backup (first second : String) :
    hidden first stagingSuffix ≠ hidden second backupSuffix := by
  intro same
  have lists := congrArg (fun text : String => text.toList.getLast?) same
  simp only [toList_hidden] at lists
  simp [stagingSuffix, backupSuffix, List.getLast?_cons] at lists

theorem slash_not_mem_stem (target : Path) : '/' ∉ (stem target).toList := by
  unfold stem
  cases named : target.fileName? with
  | none => simp
  | some name =>
    obtain ⟨-, -, -, -, -, -, clean⟩ := Path.names_of_fileName? named
    exact clean

section Sibling

variable {target : Path} {suffix : String}

theorem sibling_eq (target : Path) (suffix : String) :
    sibling target suffix = target.seat.join ⟨hidden (stem target) suffix⟩ :=
  Path.withFileName_eq _ _

theorem characters_hidden (stem suffix : String) :
    (Path.mk (hidden stem suffix)).characters = '.' :: (stem.toList ++ '.' :: suffix.toList) :=
  toList_hidden stem suffix

theorem names_hidden (clean : '/' ∉ suffix.toList) (target : Path) :
    (Path.mk (hidden (stem target) suffix)).names = [hidden (stem target) suffix] := by
  have free : '/' ∉ (Path.mk (hidden (stem target) suffix)).characters := by
    have before := slash_not_mem_stem target
    simp [characters_hidden, before, clean]
  rw [Path.names_eq, splitSlashes_of_not_mem free, namesOf_cons _ (by simp [characters_hidden]),
    Path.characters, String.ofList_toList]
  rfl

theorem isAbsolute_hidden (stem suffix : String) : (Path.mk (hidden stem suffix)).isAbsolute = false := by
  rw [Path.isAbsolute, characters_hidden]
  rfl

theorem hidden_ne_dot (stem suffix : String) : hidden stem suffix ≠ "." := by
  intro dot
  have lists := congrArg String.toList dot
  rw [toList_hidden] at lists
  simp at lists

theorem hidden_ne_parent (stem : String) (filled : suffix ≠ "") : hidden stem suffix ≠ ".." := by
  intro parent
  have lists := congrArg String.toList parent
  rw [toList_hidden] at lists
  simp only [String.reduceToList, List.cons.injEq, true_and] at lists
  cases begin : stem.toList with
  | nil => simp [begin, filled] at lists
  | cons c rest => simp [begin] at lists

theorem place_sibling (clean : '/' ∉ suffix.toList) (filled : suffix ≠ "") (target : Path)
    (working : Location) :
    (sibling target suffix).place working =
      target.seat.place working ++ [hidden (stem target) suffix] := by
  rw [sibling_eq, Path.place_join (isAbsolute_hidden _ _), names_hidden clean]
  exact Location.enter_of_ne (hidden_ne_dot _ _) (hidden_ne_parent _ filled)

theorem endsOpen_sibling (clean : '/' ∉ suffix.toList) (filled : suffix ≠ "") (target : Path) :
    (sibling target suffix).endsOpen = false := by
  rw [sibling_eq, Path.endsOpen_join (by simp [characters_hidden]), Path.endsOpen, characters_hidden]
  obtain ⟨front, last, whole⟩ :=
    List.eq_nil_or_concat suffix.toList |>.resolve_left fun none => filled (String.toList_eq_nil_iff.1 none)
  rw [List.concat_eq_append] at whole
  have different : last ≠ '/' := fun same => clean (by simp [whole, same])
  have ended : '.' :: ((stem target).toList ++ '.' :: (front ++ [last])) =
      ('.' :: ((stem target).toList ++ '.' :: front)) ++ [last] := by simp
  rw [whole, ended, List.getLast?_concat]
  simpa using different

end Sibling

structure Slot where
  target : Location
  staging : Location
  backup : Location

def Slot.places (slot : Slot) : List Location :=
  [slot.target, slot.staging, slot.backup]

theorem Slot.mem_places {slot : Slot} {place : Location} :
    place ∈ slot.places ↔ place = slot.target ∨ place = slot.staging ∨ place = slot.backup := by
  simp [Slot.places]

theorem Slot.not_mem_places {slot : Slot} {place : Location} :
    place ∉ slot.places ↔ place ≠ slot.target ∧ place ≠ slot.staging ∧ place ≠ slot.backup := by
  simp [Slot.places]

/-- The slot of an asset that is written to a target. -/
def slotOf (working : Location) (target : Path) : Slot where
  target := target.place working
  staging := (sibling target stagingSuffix).place working
  backup := (sibling target backupSuffix).place working

/-- The slots of targets. -/
def slots (working : Location) (targets : List Path) : List Slot :=
  targets.map (slotOf working)

section Slots

variable {working : Location}

theorem slotOf_staging (working : Location) (target : Path) : (slotOf working target).staging =
    target.seat.place working ++ [hidden (stem target) stagingSuffix] :=
  place_sibling (by decide) (by decide) target working

theorem slotOf_backup (working : Location) (target : Path) : (slotOf working target).backup =
    target.seat.place working ++ [hidden (stem target) backupSuffix] :=
  place_sibling (by decide) (by decide) target working

theorem slotOf_target {target : Path} {name : String} (named : target.fileName? = some name)
    (working : Location) :
    (slotOf working target).target = target.seat.place working ++ [stem target] := by
  rw [stem, named, Option.getD_some]
  exact Path.place_of_fileName? named working

theorem staging_ne_backup (working : Location) (first second : Path) :
    (slotOf working first).staging ≠ (slotOf working second).backup := by
  rw [slotOf_staging, slotOf_backup]
  intro same
  exact hidden_staging_ne_backup _ _ (List.append_inj' same rfl |>.2 |> List.singleton_injective)

theorem target_ne_staging {target : Path} {name : String} (named : target.fileName? = some name)
    (working : Location) : (slotOf working target).target ≠ (slotOf working target).staging := by
  rw [slotOf_staging, slotOf_target named]
  intro same
  exact hidden_ne_self _ _ (List.singleton_injective (List.append_inj' same rfl).2).symm

theorem target_ne_backup {target : Path} {name : String} (named : target.fileName? = some name)
    (working : Location) : (slotOf working target).target ≠ (slotOf working target).backup := by
  rw [slotOf_backup, slotOf_target named]
  intro same
  exact hidden_ne_self _ _ (List.singleton_injective (List.append_inj' same rfl).2).symm

theorem concat_hidden_inj {first second : Location} {name other suffix : String} :
    first ++ [hidden name suffix] = second ++ [hidden other suffix] ↔
      first ++ [name] = second ++ [other] := by
  constructor
  · intro same
    obtain ⟨seats, names⟩ := List.append_inj' same rfl
    rw [seats, hidden_injective (List.singleton_injective names)]
  · intro same
    obtain ⟨seats, names⟩ := List.append_inj' same rfl
    rw [seats, List.singleton_injective names]

theorem staging_eq_iff {first second : Path} {name other : String}
    (named : first.fileName? = some name) (others : second.fileName? = some other)
    (working : Location) :
    (slotOf working first).staging = (slotOf working second).staging ↔
      (slotOf working first).target = (slotOf working second).target := by
  rw [slotOf_staging, slotOf_staging, slotOf_target named, slotOf_target others]
  exact concat_hidden_inj

theorem backup_eq_iff {first second : Path} {name other : String}
    (named : first.fileName? = some name) (others : second.fileName? = some other)
    (working : Location) :
    (slotOf working first).backup = (slotOf working second).backup ↔
      (slotOf working first).target = (slotOf working second).target := by
  rw [slotOf_backup, slotOf_backup, slotOf_target named, slotOf_target others]
  exact concat_hidden_inj

end Slots

end ModuleBundler.Persist
