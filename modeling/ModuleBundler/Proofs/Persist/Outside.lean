import ModuleBundler.Proofs.FileSystem.Lookup
import ModuleBundler.Proofs.Persist.Survival

/-!
What a write does outside of its output directory. Nothing, as long as every asset has a name that leads
into the directory. A name of dots and slashes alone does not: its target is the directory itself, so that
the asset is staged beside it.
-/

namespace ModuleBundler

theorem Location.inside_concat {directory place : Location} (high : directory <+: place) (name : String) :
    directory.Inside (place ++ [name]) := by
  refine ⟨high.trans (List.prefix_append _ _), fun same => ?_⟩
  have longer := high.length_le
  have lengths := congrArg List.length same
  simp only [List.length_append, List.length_singleton] at lengths
  omega

theorem Location.prefix_follow (here : Location) {names : List String} (down : ".." ∉ names) :
    here <+: here.follow names := by
  induction names generalizing here with
  | nil => exact List.prefix_rfl
  | cons name names ih =>
    rw [List.mem_cons, not_or] at down
    have first : here <+: here.enter name := by
      unfold Location.enter
      split
      · exact List.prefix_rfl
      · rw [if_neg (Ne.symm down.1)]
        exact List.prefix_append here [name]
    exact first.trans (ih (here.enter name) down.2)

namespace Persist

open FileSystem

/-- The name of an asset starts where the output directory ends, and never steps up. -/
theorem names_of_isAssetName {name : String} (valid : isAssetName name = true) :
    Path.isAbsolute ⟨name⟩ = false ∧ ".." ∉ Path.names ⟨name⟩ ∧ Path.names ⟨name⟩ ≠ [] := by
  unfold isAssetName at valid
  rw [Bool.and_eq_true, bne_iff_ne, List.all_eq_true] at valid
  obtain ⟨named, low⟩ := valid
  have relative : Path.isAbsolute ⟨name⟩ = false := by
    by_contra absolute
    obtain ⟨rest, whole⟩ := Path.exists_rest (by simpa using absolute)
    have root := low .root (by rw [Path.components_of_characters whole]; exact List.mem_cons_self)
    cases root
  refine ⟨relative, fun up => ?_, Path.names_ne_nil relative named⟩
  rw [Path.names_eq_parts] at up
  rcases List.mem_append.1 up with start | listed
  · rcases Path.parts_cases ⟨name⟩ with ⟨_, -, parts⟩ | ⟨_, -, parts⟩ | ⟨-, parts⟩ | ⟨-, parts⟩ <;>
      rw [parts] at start <;> simp [splitSlashes, namesOf] at start
  · obtain ⟨piece, kept, same⟩ := List.mem_map.1 listed
    have spelled : piece = ['.', '.'] := by
      rw [← String.toList_ofList (l := piece), same]
      rfl
    have parent := low .parent (List.mem_append_right _ (List.mem_filterMap.2
      ⟨piece, (List.mem_filter.1 kept).1, by rw [spelled]; rfl⟩))
    cases parent

def IsDots (name : String) : Prop :=
  ∀ part ∈ Path.names ⟨name⟩, part = "."

instance (name : String) : Decidable (IsDots name) :=
  inferInstanceAs (Decidable (∀ part ∈ Path.names ⟨name⟩, part = "."))

/-- The last of some names that is no dot. -/
theorem exists_last_of_ne_dot {names : List String} (busy : ¬∀ name ∈ names, name = ".") :
    ∃ front last dots, names = front ++ last :: dots ∧ last ≠ "." ∧ ∀ dot ∈ dots, dot = "." := by
  induction names using List.reverseRecOn with
  | nil => exact absurd (by simp) busy
  | append_singleton front last ih =>
    by_cases dot : last = "."
    · subst dot
      obtain ⟨before, other, dots, rfl, notDot, idle⟩ := ih fun idle => busy fun name member => by
        rcases List.mem_append.1 member with listed | single
        · exact idle name listed
        · exact List.mem_singleton.1 single
      refine ⟨before, other, dots ++ ["."], by simp, notDot, fun name member => ?_⟩
      rcases List.mem_append.1 member with listed | single
      · exact idle name listed
      · exact List.mem_singleton.1 single
    · exact ⟨front, last, [], rfl, dot, by simp⟩

section Target

variable {directory : Path} {name : String} (valid : isAssetName name = true)
include valid

variable (directory) in
theorem names_target : (directory.join ⟨name⟩).names = directory.names ++ Path.names ⟨name⟩ := by
  rw [Path.names_join, (names_of_isAssetName valid).1, if_neg Bool.false_ne_true]

theorem place_target (working : Location) : (directory.join ⟨name⟩).place working =
    (directory.place working).follow (Path.names ⟨name⟩) :=
  Path.place_join (names_of_isAssetName valid).1 working

/-- An asset and its hidden files lie inside of the output directory, if its name leads somewhere. -/
theorem inside_of_not_isDots (busy : ¬IsDots name) (working : Location) :
    ∀ place ∈ (slotOf working (directory.join ⟨name⟩)).places, (directory.place working).Inside place := by
  obtain ⟨-, down, -⟩ := names_of_isAssetName valid
  obtain ⟨front, last, dots, whole, notDot, idle⟩ := exists_last_of_ne_dot busy
  have notParent : last ≠ ".." := fun up => down (by rw [whole, up]; simp)
  have named : (directory.join ⟨name⟩).fileName? = some last :=
    Path.fileName?_of_names (by rw [names_target directory valid, whole, List.append_assoc]) idle notDot notParent
  have place : (directory.join ⟨name⟩).place working =
      (directory.place working).follow front ++ [last] := by
    rw [place_target valid, whole, ← List.singleton_append, Location.follow_append,
      Location.follow_append, Location.follow_dots _ idle]
    exact Location.enter_of_ne notDot notParent
  have seat : (directory.join ⟨name⟩).seat.place working = (directory.place working).follow front :=
    (List.append_inj' ((Path.place_of_fileName? named working).symm.trans place) rfl).1
  have high : directory.place working <+: (directory.join ⟨name⟩).seat.place working := by
    rw [seat]
    exact Location.prefix_follow _ fun up => down (by rw [whole]; exact List.mem_append_left _ up)
  intro here member
  rcases Slot.mem_places.1 member with rfl | rfl | rfl
  · rw [slotOf_target named]
    exact Location.inside_concat high _
  · rw [slotOf_staging]
    exact Location.inside_concat high _
  · rw [slotOf_backup]
    exact Location.inside_concat high _

variable (idle : IsDots name)
include idle

variable (directory) in
/-- A name that leads nowhere leaves a path the name that it ends with. -/
theorem fileName?_of_isDots : (directory.join ⟨name⟩).fileName? = directory.fileName? := by
  have names := names_target directory valid
  refine Option.ext fun last => ⟨fun named => ?_, fun named => ?_⟩
  · obtain ⟨before, behind, whole, spare, notDot, notParent, -⟩ := Path.names_of_fileName? named
    rcases List.append_eq_append_iff.1 (names.symm.trans whole) with
      ⟨more, -, rest⟩ | ⟨more, split, rest⟩
    · exact absurd (idle last (by rw [rest]; simp)) notDot
    · rcases more with _ | ⟨first, more⟩
      · exact absurd (idle last (by rw [List.nil_append] at rest; rw [← rest]; simp)) notDot
      · obtain ⟨rfl, rfl⟩ := List.cons.inj rest
        exact Path.fileName?_of_names split (fun dot member => spare dot (by simp [member])) notDot notParent
  · obtain ⟨before, behind, whole, spare, notDot, notParent, -⟩ := Path.names_of_fileName? named
    rw [whole, List.append_assoc, List.cons_append] at names
    refine Path.fileName?_of_names names (fun dot member => ?_) notDot notParent
    rcases List.mem_append.1 member with own | added
    · exact spare dot (List.mem_append_right _ own)
    · exact idle dot added

variable (directory) in
theorem place_of_isDots (working : Location) :
    (directory.join ⟨name⟩).place working = directory.place working := by
  rw [place_target valid, Location.follow_dots _ idle]

/-- An asset whose name leads nowhere is staged where a file would be whose path is that of the output
directory. -/
theorem staging_of_isDots (working : Location) :
    (slotOf working (directory.join ⟨name⟩)).staging = (slotOf working directory).staging := by
  have ended := fileName?_of_isDots directory valid idle
  have place := place_of_isDots directory valid idle working
  rw [slotOf_staging, slotOf_staging, stem, stem, ended]
  congr 1
  cases named : directory.fileName? with
  | some last =>
    rw [Path.place_of_fileName? named, Path.place_of_fileName? (ended.trans named)] at place
    exact (List.append_inj' place rfl).1
  | none =>
    have own {path : Path} (nameless : path.fileName? = none) : path.seat = path := by
      unfold Path.seat
      rw [nameless]
    rw [own named, own (ended.trans named), place]

theorem not_leads_of_isDots (disk : FileSystem) : ¬disk.Leads (directory.join ⟨name⟩) := by
  rintro ⟨-, front, last, whole, notDot, -⟩
  obtain ⟨-, -, some'⟩ := names_of_isAssetName valid
  have ended := congrArg List.getLast? (whole.symm.trans (names_target directory valid))
  rw [List.getLast?_concat, List.getLast?_append_of_ne_nil _ some'] at ended
  exact notDot (idle last (List.mem_of_getLast? ended.symm))

/-- The hidden file of such an asset can be made, if its path and its name are not too long. -/
theorem leads_of_isDots {disk : FileSystem} {last : String} (held : disk.isDirectory directory = true)
    (named : directory.fileName? = some last)
    (sound : (sibling (directory.join ⟨name⟩) stagingSuffix).fault? = none)
    (short : ¬nameLimit < (hidden (stem directory) stagingSuffix).utf8ByteSize) :
    disk.Leads (sibling (directory.join ⟨name⟩) stagingSuffix) := by
  have ended := (fileName?_of_isDots directory valid idle).trans named
  obtain ⟨before, behind, names, -⟩ := Path.names_of_fileName? ended
  obtain ⟨walked, here⟩ := walk_of_isDirectory held
  have origin : (directory.join ⟨name⟩).seat.origin disk = directory.origin disk := by
    rw [Path.origin, Path.origin, Path.isAbsolute_seat, Path.isAbsolute_join,
      (names_of_isAssetName valid).1, Bool.false_or]
  -- whoever walks to the directory, and stays there, comes by the seat and goes on
  have way : disk.walk (directory.origin disk) ((directory.join ⟨name⟩).seat.names ++
      (before ++ (last :: behind))) = .ok (disk.placeOf directory) := by
    rw [← List.append_assoc, ← names, names_target directory valid]
    exact walk_append_eq_ok.2 ⟨_, walked, walk_dots here idle⟩
  obtain ⟨next, more, goes⟩ := List.exists_cons_of_ne_nil (l := before ++ (last :: behind)) (by simp)
  obtain ⟨middle, first, -⟩ := walk_append_eq_ok.1 way
  rw [goes] at way
  have there := directory_of_walk way
  have place : middle = disk.placeOf (directory.join ⟨name⟩).seat := by
    rw [eq_follow_of_walk first, placeOf_eq, origin]
  refine (leads_sibling_iff (by decide) (by decide)).2 ⟨sound, ?_, ?_, ?_⟩
  · rw [origin, ← place]
    exact first
  · rw [← place, eq_follow_of_walk first]
    exact there
  · rwa [stem, ended, ← named]

end Target

/-- An asset is staged beside its directory: its name leads nowhere, and the path and the name of its hidden
file are not too long. -/
structure Strays (directory : Path) (name : String) : Prop where
  idle : IsDots name
  sound : (sibling (directory.join ⟨name⟩) stagingSuffix).fault? = none
  short : ¬nameLimit < (hidden (stem directory) stagingSuffix).utf8ByteSize

theorem strays_of_leads {disk : FileSystem} {directory : Path} {name : String}
    (valid : isAssetName name = true) (idle : IsDots name)
    (leads : disk.Leads (sibling (directory.join ⟨name⟩) stagingSuffix)) : Strays directory name := by
  obtain ⟨sound, -, -, short⟩ := (leads_sibling_iff (by decide) (by decide)).1 leads
  rw [stem, fileName?_of_isDots directory valid idle] at short
  exact ⟨idle, sound, short⟩

def ComesTo (directory : Path) (assets : List (String × Asset)) (made : Desk) (name : String) : Prop :=
  ∃ front asset back middle, assets = front ++ (name, asset) :: back ∧
    Stages (targetsIn directory front) made middle

theorem targetsIn_append (directory : Path) (front back : List (String × Asset)) :
    targetsIn directory (front ++ back) = targetsIn directory front ++ targetsIn directory back :=
  List.map_append

theorem mem_targetsIn {directory : Path} {assets : List (String × Asset)} {entry : String × Asset}
    (member : entry ∈ assets) : (directory.join ⟨entry.1⟩, entry.2) ∈ targetsIn directory assets :=
  List.mem_map_of_mem member

theorem Stages.front {front back : List (Path × Asset)} {desk after : Desk}
    (stages : Stages (front ++ back) desk after) : ∃ middle, Stages front desk middle := by
  induction front generalizing desk with
  | nil => exact ⟨desk, .done⟩
  | cons entry front ih =>
    cases stages with
    | more first rest =>
      obtain ⟨middle, staged⟩ := ih rest
      exact ⟨middle, .more first staged⟩

/-- No asset is staged behind one that cannot be. -/
theorem Stages.prefix_of_stuck {front back others : List (Path × Asset)} {target : Path} {asset : Asset}
    {made middle last between : Desk} {cause : AccessError} (stages : Stages front made middle)
    (failed : stage (beside target) asset middle = .error cause last)
    (staged : Stages others made between) (within : others <+: front ++ (target, asset) :: back) :
    others <+: front := by
  induction stages generalizing others with
  | done =>
    cases staged with
    | done => exact List.nil_prefix
    | more first _ =>
      obtain ⟨same, -⟩ := List.cons_prefix_cons.1 within
      cases same
      rw [first] at failed
      cases failed
  | more first _ ih =>
    cases staged with
    | done => exact List.nil_prefix
    | more own rest =>
      obtain ⟨same, behind⟩ := List.cons_prefix_cons.1 within
      cases same
      rw [first] at own
      cases own
      exact List.cons_prefix_cons.2 ⟨rfl, ih failed rest behind⟩

theorem comesTo_of_stages {directory : Path} {front back : List (String × Asset)} {made middle : Desk}
    (stages : Stages (targetsIn directory front) made middle) {entry : String × Asset}
    (member : entry ∈ front) : ComesTo directory (front ++ back) made entry.1 := by
  obtain ⟨before, behind, rfl⟩ := List.append_of_mem member
  rw [targetsIn_append] at stages
  obtain ⟨between, staged⟩ := stages.front
  exact ⟨before, entry.2, behind ++ back, between, by simp, staged⟩

theorem mem_of_comesTo {directory : Path} {front back : List (String × Asset)} {name : String}
    {asset : Asset} {made middle last : Desk} {cause : AccessError}
    (stages : Stages (targetsIn directory front) made middle)
    (failed : stage (beside (directory.join ⟨name⟩)) asset middle = .error cause last) {other : String}
    (comes : ComesTo directory (front ++ (name, asset) :: back) made other) :
    other = name ∨ ∃ entry ∈ front, entry.1 = other := by
  obtain ⟨before, content, behind, between, whole, staged⟩ := comes
  have targets : targetsIn directory before <+: targetsIn directory front ++
      (directory.join ⟨name⟩, asset) :: targetsIn directory back := by
    refine ⟨targetsIn directory ((other, content) :: behind), ?_⟩
    rw [← targetsIn_append, ← whole, targetsIn_append]
    rfl
  have short := (stages.prefix_of_stuck failed staged targets).length_le
  simp only [targetsIn, List.length_map] at short
  rcases List.append_eq_append_iff.1 whole with ⟨more, split, rest⟩ | ⟨more, split, rest⟩
  · rw [split, List.length_append] at short
    obtain rfl := List.length_eq_zero_iff.1 (by omega : more.length = 0)
    rw [List.nil_append] at rest
    exact .inl (Prod.mk.inj (List.cons.inj rest).1).1.symm
  · rcases more with _ | ⟨first, more⟩
    · rw [List.nil_append] at rest
      exact .inl (Prod.mk.inj (List.cons.inj rest).1).1
    · obtain ⟨rfl, -⟩ := List.cons.inj rest
      exact .inr ⟨(other, content), by rw [split]; simp, rfl⟩

theorem mem_parentPaths {target other : Path} (member : other ∈ parentPaths target) :
    ∃ rest, target.names = other.names ++ rest ∧ other.isAbsolute = target.isAbsolute := by
  unfold parentPaths at member
  split at member
  · rename_i parent above
    obtain ⟨last, names, start⟩ := Path.names_of_parent? above
    rcases List.mem_cons.1 (List.mem_filter.1 member).1 with rfl | further
    · exact ⟨last, names, start⟩
    · obtain ⟨rest, others, same⟩ := mem_ancestorsUpTo further
      exact ⟨rest ++ last, by rw [names, others, List.append_assoc], same.trans start⟩
  · cases member

section Outside

variable {directory : Path} {name : String} {made : Desk} {place : Location}
  (there : directory.text = "" ∨ made.disk.isDirectory directory = true)
  (outside : ¬made.disk.placeOf directory <+: place)

include there outside in
/-- No directory has to be made for a target but inside of the output directory. -/
theorem directory_of_isParent (valid : isAssetName name = true)
    (parent : IsParent made.disk.workingDirectory (directory.join ⟨name⟩) place) :
    made.disk.find? place = some .directory := by
  obtain ⟨other, member, rfl⟩ := parent
  obtain ⟨down, names, start⟩ := mem_parentPaths member
  obtain ⟨relative, low, -⟩ := names_of_isAssetName valid
  rw [Path.isAbsolute_join, relative, Bool.false_or] at start
  rw [names_target directory valid] at names
  have origin : other.origin made.disk = directory.origin made.disk := by
    rw [Path.origin, Path.origin, start]
  rcases List.append_eq_append_iff.1 names with ⟨more, whole, rest⟩ | ⟨more, whole, -⟩
  · refine absurd ?_ outside
    rw [← placeOf, placeOf_eq, placeOf_eq, origin, whole, Location.follow_append]
    exact Location.prefix_follow _ fun up => low (by rw [rest]; exact List.mem_append_left _ up)
  · rcases there with empty | held
    · have none : directory.names = [] := by
        rw [Path.names_eq, Path.characters, empty]
        rfl
      rw [none] at whole
      have same : made.disk.placeOf other = made.disk.placeOf directory := by
        rw [placeOf_eq, placeOf_eq, origin, none, (List.nil_eq_append_iff.1 whole).1]
      exact absurd (same ▸ List.prefix_rfl) outside
    · obtain ⟨walked, here⟩ := walk_of_isDirectory held
      exact directory_of_prefix whole start walked here

include outside in
theorem not_mem_places (valid : isAssetName name = true) (busy : ¬IsDots name) :
    place ∉ (slotOf made.disk.workingDirectory (directory.join ⟨name⟩)).places := fun member =>
  outside (inside_of_not_isDots valid busy _ place member).1

include outside in
theorem ne_staging_of_outside (valid : isAssetName name = true)
    (apart : IsDots name → place ≠ (slotOf made.disk.workingDirectory directory).staging) :
    place ≠ (slotOf made.disk.workingDirectory (directory.join ⟨name⟩)).staging := by
  by_cases idle : IsDots name
  · rw [staging_of_isDots valid idle]
    exact apart idle
  · intro same
    exact not_mem_places outside valid idle (by simp [Slot.places, same])

include outside in
theorem exists_fileName? (here : place = (slotOf made.disk.workingDirectory directory).staging) :
    ∃ last, directory.fileName? = some last := by
  cases named : directory.fileName? with
  | some last => exact ⟨last, rfl⟩
  | none =>
    have own : directory.seat = directory := by
      unfold Path.seat
      rw [named]
    rw [here, slotOf_staging, own] at outside
    exact absurd (List.prefix_append _ _) outside

end Outside

structure LosesIf (lost : Prop) (place : Location) (before after : FileSystem) : Prop where
  gone : lost → after.find? place = none
  same : ¬lost → after.find? place = before.find? place

def StagedOver (directory : Path) (assets : List (String × Asset)) (made : Desk) (place : Location) : Prop :=
  place = (slotOf made.disk.workingDirectory directory).staging ∧
    (∃ content, made.disk.find? place = some (.file content)) ∧
    ∃ name, ComesTo directory assets made name ∧ Strays directory name

section Write

variable {directory : Path} {front back assets : List (String × Asset)} {made middle : Desk}
  {place : Location} (there : directory.text = "" ∨ made.disk.isDirectory directory = true)
  (outside : ¬made.disk.placeOf directory <+: place)
  (valid : ∀ entry ∈ front, isAssetName entry.1 = true)

include valid in
theorem Stages.strays (stages : Stages (targetsIn directory front) made middle) {entry : String × Asset}
    (member : entry ∈ front) (idle : IsDots entry.1) : Strays directory entry.1 := by
  have leads := stages.leads (mem_targetsIn member)
  exact strays_of_leads (valid entry member) idle leads

include outside valid in
theorem Stages.ne_staging (stages : Stages (targetsIn directory front) made middle)
    (apart : ¬((∃ entry ∈ front, Strays directory entry.1) ∧
      place = (slotOf made.disk.workingDirectory directory).staging)) {target : Path}
    (member : target ∈ (targetsIn directory front).map Prod.fst) :
    place ≠ (slotOf made.disk.workingDirectory target).staging := by
  obtain ⟨_, listed, rfl⟩ := List.mem_map.1 member
  obtain ⟨entry, among, rfl⟩ := List.mem_map.1 listed
  exact ne_staging_of_outside outside (valid entry among) fun idle here =>
    apart ⟨⟨entry, among, stages.strays valid among idle⟩, here⟩

include there outside valid in
theorem Stages.find?_outside (stages : Stages (targetsIn directory front) made middle)
    (apart : ¬((∃ entry ∈ front, Strays directory entry.1) ∧
      place = (slotOf made.disk.workingDirectory directory).staging)) :
    middle.disk.find? place = made.disk.find? place := by
  rcases stages.find? place fun entry member =>
    stages.ne_staging outside valid apart (List.mem_map_of_mem member) with
    same | ⟨missing, -, target, member, parent⟩
  · exact same
  · obtain ⟨entry, among, rfl⟩ := List.mem_map.1 member
    have held := directory_of_isParent there outside (valid entry among) parent
    rw [missing] at held
    cases held

include outside valid in
/-- When staged files are taken away, nothing is left of those that are outside. -/
theorem Stages.discard_outside (stages : Stages (targetsIn directory front) made middle) {last : Desk}
    (keeps : Keeps middle.disk last.disk)
    (files : ∀ place content, middle.disk.find? place = some (.file content) →
      last.disk.find? place ≠ some .directory)
    {targets : List Path} (within : ∀ target ∈ targets, target ∈ (targetsIn directory front).map Prod.fst)
    (all : ∀ entry ∈ front, Strays directory entry.1 → directory.join ⟨entry.1⟩ ∈ targets) :
    Keeps made.disk (Persist.discard (targets.map beside) last).disk ∧
      ((∃ entry ∈ front, Strays directory entry.1) ∧
          place = (slotOf made.disk.workingDirectory directory).staging →
        (Persist.discard (targets.map beside) last).disk.find? place = none) ∧
      (¬((∃ entry ∈ front, Strays directory entry.1) ∧
          place = (slotOf made.disk.workingDirectory directory).staging) →
        (Persist.discard (targets.map beside) last).disk.find? place = last.disk.find? place) := by
  obtain ⟨alike, gone, rest⟩ := stages.discard keeps files within
  refine ⟨stages.keeps.trans (keeps.trans alike.keeps), ?_, fun apart => ?_⟩
  · rintro ⟨⟨entry, member, strays⟩, here⟩
    have emptied := gone _ (all entry member strays)
    rwa [staging_of_isDots (valid entry member) strays.idle, ← here] at emptied
  · exact rest place fun target member => stages.ne_staging outside valid apart (within target member)

include valid in
/-- When an asset has been staged outside and taken away, a file that was there is lost. -/
theorem Stages.losesIf (stages : Stages (targetsIn directory front) made middle)
    (whole : assets = front ++ back) {after : FileSystem}
    (strayed : (∃ entry ∈ front, Strays directory entry.1) ∧
      place = (slotOf made.disk.workingDirectory directory).staging)
    (gone : after.find? place = none) :
    LosesIf (StagedOver directory assets made place) place made.disk after := by
  obtain ⟨⟨entry, member, strays⟩, here⟩ := strayed
  refine ⟨fun _ => gone, fun kept => gone.trans ?_⟩
  cases held : made.disk.find? place with
  | none => rfl
  | some node =>
    cases node with
    | file content =>
      exact absurd ⟨here, ⟨content, held⟩, entry.1, whole ▸ comesTo_of_stages stages member, strays⟩ kept
    | directory =>
      obtain ⟨content, staged⟩ := stages.holds
        (mem_targetsIn member)
      rw [staging_of_isDots (valid entry member) strays.idle, ← here,
        stages.keeps.directory held] at staged
      cases staged

end Write

section Outcomes

variable {directory : Path} {assets : List (String × Asset)} {made after : Desk} {place : Location}
  (there : directory.text = "" ∨ made.disk.isDirectory directory = true)
  (outside : ¬made.disk.placeOf directory <+: place)
  (valid : ∀ entry ∈ assets, isAssetName entry.1 = true)

include there outside in
/-- The hidden file of an asset that could not be staged is taken away, if it is outside. -/
theorem removeFile_outside {swept : FileSystem} {name : String} (own : isAssetName name = true)
    (keeps : Keeps made.disk swept) :
    ((Strays directory name ∧ place = (slotOf made.disk.workingDirectory directory).staging) ∧
        (∃ content, swept.find? place = some (.file content)) →
      (stateAfter (removeFile (sibling (directory.join ⟨name⟩) stagingSuffix) swept)).find? place = none) ∧
      (¬((Strays directory name ∧ place = (slotOf made.disk.workingDirectory directory).staging) ∧
          ∃ content, swept.find? place = some (.file content)) →
        (stateAfter (removeFile (sibling (directory.join ⟨name⟩) stagingSuffix) swept)).find? place =
          swept.find? place) := by
  have hidden : swept.placeOf (sibling (directory.join ⟨name⟩) stagingSuffix) =
      (slotOf made.disk.workingDirectory (directory.join ⟨name⟩)).staging := keeps.placeOf _
  constructor
  · rintro ⟨⟨strays, here⟩, content, held⟩
    obtain ⟨last, named⟩ := exists_fileName? outside here
    have filled : directory.text ≠ "" := by
      intro empty
      rw [show directory = ⟨""⟩ from congrArg Path.mk empty] at named
      cases named
    have leads := leads_of_isDots own strays.idle (keeps.isDirectory (there.resolve_left filled)) named
      strays.sound strays.short
    rw [← staging_of_isDots own strays.idle, ← hidden] at here
    rw [(removeFile_spec leads (endsOpen_staging _) (by rw [← here, held]; nofun)).2, if_pos here]
  · intro kept
    by_cases here : place = swept.placeOf (sibling (directory.join ⟨name⟩) stagingSuffix)
    · cases removed : removeFile (sibling (directory.join ⟨name⟩) stagingSuffix) swept with
      | error cause last =>
        rw [change_eq_error removed]
        rfl
      | ok _ last =>
        obtain ⟨leads, file, -⟩ := removeFile_eq_ok.1 removed
        have idle : IsDots name := by
          by_contra busy
          exact not_mem_places outside own busy (by simp [Slot.places, here, hidden])
        rw [← here] at file
        rw [hidden, staging_of_isDots own idle] at here
        exact absurd ⟨⟨strays_of_leads own idle leads, here⟩, file⟩ kept
    · exact find?_removeFile_of_ne here

include there outside valid

theorem StagingFails.losesIf (fails : StagingFails (targetsIn directory assets) made after) :
    LosesIf (StagedOver directory assets made place) place made.disk after.disk := by
  obtain @⟨_, _, _, _, middle, last, cause, whole, stages, failed⟩ := fails
  obtain ⟨front, rest, rfl, rfl, split⟩ := List.map_eq_append_iff.1 whole
  obtain ⟨⟨name, asset⟩, back, rfl, same, -⟩ := List.map_eq_cons_iff.1 split
  obtain ⟨rfl, rfl⟩ := Prod.mk.inj same
  rw [← targetsIn] at stages ⊢
  dsimp only at failed ⊢
  have own : isAssetName name = true := valid (name, asset) (by simp)
  have before : ∀ entry ∈ front, isAssetName entry.1 = true := fun entry member =>
    valid entry (List.mem_append_left _ member)
  have gains := gains_of_stage failed
  rw [stages.keeps.workingDirectory] at gains
  have unmade : last.disk.find? place = middle.disk.find? place := by
    rcases gains.find? place with same | ⟨missing, -, parent⟩
    · exact same
    · rw [stages.keeps.directory (directory_of_isParent there outside own parent)] at missing
      cases missing
  obtain ⟨keeps, emptied, unswept⟩ := stages.discard_outside outside before gains.keeps
    gains.file_ne_directory (fun _ member => member) fun entry member _ =>
      List.mem_map.2 ⟨_, List.mem_map_of_mem member, rfl⟩
  rw [List.map_map, Function.comp_def] at keeps emptied unswept
  obtain ⟨removed, kept⟩ := removeFile_outside there outside own keeps
  rw [disk_orIgnore]
  by_cases strayed : (∃ entry ∈ front, Strays directory entry.1) ∧
      place = (slotOf made.disk.workingDirectory directory).staging
  · -- an asset before the one that is stuck has been staged there
    refine stages.losesIf before rfl strayed ((kept ?_).trans (emptied strayed))
    rintro ⟨-, content, held⟩
    rw [emptied strayed] at held
    cases held
  · have same := (unswept strayed).trans
      (unmade.trans (stages.find?_outside there outside before strayed))
    rw [same] at removed kept
    by_cases stuck : (Strays directory name ∧
        place = (slotOf made.disk.workingDirectory directory).staging) ∧
          ∃ content, made.disk.find? place = some (.file content)
    · obtain ⟨⟨strays, here⟩, file⟩ := stuck
      exact ⟨fun _ => removed ⟨⟨strays, here⟩, file⟩, fun spared =>
        absurd ⟨here, file, name, ⟨front, asset, back, middle, rfl, stages⟩, strays⟩ spared⟩
    · refine ⟨?_, fun _ => kept stuck⟩
      rintro ⟨here, file, other, comes, strays⟩
      rcases mem_of_comesTo stages failed comes with rfl | ⟨entry, member, rfl⟩
      · exact absurd ⟨⟨strays, here⟩, file⟩ stuck
      · exact absurd ⟨⟨entry, member, strays⟩, here⟩ strayed

theorem CommitFails.losesIf {error : BuildError}
    (fails : CommitFails (targetsIn directory assets) made error after) :
    LosesIf (StagedOver directory assets made place) place made.disk after.disk := by
  obtain @⟨front, back, failing, staged, last, cause, stages, whole, attempt⟩ := fails
  have working := stages.keeps.workingDirectory
  -- what has been moved lies inside
  have moves {target : Path} (member : target ∈ front ++ failing :: back)
      (leads : staged.disk.Leads target) :
      place ∉ (slotOf staged.disk.workingDirectory target).places := by
    rw [← whole] at member
    obtain ⟨_, listed, rfl⟩ := List.mem_map.1 member
    obtain ⟨entry, among, rfl⟩ := List.mem_map.1 listed
    have own := valid entry among
    rw [working]
    exact not_mem_places outside own fun idle => not_leads_of_isDots own idle _ leads
  have unmoved : last.disk.find? place = staged.disk.find? place :=
    attempt.find?_of_not_mem
      (fun target member => moves (List.mem_append_left _ member) (attempt.leads member))
      fun leads here => moves (by simp) leads (by simp [Slot.places, here])
  have left : ∀ target ∈ failing :: back, target ∈ (targetsIn directory assets).map Prod.fst :=
    fun target member => whole ▸ List.mem_append_right _ member
  obtain ⟨-, emptied, unswept⟩ := stages.discard_outside outside valid attempt.alike.keeps
    attempt.alike.file_ne_directory left fun entry member strays => by
      have among : directory.join ⟨entry.1⟩ ∈ front ++ failing :: back :=
        whole ▸ List.mem_map.2 ⟨_, List.mem_map_of_mem member, rfl⟩
      refine (List.mem_append.1 among).resolve_left fun moved => ?_
      exact not_leads_of_isDots (valid entry member) strays.idle _
        (attempt.leads moved)
  by_cases strayed : (∃ entry ∈ assets, Strays directory entry.1) ∧
      place = (slotOf made.disk.workingDirectory directory).staging
  · exact stages.losesIf valid (List.append_nil assets).symm strayed (emptied strayed)
  · refine ⟨?_, fun _ => (unswept strayed).trans
      (unmoved.trans (stages.find?_outside there outside valid strayed))⟩
    rintro ⟨here, -, name, ⟨before, asset, behind, -, split, -⟩, strays⟩
    exact absurd ⟨⟨(name, asset), by rw [split]; simp, strays⟩, here⟩ strayed

end Outcomes

section Success

variable {directory : Path} {assets : List (String × Asset)} {staged moved : Desk}
  {committed : List Committed} (valid : ∀ entry ∈ assets, isAssetName entry.1 = true)
  (commits : Commits ((targetsIn directory assets).map Prod.fst) staged committed moved)
include valid commits

theorem Commits.not_isDots : ∀ entry ∈ assets, ¬IsDots entry.1 := fun entry member idle =>
  not_leads_of_isDots (valid entry member) idle _
    (commits.leads (List.mem_map_of_mem (mem_targetsIn member))).1

theorem Commits.find?_of_not_inside {place : Location}
    (outside : ¬(staged.disk.placeOf directory).Inside place) :
    (Persist.dropBackups committed moved).disk.find? place = staged.disk.find? place := by
  have elsewhere : ∀ target ∈ (targetsIn directory assets).map Prod.fst,
      place ∉ (slotOf staged.disk.workingDirectory target).places := by
    intro target member here
    obtain ⟨_, listed, rfl⟩ := List.mem_map.1 member
    obtain ⟨entry, among, rfl⟩ := List.mem_map.1 listed
    exact outside (inside_of_not_isDots (valid entry among) (commits.not_isDots valid entry among) _
      place here)
  rw [commits.dropBackups.2.2 place fun backup kept here => ?_, commits.find?_of_not_mem elsewhere]
  obtain ⟨target, member, rfl⟩ := commits.eq_sibling kept
  rw [commits.alike.placeOf] at here
  exact elsewhere target member (by rw [here]; simp [Slot.places, slotOf, placeOf])

end Success

section Whole

variable {assets : Table Asset} {directory : Path} {desk after : Desk}

theorem keeps_of_writeAssets {files : List String}
    (success : writeAssets assets directory desk = .ok files after) : Keeps desk.disk after.disk := by
  obtain ⟨-, -, made, staged, moved, committed, first, stages, commits, rfl⟩ := writeAssets_eq_ok success
  obtain ⟨dropped, -⟩ := commits.dropBackups
  exact (prepared_of_stages first stages).keeps.trans (commits.alike.trans dropped).keeps

/-- A write that succeeds changes no file outside of the output directory. -/
theorem sameOutside_of_writeAssets {files : List String}
    (success : writeAssets assets directory desk = .ok files after) :
    SameOutside (desk.disk.placeOf directory) desk.disk after.disk := by
  refine ⟨keeps_of_writeAssets success, fun place content outside => ?_⟩
  obtain ⟨-, accepted, made, staged, moved, committed, first, stages, commits, rfl⟩ :=
    writeAssets_eq_ok success
  have valid : ∀ entry ∈ assets.entries, isAssetName entry.1 = true := fun entry member =>
    accepted entry.1 (List.mem_map_of_mem member)
  have prepared := prepared_of_stages first stages
  rw [commits.find?_of_not_inside valid (by rwa [prepared.keeps.placeOf])]
  have unstaged : ∀ target ∈ (targetsIn directory assets.entries).map Prod.fst,
      place ≠ (slotOf desk.disk.workingDirectory target).staging := by
    rintro target member rfl
    obtain ⟨_, listed, rfl⟩ := List.mem_map.1 member
    obtain ⟨entry, among, rfl⟩ := List.mem_map.1 listed
    exact outside (inside_of_not_isDots (valid entry among) (commits.not_isDots valid entry among) _ _
      (by simp [Slot.places]))
  rcases prepared.elsewhere place unstaged with same | ⟨missing, new, -⟩
  · rw [same]
  · simp [missing, new]

/-- A write puts an asset over the file at a place beside its output directory, which it takes away again:
it refuses no name, has its directory, and comes to an asset whose name leads nowhere. -/
def Overwrites (assets : Table Asset) (directory : Path) (desk : Desk) (place : Location) : Prop :=
  (∀ name ∈ assets.names, isAssetName name = true) ∧
    ∃ made, onDisk (makeDirectories directory) desk = .ok () made ∧
      StagedOver directory assets.entries made place

section Losses

variable {place : Location} (outside : ¬desk.disk.placeOf directory <+: place)
  (known : ¬(desk.disk.find? place = none ∧
    ∃ above ∈ onTheWay directory, place = desk.disk.placeOf above))

include known in
theorem find?_of_makeDirectories {result : EStateM.Result AccessError FileSystem Unit}
    (made : makeDirectories directory desk.disk = result) :
    (stateAfter result).find? place = desk.disk.find? place := by
  exact ((gains_makeDirectories made).find? place).resolve_right
    fun ⟨missing, _, needed⟩ => known ⟨missing, needed⟩

include outside known

theorem losesIf_of_eq_ok {files : List String}
    (success : writeAssets assets directory desk = .ok files after) :
    LosesIf (Overwrites assets directory desk place) place desk.disk after.disk := by
  obtain ⟨-, accepted, made, staged, moved, committed, first, stages, commits, rfl⟩ :=
    writeAssets_eq_ok success
  have valid : ∀ entry ∈ assets.entries, isAssetName entry.1 = true := fun entry member =>
    accepted entry.1 (List.mem_map_of_mem member)
  have busy := commits.not_isDots valid
  have own : made.disk.placeOf directory = desk.disk.placeOf directory :=
    (gains_makeDirectories first).keeps.placeOf directory
  have unmade := find?_of_makeDirectories known first
  have unstaged : staged.disk.find? place = made.disk.find? place :=
    stages.find?_outside (isDirectory_of_makeDirectories first) (own.symm ▸ outside) valid
      fun ⟨⟨entry, member, strays⟩, _⟩ => busy entry member strays.idle
  have unmoved : (dropBackups committed moved).disk.find? place = staged.disk.find? place :=
    commits.find?_of_not_inside valid
      (by rw [stages.keeps.placeOf, own]; exact fun inside => outside inside.1)
  refine ⟨?_, fun _ => unmoved.trans (unstaged.trans unmade)⟩
  rintro ⟨-, _, -, -, -, name, ⟨front, asset, back, _, split, -⟩, strays⟩
  exact absurd strays.idle (busy (name, asset) (by rw [split]; simp))

theorem losesIf_of_fails {made : Desk} {error : BuildError}
    (accepted : ∀ name ∈ assets.names, isAssetName name = true)
    (first : onDisk (makeDirectories directory) desk = .ok () made)
    (fails : StagingFails (targetsIn directory assets.entries) made after ∨
      CommitFails (targetsIn directory assets.entries) made error after) :
    LosesIf (Overwrites assets directory desk place) place desk.disk after.disk := by
  have valid : ∀ entry ∈ assets.entries, isAssetName entry.1 = true := fun entry member =>
    accepted entry.1 (List.mem_map_of_mem member)
  obtain ⟨ready, -⟩ := onDisk_eq_ok.1 first
  have own : made.disk.placeOf directory = desk.disk.placeOf directory :=
    (gains_makeDirectories ready).keeps.placeOf directory
  have there := isDirectory_of_makeDirectories ready
  obtain ⟨gone, same⟩ := fails.elim (StagingFails.losesIf there (own.symm ▸ outside) valid)
    (CommitFails.losesIf there (own.symm ▸ outside) valid)
  constructor
  · rintro ⟨-, _, again, staged⟩
    rw [first] at again
    cases again
    exact gone staged
  · exact fun kept => (same fun staged => kept ⟨accepted, made, first, staged⟩).trans
      (find?_of_makeDirectories known ready)

theorem losesIf_writeAssets : LosesIf (Overwrites assets directory desk place) place desk.disk
    (stateAfter (writeAssets assets directory desk)).disk := by
  cases result : writeAssets assets directory desk with
  | ok files after => exact losesIf_of_eq_ok outside known result
  | error error after =>
    rcases writeAssets_eq_error result with
      ⟨⟨name, member, refused⟩, rfl⟩ | ⟨cause, broken⟩ | ⟨accepted, made, first, fails⟩
    · refine ⟨fun ⟨accepted, _⟩ => ?_, fun _ => rfl⟩
      rw [accepted name member] at refused
      cases refused
    · refine ⟨fun ⟨_, made, first, _⟩ => ?_, fun _ => find?_of_makeDirectories known broken⟩
      rw [(onDisk_eq_ok.1 first).1] at broken
      cases broken
    · exact losesIf_of_fails outside known accepted first fails

end Losses

/-- Whatever a write answers, and wherever it fails, a place outside of the output directory, which is not
that of a directory missing above it, is as it was, unless the write puts an asset over the file there, whose
name has nothing in it but dots. Then the file is gone. -/
theorem writeAssets_outside_iff (assets : Table Asset) (directory : Path) (desk : Desk)
    (place : Location) (outside : ¬desk.disk.placeOf directory <+: place)
    (known : ¬(desk.disk.find? place = none ∧
      ∃ above ∈ onTheWay directory, place = desk.disk.placeOf above)) :
    ((stateAfter (writeAssets assets directory desk)).disk.find? place = desk.disk.find? place ↔
        ¬Overwrites assets directory desk place) ∧
      (Overwrites assets directory desk place →
        (stateAfter (writeAssets assets directory desk)).disk.find? place = none) := by
  have loses : LosesIf (Overwrites assets directory desk place) place desk.disk
      (stateAfter (writeAssets assets directory desk)).disk := losesIf_writeAssets outside known
  refine ⟨⟨fun kept lost => ?_, loses.same⟩, loses.gone⟩
  obtain ⟨-, made, first, -, ⟨content, held⟩, -⟩ := id lost
  have unmade := find?_of_makeDirectories known (onDisk_eq_ok.1 first).1
  rw [loses.gone lost, ← unmade] at kept
  dsimp only [stateAfter] at kept
  rw [held] at kept
  cases kept

end Whole

/-- A file that is named as the hidden file of the output directory would be. -/
def besideDisk : FileSystem where
  nodes := [([".dist.modpack-tmp"], .file "keep".toUTF8)]
  workingDirectory := []

/-- An asset in a directory, with dots on the way to it. -/
def plainAssets : Table Asset :=
  .ofList [("./lib/./a.js", .text "new")]

/-- An asset that has the place of the output directory. -/
def dotAssets : Table Asset :=
  .ofList [(".", .text "new")]

theorem plainAssets_kept :
    (stateAfter (writeAssets plainAssets ⟨"dist"⟩ ⟨besideDisk, []⟩)).disk.find? [".dist.modpack-tmp"] =
      some (.file "keep".toUTF8) := by
  have whole := writeAssets_outside_iff plainAssets ⟨"dist"⟩ ⟨besideDisk, []⟩
    [".dist.modpack-tmp"] (by decide +kernel) (by decide +kernel)
  refine (whole.1.2 ?_).trans (by decide +kernel)
  rintro ⟨-, made, -, -, -, name, ⟨front, asset, back, -, split, -⟩, strays⟩
  have busy : ∀ entry ∈ plainAssets.entries, ¬IsDots entry.1 := by decide +kernel
  exact busy (name, asset) (by rw [split]; simp) strays.idle

/-- The name is accepted, and the file is taken away. -/
theorem dotAssets_lost : (∀ name ∈ dotAssets.names, isAssetName name = true) ∧ besideDisk.IsTree ∧
    ¬besideDisk.placeOf ⟨"dist"⟩ <+: [".dist.modpack-tmp"] ∧
    besideDisk.find? [".dist.modpack-tmp"] = some (.file "keep".toUTF8) ∧
    (stateAfter (writeAssets dotAssets ⟨"dist"⟩ ⟨besideDisk, []⟩)).disk.find? [".dist.modpack-tmp"] =
      none := by
  exact ⟨by decide +kernel, isTree_of_nodes (by decide +kernel), by decide +kernel, by decide +kernel,
    by decide +kernel⟩

end Persist

end ModuleBundler
