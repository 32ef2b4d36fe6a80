import ModuleBundler.Proofs.Persist.Run
import Mathlib.Data.List.Flatten
import Mathlib.Data.List.Nodup

/-!
All or nothing. As long as no two assets get into each other's way, a write that succeeds has written every
asset and left nothing else behind, and one that fails has at most made directories.
-/

namespace ModuleBundler.Persist

open FileSystem

/-- No two places of targets and their hidden files are the same. -/
def Apart (working : Location) (targets : List Path) : Prop :=
  ((slots working targets).flatMap Slot.places).Nodup

section Apart

variable {working : Location} {target : Path} {targets : List Path}

theorem Apart.tail (apart : Apart working (target :: targets)) : Apart working targets := by
  unfold Apart slots at apart ⊢
  rw [List.map_cons, List.flatMap_cons] at apart
  exact (List.nodup_append.1 apart).2.1

theorem Apart.ne (apart : Apart working (target :: targets)) {other : Path} (member : other ∈ targets)
    {place : Location} (own : place ∈ (slotOf working other).places) :
    place ∉ (slotOf working target).places := by
  unfold Apart slots at apart
  rw [List.map_cons, List.flatMap_cons] at apart
  intro here
  exact (List.nodup_append.1 apart).2.2 place here place
    (List.mem_flatMap.2 ⟨_, List.mem_map_of_mem member, own⟩) rfl

theorem Apart.sublist (apart : Apart working targets) {some : List Path} (within : some.Sublist targets) :
    Apart working some :=
  List.Nodup.sublist ((within.map _).flatMap _) apart

theorem Apart.nodup (apart : Apart working targets) (member : target ∈ targets) :
    (slotOf working target).places.Nodup :=
  (List.nodup_flatMap.1 apart).1 _ (List.mem_map_of_mem member)

theorem Apart.eq_of_mem (apart : Apart working targets) {first second : Path} (left : first ∈ targets)
    (right : second ∈ targets) {place : Location} (here : place ∈ (slotOf working first).places)
    (there : place ∈ (slotOf working second).places) : first = second := by
  induction targets with
  | nil => cases left
  | cons target targets ih =>
    rcases List.mem_cons.1 left with rfl | left' <;> rcases List.mem_cons.1 right with rfl | right'
    · rfl
    · exact absurd here (apart.ne right' there)
    · exact absurd there (apart.ne left' here)
    · exact ih apart.tail left' right'

theorem Apart.target_ne_backup (apart : Apart working targets) {first second : Path}
    (left : first ∈ targets) (right : second ∈ targets) :
    (slotOf working first).target ≠ (slotOf working second).backup := by
  intro same
  have own : (slotOf working first).target ∈ (slotOf working first).places := by simp [Slot.places]
  obtain rfl := apart.eq_of_mem left right own (by simp [Slot.places, same])
  simpa [Slot.places, same] using apart.nodup left

theorem Apart.target_ne_staging (apart : Apart working targets) {first second : Path}
    (left : first ∈ targets) (right : second ∈ targets) :
    (slotOf working first).target ≠ (slotOf working second).staging := by
  intro same
  have own : (slotOf working first).target ∈ (slotOf working first).places := by simp [Slot.places]
  obtain rfl := apart.eq_of_mem left right own (by simp [Slot.places, same])
  simpa [Slot.places, same] using apart.nodup left

theorem Apart.pairwise_staging {assets : List (Path × Asset)}
    (apart : Apart working (assets.map Prod.fst)) :
    assets.Pairwise fun first second =>
      (slotOf working first.1).staging ≠ (slotOf working second.1).staging := by
  induction assets with
  | nil => exact .nil
  | cons first assets ih =>
    refine .cons (fun second member same => ?_) (ih apart.tail)
    have own : (slotOf working second.1).staging ∈ (slotOf working second.1).places := by
      simp [Slot.places]
    exact apart.ne (List.mem_map_of_mem member) own (by simp [Slot.places, same])

end Apart

/-- What moving files does when all places are apart: each file is at its target, and at the backup places
there is what was there, or what is dropped at the end. -/
structure Moved (targets : List Path) (before after : FileSystem) (committed : List Committed) : Prop where
  target : ∀ target ∈ targets,
    after.find? (slotOf before.workingDirectory target).target =
      before.find? (slotOf before.workingDirectory target).staging
  staging : ∀ target ∈ targets,
    after.find? (slotOf before.workingDirectory target).staging = none
  backup : ∀ target ∈ targets,
    sibling target backupSuffix ∈ committed.filterMap Committed.backup ∨
      after.find? (slotOf before.workingDirectory target).backup =
        before.find? (slotOf before.workingDirectory target).backup
  elsewhere : ∀ place ∉ (slots before.workingDirectory targets).flatMap Slot.places,
    after.find? place = before.find? place
  kept : ∀ backup ∈ committed.filterMap Committed.backup,
    ∃ target ∈ targets, backup = sibling target backupSuffix

/-- One more target is moved before others are. These leave its places as they are, and its own move does
not touch theirs. -/
theorem Moved.cons {target : Path} {targets : List Path} {before middle after : FileSystem}
    {one : Committed} {others : List Committed} (moves : Moves target before middle one)
    (moved : Moved targets middle after others) (apart : Apart before.workingDirectory (target :: targets)) :
    Moved (target :: targets) before after (one :: others) := by
  have own {other : Path} (member : other ∈ targets) {place : Location}
      (here : place ∈ (slotOf before.workingDirectory other).places) :
      middle.find? place = before.find? place :=
    moves.find?_of_not_mem (apart.ne member here)
  obtain ⟨targets', staging, backup, elsewhere, kept⟩ := moved
  rw [moves.alike.keeps.workingDirectory] at targets' staging backup elsewhere
  have behind {place : Location} (here : place ∈ (slotOf before.workingDirectory target).places) :
      after.find? place = middle.find? place := by
    refine elsewhere place fun listed => ?_
    obtain ⟨slot, among, there⟩ := List.mem_flatMap.1 listed
    obtain ⟨other, member, rfl⟩ := List.mem_map.1 among
    exact apart.ne member there here
  constructor
  case target =>
    intro other member
    rcases List.mem_cons.1 member with rfl | later
    · rw [behind (by simp [Slot.places]), moves.find?_target]
    · rw [targets' other later, own later (by simp [Slot.places])]
  case staging =>
    intro other member
    rcases List.mem_cons.1 member with rfl | later
    · rw [behind (by simp [Slot.places]), moves.find?_staging]
    · exact staging other later
  case backup =>
    intro other member
    rcases List.mem_cons.1 member with rfl | later
    · by_cases nothing : before.find? (slotOf before.workingDirectory other).target = none
      · rw [behind (by simp [Slot.places]), moves.find?_backup, if_pos nothing]
        exact .inr rfl
      · exact .inl (List.mem_filterMap.2 ⟨one, List.mem_cons_self, moves.backup_of_ne nothing⟩)
    · rw [← own later (by simp [Slot.places])]
      refine (backup other later).imp_left fun listed => ?_
      obtain ⟨entry, among, here⟩ := List.mem_filterMap.1 listed
      exact List.mem_filterMap.2 ⟨entry, List.mem_cons_of_mem _ among, here⟩
  case elsewhere =>
    intro place outside
    rw [slots, List.map_cons, List.flatMap_cons, List.mem_append, not_or] at outside
    rw [elsewhere place outside.2, moves.find?_of_not_mem outside.1]
  case kept =>
    intro path listed
    obtain ⟨entry, among, here⟩ := List.mem_filterMap.1 listed
    rcases List.mem_cons.1 among with rfl | later
    · exact ⟨target, List.mem_cons_self, moves.eq_sibling here⟩
    · obtain ⟨other, member, same⟩ := kept path (List.mem_filterMap.2 ⟨entry, later, here⟩)
      exact ⟨other, List.mem_cons_of_mem _ member, same⟩

theorem moved_of_commits {targets : List Path} {desk after : Desk} {committed : List Committed}
    (commits : Commits targets desk committed after) (apart : Apart desk.disk.workingDirectory targets) :
    Moved targets desk.disk after.disk committed := by
  induction commits with
  | done => constructor <;> simp [slots]
  | more first rest ih =>
    have moves := moves_of_commit first
    exact .cons moves (ih (moves.alike.keeps.workingDirectory ▸ apart.tail)) apart

/-- All has been written: every target holds the bytes of its asset, the directories that were missing are
there, and nothing else is different. -/
structure Written (directory : Path) (assets : List (Path × Asset)) (before after : FileSystem) :
    Prop where
  workingDirectory : after.workingDirectory = before.workingDirectory
  targets : ∀ entry ∈ assets, after.find? (before.placeOf entry.1) = some (.file entry.2.bytes)
  directories : ∀ place, IsNeeded before.workingDirectory directory (assets.map Prod.fst) place →
    after.find? place = some .directory ∧
      (before.find? place = none ∨ before.find? place = some .directory)
  elsewhere : ∀ place, (∀ entry ∈ assets, place ≠ before.placeOf entry.1) →
    ¬IsNeeded before.workingDirectory directory (assets.map Prod.fst) place →
      after.find? place = before.find? place

/-- Nothing has been written: all that may be different is that directories which hold no file have come. -/
structure Unwritten (directory : Path) (assets : List (Path × Asset)) (before after : FileSystem) :
    Prop where
  workingDirectory : after.workingDirectory = before.workingDirectory
  find? : ∀ place, after.find? place = before.find? place ∨
    before.find? place = none ∧ after.find? place = some .directory ∧
      IsNeeded before.workingDirectory directory (assets.map Prod.fst) place ∧
      ∀ below content, after.find? (place ++ below) ≠ some (.file content)

section Success

variable {directory : Path} {assets : List (Path × Asset)} {before : FileSystem} {made staged moved : Desk}
  {committed : List Committed}
  (first : makeDirectories directory before = .ok () made.disk) (stages : Stages assets made staged)
include first stages

/-- Where a directory is needed there was one, or nothing. -/
theorem before_of_needed {place : Location}
    (needed : IsNeeded before.workingDirectory directory (assets.map Prod.fst) place) :
    before.find? place = none ∨ before.find? place = some .directory := by
  have prepared := prepared_of_stages first stages
  have held := prepared.directories place needed
  have unstaged : ∀ target ∈ assets.map Prod.fst,
      place ≠ (slotOf before.workingDirectory target).staging := by
    rintro target listed rfl
    obtain ⟨entry, member, rfl⟩ := List.mem_map.1 listed
    obtain ⟨content, file⟩ := stages.holds member
    rw [made_workingDirectory first, held] at file
    cases file
  rcases prepared.elsewhere place unstaged with same | ⟨missing, -⟩
  · exact .inr (same ▸ held)
  · exact .inl missing

variable (commits : Commits (assets.map Prod.fst) staged committed moved)
include commits

/-- In the end a place that is none of an asset's, nor of a directory that is needed, is as it was. -/
theorem find?_elsewhere_of_commits {place : Location}
    (outside : ∀ target ∈ assets.map Prod.fst, place ∉ (slotOf before.workingDirectory target).places)
    (notNeeded : ¬IsNeeded before.workingDirectory directory (assets.map Prod.fst) place) :
    (dropBackups committed moved).disk.find? place = before.find? place := by
  have prepared := prepared_of_stages first stages
  have working := prepared.keeps.workingDirectory
  have unkept : ∀ backup ∈ committed.filterMap Committed.backup,
      place ≠ backup.place before.workingDirectory := by
    rintro backup among rfl
    obtain ⟨other, there, rfl⟩ := commits.eq_sibling among
    exact outside other there (by simp [Slot.places, slotOf])
  have unstaged : ∀ target ∈ assets.map Prod.fst,
      place ≠ (slotOf before.workingDirectory target).staging := by
    rintro target member rfl
    exact outside target member (by simp [Slot.places])
  rw [find?_dropBackups commits working unkept, commits.find?_of_not_mem (working.symm ▸ outside)]
  exact (prepared.elsewhere place unstaged).resolve_right fun made => notNeeded made.2.2

variable (apart : Apart before.workingDirectory (assets.map Prod.fst))
include apart

/-- In the end there is the content of an asset at its target. -/
theorem find?_target_of_commits {entry : Path × Asset} (member : entry ∈ assets) :
    (dropBackups committed moved).disk.find? (slotOf before.workingDirectory entry.1).target =
      some (.file entry.2.bytes) := by
  have working := (prepared_of_stages first stages).keeps.workingDirectory
  have listed : entry.1 ∈ assets.map Prod.fst := List.mem_map_of_mem member
  have unkept : ∀ backup ∈ committed.filterMap Committed.backup,
      (slotOf before.workingDirectory entry.1).target ≠ backup.place before.workingDirectory := by
    intro backup among
    obtain ⟨other, there, rfl⟩ := commits.eq_sibling among
    exact apart.target_ne_backup listed there
  have target := (moved_of_commits commits (working ▸ apart)).target entry.1 listed
  have content := stages.content (made_workingDirectory first ▸ apart.pairwise_staging) member
  rw [working] at target
  rw [made_workingDirectory first] at content
  rw [find?_dropBackups commits working unkept, target, content]

/-- In the end nothing is at the hidden places, if nothing was there before. -/
theorem find?_hidden_of_commits
    (free : ∀ target ∈ assets.map Prod.fst,
      before.find? (slotOf before.workingDirectory target).staging = none ∧
        before.find? (slotOf before.workingDirectory target).backup = none)
    {target : Path} (member : target ∈ assets.map Prod.fst) :
    (dropBackups committed moved).disk.find? (slotOf before.workingDirectory target).staging = none ∧
      ((dropBackups committed moved).disk.find? (slotOf before.workingDirectory target).backup = none ∨
        IsNeeded before.workingDirectory directory (assets.map Prod.fst)
          (slotOf before.workingDirectory target).backup) := by
  have prepared := prepared_of_stages first stages
  have working := prepared.keeps.workingDirectory
  obtain ⟨-, staging, backup, -, -⟩ := moved_of_commits commits (working ▸ apart)
  rw [working] at staging backup
  refine ⟨find?_dropBackups_none commits working (staging target member), ?_⟩
  rcases backup target member with kept | same
  · exact .inl (find?_dropBackups_backup commits working kept)
  · have unstaged : ∀ other ∈ assets.map Prod.fst, (slotOf before.workingDirectory target).backup ≠
        (slotOf before.workingDirectory other).staging :=
      fun other _ => (staging_ne_backup _ other target).symm
    rcases prepared.elsewhere _ unstaged with unchanged | ⟨-, -, needed⟩
    · exact .inl (find?_dropBackups_none commits working
        (by rw [same, unchanged, (free target member).2]))
    · exact .inr needed

end Success

/-- A write that succeeds has written everything. -/
theorem written_of_commits {directory : Path} {assets : List (Path × Asset)} {before : FileSystem}
    {made staged moved : Desk} {committed : List Committed}
    (apart : Apart before.workingDirectory (assets.map Prod.fst))
    (free : ∀ target ∈ assets.map Prod.fst,
      before.find? (slotOf before.workingDirectory target).staging = none ∧
        before.find? (slotOf before.workingDirectory target).backup = none)
    (first : makeDirectories directory before = .ok () made.disk) (stages : Stages assets made staged)
    (commits : Commits (assets.map Prod.fst) staged committed moved) :
    Written directory assets before (dropBackups committed moved).disk := by
  have prepared := prepared_of_stages first stages
  obtain ⟨dropped, -⟩ := commits.dropBackups
  have alike := commits.alike.trans dropped
  constructor
  case workingDirectory => exact alike.keeps.workingDirectory.trans prepared.keeps.workingDirectory
  case targets => exact fun entry member => find?_target_of_commits first stages commits apart member
  case directories =>
    exact fun place needed => ⟨alike.keeps.directory (prepared.directories place needed),
      before_of_needed first stages needed⟩
  case elsewhere =>
    intro place notTarget notNeeded
    by_cases inside : ∃ target ∈ assets.map Prod.fst, place ∈ (slotOf before.workingDirectory target).places
    · obtain ⟨target, member, own⟩ := inside
      obtain ⟨staging, backup⟩ := find?_hidden_of_commits first stages commits apart free member
      rcases Slot.mem_places.1 own with rfl | rfl | rfl
      · obtain ⟨entry, listed, rfl⟩ := List.mem_map.1 member
        exact absurd rfl (notTarget entry listed)
      · rw [staging, (free target member).1]
      · rw [backup.resolve_right notNeeded, (free target member).2]
    · exact find?_elsewhere_of_commits first stages commits
        (fun target member own => inside ⟨target, member, own⟩) notNeeded

/-- When all places are apart and no file is at a backup place, a failed attempt leaves everything as it
was, apart from the staged files that it has moved. -/
theorem Attempt.find?_of_apart {targets : List Path} {failing : Path} {desk after : Desk}
    {cause : AccessError} (attempt : Attempt targets failing desk cause after)
    (apart : Apart desk.disk.workingDirectory (targets ++ [failing]))
    (empty : ∀ target ∈ targets ++ [failing], ∀ content,
      desk.disk.find? (slotOf desk.disk.workingDirectory target).backup ≠ some (.file content)) :
    (∀ target ∈ targets,
      after.disk.find? (slotOf desk.disk.workingDirectory target).staging = none) ∧
    ∀ place, (∀ target ∈ targets, place ≠ (slotOf desk.disk.workingDirectory target).staging) →
      after.disk.find? place = desk.disk.find? place := by
  induction attempt with
  | @stop failing desk after cause failed =>
    exact ⟨by simp, fun place _ => (fails_of_commit failed).find?_of_empty (empty failing (by simp)) place⟩
  | @back target failing targets desk middle after committed cause first rest ih =>
    have moves := moves_of_commit first
    have alike := moves.alike.trans rest.alike
    have working := moves.alike.keeps.workingDirectory
    rw [List.cons_append] at apart
    obtain ⟨gone, same⟩ := ih (working.symm ▸ apart.tail) fun other member content held => by
      rw [working, moves.find?_of_not_mem (apart.ne member (by simp [Slot.places]))] at held
      exact empty other (List.mem_cons_of_mem _ member) content held
    rw [working] at gone same
    -- the later moves have been taken back, and the places of this one are as it has left them
    have own : ∀ place ∈ (slotOf desk.disk.workingDirectory target).places,
        after.disk.find? place = middle.disk.find? place := fun place here =>
      same place fun other member there => apart.ne (List.mem_append_left _ member)
        (show place ∈ (slotOf desk.disk.workingDirectory other).places by simp [Slot.places, there]) here
    refine ⟨fun other member => ?_, fun place unstaged => ?_⟩
    · have listed : other ∈ target :: (targets ++ [failing]) := List.mem_append_left [failing] member
      rw [find?_rollBack_of_ne moves alike (apart.target_ne_staging List.mem_cons_self listed).symm
        (staging_ne_backup _ other target)]
      rcases List.mem_cons.1 member with rfl | later
      · rw [own _ (by simp [Slot.places]), moves.find?_staging]
      · exact gone other later
    · by_cases here : place ∈ (slotOf desk.disk.workingDirectory target).places
      · exact find?_rollBack moves alike own (empty target List.mem_cons_self) here
          (unstaged target List.mem_cons_self)
      · obtain ⟨notTarget, -, notBackup⟩ := Slot.not_mem_places.1 here
        rw [find?_rollBack_of_ne moves alike notTarget notBackup,
          same place fun other member => unstaged other (List.mem_cons_of_mem _ member),
          moves.find?_of_not_mem here]

section Failure

variable {directory : Path} {assets : List (Path × Asset)} {before : FileSystem} {made after : Desk}

/-- What is left are new directories only, if that is so away from the staged files and these are gone. -/
theorem gains_of_unstaged {kind : Location → Prop} {targets : List Path} {after : FileSystem}
    (working : after.workingDirectory = before.workingDirectory)
    (free : ∀ target ∈ targets, before.find? (slotOf before.workingDirectory target).staging = none)
    (gone : ∀ target ∈ targets, after.find? (slotOf before.workingDirectory target).staging = none)
    (elsewhere : ∀ place,
      (∀ target ∈ targets, place ≠ (slotOf before.workingDirectory target).staging) →
        after.find? place = before.find? place ∨
          before.find? place = none ∧ after.find? place = some .directory ∧ kind place) :
    Gains kind before after := by
  refine ⟨working, fun place => ?_⟩
  by_cases staged : ∃ target ∈ targets, place = (slotOf before.workingDirectory target).staging
  · obtain ⟨target, member, rfl⟩ := staged
    rw [gone target member, free target member]
    exact .inl rfl
  · exact elsewhere place fun target member same => staged ⟨target, member, same⟩

theorem gains_of_stagingFails (first : makeDirectories directory before = .ok () made.disk)
    (free : ∀ target ∈ assets.map Prod.fst,
      before.find? (slotOf before.workingDirectory target).staging = none)
    (fails : StagingFails assets made after) :
    Gains (IsNeeded before.workingDirectory directory (assets.map Prod.fst)) before after.disk := by
  obtain @⟨front, back, target, asset, middle, last, cause, rfl, stages, failed⟩ := fails
  have prepared := prepared_of_stages first stages
  have more := gains_of_stage failed
  have working := prepared.keeps.workingDirectory
  rw [show (front.map fun entry => beside entry.1) = (front.map Prod.fst).map beside by
    rw [List.map_map]; rfl]
  obtain ⟨alike, gone, rest⟩ := stages.discard more.keeps more.file_ne_directory fun path member => member
  rw [made_workingDirectory first] at gone rest
  have freed : ∀ path ∈ front.map Prod.fst,
      before.find? (slotOf before.workingDirectory path).staging = none :=
    fun path member => free path (by rw [List.map_append]; exact List.mem_append_left _ member)
  have gains : Gains
      (IsNeeded before.workingDirectory directory ((front ++ (target, asset) :: back).map Prod.fst)) before
      (discard ((front.map Prod.fst).map beside) last).disk := by
    refine gains_of_unstaged (alike.keeps.workingDirectory.trans (more.workingDirectory.trans working))
      freed gone fun place unstaged => ?_
    rw [rest place unstaged]
    refine (comes_trans (prepared.elsewhere place unstaged) (more.find? place)).imp_right ?_
    rintro ⟨missing, new, (own | ⟨other, member, parent⟩) | parent⟩
    · exact ⟨missing, new, .inl own⟩
    · exact ⟨missing, new, .inr ⟨other, by simp [member], parent⟩⟩
    · exact ⟨missing, new, .inr ⟨target, by simp, working ▸ parent⟩⟩
  -- no file is at the place of the asset that could not be staged
  have unchanged : stateAfter (removeFile (sibling target stagingSuffix)
      (discard ((front.map Prod.fst).map beside) last).disk) =
        (discard ((front.map Prod.fst).map beside) last).disk := by
    refine stateAfter_removeFile_of_ne fun content held => ?_
    rw [placeOf_staging, gains.workingDirectory] at held
    rcases gains.find? (slotOf before.workingDirectory target).staging with same | ⟨-, new, -⟩
    · rw [same, free target (by simp)] at held
      cases held
    · rw [new] at held
      cases held
  rw [disk_orIgnore, unchanged]
  exact gains

theorem gains_of_commitFails {error : BuildError}
    (first : makeDirectories directory before = .ok () made.disk)
    (apart : Apart before.workingDirectory (assets.map Prod.fst))
    (free : ∀ target ∈ assets.map Prod.fst,
      before.find? (slotOf before.workingDirectory target).staging = none ∧
        before.find? (slotOf before.workingDirectory target).backup = none)
    (fails : CommitFails assets made error after) :
    Gains (IsNeeded before.workingDirectory directory (assets.map Prod.fst)) before after.disk := by
  obtain @⟨front, back, failing, staged, last, cause, stages, whole, attempt⟩ := fails
  have prepared := prepared_of_stages first stages
  have working := prepared.keeps.workingDirectory
  have within : (front ++ [failing]).Sublist (assets.map Prod.fst) := by
    rw [whole]
    exact (List.Sublist.refl front).append (by simp)
  -- nothing but a directory can have come to a backup place
  have empty : ∀ target ∈ front ++ [failing], ∀ content,
      staged.disk.find? (slotOf staged.disk.workingDirectory target).backup ≠ some (.file content) := by
    intro target member content held
    rw [working] at held
    rcases prepared.elsewhere (slotOf before.workingDirectory target).backup
      fun other _ => (staging_ne_backup _ other target).symm with same | ⟨-, new, -⟩
    · rw [same, (free target (within.subset member)).2] at held
      cases held
    · rw [new] at held
      cases held
  obtain ⟨moved, same⟩ := attempt.find?_of_apart (working.symm ▸ apart.sublist within) empty
  rw [working] at moved same
  have alike := attempt.alike
  have left : ∀ target ∈ failing :: back, target ∈ assets.map Prod.fst :=
    fun target member => whole ▸ List.mem_append_right _ member
  obtain ⟨discarded, gone, rest⟩ := stages.discard alike.keeps alike.file_ne_directory left
  rw [made_workingDirectory first] at gone rest
  refine gains_of_unstaged (discarded.keeps.workingDirectory.trans
    (alike.keeps.workingDirectory.trans working)) (fun target member => (free target member).1)
    (fun target member => ?_) fun place unstaged => ?_
  · rw [whole, List.mem_append] at member
    by_cases dropped : ∃ other ∈ failing :: back, (slotOf before.workingDirectory target).staging =
        (slotOf before.workingDirectory other).staging
    · obtain ⟨other, listed, shared⟩ := dropped
      rw [shared, gone other listed]
    · have front' := member.resolve_right fun listed => dropped ⟨target, listed, rfl⟩
      rw [rest _ fun other listed shared => dropped ⟨other, listed, shared⟩, moved target front']
  · rw [rest place fun target member => unstaged target (left target member),
      same place fun target member => unstaged target (whole ▸ List.mem_append_left _ member)]
    exact prepared.elsewhere place unstaged

end Failure

/-- In a file system where everything lies in a directory, no file is below a directory that is new. -/
theorem unwritten_of_gains {directory : Path} {assets : List (Path × Asset)}
    {before after : FileSystem} (tree : before.IsTree)
    (gains : Gains (IsNeeded before.workingDirectory directory (assets.map Prod.fst)) before after) :
    Unwritten directory assets before after := by
  refine ⟨gains.workingDirectory, fun place => (gains.find? place).imp_right ?_⟩
  rintro ⟨missing, new, needed⟩
  refine ⟨missing, new, needed, fun below content held => ?_⟩
  rcases gains.find? (place ++ below) with same | ⟨-, directory, -⟩
  · by_cases here : below = []
    · rw [here, List.append_nil, new] at held
      cases held
    · rw [same] at held
      rw [tree.above below (by simp [held]) here] at missing
      cases missing
  · rw [directory] at held
    cases held

/-- Assets that do not get into each other's way are all written, or none is: a write that succeeds leaves
every target with its bytes and no hidden file, and one that fails leaves at most new directories. -/
theorem writeAssets_all_or_nothing (assets : Table Asset) (directory : Path) (desk : Desk)
    (tree : desk.disk.IsTree)
    (apart : Apart desk.disk.workingDirectory
      (assets.names.map fun name => directory.join ⟨name⟩))
    (free : ∀ target ∈ assets.names.map fun name => directory.join ⟨name⟩,
      desk.disk.find? (slotOf desk.disk.workingDirectory target).staging = none ∧
        desk.disk.find? (slotOf desk.disk.workingDirectory target).backup = none) :
    (∀ files after, writeAssets assets directory desk = .ok files after →
      files = assets.names ∧
        Written directory (targetsIn directory assets.entries) desk.disk after.disk) ∧
    ∀ error after, writeAssets assets directory desk = .error error after →
      Unwritten directory (targetsIn directory assets.entries) desk.disk after.disk := by
  rw [names_map_join] at apart free
  constructor
  · intro files after success
    obtain ⟨rfl, -, made, staged, moved, committed, first, stages, commits, rfl⟩ :=
      writeAssets_eq_ok success
    exact ⟨rfl, written_of_commits apart free first stages commits⟩
  · intro error after failed
    refine unwritten_of_gains tree ?_
    rcases writeAssets_eq_error failed with ⟨-, rfl⟩ | ⟨cause, broken⟩ | ⟨-, made, first, staging | moving⟩
    · exact .refl _ _
    · exact (gains_makeDirectories broken).mono fun _ => .inl
    · exact gains_of_stagingFails (onDisk_eq_ok.1 first).1 (fun target member => (free target member).1)
        staging
    · exact gains_of_commitFails (onDisk_eq_ok.1 first).1 apart free moving

/-- An output directory with a bundle of an earlier build. -/
def earlierDisk : FileSystem where
  nodes := [(["dist"], .directory), (["dist", "a.js"], .file "old".toUTF8)]
  workingDirectory := []

def twoBundles : Table Asset :=
  .ofList [("a.js", .text "new"), ("lib/b.js", .text "code")]

def answer? : EStateM.Result BuildError Desk (List String) → Option (List String)
  | .ok files _ => some files
  | .error _ _ => none

theorem twoBundles_written : ∃ after,
    writeAssets twoBundles ⟨"dist"⟩ ⟨earlierDisk, []⟩ = .ok ["a.js", "lib/b.js"] after ∧
      Written ⟨"dist"⟩ (targetsIn ⟨"dist"⟩ twoBundles.entries) earlierDisk after.disk := by
  have whole := writeAssets_all_or_nothing twoBundles ⟨"dist"⟩ ⟨earlierDisk, []⟩
    (isTree_of_nodes (by decide +kernel)) (by unfold Apart; decide +kernel) (by decide +kernel)
  have answered : answer? (writeAssets twoBundles ⟨"dist"⟩ ⟨earlierDisk, []⟩) =
      some ["a.js", "lib/b.js"] := by decide +kernel
  cases found : writeAssets twoBundles ⟨"dist"⟩ ⟨earlierDisk, []⟩ with
  | error error after =>
    rw [found] at answered
    cases answered
  | ok files after =>
    rw [found] at answered
    obtain rfl := Option.some.inj answered
    exact ⟨after, rfl, (whole.1 _ after found).2⟩

end ModuleBundler.Persist
