import ModuleBundler.Proofs.Persist.Atomic
import ModuleBundler.Proofs.Persist.Outside

/-!
Writing the same assets again. The second write takes another way than the first one: every target holds a
file, which is kept aside until all files are in place. It succeeds exactly if no file has to be kept aside
where a directory is, and leaves everything as it was.
-/

namespace ModuleBundler.Persist

open FileSystem

structure CanStage (disk : FileSystem) (target : Path) : Prop where
  parent : ∀ directory, target.parent? = some directory →
    directory.text = "" ∨ disk.isDirectory directory = true
  leads : disk.Leads (sibling target stagingSuffix)
  free : disk.find? (slotOf disk.workingDirectory target).staging ≠ some .directory

theorem CanStage.alike {disk after : FileSystem} {target : Path} (can : CanStage disk target)
    (alike : Alike disk after) : CanStage after target := by
  refine ⟨fun directory above => ?_, can.leads.keeps alike.keeps, ?_⟩
  · exact (can.parent directory above).imp_right alike.keeps.isDirectory
  · rw [alike.keeps.workingDirectory, Ne, alike.directory_iff]
    exact can.free

theorem exists_stage {target : Path} {desk : Desk} (can : CanStage desk.disk target) (asset : Asset) :
    ∃ after, stage (beside target) asset desk = .ok () after ∧ Alike desk.disk after.disk := by
  have parents : makeParents target desk = .ok () desk := by
    unfold makeParents
    cases above : target.parent? with
    | none => rfl
    | some directory =>
      exact onDisk_eq_ok.2 ⟨makeDirectories_of_isDirectory (can.parent directory above), rfl⟩
  obtain ⟨final, written⟩ : ∃ final,
      write (sibling target stagingSuffix) asset.bytes desk.disk = .ok () final :=
    ⟨_, write_eq_ok.2 ⟨can.leads, can.free, endsOpen_staging target, rfl⟩⟩
  refine ⟨⟨final, desk.log⟩, ?_, ?_⟩
  · rw [stage_eq]
    exact bind_eq_ok.2 ⟨(), desk, parents, onDisk_eq_ok.2 ⟨written, rfl⟩⟩
  · obtain ⟨-, -, -, rfl⟩ := write_eq_ok.1 written
    exact alike_set can.leads.placeOf_ne_nil can.free asset.bytes

theorem exists_stages {assets : List (Path × Asset)} {desk : Desk}
    (can : ∀ entry ∈ assets, CanStage desk.disk entry.1) :
    ∃ after, Stages assets desk after ∧ Alike desk.disk after.disk := by
  induction assets generalizing desk with
  | nil => exact ⟨desk, .done, .refl _⟩
  | cons entry assets ih =>
    obtain ⟨middle, first, alike⟩ := exists_stage (can entry List.mem_cons_self) entry.2
    obtain ⟨after, rest, more⟩ := ih fun other member =>
      (can other (List.mem_cons_of_mem _ member)).alike alike
    exact ⟨after, .more first rest, alike.trans more⟩

/-- What has been staged can be staged again. -/
theorem Stages.canStage {assets : List (Path × Asset)} {desk after : Desk}
    (stages : Stages assets desk after) {entry : Path × Asset} (member : entry ∈ assets) :
    CanStage after.disk entry.1 := by
  refine ⟨?_, stages.leads member, ?_⟩
  · induction stages with
    | done => cases member
    | @more target asset assets desk middle after first rest ih =>
      rcases List.mem_cons.1 member with rfl | later
      · intro directory above
        rw [stage_eq] at first
        obtain ⟨_, between, made, written⟩ := bind_eq_ok.1 first
        obtain ⟨leads, free, -, changed⟩ := write_eq_ok.1 (onDisk_eq_ok.1 written).1
        unfold makeParents at made
        rw [above] at made
        have kept : Keeps between.disk middle.disk := by
          rw [changed]
          exact (alike_set leads.placeOf_ne_nil free _).keeps
        exact (isDirectory_of_makeDirectories (onDisk_eq_ok.1 made).1).imp_right
          (kept.trans rest.keeps).isDirectory
      · exact ih later
  · obtain ⟨content, held⟩ := stages.holds member
    rw [stages.keeps.workingDirectory, held]
    nofun

structure CanMove (disk : FileSystem) (target : Path) : Prop where
  leads : disk.Leads target
  closed : target.endsOpen = false
  held : ∃ content, disk.find? (slotOf disk.workingDirectory target).target = some (.file content)
  ready : disk.Leads (sibling target stagingSuffix)
  staged : ∃ content, disk.find? (slotOf disk.workingDirectory target).staging =
    some (.file content)
  free : disk.find? (slotOf disk.workingDirectory target).backup ≠ some .directory

theorem CanMove.of_same {disk after : FileSystem} {target : Path} (can : CanMove disk target)
    (alike : Alike disk after)
    (same : ∀ place ∈ (slotOf disk.workingDirectory target).places,
      after.find? place = disk.find? place) : CanMove after target := by
  obtain ⟨leads, closed, held, ready, staged, free⟩ := can
  refine ⟨leads.keeps alike.keeps, closed, ?_, ready.keeps alike.keeps, ?_, ?_⟩ <;>
    rw [alike.keeps.workingDirectory, same _ (by simp [Slot.places])]
  · exact held
  · exact staged
  · exact free

/-- The old file is moved aside and the staged one into its place. -/
theorem exists_commit {target : Path} {desk : Desk} (can : CanMove desk.disk target) :
    ∃ committed after, commit (beside target) desk = .ok committed after := by
  obtain ⟨name, named⟩ := fileName?_of_leads can.leads
  obtain ⟨old, held⟩ := can.held
  obtain ⟨content, staged⟩ := can.staged
  have isFile : desk.disk.isFile target = true :=
    isFile_iff.2 ⟨can.leads.locate can.closed, old, held⟩
  obtain ⟨aside, kept⟩ : ∃ aside,
      rename target (sibling target backupSuffix) desk.disk = .ok () aside :=
    ⟨_, rename_eq_ok.2 ⟨can.leads, leads_backup_of_staging can.ready, can.closed,
      endsOpen_backup target, can.free, old, held, rfl⟩⟩
  obtain ⟨alike, find?⟩ := find?_of_rename kept
  have working := alike.keeps.workingDirectory
  have empty : aside.find? (aside.placeOf target) = none := by
    rw [alike.placeOf, find?, if_neg, if_pos rfl]
    exact target_ne_backup named desk.disk.workingDirectory
  have waiting : aside.find? (aside.placeOf (sibling target stagingSuffix)) = some (.file content) := by
    rw [alike.placeOf, find?, if_neg, if_neg]
    · exact staged
    · exact (target_ne_staging named desk.disk.workingDirectory).symm
    · exact staging_ne_backup desk.disk.workingDirectory target target
  obtain ⟨final, moved⟩ : ∃ final,
      rename (sibling target stagingSuffix) target aside = .ok () final :=
    ⟨_, rename_eq_ok.2 ⟨can.ready.keeps alike.keeps, can.leads.keeps alike.keeps,
      endsOpen_staging target, can.closed, by rw [empty]; nofun, content, waiting, rfl⟩⟩
  have keeping : keepAside target desk =
      .ok (some (sibling target backupSuffix)) ⟨aside, desk.log⟩ :=
    keepAside_eq_ok.2 (.inr ⟨isFile, rfl, kept, rfl⟩)
  have moving : onDisk (rename (sibling target stagingSuffix) target) ⟨aside, desk.log⟩ =
      .ok () ⟨final, desk.log⟩ := onDisk_eq_ok.2 ⟨moved, rfl⟩
  refine ⟨⟨target, some (sibling target backupSuffix)⟩, ⟨final, desk.log⟩, ?_⟩
  unfold commit
  rw [beside_target, beside_staging, keeping]
  dsimp only
  rw [moving]

theorem exists_commits {targets : List Path} {desk : Desk}
    (apart : Apart desk.disk.workingDirectory targets)
    (can : ∀ target ∈ targets, CanMove desk.disk target) :
    ∃ committed after, Commits targets desk committed after := by
  induction targets generalizing desk with
  | nil => exact ⟨[], desk, .done⟩
  | cons target targets ih =>
    obtain ⟨one, middle, first⟩ := exists_commit (can target List.mem_cons_self)
    have moves := moves_of_commit first
    obtain ⟨others, after, rest⟩ :=
      ih (moves.alike.keeps.workingDirectory.symm ▸ apart.tail) fun other member =>
        (can other (List.mem_cons_of_mem _ member)).of_same moves.alike fun place own =>
          moves.find?_of_not_mem (apart.ne member own)
    exact ⟨one :: others, after, .more first rest⟩

/-- Where a file is replaced, no directory is at its backup place. -/
theorem Commits.backup_free {targets : List Path} {desk after : Desk} {committed : List Committed}
    (commits : Commits targets desk committed after) (apart : Apart desk.disk.workingDirectory targets)
    {target : Path} (member : target ∈ targets)
    (held : desk.disk.find? (slotOf desk.disk.workingDirectory target).target ≠ none) :
    desk.disk.find? (slotOf desk.disk.workingDirectory target).backup ≠ some .directory := by
  induction commits with
  | done => cases member
  | @more first targets desk middle after one others moved rest ih =>
    have moves := moves_of_commit moved
    have working := moves.alike.keeps.workingDirectory
    rcases List.mem_cons.1 member with rfl | later
    · exact (moves.kept held).2
    · have own := moves.find?_of_not_mem
        (apart.ne later (show (slotOf desk.disk.workingDirectory target).target ∈ _ by
          simp [Slot.places]))
      rw [working] at ih
      rw [Ne, ← moves.alike.directory_iff]
      exact ih apart.tail later (by rwa [own])

structure Rewritable (directory : Path) (assets : List (Path × Asset)) (disk : FileSystem) : Prop where
  directory : directory.text = "" ∨ disk.isDirectory directory = true
  stage : ∀ entry ∈ assets, CanStage disk entry.1
  leads : ∀ target ∈ assets.map Prod.fst, disk.Leads target ∧ target.endsOpen = false
  held : ∀ target ∈ assets.map Prod.fst, ∃ content,
    disk.find? (slotOf disk.workingDirectory target).target = some (.file content)

/-- They can be written once more, exactly if no directory is at a backup place. -/
theorem Rewritable.exists_iff {assets : Table Asset} {directory : Path} {desk : Desk}
    (ready : Rewritable directory (targetsIn directory assets.entries) desk.disk)
    (valid : ∀ name ∈ assets.names, isAssetName name = true)
    (apart : Apart desk.disk.workingDirectory
      ((targetsIn directory assets.entries).map Prod.fst)) :
    (∃ files after, writeAssets assets directory desk = .ok files after) ↔
      ∀ target ∈ (targetsIn directory assets.entries).map Prod.fst,
        desk.disk.find? (slotOf desk.disk.workingDirectory target).backup ≠ some .directory := by
  constructor
  · rintro ⟨files, after, again⟩ target member blocked
    obtain ⟨-, -, made, staged, moved, committed, first, stages, commits, -⟩ := writeAssets_eq_ok again
    rw [makeDirectories_of_isDirectory ready.directory] at first
    obtain ⟨-, same⟩ := EStateM.Result.ok.inj first
    have keeps : Keeps desk.disk staged.disk := by
      rw [same]
      exact stages.keeps
    have working := keeps.workingDirectory
    rw [same] at ready
    obtain ⟨content, held⟩ := stages.file_kept (ready.held target member)
    rw [← same, ← working] at held
    refine commits.backup_free (working ▸ apart) member (by rw [held]; nofun) ?_
    rw [working]
    exact keeps.directory blocked
  · intro unblocked
    obtain ⟨staged, stages, alike⟩ := exists_stages ready.stage
    have working := alike.keeps.workingDirectory
    have can : ∀ target ∈ (targetsIn directory assets.entries).map Prod.fst,
        CanMove staged.disk target := by
      intro target member
      obtain ⟨entry, listed, rfl⟩ := List.mem_map.1 member
      obtain ⟨leads, closed⟩ := ready.leads entry.1 member
      have held := stages.file_kept (ready.held entry.1 member)
      have waiting := stages.holds listed
      rw [← working] at held waiting
      refine ⟨leads.keeps alike.keeps, closed, held, stages.leads listed, waiting, ?_⟩
      rw [working, Ne, alike.directory_iff]
      exact unblocked entry.1 member
    obtain ⟨committed, moved, commits⟩ := exists_commits (working.symm ▸ apart) can
    have made : onDisk (makeDirectories directory) desk = .ok () desk :=
      onDisk_eq_ok.2 ⟨makeDirectories_of_isDirectory ready.directory, rfl⟩
    exact ⟨_, _, writeAssets_of_commits valid made stages commits⟩

section Again

variable {assets : Table Asset} {directory : Path} {desk after : Desk} {files : List String}
  (success : writeAssets assets directory desk = .ok files after)
include success

variable (apart : Apart desk.disk.workingDirectory
    (assets.names.map fun name => directory.join ⟨name⟩))
  (free : ∀ target ∈ assets.names.map fun name => directory.join ⟨name⟩,
    desk.disk.find? (slotOf desk.disk.workingDirectory target).staging = none ∧
      desk.disk.find? (slotOf desk.disk.workingDirectory target).backup = none)
include apart free

theorem written_of_writeAssets :
    Written directory (targetsIn directory assets.entries) desk.disk after.disk := by
  rw [names_map_join] at apart free
  obtain ⟨-, -, made, staged, moved, committed, first, stages, commits, rfl⟩ := writeAssets_eq_ok success
  exact written_of_commits apart free first stages commits

theorem rewritable_of_writeAssets :
    Rewritable directory (targetsIn directory assets.entries) after.disk := by
  have written := written_of_writeAssets success apart free
  obtain ⟨-, -, made, staged, moved, committed, first, stages, commits, rfl⟩ := writeAssets_eq_ok success
  obtain ⟨dropped, -⟩ := commits.dropBackups
  have alike := commits.alike.trans dropped
  refine ⟨?_, ?_, ?_, ?_⟩
  · exact (isDirectory_of_makeDirectories first).imp_right (stages.keeps.trans alike.keeps).isDirectory
  · exact fun entry member => (stages.canStage member).alike alike
  · intro target member
    obtain ⟨leads, closed⟩ := commits.leads member
    exact ⟨leads.keeps alike.keeps, closed⟩
  · intro target member
    obtain ⟨entry, listed, rfl⟩ := List.mem_map.1 member
    rw [written.workingDirectory]
    exact ⟨_, written.targets entry listed⟩

/-- When assets have been written, they can be written again, exactly if no backup place is that of a
directory which is needed. -/
theorem writeAssets_again_iff (log : List LogLine) :
    (∃ others final, writeAssets assets directory ⟨after.disk, log⟩ = .ok others final) ↔
      ∀ target ∈ assets.names.map fun name => directory.join ⟨name⟩,
        ¬IsNeeded desk.disk.workingDirectory directory
          (assets.names.map fun name => directory.join ⟨name⟩)
          (slotOf desk.disk.workingDirectory target).backup := by
  have written := written_of_writeAssets success apart free
  have ready := rewritable_of_writeAssets success apart free
  obtain ⟨-, valid, -⟩ := writeAssets_eq_ok success
  rw [names_map_join] at apart free ⊢
  have working := written.workingDirectory
  have start : Rewritable directory (targetsIn directory assets.entries)
      (Desk.mk after.disk log).disk := ready
  rw [start.exists_iff valid (working ▸ apart)]
  refine forall₂_congr fun target member => ?_
  rw [working]
  constructor
  · intro unblocked needed
    exact unblocked (written.directories _ needed).1
  · intro spared blocked
    have elsewhere := written.elsewhere _ (fun entry listed same =>
      apart.target_ne_backup (List.mem_map_of_mem listed) member same.symm) spared
    rw [blocked, (free target member).2] at elsewhere
    cases elsewhere

/-- Whoever writes assets again leaves everything as it was. -/
theorem find?_of_writeAssets_again {log : List LogLine} {others : List String} {final : Desk}
    (again : writeAssets assets directory ⟨after.disk, log⟩ = .ok others final) :
    others = files ∧ final.disk.workingDirectory = after.disk.workingDirectory ∧
      ∀ place, final.disk.find? place = after.disk.find? place := by
  have written := written_of_writeAssets success apart free
  have spared := (writeAssets_again_iff success apart free log).1 ⟨others, final, again⟩
  have working := written.workingDirectory
  have ready := rewritable_of_writeAssets success apart free
  have clear : ∀ target ∈ assets.names.map fun name => directory.join ⟨name⟩,
      after.disk.find? (slotOf after.disk.workingDirectory target).staging = none ∧
        after.disk.find? (slotOf after.disk.workingDirectory target).backup = none := by
    intro target member
    obtain ⟨staging, backup⟩ := free target member
    have untouched := spared target member
    rw [names_map_join] at member apart untouched
    obtain ⟨entry, listed, rfl⟩ := List.mem_map.1 member
    rw [working]
    constructor
    · rw [← staging]
      refine written.elsewhere _ (fun other among same => ?_) fun needed => ?_
      · exact apart.target_ne_staging (List.mem_map_of_mem among) member same.symm
      · refine (ready.stage entry listed).free ?_
        rw [working]
        exact (written.directories _ needed).1
    · rw [← backup]
      exact written.elsewhere _ (fun other among same =>
        apart.target_ne_backup (List.mem_map_of_mem among) member same.symm) untouched
  have rewritten := written_of_writeAssets again (by rwa [working]) clear
  obtain ⟨rfl, -⟩ := writeAssets_eq_ok success
  obtain ⟨rfl, -⟩ := writeAssets_eq_ok again
  refine ⟨rfl, rewritten.workingDirectory, fun place => ?_⟩
  have place' (path : Path) : after.disk.placeOf path = desk.disk.placeOf path :=
    (keeps_of_writeAssets success).placeOf path
  by_cases target : ∃ entry ∈ targetsIn directory assets.entries, place = desk.disk.placeOf entry.1
  · obtain ⟨entry, member, rfl⟩ := target
    rw [written.targets entry member, ← place', rewritten.targets entry member]
  · have other : ∀ entry ∈ targetsIn directory assets.entries, place ≠ after.disk.placeOf entry.1 :=
      fun entry member same => target ⟨entry, member, by rw [same, place']⟩
    by_cases needed : IsNeeded desk.disk.workingDirectory directory
        ((targetsIn directory assets.entries).map Prod.fst) place
    · rw [(written.directories place needed).1, (rewritten.directories place (working ▸ needed)).1]
    · exact rewritten.elsewhere place other (working.symm ▸ needed)

end Again

end ModuleBundler.Persist
