import ModuleBundler.Proofs.FileSystem.Change
import ModuleBundler.Proofs.Persist.Slot

/-!
Moving one staged file to its target, and taking it back. The files that are moved stay below directories
that are there all the time, so that whatever has been moved can be moved back.
-/

namespace ModuleBundler.Persist

open FileSystem

theorem onDisk_eq_ok {α : Type} {action : DiskAction α} {desk after : Desk} {found : α} :
    onDisk action desk = .ok found after ↔
      action desk.disk = .ok found after.disk ∧ after.log = desk.log := by
  obtain ⟨disk, log⟩ := after
  unfold onDisk
  cases action desk.disk with
  | error error changed => simp
  | ok other changed =>
    simp only [EStateM.Result.ok.injEq, Desk.mk.injEq, and_assoc]
    exact and_congr_right fun _ => and_congr_right fun _ => eq_comm

theorem onDisk_eq_error {α : Type} {action : DiskAction α} {desk after : Desk} {error : AccessError} :
    onDisk action desk = .error error after ↔
      action desk.disk = .error error after.disk ∧ after.log = desk.log := by
  obtain ⟨disk, log⟩ := after
  unfold onDisk
  cases action desk.disk with
  | ok other changed => simp
  | error cause changed =>
    simp only [EStateM.Result.error.injEq, Desk.mk.injEq, and_assoc]
    exact and_congr_right fun _ => and_congr_right fun _ => eq_comm

theorem disk_orWarn (message : String) (action : DiskAction Unit) (desk : Desk) :
    (orWarn message action desk).disk = stateAfter (action desk.disk) := by
  unfold orWarn
  cases action desk.disk <;> rfl

theorem disk_orIgnore (action : DiskAction Unit) (desk : Desk) :
    (orIgnore action desk).disk = stateAfter (action desk.disk) := by
  unfold orIgnore
  cases action desk.disk <;> rfl

section Files

variable {disk after : FileSystem} {path source target : Path}

/-- Where no directory is in the way, taking a file away leaves nothing at its place. -/
theorem removeFile_spec (leads : disk.Leads path) (closed : path.endsOpen = false)
    (free : disk.find? (disk.placeOf path) ≠ some .directory) :
    Alike disk (stateAfter (removeFile path disk)) ∧
      ∀ place, (stateAfter (removeFile path disk)).find? place =
        if place = disk.placeOf path then none else disk.find? place := by
  cases held : disk.find? (disk.placeOf path) with
  | none =>
    cases removed : removeFile path disk with
    | ok _ after =>
      obtain ⟨-, ⟨content, here⟩, -⟩ := removeFile_eq_ok.1 removed
      rw [held] at here
      cases here
    | error error after =>
      obtain rfl := change_eq_error removed
      refine ⟨.refl _, fun place => ?_⟩
      by_cases here : place = after.placeOf path
      · rw [if_pos here, here]
        exact held
      · rw [if_neg here]
        rfl
  | some node =>
    cases node with
    | directory => exact absurd held free
    | file content =>
      rw [removeFile_eq_ok.2 ⟨leads, ⟨content, held⟩, closed, rfl⟩]
      exact ⟨alike_clear leads.placeOf_ne_nil free, find?_clear leads.placeOf_ne_nil⟩

theorem find?_removeFile_of_ne {place : Location} (other : place ≠ disk.placeOf path) :
    (stateAfter (removeFile path disk)).find? place = disk.find? place := by
  cases removed : removeFile path disk with
  | error error after =>
    rw [change_eq_error removed]
    rfl
  | ok _ after =>
    obtain ⟨leads, -, -, rfl⟩ := removeFile_eq_ok.1 removed
    exact (find?_clear leads.placeOf_ne_nil place).trans (if_neg other)

theorem stateAfter_removeFile_of_ne
    (free : ∀ content, disk.find? (disk.placeOf path) ≠ some (.file content)) :
    stateAfter (removeFile path disk) = disk := by
  cases removed : removeFile path disk with
  | ok _ after =>
    obtain ⟨-, ⟨content, held⟩, -⟩ := removeFile_eq_ok.1 removed
    exact absurd held (free content)
  | error error after => exact change_eq_error removed

theorem find?_of_rename (renamed : rename source target disk = .ok () after) :
    Alike disk after ∧ ∀ place, after.find? place =
      if place = disk.placeOf target then disk.find? (disk.placeOf source)
      else if place = disk.placeOf source then none else disk.find? place := by
  obtain ⟨fromLeads, toLeads, -, -, free, content, held, rfl⟩ := rename_eq_ok.1 renamed
  have cleared : Alike disk (disk.clear (disk.placeOf source)) :=
    alike_clear fromLeads.placeOf_ne_nil (by simp [held])
  refine ⟨cleared.trans (alike_set toLeads.placeOf_ne_nil ?_ content), fun place => ?_⟩
  · exact fun there => free ((cleared.directory_iff _).1 there)
  · rw [find?_set toLeads.placeOf_ne_nil, find?_clear fromLeads.placeOf_ne_nil, held]

/-- Moving a file, if there is one, to where nothing is. -/
theorem rename_spec (fromLeads : disk.Leads source) (toLeads : disk.Leads target)
    (fromClosed : source.endsOpen = false) (toClosed : target.endsOpen = false)
    (free : disk.find? (disk.placeOf source) ≠ some .directory)
    (empty : disk.find? (disk.placeOf target) = none) :
    Alike disk (stateAfter (rename source target disk)) ∧
      ∀ place, (stateAfter (rename source target disk)).find? place =
        if place = disk.placeOf target then disk.find? (disk.placeOf source)
        else if place = disk.placeOf source then none else disk.find? place := by
  cases held : disk.find? (disk.placeOf source) with
  | none =>
    cases renamed : rename source target disk with
    | ok _ after =>
      obtain ⟨-, -, -, -, -, content, here, -⟩ := rename_eq_ok.1 renamed
      rw [held] at here
      cases here
    | error error after =>
      obtain rfl := change_eq_error renamed
      refine ⟨.refl _, fun place => ?_⟩
      dsimp only [stateAfter]
      by_cases there : place = after.placeOf target
      · rw [if_pos there, there, empty]
      · rw [if_neg there]
        by_cases here : place = after.placeOf source
        · rw [if_pos here, here, held]
        · rw [if_neg here]
  | some node =>
    cases node with
    | directory => exact absurd held free
    | file content =>
      have renamed := rename_eq_ok.2
        ⟨fromLeads, toLeads, fromClosed, toClosed, by simp [empty], content, held, rfl⟩
      rw [renamed, ← held]
      exact find?_of_rename renamed

end Files

def beside (target : Path) : Staged :=
  ⟨sibling target stagingSuffix, target⟩

theorem beside_target (target : Path) : (beside target).target = target :=
  rfl

theorem beside_staging (target : Path) : (beside target).staging = sibling target stagingSuffix :=
  rfl

theorem staged_of (directory : Path) (name : String) :
    Staged.of directory name = beside (directory.join ⟨name⟩) :=
  rfl

/-- What a commit that succeeds does: the staged file is at its target, and the file that was there, if
there was one, at its backup place. -/
structure Moves (target : Path) (before after : FileSystem) (committed : Committed) : Prop where
  alike : Alike before after
  leads : before.Leads target
  closed : target.endsOpen = false
  staged : ∃ content, before.find? (slotOf before.workingDirectory target).staging =
    some (.file content)
  free : before.find? (slotOf before.workingDirectory target).target ≠ some .directory
  kept : before.find? (slotOf before.workingDirectory target).target ≠ none →
    before.Leads (sibling target backupSuffix) ∧
      before.find? (slotOf before.workingDirectory target).backup ≠ some .directory
  committed : committed = ⟨target,
    if before.find? (slotOf before.workingDirectory target).target = none then none
    else some (sibling target backupSuffix)⟩
  find? : ∀ place, after.find? place =
    if place = (slotOf before.workingDirectory target).target then
      before.find? (slotOf before.workingDirectory target).staging
    else if place = (slotOf before.workingDirectory target).staging then none
    else if place = (slotOf before.workingDirectory target).backup ∧
        before.find? (slotOf before.workingDirectory target).target ≠ none then
      before.find? (slotOf before.workingDirectory target).target
    else before.find? place

theorem placeOf_target (disk : FileSystem) (target : Path) :
    disk.placeOf target = (slotOf disk.workingDirectory target).target :=
  rfl

theorem placeOf_staging (disk : FileSystem) (target : Path) :
    disk.placeOf (sibling target stagingSuffix) = (slotOf disk.workingDirectory target).staging :=
  rfl

theorem fileName?_of_leads {disk : FileSystem} {target : Path} (leads : disk.Leads target) :
    ∃ name, target.fileName? = some name := by
  obtain ⟨-, front, name, whole, notDot, notParent, -⟩ := leads
  exact ⟨name, Path.fileName?_of_names whole (by simp) notDot notParent⟩

theorem Moves.named {target : Path} {before after : FileSystem} {committed : Committed}
    (moves : Moves target before after committed) : ∃ name, target.fileName? = some name :=
  fileName?_of_leads moves.leads

namespace Moves

variable {target : Path} {before after : FileSystem} {committed : Committed}
  (moves : Moves target before after committed)
include moves

theorem find?_target : after.find? (slotOf before.workingDirectory target).target =
    before.find? (slotOf before.workingDirectory target).staging := by
  rw [moves.find?, if_pos rfl]

theorem find?_staging : after.find? (slotOf before.workingDirectory target).staging = none := by
  obtain ⟨name, named⟩ := moves.named
  rw [moves.find?, if_neg (Ne.symm (target_ne_staging named _)), if_pos rfl]

theorem find?_backup : after.find? (slotOf before.workingDirectory target).backup =
    if before.find? (slotOf before.workingDirectory target).target = none then
      before.find? (slotOf before.workingDirectory target).backup
    else before.find? (slotOf before.workingDirectory target).target := by
  obtain ⟨name, named⟩ := moves.named
  rw [moves.find?, if_neg (Ne.symm (target_ne_backup named _)),
    if_neg (Ne.symm (staging_ne_backup _ target target))]
  by_cases nothing : before.find? (slotOf before.workingDirectory target).target = none
  · rw [if_pos nothing, if_neg fun both => both.2 nothing]
  · rw [if_neg nothing, if_pos ⟨rfl, nothing⟩]

theorem find?_of_not_mem {place : Location}
    (elsewhere : place ∉ (slotOf before.workingDirectory target).places) :
    after.find? place = before.find? place := by
  obtain ⟨notTarget, notStaging, notBackup⟩ := Slot.not_mem_places.1 elsewhere
  rw [moves.find?, if_neg notTarget, if_neg notStaging, if_neg fun both => notBackup both.1]

theorem backup_eq : committed.backup =
    if before.find? (slotOf before.workingDirectory target).target = none then none
    else some (sibling target backupSuffix) := by
  rw [moves.committed]

theorem backup_of_ne (some' : before.find? (slotOf before.workingDirectory target).target ≠ none) :
    committed.backup = some (sibling target backupSuffix) := by
  rw [moves.backup_eq, if_neg some']

theorem eq_sibling {backup : Path} (kept : committed.backup = some backup) :
    backup = sibling target backupSuffix := by
  rw [moves.backup_eq] at kept
  split at kept
  · cases kept
  · exact (Option.some.inj kept).symm

theorem find?_of_ne {place : Location}
    (notTarget : place ≠ (slotOf before.workingDirectory target).target)
    (notStaging : place ≠ (slotOf before.workingDirectory target).staging)
    (notKept : ∀ backup, committed.backup = some backup → place ≠ before.placeOf backup) :
    after.find? place = before.find? place := by
  rw [moves.find?, if_neg notTarget, if_neg notStaging,
    if_neg fun both => notKept _ (moves.backup_of_ne both.2) both.1]

theorem find?_none {place : Location} (none' : before.find? place = none)
    (notTarget : place ≠ (slotOf before.workingDirectory target).target)
    (notKept : ∀ backup, committed.backup = some backup → place ≠ before.placeOf backup) :
    after.find? place = none := by
  by_cases here : place = (slotOf before.workingDirectory target).staging
  · rw [here, moves.find?_staging]
  · rw [moves.find?_of_ne notTarget here notKept, none']

theorem exists_file (filled : before.find? (slotOf before.workingDirectory target).target ≠ none) :
    ∃ content, before.find? (slotOf before.workingDirectory target).target = some (.file content) :=
  FileSystem.exists_file filled moves.free

theorem file_kept {place : Location} (held : ∃ content, before.find? place = some (.file content))
    (notStaging : place ≠ (slotOf before.workingDirectory target).staging) :
    ∃ content, after.find? place = some (.file content) := by
  by_cases atTarget : place = (slotOf before.workingDirectory target).target
  · rw [atTarget, moves.find?_target]
    exact moves.staged
  · rw [moves.find?, if_neg atTarget, if_neg notStaging]
    split
    · rename_i both
      exact moves.exists_file both.2
    · exact held

end Moves

theorem endsOpen_staging (target : Path) : (sibling target stagingSuffix).endsOpen = false :=
  endsOpen_sibling (by decide) (by decide) target

theorem endsOpen_backup (target : Path) : (sibling target backupSuffix).endsOpen = false :=
  endsOpen_sibling (by decide) (by decide) target

theorem keepAside_eq_ok {target : Path} {desk after : Desk} {backup : Option Path} :
    keepAside target desk = .ok backup after ↔
      (desk.disk.isFile target = false ∧ backup = none ∧ after = desk) ∨
        (desk.disk.isFile target = true ∧ backup = some (sibling target backupSuffix) ∧
          rename target (sibling target backupSuffix) desk.disk = .ok () after.disk ∧
          after.log = desk.log) := by
  unfold keepAside
  cases desk.disk.isFile target with
  | false => simp [eq_comm]
  | true =>
    rw [if_pos rfl]
    dsimp only
    cases moved : onDisk (rename target (sibling target backupSuffix)) desk with
    | error error middle =>
      have failed := (onDisk_eq_error.1 moved).1
      refine iff_of_false (by simp) ?_
      rintro (⟨none, -⟩ | ⟨-, -, renamed, -⟩)
      · cases none
      · rw [renamed] at failed
        cases failed
    | ok _ middle =>
      obtain ⟨renamed, logged⟩ := onDisk_eq_ok.1 moved
      simp only [EStateM.Result.ok.injEq, Bool.true_eq_false, false_and, true_and, false_or]
      constructor
      · rintro ⟨rfl, rfl⟩
        exact ⟨rfl, renamed, logged⟩
      · rintro ⟨rfl, again, others⟩
        rw [renamed, EStateM.Result.ok.injEq] at again
        obtain ⟨disk, log⟩ := middle
        obtain ⟨disk', log'⟩ := after
        obtain ⟨-, rfl⟩ := again
        obtain rfl : log = log' := logged.trans others.symm
        exact ⟨rfl, rfl⟩

theorem keepAside_eq_error {target : Path} {desk after : Desk} {error : AccessError}
    (failed : keepAside target desk = .error error after) :
    rename target (sibling target backupSuffix) desk.disk = .error error after.disk := by
  unfold keepAside at failed
  split at failed
  · dsimp only at failed
    split at failed
    · cases failed
    · rename_i moved
      cases failed
      exact (onDisk_eq_error.1 moved).1
  · cases failed

section Moving

variable {target : Path} {before middle after : FileSystem}

theorem moves_of_empty (nothing : before.find? (slotOf before.workingDirectory target).target = none)
    (renamed : rename (sibling target stagingSuffix) target before = .ok () after) :
    Moves target before after ⟨target, none⟩ := by
  obtain ⟨-, leads, -, closed, free, content, held, -⟩ := rename_eq_ok.1 renamed
  obtain ⟨alike, find?⟩ := find?_of_rename renamed
  refine ⟨alike, leads, closed, ⟨content, held⟩, free, fun some => absurd nothing some, ?_,
    fun place => (find? place).trans ?_⟩
  · exact congrArg _ (if_pos nothing).symm
  · refine if_congr Iff.rfl rfl (if_congr Iff.rfl rfl ?_)
    exact (if_neg fun both => both.2 nothing).symm

/-- A staged file that is moved to where a file was, which has been moved to its backup place. That is none
of the other two places. -/
theorem moves_of_filled
    (aside : rename target (sibling target backupSuffix) before = .ok () middle)
    (renamed : rename (sibling target stagingSuffix) target middle = .ok () after) :
    Moves target before after ⟨target, some (sibling target backupSuffix)⟩ := by
  obtain ⟨leads, backupLeads, closed, -, backupFree, old, there, -⟩ := rename_eq_ok.1 aside
  obtain ⟨-, -, -, -, -, content, held, -⟩ := rename_eq_ok.1 renamed
  obtain ⟨kept, find?_kept⟩ := find?_of_rename aside
  obtain ⟨alike, find?⟩ := find?_of_rename renamed
  obtain ⟨name, named⟩ := fileName?_of_leads leads
  rw [kept.placeOf] at held
  simp only [kept.placeOf] at find?
  change before.find? (slotOf before.workingDirectory target).target = some (.file old) at there
  change middle.find? (slotOf before.workingDirectory target).staging = some (.file content) at held
  change ∀ place, middle.find? place =
    if place = (slotOf before.workingDirectory target).backup then
      before.find? (slotOf before.workingDirectory target).target
    else if place = (slotOf before.workingDirectory target).target then none
    else before.find? place at find?_kept
  change ∀ place, after.find? place =
    if place = (slotOf before.workingDirectory target).target then
      middle.find? (slotOf before.workingDirectory target).staging
    else if place = (slotOf before.workingDirectory target).staging then none
    else middle.find? place at find?
  have staged : middle.find? (slotOf before.workingDirectory target).staging =
      before.find? (slotOf before.workingDirectory target).staging := by
    rw [find?_kept, if_neg (staging_ne_backup _ target target),
      if_neg (target_ne_staging named before.workingDirectory).symm]
  have filled : before.find? (slotOf before.workingDirectory target).target ≠ none := by simp [there]
  refine ⟨kept.trans alike, leads, closed, ⟨content, staged ▸ held⟩, by simp [there],
    fun _ => ⟨backupLeads, backupFree⟩, by rw [if_neg filled], fun place => ?_⟩
  rw [find?, staged, find?_kept]
  by_cases atTarget : place = (slotOf before.workingDirectory target).target
  · rw [if_pos atTarget, if_pos atTarget]
  · simp only [atTarget, if_false, ne_eq, filled, not_false_eq_true, and_true]

end Moving

/-- A commit that succeeds has moved the staged file, and the old one out of its way. -/
theorem moves_of_commit {target : Path} {desk after : Desk} {committed : Committed}
    (done : commit (beside target) desk = .ok committed after) :
    Moves target desk.disk after.disk committed := by
  unfold commit at done
  rw [beside_target, beside_staging] at done
  cases aside : keepAside target desk with
  | error error middle => simp [aside] at done
  | ok backup middle =>
    rw [aside] at done
    dsimp only at done
    cases moved : onDisk (rename (sibling target stagingSuffix) target) middle with
    | error error last => simp [moved] at done
    | ok _ last =>
      rw [moved] at done
      cases done
      have renamed := (onDisk_eq_ok.1 moved).1
      rcases keepAside_eq_ok.1 aside with ⟨noFile, rfl, rfl⟩ | ⟨-, rfl, first, -⟩
      · obtain ⟨-, leads, -, closed, free, -⟩ := rename_eq_ok.1 renamed
        -- a file at the target would have been seen
        have nothing := eq_none_of_free free fun content there =>
          Bool.not_eq_true _ ▸ noFile <| isFile_iff.2 ⟨leads.locate closed, content, there⟩
        exact moves_of_empty nothing renamed
      · exact moves_of_filled first renamed

/-- What a commit that fails does: at most, a file at the backup place is gone. It is if the one at the
target could be kept there for a while. -/
structure Fails (target : Path) (before after : FileSystem) : Prop where
  alike : Alike before after
  find? : ∀ place, place ≠ (slotOf before.workingDirectory target).backup →
    after.find? place = before.find? place
  backup : after.find? (slotOf before.workingDirectory target).backup =
      before.find? (slotOf before.workingDirectory target).backup ∨
    after.find? (slotOf before.workingDirectory target).backup = none ∧
      before.find? (slotOf before.workingDirectory target).backup ≠ some .directory ∧
      before.Leads target ∧ target.endsOpen = false
  gone : before.Leads target → target.endsOpen = false →
    (∃ content, before.find? (slotOf before.workingDirectory target).target = some (.file content)) →
      before.Leads (sibling target backupSuffix) →
        before.find? (slotOf before.workingDirectory target).backup ≠ some .directory →
          after.find? (slotOf before.workingDirectory target).backup = none

section Failing

variable {target : Path} {before middle : FileSystem}

theorem Fails.refl (stuck : ∀ after, rename target (sibling target backupSuffix) before ≠ .ok () after) :
    Fails target before before where
  alike := .refl _
  find? _ _ := rfl
  backup := .inl rfl
  gone leads closed there backupLeads free := by
    obtain ⟨content, held⟩ := there
    exact absurd (rename_eq_ok.2 ⟨leads, backupLeads, closed, endsOpen_backup target, free, content, held,
      rfl⟩) (stuck _)

/-- A file that was kept aside and is put back leaves its backup place empty, and all else as it was. -/
theorem fails_of_restored (aside : rename target (sibling target backupSuffix) before = .ok () middle) :
    Fails target before (stateAfter (rename (sibling target backupSuffix) target middle)) := by
  obtain ⟨leads, backupLeads, closed, backupClosed, free, old, there, -⟩ := rename_eq_ok.1 aside
  obtain ⟨kept, find?_kept⟩ := find?_of_rename aside
  obtain ⟨name, named⟩ := fileName?_of_leads leads
  have apart : before.placeOf target ≠ before.placeOf (sibling target backupSuffix) :=
    target_ne_backup named before.workingDirectory
  have targetPlace : middle.placeOf target = before.placeOf target := kept.placeOf target
  have backupPlace : middle.placeOf (sibling target backupSuffix) =
      before.placeOf (sibling target backupSuffix) := kept.placeOf _
  obtain ⟨restored, find?_restored⟩ := rename_spec ((kept.leads_iff _).2 backupLeads)
    ((kept.leads_iff _).2 leads) backupClosed closed
    (by rw [backupPlace, find?_kept, if_pos rfl, there]; nofun)
    (by rw [targetPlace, find?_kept, if_neg apart, if_pos rfl])
  rw [targetPlace, backupPlace] at find?_restored
  have back (place : Location) :
      (stateAfter (rename (sibling target backupSuffix) target middle)).find? place =
        if place = before.placeOf (sibling target backupSuffix) then none else before.find? place := by
    rw [find?_restored]
    by_cases atTarget : place = before.placeOf target
    · rw [if_pos atTarget, find?_kept, if_pos rfl, atTarget, if_neg apart]
    · rw [if_neg atTarget, find?_kept, if_neg atTarget]
      split <;> rfl
  have gone := (back (slotOf before.workingDirectory target).backup).trans (if_pos rfl)
  exact ⟨kept.trans restored, fun place other => (back place).trans (if_neg other),
    .inr ⟨gone, free, leads, closed⟩, fun _ _ _ _ _ => gone⟩

theorem Fails.find?_of_empty {after : FileSystem} (fails : Fails target before after)
    (empty : ∀ content, before.find? (slotOf before.workingDirectory target).backup ≠ some (.file content))
    (place : Location) : after.find? place = before.find? place := by
  by_cases here : place = (slotOf before.workingDirectory target).backup
  · rw [here]
    rcases fails.backup with same | ⟨gone, free, -⟩
    · exact same
    · rw [gone, eq_none_of_free free empty]
  · exact fails.find? place here

end Failing

/-- A commit that fails has put back the file that it had moved out of the way. -/
theorem fails_of_commit {target : Path} {desk after : Desk} {cause : AccessError}
    (failed : commit (beside target) desk = .error cause after) :
    Fails target desk.disk after.disk := by
  unfold commit at failed
  rw [beside_target, beside_staging] at failed
  cases aside : keepAside target desk with
  | error error middle =>
    rw [aside] at failed
    cases failed
    have refused := keepAside_eq_error aside
    rw [change_eq_error refused]
    refine .refl fun changed moved => ?_
    rw [moved] at refused
    cases refused
  | ok backup middle =>
    rw [aside] at failed
    dsimp only at failed
    cases moved : onDisk (rename (sibling target stagingSuffix) target) middle with
    | ok _ last => simp [moved] at failed
    | error error last =>
      rw [moved] at failed
      cases failed
      have same := change_eq_error (onDisk_eq_error.1 moved).1
      rcases keepAside_eq_ok.1 aside with ⟨noFile, rfl, rfl⟩ | ⟨-, rfl, first, -⟩
      · rw [same]
        refine .refl fun changed moved => ?_
        obtain ⟨leads, -, closed, -, -, content, there, -⟩ := rename_eq_ok.1 moved
        rw [isFile_iff.2 ⟨leads.locate closed, content, there⟩] at noFile
        cases noFile
      · show Fails target _ (restore (sibling target backupSuffix) target last).disk
        rw [restore, disk_orWarn, same]
        exact fails_of_restored first

theorem rollBack_append (front back : List Committed) (desk : Desk) :
    rollBack (front ++ back) desk = rollBack front (rollBack back desk) := by
  rw [rollBack, rollBack, rollBack, List.reverse_append, List.foldl_append]

theorem disk_rollBack_none (target : Path) (desk : Desk) :
    (rollBack [⟨target, none⟩] desk).disk = stateAfter (removeFile target desk.disk) :=
  disk_orWarn _ _ _

theorem disk_rollBack_some (target backup : Path) (desk : Desk) :
    (rollBack [⟨target, some backup⟩] desk).disk =
      stateAfter (rename backup target (stateAfter (removeFile target desk.disk))) :=
  (disk_orWarn _ _ _).trans <|
    congrArg (fun disk => stateAfter (rename backup target disk)) (disk_orWarn _ _ _)

/-- Taking a commit back empties its target, and fills it with what is at the backup place by then, if a
file was kept there. -/
theorem rollBack_spec {target : Path} {before between : FileSystem} {committed : Committed}
    (moves : Moves target before between committed) {desk : Desk} (alike : Alike before desk.disk) :
    Alike before (rollBack [committed] desk).disk ∧
      ∀ place, (rollBack [committed] desk).disk.find? place =
        if place = (slotOf before.workingDirectory target).target then
          if before.find? (slotOf before.workingDirectory target).target = none then none
          else desk.disk.find? (slotOf before.workingDirectory target).backup
        else if place = (slotOf before.workingDirectory target).backup ∧
            before.find? (slotOf before.workingDirectory target).target ≠ none then none
        else desk.disk.find? place := by
  obtain ⟨name, named⟩ := moves.named
  have apart := target_ne_backup named before.workingDirectory
  have targetPlace : desk.disk.placeOf target = (slotOf before.workingDirectory target).target :=
    alike.placeOf target
  have backupPlace : desk.disk.placeOf (sibling target backupSuffix) =
      (slotOf before.workingDirectory target).backup := alike.placeOf _
  obtain ⟨emptied, find?_emptied⟩ := removeFile_spec ((alike.leads_iff _).2 moves.leads) moves.closed
    (by rw [targetPlace]; exact fun held => moves.free ((alike.directory_iff _).1 held))
  rw [targetPlace] at find?_emptied
  have through := alike.trans emptied
  rw [moves.committed]
  by_cases nothing : before.find? (slotOf before.workingDirectory target).target = none
  · rw [if_pos nothing, disk_rollBack_none]
    refine ⟨through, fun place => (find?_emptied place).trans ?_⟩
    have unkept : ¬(place = (slotOf before.workingDirectory target).backup ∧
        before.find? (slotOf before.workingDirectory target).target ≠ none) := fun both => both.2 nothing
    rw [if_pos nothing, if_neg unkept]
  · rw [if_neg nothing, disk_rollBack_some]
    obtain ⟨backupLeads, backupFree⟩ := moves.kept nothing
    have targetAgain := (emptied.placeOf target).trans targetPlace
    have backupAgain := (emptied.placeOf (sibling target backupSuffix)).trans backupPlace
    obtain ⟨restored, find?_restored⟩ := rename_spec ((through.leads_iff _).2 backupLeads)
      ((through.leads_iff _).2 moves.leads) (endsOpen_backup target) moves.closed
      (by rw [backupAgain]; exact fun held => backupFree ((through.directory_iff _).1 held))
      (by rw [targetAgain, find?_emptied, if_pos rfl])
    refine ⟨through.trans restored, fun place => ?_⟩
    rw [find?_restored, targetAgain, backupAgain, find?_emptied, find?_emptied, if_neg (Ne.symm apart),
      if_neg nothing]
    by_cases atTarget : place = (slotOf before.workingDirectory target).target
    · rw [if_pos atTarget, if_pos atTarget]
    · simp only [atTarget, if_false, ne_eq, nothing, not_false_eq_true, and_true]

section TakenBack

variable {target : Path} {before between : FileSystem} {committed : Committed}
  (moves : Moves target before between committed) {desk : Desk} (alike : Alike before desk.disk)
include moves alike

theorem find?_rollBack_target (filled : before.find? (slotOf before.workingDirectory target).target ≠ none) :
    (rollBack [committed] desk).disk.find? (slotOf before.workingDirectory target).target =
      desk.disk.find? (slotOf before.workingDirectory target).backup := by
  rw [(rollBack_spec moves alike).2, if_pos rfl, if_neg filled]

theorem find?_rollBack_backup (filled : before.find? (slotOf before.workingDirectory target).target ≠ none) :
    (rollBack [committed] desk).disk.find? (slotOf before.workingDirectory target).backup = none := by
  obtain ⟨name, named⟩ := moves.named
  rw [(rollBack_spec moves alike).2, if_neg (target_ne_backup named _).symm, if_pos ⟨rfl, filled⟩]

theorem find?_rollBack_of_ne {place : Location}
    (notTarget : place ≠ (slotOf before.workingDirectory target).target)
    (notBackup : place ≠ (slotOf before.workingDirectory target).backup) :
    (rollBack [committed] desk).disk.find? place = desk.disk.find? place := by
  rw [(rollBack_spec moves alike).2, if_neg notTarget, if_neg fun both => notBackup both.1]

/-- If the places of a target are left as its move has left them, and no file had been at the backup place,
taking the move back restores all but the staged file. -/
theorem find?_rollBack
    (own : ∀ place ∈ (slotOf before.workingDirectory target).places,
      desk.disk.find? place = between.find? place)
    (empty : ∀ content, before.find? (slotOf before.workingDirectory target).backup ≠ some (.file content))
    {place : Location} (here : place ∈ (slotOf before.workingDirectory target).places)
    (notStaging : place ≠ (slotOf before.workingDirectory target).staging) :
    (rollBack [committed] desk).disk.find? place = before.find? place := by
  have atBackup : desk.disk.find? (slotOf before.workingDirectory target).backup =
      between.find? (slotOf before.workingDirectory target).backup := own _ (by simp [Slot.places])
  simp only [Slot.mem_places, notStaging, false_or] at here
  by_cases nothing : before.find? (slotOf before.workingDirectory target).target = none
  · rw [(rollBack_spec moves alike).2, if_pos nothing]
    rcases here with rfl | rfl
    · rw [if_pos rfl, nothing]
    · obtain ⟨name, named⟩ := moves.named
      rw [if_neg (target_ne_backup named _).symm, if_neg fun both => both.2 nothing, atBackup,
        moves.find?_backup, if_pos nothing]
  · rcases here with rfl | rfl
    · rw [find?_rollBack_target moves alike nothing, atBackup, moves.find?_backup, if_neg nothing]
    · rw [find?_rollBack_backup moves alike nothing, eq_none_of_free (moves.kept nothing).2 empty]

end TakenBack

/-- Taking away files of which none is where a directory is. -/
theorem foldl_remove_spec {α : Type} (message : α → String) (path : α → Path) (items : List α)
    (desk : Desk) (ready : ∀ item ∈ items, desk.disk.Leads (path item) ∧ (path item).endsOpen = false ∧
      desk.disk.find? (desk.disk.placeOf (path item)) ≠ some .directory) :
    Alike desk.disk
        (items.foldl (fun desk item => orWarn (message item) (removeFile (path item)) desk) desk).disk ∧
      (∀ item ∈ items,
        (items.foldl (fun desk item => orWarn (message item) (removeFile (path item)) desk) desk).disk.find?
          (desk.disk.placeOf (path item)) = none) ∧
      ∀ place, (∀ item ∈ items, place ≠ desk.disk.placeOf (path item)) →
        (items.foldl (fun desk item => orWarn (message item) (removeFile (path item)) desk) desk).disk.find?
          place = desk.disk.find? place := by
  induction items generalizing desk with
  | nil => exact ⟨.refl _, by simp, fun _ _ => rfl⟩
  | cons first items ih =>
    obtain ⟨leads, closed, free⟩ := ready first List.mem_cons_self
    obtain ⟨alike, find?⟩ := removeFile_spec leads closed free
    rw [← disk_orWarn (message first)] at alike find?
    rw [List.foldl_cons]
    obtain ⟨others, gone, rest⟩ := ih (orWarn (message first) (removeFile (path first)) desk)
      fun item member => by
        obtain ⟨leads, closed, free⟩ := ready item (List.mem_cons_of_mem _ member)
        refine ⟨(alike.leads_iff _).2 leads, closed, fun held => free ?_⟩
        rw [alike.placeOf] at held
        exact (alike.directory_iff _).1 held
    simp only [alike.placeOf] at gone rest
    refine ⟨alike.trans others, ?_, ?_⟩
    · intro item member
      by_cases again : ∃ other ∈ items, desk.disk.placeOf (path item) = desk.disk.placeOf (path other)
      · obtain ⟨other, listed, same⟩ := again
        rw [same]
        exact gone other listed
      · have later : item = first := by
          rcases List.mem_cons.1 member with same | listed
          · exact same
          · exact absurd ⟨item, listed, rfl⟩ again
        rw [rest _ fun other listed same => again ⟨other, listed, same⟩, find?, later, if_pos rfl]
    · intro place apart
      rw [rest place fun item member => apart item (List.mem_cons_of_mem _ member), find?,
        if_neg (apart first List.mem_cons_self)]

/-- Staged files that are taken away. -/
theorem discard_spec (targets : List Path) (desk : Desk)
    (ready : ∀ target ∈ targets, desk.disk.Leads (sibling target stagingSuffix) ∧
      desk.disk.find? (slotOf desk.disk.workingDirectory target).staging ≠ some .directory) :
    Alike desk.disk (discard (targets.map beside) desk).disk ∧
      (∀ target ∈ targets, (discard (targets.map beside) desk).disk.find?
        (slotOf desk.disk.workingDirectory target).staging = none) ∧
      ∀ place, (∀ target ∈ targets, place ≠ (slotOf desk.disk.workingDirectory target).staging) →
        (discard (targets.map beside) desk).disk.find? place = desk.disk.find? place := by
  unfold discard
  obtain ⟨alike, gone, rest⟩ := foldl_remove_spec
    (fun entry : Staged => "Failed to remove staged file " ++ entry.staging.text) Staged.staging
    (targets.map beside) desk fun entry member => by
      obtain ⟨target, listed, rfl⟩ := List.mem_map.1 member
      rw [beside_staging, placeOf_staging]
      exact ⟨(ready target listed).1, endsOpen_staging target, (ready target listed).2⟩
  refine ⟨alike, fun target member => ?_, fun place apart => rest place fun entry member => ?_⟩
  · have emptied := gone (beside target) (List.mem_map_of_mem member)
    rwa [beside_staging, placeOf_staging] at emptied
  · obtain ⟨target, listed, rfl⟩ := List.mem_map.1 member
    rw [beside_staging, placeOf_staging]
    exact apart target listed

end ModuleBundler.Persist
