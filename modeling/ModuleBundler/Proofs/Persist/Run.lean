import ModuleBundler.Proofs.Persist.Staging

/-!
A whole write, as a relation: the directories are made, the assets are staged, the staged files are moved,
and what was kept aside is dropped. It fails at one of these steps and takes back those before it.
-/

namespace ModuleBundler.Persist

open FileSystem

inductive Commits : List Path → Desk → List Committed → Desk → Prop where
  | done {desk : Desk} : Commits [] desk [] desk
  | more {target : Path} {targets : List Path} {desk middle after : Desk} {committed : Committed}
      {others : List Committed} (first : commit (beside target) desk = .ok committed middle)
      (rest : Commits targets middle others after) :
      Commits (target :: targets) desk (committed :: others) after

/-- Staged files are moved until one cannot be, and those that have been are taken back, the last one
first. -/
inductive Attempt : List Path → Path → Desk → AccessError → Desk → Prop where
  | stop {failing : Path} {desk after : Desk} {cause : AccessError}
      (failed : commit (beside failing) desk = .error cause after) : Attempt [] failing desk cause after
  | back {target failing : Path} {targets : List Path} {desk middle after : Desk}
      {committed : Committed} {cause : AccessError}
      (first : commit (beside target) desk = .ok committed middle)
      (rest : Attempt targets failing middle cause after) :
      Attempt (target :: targets) failing desk cause (rollBack [committed] after)

theorem commitAll_eq_ok {done committed : List Committed} {targets : List Path} {desk after : Desk}
    (success : commitAll done (targets.map beside) desk = .ok committed after) :
    ∃ others, committed = done ++ others ∧ Commits targets desk others after := by
  induction targets generalizing done desk with
  | nil =>
    obtain ⟨rfl, rfl⟩ := pure_eq_ok.1 success
    exact ⟨[], (List.append_nil _).symm, .done⟩
  | cons target targets ih =>
    rw [List.map_cons] at success
    unfold commitAll at success
    cases first : commit (beside target) desk with
    | error cause middle => simp [first] at success
    | ok one middle =>
      rw [first] at success
      obtain ⟨others, rfl, rest⟩ := ih success
      exact ⟨one :: others, by rw [List.append_assoc, List.singleton_append], .more first rest⟩

theorem commitAll_eq_error {done : List Committed} {targets : List Path} {desk after : Desk}
    {error : BuildError} (failed : commitAll done (targets.map beside) desk = .error error after) :
    ∃ front failing back cause last, targets = front ++ failing :: back ∧
      Attempt front failing desk cause last ∧ error = .io failing cause ∧
      after = discard ((failing :: back).map beside) (rollBack done last) := by
  induction targets generalizing done desk with
  | nil => cases failed
  | cons target targets ih =>
    rw [List.map_cons] at failed
    unfold commitAll at failed
    cases first : commit (beside target) desk with
    | error cause last =>
      rw [first] at failed
      cases failed
      exact ⟨[], target, targets, cause, last, rfl, .stop first, rfl, rfl⟩
    | ok one middle =>
      rw [first] at failed
      obtain ⟨front, failing, back, cause, last, rfl, attempt, rfl, rfl⟩ := ih failed
      exact ⟨target :: front, failing, back, cause, _, rfl, .back first attempt, rfl,
        by rw [rollBack_append]⟩

theorem commitAll_of_commits {done committed : List Committed} {targets : List Path} {desk after : Desk}
    (commits : Commits targets desk committed after) :
    commitAll done (targets.map beside) desk = .ok (done ++ committed) after := by
  induction commits generalizing done with
  | done => exact pure_eq_ok.2 ⟨(List.append_nil _).symm, rfl⟩
  | more first _ ih =>
    rw [List.map_cons]
    unfold commitAll
    rw [first]
    refine ih.trans ?_
    rw [List.append_assoc, List.singleton_append]

theorem commitAll_of_attempt {done : List Committed} {front back : List Path} {failing : Path}
    {desk after : Desk} {cause : AccessError} (attempt : Attempt front failing desk cause after) :
    commitAll done ((front ++ failing :: back).map beside) desk =
      .error (.io failing cause) (discard ((failing :: back).map beside) (rollBack done after)) := by
  induction attempt generalizing done with
  | stop failed =>
    rw [List.nil_append, List.map_cons]
    unfold commitAll
    rw [failed]
    rfl
  | back first _ ih =>
    rw [List.cons_append, List.map_cons]
    unfold commitAll
    rw [first]
    refine ih.trans ?_
    rw [rollBack_append]

/-- An attempt is made of the moves that succeed and the one that fails. -/
theorem attempt_iff {front : List Path} {failing : Path} {desk after : Desk} {cause : AccessError} :
    Attempt front failing desk cause after ↔ ∃ committed moved stopped,
      Commits front desk committed moved ∧ commit (beside failing) moved = .error cause stopped ∧
        after = rollBack committed stopped := by
  constructor
  · intro attempt
    induction attempt with
    | @stop failing desk after cause failed => exact ⟨[], desk, after, .done, failed, rfl⟩
    | back first _ ih =>
      obtain ⟨committed, moved, stopped, rest, failed, rfl⟩ := ih
      exact ⟨_ :: committed, moved, stopped, .more first rest, failed, (rollBack_append [_] committed _).symm⟩
  · rintro ⟨committed, moved, stopped, commits, failed, rfl⟩
    induction commits with
    | done => exact .stop failed
    | @more target targets desk middle after one others first _ ih =>
      rw [show one :: others = [one] ++ others from rfl, rollBack_append]
      exact .back first (ih failed)

namespace Commits

variable {targets : List Path} {desk after : Desk} {committed : List Committed}

theorem alike (commits : Commits targets desk committed after) : Alike desk.disk after.disk := by
  induction commits with
  | done => exact .refl _
  | more first _ ih => exact (moves_of_commit first).alike.trans ih

theorem leads (commits : Commits targets desk committed after) {target : Path}
    (member : target ∈ targets) : desk.disk.Leads target ∧ target.endsOpen = false := by
  induction commits with
  | done => cases member
  | more first _ ih =>
    have moves := moves_of_commit first
    rcases List.mem_cons.1 member with rfl | later
    · exact ⟨moves.leads, moves.closed⟩
    · exact ⟨(moves.alike.leads_iff _).1 (ih later).1, (ih later).2⟩

/-- What is kept aside can be taken away again. -/
theorem backups (commits : Commits targets desk committed after) {backup : Path}
    (member : backup ∈ committed.filterMap Committed.backup) :
    after.disk.Leads backup ∧ backup.endsOpen = false ∧
      after.disk.find? (after.disk.placeOf backup) ≠ some .directory := by
  induction commits with
  | done => cases member
  | @more target targets desk middle after one others first rest ih =>
    obtain ⟨entry, listed, kept⟩ := List.mem_filterMap.1 member
    rcases List.mem_cons.1 listed with rfl | later
    · have moves := moves_of_commit first
      have alike := moves.alike.trans rest.alike
      rw [moves.committed] at kept
      dsimp only at kept
      split at kept
      · cases kept
      · rename_i some
        cases kept
        obtain ⟨leads, free⟩ := moves.kept some
        refine ⟨(alike.leads_iff _).2 leads, endsOpen_backup target, fun held => free ?_⟩
        rw [alike.placeOf] at held
        exact (alike.directory_iff _).1 held
    · exact ih (List.mem_filterMap.2 ⟨entry, later, kept⟩)

theorem eq_sibling (commits : Commits targets desk committed after) {backup : Path}
    (kept : backup ∈ committed.filterMap Committed.backup) :
    ∃ target ∈ targets, backup = sibling target backupSuffix := by
  induction commits with
  | done => cases kept
  | more first rest ih =>
    obtain ⟨entry, listed, here⟩ := List.mem_filterMap.1 kept
    rcases List.mem_cons.1 listed with rfl | later
    · exact ⟨_, List.mem_cons_self, (moves_of_commit first).eq_sibling here⟩
    · obtain ⟨target, member, same⟩ := ih (List.mem_filterMap.2 ⟨entry, later, here⟩)
      exact ⟨target, List.mem_cons_of_mem _ member, same⟩

theorem find?_of_not_mem (commits : Commits targets desk committed after) {place : Location}
    (elsewhere : ∀ target ∈ targets, place ∉ (slotOf desk.disk.workingDirectory target).places) :
    after.disk.find? place = desk.disk.find? place := by
  induction commits with
  | done => rfl
  | more first _ ih =>
    have moves := moves_of_commit first
    rw [moves.alike.keeps.workingDirectory] at ih
    rw [ih fun target member => elsewhere target (List.mem_cons_of_mem _ member),
      moves.find?_of_not_mem (elsewhere _ List.mem_cons_self)]

theorem dropBackups (commits : Commits targets desk committed after) :
    Alike after.disk (dropBackups committed after).disk ∧
      (∀ backup ∈ committed.filterMap Committed.backup,
        (Persist.dropBackups committed after).disk.find? (after.disk.placeOf backup) = none) ∧
      ∀ place, (∀ backup ∈ committed.filterMap Committed.backup, place ≠ after.disk.placeOf backup) →
        (Persist.dropBackups committed after).disk.find? place = after.disk.find? place :=
  foldl_remove_spec _ id _ after fun _ member => commits.backups member

end Commits

section Dropped

variable {working : Location} {targets : List Path} {desk after : Desk} {committed : List Committed}
  (commits : Commits targets desk committed after) (here : desk.disk.workingDirectory = working)
include commits here

theorem find?_dropBackups_backup {backup : Path} (kept : backup ∈ committed.filterMap Committed.backup) :
    (dropBackups committed after).disk.find? (backup.place working) = none := by
  obtain ⟨-, gone, -⟩ := commits.dropBackups
  rw [← here, ← commits.alike.keeps.workingDirectory]
  exact gone backup kept

theorem find?_dropBackups {place : Location}
    (unkept : ∀ backup ∈ committed.filterMap Committed.backup, place ≠ backup.place working) :
    (dropBackups committed after).disk.find? place = after.disk.find? place := by
  obtain ⟨-, -, rest⟩ := commits.dropBackups
  rw [← here, ← commits.alike.keeps.workingDirectory] at unkept
  exact rest place unkept

theorem find?_dropBackups_none {place : Location} (none' : after.disk.find? place = none) :
    (dropBackups committed after).disk.find? place = none := by
  by_cases kept : ∃ backup ∈ committed.filterMap Committed.backup, place = backup.place working
  · obtain ⟨backup, among, rfl⟩ := kept
    exact find?_dropBackups_backup commits here among
  · rw [find?_dropBackups commits here fun backup among same => kept ⟨backup, among, same⟩, none']

end Dropped

namespace Attempt

variable {targets : List Path} {failing : Path} {desk after : Desk} {cause : AccessError}

theorem alike (attempt : Attempt targets failing desk cause after) : Alike desk.disk after.disk := by
  induction attempt with
  | stop failed => exact (fails_of_commit failed).alike
  | back first _ ih =>
    have moves := moves_of_commit first
    exact (rollBack_spec moves (moves.alike.trans ih)).1

theorem leads (attempt : Attempt targets failing desk cause after) {target : Path}
    (member : target ∈ targets) : desk.disk.Leads target := by
  obtain ⟨_, _, _, commits, -⟩ := attempt_iff.1 attempt
  exact (commits.leads member).1

theorem find?_of_not_mem (attempt : Attempt targets failing desk cause after) {place : Location}
    (elsewhere : ∀ target ∈ targets, place ∉ (slotOf desk.disk.workingDirectory target).places)
    (spared : desk.disk.Leads failing → place ≠ (slotOf desk.disk.workingDirectory failing).backup) :
    after.disk.find? place = desk.disk.find? place := by
  induction attempt with
  | @stop failing desk after cause failed =>
    have fails := fails_of_commit failed
    by_cases here : place = (slotOf desk.disk.workingDirectory failing).backup
    · rcases fails.backup with same | ⟨-, -, leads, -⟩
      · rw [here, same]
      · exact absurd here (spared leads)
    · exact fails.find? place here
  | @back target failing targets desk middle after committed cause first rest ih =>
    have moves := moves_of_commit first
    have own := elsewhere target List.mem_cons_self
    obtain ⟨notTarget, -, notBackup⟩ := Slot.not_mem_places.1 own
    rw [find?_rollBack_of_ne moves (moves.alike.trans rest.alike) notTarget notBackup,
      ih (fun other member => moves.alike.keeps.workingDirectory ▸
        elsewhere other (List.mem_cons_of_mem _ member)) fun leads =>
          moves.alike.keeps.workingDirectory ▸ spared ((moves.alike.leads_iff _).1 leads),
      moves.find?_of_not_mem own]

end Attempt

/-- How a write succeeds. -/
theorem writeAssets_eq_ok {assets : Table Asset} {directory : Path} {desk after : Desk}
    {files : List String} (success : writeAssets assets directory desk = .ok files after) :
    files = assets.names ∧ (∀ name ∈ assets.names, isAssetName name = true) ∧
      ∃ made staged moved committed, makeDirectories directory desk.disk = .ok () made.disk ∧
        Stages (targetsIn directory assets.entries) made staged ∧
        Commits ((targetsIn directory assets.entries).map Prod.fst) staged committed moved ∧
        after = dropBackups committed moved := by
  unfold writeAssets at success
  cases wrong : assets.names.find? fun name => !isAssetName name with
  | some name =>
    rw [wrong] at success
    cases success
  | none =>
    rw [wrong] at success
    dsimp only at success
    have valid : ∀ name ∈ assets.names, isAssetName name = true := by
      simpa using wrong
    cases first : onDisk (makeDirectories directory) desk with
    | error error made => simp [first] at success
    | ok _ made =>
      rw [first] at success
      obtain ⟨staged, between, staging, rest⟩ := bind_eq_ok.1 success
      obtain ⟨committed, moved, committing, ended⟩ := bind_eq_ok.1 rest
      obtain ⟨_, last, dropped, answered⟩ := bind_eq_ok.1 ended
      obtain ⟨rfl, rfl⟩ := pure_eq_ok.1 answered
      cases dropped
      obtain ⟨rfl, stages⟩ := stageAll_eq_ok staging
      rw [List.nil_append, ← Function.comp_def beside Prod.fst, ← List.map_map] at committing
      obtain ⟨others, rfl, commits⟩ := commitAll_eq_ok committing
      exact ⟨rfl, valid, made, between, moved, _, (onDisk_eq_ok.1 first).1, stages, commits, rfl⟩

inductive StagingFails (assets : List (Path × Asset)) (made : Desk) : Desk → Prop where
  | stuck {front back : List (Path × Asset)} {target : Path} {asset : Asset} {middle last : Desk}
      {cause : AccessError} (whole : assets = front ++ (target, asset) :: back)
      (stages : Stages front made middle) (failed : stage (beside target) asset middle = .error cause last) :
      StagingFails assets made (orIgnore (removeFile (sibling target stagingSuffix))
        (discard (front.map fun entry => beside entry.1) last))

inductive CommitFails (assets : List (Path × Asset)) (made : Desk) : BuildError → Desk → Prop where
  | stuck {front back : List Path} {failing : Path} {staged last : Desk} {cause : AccessError}
      (stages : Stages assets made staged) (whole : assets.map Prod.fst = front ++ failing :: back)
      (attempt : Attempt front failing staged cause last) :
      CommitFails assets made (.io failing cause) (discard ((failing :: back).map beside) last)

/-- How a write fails. -/
theorem writeAssets_eq_error {assets : Table Asset} {directory : Path} {desk after : Desk}
    {error : BuildError} (failed : writeAssets assets directory desk = .error error after) :
    ((∃ name ∈ assets.names, isAssetName name = false) ∧ after = desk) ∨
      (∃ cause, makeDirectories directory desk.disk = .error cause after.disk) ∨
      ((∀ name ∈ assets.names, isAssetName name = true) ∧
        ∃ made, onDisk (makeDirectories directory) desk = .ok () made ∧
          (StagingFails (targetsIn directory assets.entries) made after ∨
            CommitFails (targetsIn directory assets.entries) made error after)) := by
  unfold writeAssets at failed
  cases wrong : assets.names.find? fun name => !isAssetName name with
  | some name =>
    rw [wrong] at failed
    cases failed
    exact .inl ⟨⟨name, List.mem_of_find?_eq_some wrong, by simpa using List.find?_some wrong⟩, rfl⟩
  | none =>
    rw [wrong] at failed
    dsimp only at failed
    have valid : ∀ name ∈ assets.names, isAssetName name = true := by
      simpa using wrong
    cases first : onDisk (makeDirectories directory) desk with
    | error cause made =>
      rw [first] at failed
      cases failed
      exact .inr (.inl ⟨cause, (onDisk_eq_error.1 first).1⟩)
    | ok _ made =>
      rw [first] at failed
      refine .inr (.inr ⟨valid, made, rfl, ?_⟩)
      rcases bind_eq_error.1 failed with staging | ⟨staged, between, staging, rest⟩
      · obtain ⟨front, target, asset, back, middle, cause, last, whole, stages, stopped, rfl⟩ :=
          stageAll_eq_error staging
        exact .inl (.stuck whole stages stopped)
      · obtain ⟨rfl, stages⟩ := stageAll_eq_ok staging
        rcases bind_eq_error.1 rest with committing | ⟨committed, moved, -, ended⟩
        · rw [List.nil_append, ← Function.comp_def beside Prod.fst, ← List.map_map] at committing
          obtain ⟨front, failing, back, cause, last, whole, attempt, rfl, rfl⟩ :=
            commitAll_eq_error committing
          exact .inr (.stuck stages whole attempt)
        · obtain ⟨_, _, dropped, answered⟩ := (bind_eq_error.1 ended).resolve_left nofun
          cases answered

theorem spares_stageAll {directory : Path} {name : String} (done : List Staged)
    (assets : List (String × Asset)) :
    Spares (stageAll directory done assets) (.invalidAssetName name) := by
  induction assets generalizing done with
  | nil => exact .pure _
  | cons entry assets ih =>
    intro desk final failed
    unfold stageAll at failed
    dsimp only at failed
    cases staged : stage (Staged.of directory entry.1) entry.2 desk with
    | ok _ middle =>
      rw [staged] at failed
      exact ih _ middle final failed
    | error cause middle => simp [staged] at failed

theorem spares_commitAll {name : String} (done : List Committed) (staged : List Staged) :
    Spares (commitAll done staged) (.invalidAssetName name) := by
  induction staged generalizing done with
  | nil => exact .pure _
  | cons one rest ih =>
    intro desk final failed
    unfold commitAll at failed
    cases moved : commit one desk with
    | ok committed middle =>
      rw [moved] at failed
      exact ih _ middle final failed
    | error cause middle => simp [moved] at failed

/-- Names are refused before anything is done. -/
theorem writeAssets_eq_invalidAssetName {assets : Table Asset} {directory : Path} {desk after : Desk}
    {name : String} (refused : writeAssets assets directory desk = .error (.invalidAssetName name) after) :
    after = desk := by
  unfold writeAssets at refused
  cases wrong : assets.names.find? fun name => !isAssetName name with
  | some other =>
    rw [wrong] at refused
    cases refused
    rfl
  | none =>
    rw [wrong] at refused
    dsimp only at refused
    cases first : onDisk (makeDirectories directory) desk with
    | error cause made => simp [first] at refused
    | ok _ made =>
      rw [first] at refused
      refine absurd refused (Spares.bind (spares_stageAll [] _) (fun staged =>
        (spares_commitAll [] staged).bind fun committed => ?_) made after)
      intro start final failed
      cases failed

/-- A write succeeds when its files have been moved. -/
theorem writeAssets_of_commits {assets : Table Asset} {directory : Path} {desk made staged moved : Desk}
    {committed : List Committed} (valid : ∀ name ∈ assets.names, isAssetName name = true)
    (first : onDisk (makeDirectories directory) desk = .ok () made)
    (stages : Stages (targetsIn directory assets.entries) made staged)
    (commits : Commits ((targetsIn directory assets.entries).map Prod.fst) staged committed moved) :
    writeAssets assets directory desk = .ok assets.names (dropBackups committed moved) := by
  have fine : assets.names.find? (fun name => !isAssetName name) = none := by simpa using valid
  have moving : commitAll [] (((targetsIn directory assets.entries).map Prod.fst).map beside) staged =
      .ok ([] ++ committed) moved := commitAll_of_commits commits
  rw [List.map_map, Function.comp_def beside Prod.fst] at moving
  unfold writeAssets
  rw [fine]
  dsimp only
  rw [first]
  exact bind_eq_ok.2 ⟨_, _, stageAll_of_stages stages, bind_eq_ok.2 ⟨_, _, moving,
    bind_eq_ok.2 ⟨(), _, rfl, rfl⟩⟩⟩

/-- A write fails as moving its files does. -/
theorem writeAssets_of_attempt {assets : Table Asset} {directory failing : Path} {front back : List Path}
    {desk made staged last : Desk} {cause : AccessError}
    (valid : ∀ name ∈ assets.names, isAssetName name = true)
    (first : onDisk (makeDirectories directory) desk = .ok () made)
    (stages : Stages (targetsIn directory assets.entries) made staged)
    (whole : (targetsIn directory assets.entries).map Prod.fst = front ++ failing :: back)
    (attempt : Attempt front failing staged cause last) :
    writeAssets assets directory desk =
      .error (.io failing cause) (discard ((failing :: back).map beside) last) := by
  have fine : assets.names.find? (fun name => !isAssetName name) = none := by simpa using valid
  unfold writeAssets
  rw [fine]
  dsimp only
  rw [first]
  refine bind_eq_error.2 (.inr ⟨_, _, stageAll_of_stages stages, bind_eq_error.2 (.inl ?_)⟩)
  rw [List.nil_append, ← Function.comp_def beside Prod.fst, ← List.map_map, whole]
  exact commitAll_of_attempt attempt

end ModuleBundler.Persist
