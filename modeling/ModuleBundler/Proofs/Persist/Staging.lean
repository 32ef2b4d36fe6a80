import ModuleBundler.Proofs.Persist.Commit

/-!
Staging: every asset is written beside its target. Besides the staged files there are only new directories.
-/

namespace ModuleBundler.Persist

open FileSystem

def parentPaths (target : Path) : List Path :=
  match target.parent? with
  | some directory => onTheWay directory
  | none => []

def IsParent (working : Location) (target : Path) (place : Location) : Prop :=
  ∃ other ∈ parentPaths target, place = other.place working

def makeParents (target : Path) : Writing Unit :=
  match target.parent? with
  | some directory => onDisk (makeDirectories directory)
  | none => pure ()

theorem stage_eq (target : Path) (asset : Asset) :
    stage (beside target) asset = (do
      makeParents target
      onDisk (write (sibling target stagingSuffix) asset.bytes)) := by
  unfold stage makeParents
  rw [beside_target, beside_staging]
  cases target.parent? <;> rfl

theorem gains_parents {target : Path} {desk : Desk} {result : EStateM.Result AccessError Desk Unit}
    (made : makeParents target desk = result) :
    Gains (IsParent desk.disk.workingDirectory target) desk.disk (stateAfter result).disk ∧
      ∀ after, result = .ok () after → ∀ place, IsParent desk.disk.workingDirectory target place →
        after.disk.find? place = some .directory := by
  unfold IsParent parentPaths
  unfold makeParents at made
  cases above : target.parent? with
  | none =>
    rw [above] at made
    subst made
    refine ⟨.refl _ _, fun after _ place parent => ?_⟩
    obtain ⟨other, member, -⟩ := parent
    cases member
  | some directory =>
    rw [above] at made
    dsimp only at made ⊢
    cases result with
    | error error after => exact ⟨gains_makeDirectories (onDisk_eq_error.1 made).1, nofun⟩
    | ok _ after =>
      obtain ⟨success, -⟩ := onDisk_eq_ok.1 made
      have gains := gains_makeDirectories success
      have directories := directory_of_makeDirectories success
      refine ⟨gains, ?_⟩
      rintro _ ⟨⟩ place ⟨other, member, rfl⟩
      have held := directories other member
      rwa [show after.disk.placeOf other = desk.disk.placeOf other from gains.keeps.placeOf other] at held

/-- What staging an asset does. -/
structure Stands (target : Path) (asset : Asset) (before after : FileSystem) : Prop where
  keeps : Keeps before after
  leads : after.Leads (sibling target stagingSuffix)
  staged : after.find? (slotOf before.workingDirectory target).staging = some (.file asset.bytes)
  parents : ∀ place, IsParent before.workingDirectory target place →
    after.find? place = some .directory
  find? : ∀ place, place ≠ (slotOf before.workingDirectory target).staging →
    after.find? place = before.find? place ∨
      before.find? place = none ∧ after.find? place = some .directory ∧
        IsParent before.workingDirectory target place

theorem stands_of_stage {target : Path} {asset : Asset} {desk after : Desk}
    (staged : stage (beside target) asset desk = .ok () after) :
    Stands target asset desk.disk after.disk := by
  rw [stage_eq] at staged
  obtain ⟨_, middle, made, rest⟩ := bind_eq_ok.1 staged
  obtain ⟨gains, directories⟩ := gains_parents made
  obtain ⟨leads, free, -, written⟩ := write_eq_ok.1 (onDisk_eq_ok.1 rest).1
  dsimp only [stateAfter] at gains
  have keeps := gains.keeps
  have place : middle.disk.placeOf (sibling target stagingSuffix) =
      (slotOf desk.disk.workingDirectory target).staging := keeps.placeOf _
  have alike : Alike middle.disk after.disk := by
    rw [written]
    exact alike_set leads.placeOf_ne_nil free _
  have find? (other : Location) : after.disk.find? other =
      if other = (slotOf desk.disk.workingDirectory target).staging then some (.file asset.bytes)
      else middle.disk.find? other := by
    rw [written, find?_set leads.placeOf_ne_nil, place]
  refine ⟨keeps.trans alike.keeps, (alike.leads_iff _).2 leads, ?_, ?_, ?_⟩
  · rw [find?, if_pos rfl]
  · exact fun other parent => (alike.directory_iff other).2 (directories middle rfl other parent)
  · intro other apart
    rw [find?, if_neg apart]
    exact gains.find? other

theorem gains_of_stage {target : Path} {asset : Asset} {desk after : Desk} {cause : AccessError}
    (failed : stage (beside target) asset desk = .error cause after) :
    Gains (IsParent desk.disk.workingDirectory target) desk.disk after.disk := by
  rw [stage_eq] at failed
  rcases bind_eq_error.1 failed with made | ⟨_, middle, made, rest⟩
  · exact (gains_parents made).1
  · rw [change_eq_error (onDisk_eq_error.1 rest).1]
    exact (gains_parents made).1

inductive Stages : List (Path × Asset) → Desk → Desk → Prop where
  | done {desk : Desk} : Stages [] desk desk
  | more {target : Path} {asset : Asset} {assets : List (Path × Asset)} {desk middle after : Desk}
      (first : stage (beside target) asset desk = .ok () middle) (rest : Stages assets middle after) :
      Stages ((target, asset) :: assets) desk after

/-- Assets with their targets in a directory. -/
def targetsIn (directory : Path) (assets : List (String × Asset)) : List (Path × Asset) :=
  assets.map fun entry => (directory.join ⟨entry.1⟩, entry.2)

theorem names_map_join (assets : Table Asset) (directory : Path) :
    assets.names.map (fun name => directory.join ⟨name⟩) =
      (targetsIn directory assets.entries).map Prod.fst := by
  simp [Table.names, targetsIn]

theorem stageAll_eq_ok {directory : Path} {done staged : List Staged} {assets : List (String × Asset)}
    {desk after : Desk} (success : stageAll directory done assets desk = .ok staged after) :
    staged = done ++ (targetsIn directory assets).map (fun entry => beside entry.1) ∧
      Stages (targetsIn directory assets) desk after := by
  induction assets generalizing done desk with
  | nil =>
    obtain ⟨rfl, rfl⟩ := pure_eq_ok.1 success
    exact ⟨(List.append_nil _).symm, .done⟩
  | cons entry assets ih =>
    obtain ⟨name, asset⟩ := entry
    unfold stageAll at success
    dsimp only at success
    cases first : stage (Staged.of directory name) asset desk with
    | error error middle => simp [first] at success
    | ok _ middle =>
      rw [first] at success
      obtain ⟨rfl, rest⟩ := ih success
      exact ⟨by rw [List.append_assoc]; rfl, .more first rest⟩

theorem stageAll_eq_error {directory : Path} {done : List Staged} {assets : List (String × Asset)}
    {desk after : Desk} {error : BuildError}
    (failed : stageAll directory done assets desk = .error error after) :
    ∃ front target asset back middle cause last,
      targetsIn directory assets = front ++ (target, asset) :: back ∧ Stages front desk middle ∧
        stage (beside target) asset middle = .error cause last ∧
        after = orIgnore (removeFile (sibling target stagingSuffix))
          (discard (done ++ front.map fun entry => beside entry.1) last) := by
  induction assets generalizing done desk with
  | nil => cases failed
  | cons entry assets ih =>
    obtain ⟨name, asset⟩ := entry
    unfold stageAll at failed
    dsimp only at failed
    cases first : stage (Staged.of directory name) asset desk with
    | error cause last =>
      rw [first] at failed
      cases failed
      exact ⟨[], _, asset, _, desk, cause, last, rfl, .done, first, by rw [List.map_nil, List.append_nil]; rfl⟩
    | ok _ middle =>
      rw [first] at failed
      obtain ⟨front, target, other, back, between, cause, last, whole, stages, stopped, rfl⟩ := ih failed
      refine ⟨(directory.join ⟨name⟩, asset) :: front, target, other, back, between, cause, last, ?_,
        .more first stages, stopped, ?_⟩
      · exact congrArg _ whole
      · rw [List.append_assoc]
        rfl

theorem stageAll_of_stages {directory : Path} {done : List Staged} {assets : List (String × Asset)}
    {desk after : Desk} (stages : Stages (targetsIn directory assets) desk after) :
    stageAll directory done assets desk =
      .ok (done ++ (targetsIn directory assets).map fun entry => beside entry.1) after := by
  induction assets generalizing done desk with
  | nil =>
    cases stages
    exact pure_eq_ok.2 ⟨(List.append_nil _).symm, rfl⟩
  | cons entry assets ih =>
    obtain ⟨name, asset⟩ := entry
    cases stages with
    | more first rest =>
      unfold stageAll
      dsimp only
      rw [staged_of, first]
      refine (ih rest).trans ?_
      rw [List.append_assoc]
      rfl

namespace Stages

variable {assets : List (Path × Asset)} {desk after : Desk}

theorem keeps (stages : Stages assets desk after) : Keeps desk.disk after.disk := by
  induction stages with
  | done => exact .refl _
  | more first _ ih => exact (stands_of_stage first).keeps.trans ih

theorem find? (stages : Stages assets desk after) (place : Location)
    (apart : ∀ entry ∈ assets, place ≠ (slotOf desk.disk.workingDirectory entry.1).staging) :
    after.disk.find? place = desk.disk.find? place ∨
      desk.disk.find? place = none ∧ after.disk.find? place = some .directory ∧
        ∃ entry ∈ assets, IsParent desk.disk.workingDirectory entry.1 place := by
  induction stages with
  | done => exact .inl rfl
  | @more target asset assets desk middle after first rest ih =>
    have stands := stands_of_stage first
    rw [stands.keeps.workingDirectory] at ih
    have own := apart (target, asset) List.mem_cons_self
    have later := ih fun entry member => apart entry (List.mem_cons_of_mem _ member)
    simpa only [List.exists_mem_cons_iff] using comes_trans (stands.find? place own) later

theorem find?_file (stages : Stages assets desk after) {place : Location} {content : ByteArray}
    (held : desk.disk.find? place = some (.file content))
    (apart : ∀ entry ∈ assets, place ≠ (slotOf desk.disk.workingDirectory entry.1).staging) :
    after.disk.find? place = some (.file content) := by
  rcases stages.find? place apart with same | ⟨missing, -⟩
  · rw [same, held]
  · rw [held] at missing
    cases missing

theorem parents (stages : Stages assets desk after) {entry : Path × Asset} (member : entry ∈ assets)
    {place : Location} (parent : IsParent desk.disk.workingDirectory entry.1 place) :
    after.disk.find? place = some .directory := by
  induction stages with
  | done => cases member
  | more first rest ih =>
    have stands := stands_of_stage first
    rcases List.mem_cons.1 member with rfl | later
    · exact rest.keeps.directory (stands.parents place parent)
    · rw [stands.keeps.workingDirectory] at ih
      exact ih later parent

theorem leads (stages : Stages assets desk after) {entry : Path × Asset} (member : entry ∈ assets) :
    after.disk.Leads (sibling entry.1 stagingSuffix) := by
  induction stages with
  | done => cases member
  | more first rest ih =>
    rcases List.mem_cons.1 member with rfl | later
    · exact (stands_of_stage first).leads.keeps rest.keeps
    · exact ih later

/-- Where there is a file there is one afterwards, its own or one that is staged. -/
theorem file_kept (stages : Stages assets desk after) {place : Location}
    (held : ∃ content, desk.disk.find? place = some (.file content)) :
    ∃ content, after.disk.find? place = some (.file content) := by
  induction stages with
  | done => exact held
  | @more target asset assets desk middle after first rest ih =>
    have stands := stands_of_stage first
    refine ih ?_
    by_cases here : place = (slotOf desk.disk.workingDirectory target).staging
    · exact ⟨_, here ▸ stands.staged⟩
    · obtain ⟨content, there⟩ := held
      rcases stands.find? place here with same | ⟨missing, -⟩
      · exact ⟨content, same.trans there⟩
      · rw [there] at missing
        cases missing

theorem holds (stages : Stages assets desk after) {entry : Path × Asset} (member : entry ∈ assets) :
    ∃ content, after.disk.find? (slotOf desk.disk.workingDirectory entry.1).staging =
      some (.file content) := by
  induction stages with
  | done => cases member
  | more first rest ih =>
    have stands := stands_of_stage first
    rcases List.mem_cons.1 member with rfl | later
    · exact rest.file_kept ⟨_, stands.staged⟩
    · rw [stands.keeps.workingDirectory] at ih
      exact ih later

/-- What is staged is the content of the asset, unless another one is staged in its place. -/
theorem content (stages : Stages assets desk after)
    (apart : assets.Pairwise fun first second =>
      (slotOf desk.disk.workingDirectory first.1).staging ≠
        (slotOf desk.disk.workingDirectory second.1).staging)
    {entry : Path × Asset} (member : entry ∈ assets) :
    after.disk.find? (slotOf desk.disk.workingDirectory entry.1).staging =
      some (.file entry.2.bytes) := by
  induction stages with
  | done => cases member
  | more first rest ih =>
    have stands := stands_of_stage first
    obtain ⟨own, others⟩ := List.pairwise_cons.1 apart
    rcases List.mem_cons.1 member with rfl | later
    · refine rest.find?_file stands.staged fun entry listed => ?_
      rw [stands.keeps.workingDirectory]
      exact own entry listed
    · rw [stands.keeps.workingDirectory] at ih
      exact ih others later

/-- Staged files can be taken away, as long as no directory is lost and none has come in their places. -/
theorem discard (stages : Stages assets desk after) {last : Desk} (keeps : Keeps after.disk last.disk)
    (files : ∀ place content, after.disk.find? place = some (.file content) →
      last.disk.find? place ≠ some .directory)
    {targets : List Path} (within : ∀ target ∈ targets, target ∈ assets.map Prod.fst) :
    Alike last.disk (Persist.discard (targets.map beside) last).disk ∧
      (∀ target ∈ targets, (Persist.discard (targets.map beside) last).disk.find?
        (slotOf desk.disk.workingDirectory target).staging = none) ∧
      ∀ place, (∀ target ∈ targets, place ≠ (slotOf desk.disk.workingDirectory target).staging) →
        (Persist.discard (targets.map beside) last).disk.find? place = last.disk.find? place := by
  rw [← stages.keeps.workingDirectory, ← keeps.workingDirectory]
  refine discard_spec targets last fun target member => ?_
  obtain ⟨entry, listed, rfl⟩ := List.mem_map.1 (within target member)
  obtain ⟨content, file⟩ := stages.holds listed
  rw [← stages.keeps.workingDirectory, ← keeps.workingDirectory] at file
  exact ⟨(stages.leads listed).keeps keeps, files _ content file⟩

end Stages

/-- Whether a place is that of a directory which is made, if it is missing, when assets are written. -/
def IsNeeded (working : Location) (directory : Path) (targets : List Path) (place : Location) : Prop :=
  (∃ other ∈ onTheWay directory, place = other.place working) ∨
    ∃ target ∈ targets, IsParent working target place

/-- What is there when everything has been staged. -/
structure Prepared (directory : Path) (assets : List (Path × Asset)) (before staged : FileSystem) :
    Prop where
  keeps : Keeps before staged
  directories : ∀ place, IsNeeded before.workingDirectory directory (assets.map Prod.fst) place →
    staged.find? place = some .directory
  elsewhere : ∀ place,
    (∀ target ∈ assets.map Prod.fst, place ≠ (slotOf before.workingDirectory target).staging) →
      staged.find? place = before.find? place ∨
        before.find? place = none ∧ staged.find? place = some .directory ∧
          IsNeeded before.workingDirectory directory (assets.map Prod.fst) place

theorem made_workingDirectory {directory : Path} {before made : FileSystem}
    (first : makeDirectories directory before = .ok () made) :
    made.workingDirectory = before.workingDirectory :=
  (gains_makeDirectories first).workingDirectory

theorem prepared_of_stages {directory : Path} {assets : List (Path × Asset)} {before : FileSystem}
    {made staged : Desk} (first : makeDirectories directory before = .ok () made.disk)
    (stages : Stages assets made staged) : Prepared directory assets before staged.disk := by
  have gains := gains_makeDirectories first
  have directories := directory_of_makeDirectories first
  dsimp only [stateAfter] at gains
  have working := made_workingDirectory first
  refine ⟨gains.keeps.trans stages.keeps, ?_, ?_⟩
  · rintro place (⟨other, member, rfl⟩ | ⟨target, member, parent⟩)
    · have held := stages.keeps.directory (directories other member)
      rwa [placeOf, working] at held
    · obtain ⟨entry, listed, rfl⟩ := List.mem_map.1 member
      exact stages.parents listed (working ▸ parent)
  · intro place apart
    have later := stages.find? place fun entry member => working ▸ apart _ (List.mem_map_of_mem member)
    rw [working] at later
    refine (comes_trans (gains.find? place) later).imp_right ?_
    rintro ⟨missing, new, own | ⟨entry, member, parent⟩⟩
    · exact ⟨missing, new, .inl own⟩
    · exact ⟨missing, new, .inr ⟨entry.1, List.mem_map_of_mem member, parent⟩⟩

end ModuleBundler.Persist
