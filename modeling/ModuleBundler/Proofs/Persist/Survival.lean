import ModuleBundler.Proofs.Persist.Run

/-!
What a write that fails leaves of the files that were there. A file is moved aside when its place becomes a
target, and comes back when that is taken back, unless another file has been kept where it lies.
-/

namespace ModuleBundler

open FileSystem

theorem Path.fault?_join {path first second : Path} (relative : first.isAbsolute = false)
    (others : second.isAbsolute = false) (named : first.text ≠ "") (filled : second.text ≠ "")
    (nul : '\x00' ∈ first.text.toList ↔ '\x00' ∈ second.text.toList)
    (size : first.text.utf8ByteSize = second.text.utf8ByteSize) :
    (path.join first).fault? = (path.join second).fault? := by
  unfold Path.join
  rw [relative, others, if_neg Bool.false_ne_true, if_neg Bool.false_ne_true]
  by_cases bare : path.characters = [] ∨ path.characters.getLast? = some '/'
  · rw [if_pos bare, if_pos bare]
    simp [Path.fault?, Path.characters, nul, named, filled, size]
  · rw [if_neg bare, if_neg bare]
    simp [Path.fault?, Path.characters, nul, size]

namespace Persist

section Hidden

variable {disk : FileSystem} {target : Path} {suffix : String}

theorem utf8ByteSize_hidden (stem : String) : (hidden stem stagingSuffix).utf8ByteSize =
    (hidden stem backupSuffix).utf8ByteSize := by
  have suffixes : stagingSuffix.utf8ByteSize = backupSuffix.utf8ByteSize := by decide
  simp [hidden, suffixes]

theorem fault?_sibling (target : Path) :
    (sibling target stagingSuffix).fault? = (sibling target backupSuffix).fault? := by
  have named (suffix : String) : hidden (stem target) suffix ≠ "" := by
    intro empty
    have lists := congrArg String.toList empty
    rw [toList_hidden] at lists
    cases lists
  rw [sibling_eq, sibling_eq]
  refine Path.fault?_join (isAbsolute_hidden _ _) (isAbsolute_hidden _ _) (named _) (named _) ?_
    (utf8ByteSize_hidden _)
  simp [toList_hidden, stagingSuffix, backupSuffix]

/-- There is a way to a hidden file, if there is one to the directory it is in. -/
theorem leads_sibling_iff (clean : '/' ∉ suffix.toList) (filled : suffix ≠ "") :
    disk.Leads (sibling target suffix) ↔ (sibling target suffix).fault? = none ∧
      disk.walk (target.seat.origin disk) target.seat.names = .ok (disk.placeOf target.seat) ∧
      disk.find? (disk.placeOf target.seat) = some .directory ∧
      ¬nameLimit < (hidden (stem target) suffix).utf8ByteSize := by
  have names : (sibling target suffix).names = target.seat.names ++ [hidden (stem target) suffix] := by
    rw [sibling_eq, Path.names_join, isAbsolute_hidden, if_neg Bool.false_ne_true, names_hidden clean]
  have origin : (sibling target suffix).origin disk = target.seat.origin disk := by
    rw [Path.origin, Path.origin, sibling_eq, Path.isAbsolute_join, isAbsolute_hidden, Bool.false_or]
  have place : disk.placeOf (sibling target suffix) =
      (disk.placeOf target.seat).enter (hidden (stem target) suffix) := by
    rw [Location.enter_of_ne (hidden_ne_dot _ _) (hidden_ne_parent _ filled)]
    exact place_sibling clean filled target _
  unfold Leads
  refine and_congr_right fun _ => ?_
  rw [names, origin, walk_concat_eq_ok]
  constructor
  · rintro ⟨front, name, -, -, -, directory, walked, stepped⟩
    obtain ⟨held, short, -⟩ := step_eq_ok.1 stepped
    rw [placeOf_eq, ← eq_follow_of_walk walked]
    exact ⟨walked, held, (short.resolve_left (hidden_ne_dot _ _)).resolve_left (hidden_ne_parent _ filled)⟩
  · rintro ⟨walked, held, short⟩
    exact ⟨_, _, rfl, hidden_ne_dot _ _, hidden_ne_parent _ filled, _, walked,
      step_eq_ok.2 ⟨held, .inr (.inr short), place⟩⟩

theorem leads_backup_of_staging (leads : disk.Leads (sibling target stagingSuffix)) :
    disk.Leads (sibling target backupSuffix) := by
  rw [leads_sibling_iff (by decide) (by decide), fault?_sibling, utf8ByteSize_hidden] at leads
  exact (leads_sibling_iff (by decide) (by decide)).2 leads

/-- Where a file can be staged, it can be moved to a target that can be that of a file, unless there is a
directory. -/
theorem leads_of_staging (leads : disk.Leads (sibling target stagingSuffix))
    (plain : target.canBeFile = true) (free : disk.find? (disk.placeOf target) ≠ some .directory) :
    disk.Leads target := by
  obtain ⟨-, walked, held, short⟩ := (leads_sibling_iff (by decide) (by decide)).1 leads
  cases named : target.fileName? with
  | none =>
    have own : target.seat = target := by
      unfold Path.seat
      rw [named]
    rw [own] at held
    exact absurd held free
  | some name =>
    obtain ⟨before, behind, names, idle, notDot, notParent, -⟩ := Path.names_of_fileName? named
    unfold Path.canBeFile at plain
    simp only [Bool.and_eq_true, Option.isNone_iff_eq_none, bne_iff_ne] at plain
    obtain ⟨⟨sound, -⟩, last⟩ := plain
    -- nothing but dots can stand behind the name, and the last name is none
    have ended : behind = [] := by
      rcases behind.eq_nil_or_concat with none | ⟨dots, dot, rfl⟩
      · exact none
      · refine absurd ?_ last
        rw [names, idle dot (by simp), List.concat_eq_append, ← List.cons_append, ← List.append_assoc,
          List.getLast?_concat]
    rw [ended] at names
    have origin : target.origin disk = target.seat.origin disk := by
      rw [Path.origin, Path.origin, Path.isAbsolute_seat]
    have stays := walk_dots held fun dot member => idle dot (List.mem_append_left behind member)
    refine ⟨sound, target.seat.names ++ before, name, names, notDot, notParent, ?_⟩
    rw [origin, names]
    refine walk_concat_eq_ok.2 ⟨_, walk_append_eq_ok.2 ⟨_, walked, stays⟩,
      step_eq_ok.2 ⟨held, .inr (.inr fun long => short ?_), ?_⟩⟩
    · have longer : name.utf8ByteSize ≤ (hidden (stem target) stagingSuffix).utf8ByteSize := by
        simp only [hidden, stem, named, Option.getD_some, String.utf8ByteSize_append]
        omega
      exact long.trans_le longer
    · rw [Location.enter_of_ne notDot notParent]
      exact Path.place_of_fileName? named _

/-- Files are kept aside at one place only if they have been at one place. -/
theorem target_eq_of_backup_eq {first second : Path} {working : Location}
    (same : (slotOf working first).backup = (slotOf working second).backup) :
    (slotOf working first).target = (slotOf working second).target := by
  have places := same
  rw [slotOf_backup, slotOf_backup] at places
  obtain ⟨seats, names⟩ := List.append_inj' places rfl
  have stems := hidden_injective (List.singleton_injective names)
  have bare {path : Path} (nameless : path.fileName? = none) :
      (slotOf working path).target = path.seat.place working := by
    rw [Path.seat, nameless]
    rfl
  have filled {path : Path} {name : String} (named : path.fileName? = some name) : name ≠ "" := by
    obtain ⟨-, -, -, idle, -⟩ := Path.fileName?_eq_some named
    rintro rfl
    cases idle
  cases own : first.fileName? with
  | some name =>
    cases others : second.fileName? with
    | some other => exact (backup_eq_iff own others working).1 same
    | none => exact absurd (by simpa [stem, own, others] using stems) (filled own)
  | none =>
    cases others : second.fileName? with
    | some other => exact absurd (by simpa [stem, own, others] using stems.symm) (filled others)
    | none => rw [bare own, bare others, seats]

end Hidden

/-- Where a file lies after some moves, if it is not lost. It is moved aside when its place becomes a target,
and it is lost when another file is kept where it lies. -/
def whereabouts (here : Location) : List Slot → Option Location
  | [] => some here
  | slot :: slots =>
    if slot.target = here then whereabouts slot.backup slots
    else if slot.backup = here then none
    else whereabouts here slots

section Whereabouts

variable {here : Location} {slot : Slot} {slots : List Slot}

theorem whereabouts_of_target (own : slot.target = here) :
    whereabouts here (slot :: slots) = whereabouts slot.backup slots :=
  if_pos own

theorem whereabouts_of_backup (notTarget : slot.target ≠ here) (kept : slot.backup = here) :
    whereabouts here (slot :: slots) = none :=
  (if_neg notTarget).trans (if_pos kept)

theorem whereabouts_of_ne (notTarget : slot.target ≠ here) (notBackup : slot.backup ≠ here) :
    whereabouts here (slot :: slots) = whereabouts here slots :=
  (if_neg notTarget).trans (if_neg notBackup)

end Whereabouts

/-- The targets at which a file is moved aside, if there is one, when files are moved until one of them
cannot be. -/
def reached (front : List Path) (failing : Path) : List Path :=
  front ++ if failing.canBeFile then [failing] else []

theorem slots_reached_cons (working : Location) (target : Path) (front : List Path) (failing : Path) :
    slots working (reached (target :: front) failing) =
      slotOf working target :: slots working (reached front failing) :=
  rfl

theorem whereabouts_reached_nil {working here : Location} {failing : Path} :
    whereabouts here (slots working (reached [] failing)) = none ↔ failing.canBeFile = true ∧
      (slotOf working failing).target ≠ here ∧ (slotOf working failing).backup = here := by
  rw [reached, List.nil_append]
  by_cases plain : failing.canBeFile = true
  · rw [if_pos plain]
    simp only [slots, List.map_cons, List.map_nil, whereabouts, plain, true_and]
    split_ifs <;> simp_all
  · rw [if_neg plain]
    simp [slots, whereabouts, plain]

theorem not_endsOpen_of_canBeFile {path : Path} (plain : path.canBeFile = true) : path.endsOpen = false := by
  unfold Path.canBeFile at plain
  simp only [Bool.and_eq_true, Bool.not_eq_true'] at plain
  exact plain.1.2

namespace Attempt

variable {targets : List Path} {failing : Path} {desk after : Desk} {cause : AccessError}
  {place : Location} {content : ByteArray}

/-- A file that is not lost is back where it was when everything has been taken back. -/
theorem find?_of_followed (attempt : Attempt targets failing desk cause after)
    (held : desk.disk.find? place = some (.file content))
    (unstaged : ∀ target ∈ targets, place ≠ (slotOf desk.disk.workingDirectory target).staging)
    (followed : whereabouts place (slots desk.disk.workingDirectory (reached targets failing)) ≠ none) :
    after.disk.find? place = some (.file content) := by
  induction attempt generalizing place with
  | @stop failing desk after cause failed =>
    have fails := fails_of_commit failed
    by_cases here : place = (slotOf desk.disk.workingDirectory failing).backup
    · subst here
      rcases fails.backup with same | ⟨-, -, leads, closed⟩
      · rw [same, held]
      · -- a file could have been kept in its place, so that the target counts as reached
        obtain ⟨name, named⟩ := fileName?_of_leads leads
        exact absurd (whereabouts_reached_nil.2 ⟨leads.canBeFile closed, target_ne_backup named _, rfl⟩)
          followed
    · rw [fails.find? place here, held]
  | @back target failing targets desk middle after committed cause first rest ih =>
    have moves := moves_of_commit first
    have alike := moves.alike.trans rest.alike
    rw [moves.alike.keeps.workingDirectory] at ih
    rw [slots_reached_cons] at followed
    by_cases atTarget : (slotOf desk.disk.workingDirectory target).target = place
    · rw [whereabouts_of_target atTarget] at followed
      subst atTarget
      have filled : desk.disk.find? (slotOf desk.disk.workingDirectory target).target ≠ none := by
        simp [held]
      rw [find?_rollBack_target moves alike filled]
      refine ih ?_ (fun other _ => (staging_ne_backup _ other target).symm) followed
      rw [moves.find?_backup, if_neg filled, held]
    · have notBackup : (slotOf desk.disk.workingDirectory target).backup ≠ place :=
        fun kept => followed (whereabouts_of_backup atTarget kept)
      rw [whereabouts_of_ne atTarget notBackup] at followed
      rw [find?_rollBack_of_ne moves alike (Ne.symm atTarget) notBackup.symm]
      refine ih ?_ (fun other member => unstaged other (List.mem_cons_of_mem target member)) followed
      rw [moves.find?_of_not_mem (Slot.not_mem_places.2
        ⟨Ne.symm atTarget, unstaged target List.mem_cons_self, notBackup.symm⟩), held]

/-- A file that is lost is gone when everything has been taken back. Wherever it lies, there is a file at
the target beside which that is. -/
theorem find?_of_lost (attempt : Attempt targets failing desk cause after)
    (held : desk.disk.find? place = some (.file content))
    (unstaged : ∀ target ∈ targets, place ≠ (slotOf desk.disk.workingDirectory target).staging)
    (ready : desk.disk.Leads (sibling failing stagingSuffix))
    (filled : ∀ target ∈ reached targets failing,
      (slotOf desk.disk.workingDirectory target).backup = place →
        (∃ other, desk.disk.find? (slotOf desk.disk.workingDirectory target).target =
          some (.file other)) ∧
        ∀ other ∈ targets, (slotOf desk.disk.workingDirectory target).target ≠
          (slotOf desk.disk.workingDirectory other).staging)
    (lost : whereabouts place (slots desk.disk.workingDirectory (reached targets failing)) = none) :
    after.disk.find? place = none := by
  induction attempt generalizing place with
  | @stop failing desk after cause failed =>
    obtain ⟨plain, -, rfl⟩ := whereabouts_reached_nil.1 lost
    obtain ⟨⟨old, there⟩, -⟩ := filled failing (by simp [reached, plain]) rfl
    have leads := leads_of_staging ready plain (by rw [placeOf_target, there]; simp)
    exact (fails_of_commit failed).gone leads (not_endsOpen_of_canBeFile plain) ⟨old, there⟩
      (leads_backup_of_staging ready) (by simp [held])
  | @back target failing targets desk middle after committed cause first rest ih =>
    have moves := moves_of_commit first
    have alike := moves.alike.trans rest.alike
    rw [moves.alike.keeps.workingDirectory] at ih
    have later := fun other member => unstaged other (List.mem_cons_of_mem target member)
    have ready' := (moves.alike.leads_iff _).2 ready
    rw [slots_reached_cons] at lost
    by_cases atTarget : (slotOf desk.disk.workingDirectory target).target = place
    · rw [whereabouts_of_target atTarget] at lost
      subst atTarget
      have filled' : desk.disk.find? (slotOf desk.disk.workingDirectory target).target ≠ none := by
        simp [held]
      rw [find?_rollBack_target moves alike filled']
      refine ih ?_ (fun other _ => (staging_ne_backup _ other target).symm) ready' ?_ lost
      · rw [moves.find?_backup, if_neg filled', held]
      · intro other member same
        rw [target_eq_of_backup_eq same, moves.find?_target]
        exact ⟨moves.staged, later⟩
    · by_cases atBackup : (slotOf desk.disk.workingDirectory target).backup = place
      · obtain ⟨⟨old, there⟩, -⟩ := filled target (by simp [reached]) atBackup
        subst atBackup
        exact find?_rollBack_backup moves alike (by simp [there])
      · rw [whereabouts_of_ne atTarget atBackup] at lost
        rw [find?_rollBack_of_ne moves alike (Ne.symm atTarget) (Ne.symm atBackup)]
        refine ih ?_ later ready' (fun other member same => ?_) lost
        · rw [moves.find?_of_not_mem (Slot.not_mem_places.2
            ⟨Ne.symm atTarget, unstaged target List.mem_cons_self, Ne.symm atBackup⟩), held]
        · obtain ⟨there, apart⟩ := filled other (List.mem_cons_of_mem target member) same
          exact ⟨moves.file_kept there (apart target List.mem_cons_self),
            fun path listed => apart path (List.mem_cons_of_mem _ listed)⟩

end Attempt

/-- Every asset has been staged and those for `front` have been moved, but the one for `failing` cannot
be. -/
def StopsAt (assets : Table Asset) (directory : Path) (desk : Desk) (front : List Path)
    (failing : Path) : Prop :=
  ∃ made staging staged committed moved cause stopped back,
    (∀ name ∈ assets.names, isAssetName name = true) ∧
      assets.names.map (fun name => directory.join ⟨name⟩) = front ++ failing :: back ∧
      onDisk (makeDirectories directory) desk = .ok () made ∧
      stageAll directory [] assets.entries made = .ok staging staged ∧
      commitAll [] (front.map beside) staged = .ok committed moved ∧
      commit (beside failing) moved = .error cause stopped

theorem stopsAt_iff {assets : Table Asset} {directory : Path} {desk : Desk} {front : List Path}
    {failing : Path} : StopsAt assets directory desk front failing ↔
      (∀ name ∈ assets.names, isAssetName name = true) ∧ ∃ made staged cause last back,
        (targetsIn directory assets.entries).map Prod.fst = front ++ failing :: back ∧
          onDisk (makeDirectories directory) desk = .ok () made ∧
          Stages (targetsIn directory assets.entries) made staged ∧
          Attempt front failing staged cause last := by
  unfold StopsAt
  rw [names_map_join]
  constructor
  · rintro ⟨made, staging, staged, committed, moved, cause, stopped, back, valid, whole, first, all,
      committing, failed⟩
    obtain ⟨rfl, stages⟩ := stageAll_eq_ok all
    obtain ⟨others, rfl, commits⟩ := commitAll_eq_ok committing
    exact ⟨valid, made, staged, cause, _, back, whole, first, stages,
      attempt_iff.2 ⟨_, moved, stopped, commits, failed, rfl⟩⟩
  · rintro ⟨valid, made, staged, cause, last, back, whole, first, stages, attempt⟩
    obtain ⟨committed, moved, stopped, commits, failed, rfl⟩ := attempt_iff.1 attempt
    exact ⟨made, _, staged, _, moved, cause, stopped, back, valid, whole, first,
      stageAll_of_stages stages, commitAll_of_commits commits, failed⟩

/-- When an asset cannot be staged, a file is lost only where another one has been staged. -/
theorem StagingFails.find?_file {assets : List (Path × Asset)} {made after : Desk}
    (fails : StagingFails assets made after) {place : Location} {content : ByteArray}
    (held : made.disk.find? place = some (.file content))
    (unstaged : ∀ target ∈ assets.map Prod.fst,
      place ≠ (slotOf made.disk.workingDirectory target).staging) :
    after.disk.find? place = some (.file content) := by
  obtain @⟨front, back, target, asset, middle, last, cause, rfl, stages, failed⟩ := fails
  have more := gains_of_stage failed
  obtain ⟨alike, -, rest⟩ := stages.discard more.keeps more.file_ne_directory fun path member => member
  have working : (discard ((front.map Prod.fst).map beside) last).disk.workingDirectory =
      made.disk.workingDirectory :=
    ((stages.keeps.trans more.keeps).trans alike.keeps).workingDirectory
  have before : ∀ path ∈ front.map Prod.fst,
      place ≠ (slotOf made.disk.workingDirectory path).staging :=
    fun path member => unstaged path (by simp [List.mem_map.1 member])
  have kept := stages.find?_file held fun entry member => before _ (List.mem_map_of_mem member)
  rw [show (front.map fun entry => beside entry.1) = (front.map Prod.fst).map beside by
    rw [List.map_map]; rfl, disk_orIgnore, find?_removeFile_of_ne, rest place before, more.file kept]
  rw [placeOf_staging, working]
  exact unstaged target (by simp)

section Visible

variable {directory : Path} {assets : List (Path × Asset)} {before : FileSystem} {made staged : Desk}
  {place : Location} {content : ByteArray}
  (first : makeDirectories directory before = .ok () made.disk) (stages : Stages assets made staged)
  (visible : ∀ target ∈ assets.map Prod.fst, place ≠ (slotOf before.workingDirectory target).staging ∧
    place ≠ (slotOf before.workingDirectory target).backup)
include first stages visible

theorem find?_staged (held : before.find? place = some (.file content)) :
    staged.disk.find? place = some (.file content) := by
  refine stages.find?_file ((gains_makeDirectories first).file held) fun entry member => ?_
  rw [made_workingDirectory first]
  exact (visible _ (List.mem_map_of_mem member)).1

variable {front back : List Path} {failing : Path} {cause : AccessError} {last : Desk}
  (whole : assets.map Prod.fst = front ++ failing :: back)
  (attempt : Attempt front failing staged cause last)
include whole attempt

theorem find?_discard_of_attempt :
    (discard ((failing :: back).map beside) last).disk.find? place = last.disk.find? place := by
  have left : ∀ target ∈ failing :: back, target ∈ assets.map Prod.fst :=
    fun target member => whole ▸ List.mem_append_right _ member
  obtain ⟨-, -, rest⟩ := stages.discard attempt.alike.keeps attempt.alike.file_ne_directory left
  rw [made_workingDirectory first] at rest
  exact rest place fun target member => (visible target (left target member)).1

/-- When moving files has failed, a file is there exactly if it has not been lost. -/
theorem find?_of_attempt_iff (held : before.find? place = some (.file content)) :
    (discard ((failing :: back).map beside) last).disk.find? place = some (.file content) ↔
      whereabouts place (slots before.workingDirectory (reached front failing)) ≠ none := by
  have there := find?_staged first stages visible held
  have working := (prepared_of_stages first stages).keeps.workingDirectory
  have unstaged : ∀ target ∈ front, place ≠ (slotOf staged.disk.workingDirectory target).staging := by
    intro target member
    rw [working]
    exact (visible target (by simp [whole, member])).1
  rw [find?_discard_of_attempt first stages visible whole attempt, ← working]
  refine ⟨fun kept lost => ?_, fun followed => attempt.find?_of_followed there unstaged followed⟩
  obtain ⟨entry, listed, same⟩ : ∃ entry ∈ assets, entry.1 = failing := List.mem_map.1 (by simp [whole])
  have unkept : ∀ target ∈ reached front failing,
      (slotOf staged.disk.workingDirectory target).backup ≠ place := by
    intro target member kept
    rw [working] at kept
    refine (visible target ?_).2 kept.symm
    rw [reached] at member
    rw [whole]
    rcases List.mem_append.1 member with earlier | single
    · exact List.mem_append_left _ earlier
    · split at single
      · simp [List.mem_singleton.1 single]
      · cases single
  have gone := attempt.find?_of_lost there unstaged (same ▸ stages.leads listed)
    (fun target member kept => absurd kept (unkept target member)) lost
  rw [gone] at kept
  cases kept

end Visible

/-- A file that was there before a write that fails is there afterwards, exactly if it is not lost when
files are moved aside. -/
theorem writeAssets_keeps_iff {assets : Table Asset} {directory : Path} {desk after : Desk}
    {error : BuildError} (failed : writeAssets assets directory desk = .error error after)
    {place : Location} {content : ByteArray}
    (held : desk.disk.find? place = some (.file content))
    (visible : ∀ name ∈ assets.names,
      place ≠ (slotOf desk.disk.workingDirectory (directory.join ⟨name⟩)).staging ∧
        place ≠ (slotOf desk.disk.workingDirectory (directory.join ⟨name⟩)).backup) :
    after.disk.find? place = some (.file content) ↔
      ∀ front failing, StopsAt assets directory desk front failing →
        whereabouts place (slots desk.disk.workingDirectory (reached front failing)) ≠ none := by
  have hidden : ∀ target ∈ (targetsIn directory assets.entries).map Prod.fst,
      place ≠ (slotOf desk.disk.workingDirectory target).staging ∧
        place ≠ (slotOf desk.disk.workingDirectory target).backup := by
    rw [← names_map_join]
    exact List.forall_mem_map.2 visible
  constructor
  · intro kept front failing stops
    obtain ⟨valid, made, staged, cause, last, back, whole, first, stages, attempt⟩ := stopsAt_iff.1 stops
    rw [writeAssets_of_attempt valid first stages whole attempt] at failed
    cases failed
    exact (find?_of_attempt_iff (onDisk_eq_ok.1 first).1 stages hidden whole attempt held).1 kept
  · intro followed
    rcases writeAssets_eq_error failed with ⟨-, rfl⟩ | ⟨cause, broken⟩ | ⟨valid, made, first, staging | moving⟩
    · exact held
    · exact (gains_makeDirectories broken).file held
    · have success := (onDisk_eq_ok.1 first).1
      refine staging.find?_file ((gains_makeDirectories success).file held) fun target member => ?_
      rw [made_workingDirectory success]
      exact (hidden target member).1
    · obtain @⟨front, back, failing, staged, last, cause, stages, whole, attempt⟩ := moving
      have stops := stopsAt_iff.2 ⟨valid, made, staged, cause, last, back, whole, first, stages, attempt⟩
      exact (find?_of_attempt_iff (onDisk_eq_ok.1 first).1 stages hidden whole attempt held).2
        (followed front failing stops)

end Persist

end ModuleBundler
