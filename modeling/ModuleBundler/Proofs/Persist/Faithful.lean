import ModuleBundler.Proofs.Persist.Run

/-!
When a write that succeeds has written what it was given. The hidden files of one asset may have the name of
another asset; it is said here exactly which of these meetings do harm.
-/

namespace ModuleBundler.Persist

open FileSystem

namespace Commits

variable {working : Location} {targets front back : List Path} {desk after : Desk}
  {committed : List Committed}

theorem split (commits : Commits (front ++ back) desk committed after) :
    ∃ middle first second, committed = first ++ second ∧ Commits front desk first middle ∧
      Commits back middle second after := by
  induction front generalizing desk committed with
  | nil => exact ⟨desk, [], committed, rfl, .done, commits⟩
  | cons target front ih =>
    cases commits with
    | more head rest =>
      obtain ⟨middle, first, second, rfl, front', back'⟩ := ih rest
      exact ⟨middle, _ :: first, second, rfl, .more head front', back'⟩

theorem staging_ne_kept (commits : Commits targets desk committed after) (target : Path) {backup : Path}
    (kept : backup ∈ committed.filterMap Committed.backup) :
    (slotOf working target).staging ≠ backup.place working := by
  obtain ⟨other, -, rfl⟩ := commits.eq_sibling kept
  exact staging_ne_backup working target other

/-- A place that holds nothing stays empty unless it is a target or a file is kept there. -/
theorem find?_none (commits : Commits targets desk committed after)
    (here : desk.disk.workingDirectory = working) {place : Location}
    (none' : desk.disk.find? place = none)
    (notTarget : ∀ target ∈ targets, place ≠ (slotOf working target).target)
    (notKept : ∀ backup ∈ committed.filterMap Committed.backup, place ≠ backup.place working) :
    after.disk.find? place = none := by
  induction commits with
  | done => exact none'
  | @more target targets desk middle after one others first rest ih =>
    subst here
    have moves := moves_of_commit first
    refine ih moves.alike.keeps.workingDirectory
      (moves.find?_none none' (notTarget target List.mem_cons_self) fun backup kept =>
        notKept backup (List.mem_filterMap.2 ⟨one, List.mem_cons_self, kept⟩))
      (fun other member => notTarget other (List.mem_cons_of_mem _ member))
      fun backup kept => notKept backup (by
        obtain ⟨entry, listed, same⟩ := List.mem_filterMap.1 kept
        exact List.mem_filterMap.2 ⟨entry, List.mem_cons_of_mem _ listed, same⟩)

theorem file_kept (commits : Commits targets desk committed after)
    (here : desk.disk.workingDirectory = working) {place : Location}
    (held : ∃ content, desk.disk.find? place = some (.file content))
    (notStaging : ∀ target ∈ targets, place ≠ (slotOf working target).staging) :
    ∃ content, after.disk.find? place = some (.file content) := by
  induction commits with
  | done => exact held
  | @more target targets desk middle after one others first rest ih =>
    subst here
    have moves := moves_of_commit first
    exact ih moves.alike.keeps.workingDirectory
      (moves.file_kept held (notStaging target List.mem_cons_self))
      fun other member => notStaging other (List.mem_cons_of_mem _ member)

/-- Two targets of a successful run have different places, unless a file is moved to the staging place of
the second one in between. -/
theorem target_ne_target {earlier target : Path} {between : List Path}
    (commits : Commits (earlier :: (between ++ target :: back)) desk committed after)
    (here : desk.disk.workingDirectory = working)
    (apart : ∀ other ∈ between, (slotOf working other).target ≠ (slotOf working target).staging) :
    (slotOf working earlier).target ≠ (slotOf working target).target := by
  intro same
  cases commits with
  | more first rest =>
    subst here
    have moves := moves_of_commit first
    have working := moves.alike.keeps.workingDirectory
    obtain ⟨middle, one, two, -, across, behind⟩ := rest.split
    cases behind with
    | more second last =>
      have others := moves_of_commit second
      obtain ⟨name, named⟩ := moves.named
      obtain ⟨name', named'⟩ := others.named
      have shared := (staging_eq_iff named named' desk.disk.workingDirectory).2 same
      have gone := moves.find?_staging
      rw [shared] at gone
      have still := across.find?_none working gone (fun other member => (apart other member).symm)
        fun backup kept => across.staging_ne_kept target kept
      obtain ⟨content, held⟩ := others.staged
      rw [across.alike.keeps.workingDirectory, working, still] at held
      cases held

end Commits

/-- No file is moved to where another one is still staged, and no target is where a file is kept aside. A
file is kept aside if one was at the target from the beginning and has not been moved away as a staged
one. -/
structure Undisturbed (working : Location) (targets : List Path) (before : FileSystem) : Prop where
  ahead : ∀ front target back, targets = front ++ target :: back → ∀ earlier ∈ front,
    (slotOf working earlier).target ≠ (slotOf working target).staging
  aside : ∀ front target back, targets = front ++ target :: back →
    (∃ content, before.find? (slotOf working target).target = some (.file content)) →
      (∀ earlier ∈ front, (slotOf working earlier).staging ≠ (slotOf working target).target) →
        ∀ other ∈ targets, (slotOf working other).target ≠ (slotOf working target).backup

section Needed

variable {working : Location} {targets : List Path} {desk after : Desk} {committed : List Committed}

/-- If every target is there in the end, no file has been moved to where another one was still staged. -/
theorem ahead_of_present (commits : Commits targets desk committed after)
    (here : desk.disk.workingDirectory = working)
    (present : ∀ target ∈ targets, after.disk.find? (slotOf working target).target ≠ none)
    (unkept : ∀ target ∈ targets, ∀ backup ∈ committed.filterMap Committed.backup,
      (slotOf working target).target ≠ backup.place working) (back : List Path) :
    ∀ front target, targets = front ++ target :: back → ∀ earlier ∈ front,
      (slotOf working earlier).target ≠ (slotOf working target).staging := by
  induction length : back.length using Nat.strong_induction_on generalizing back with
  | _ count ih =>
    intro front target whole earlier member same
    obtain ⟨first, between, rfl⟩ := List.append_of_mem member
    rw [whole] at commits
    obtain ⟨start, one, two, split, leading, rest⟩ :=
      (show Commits (first ++ (earlier :: (between ++ target :: back))) desk committed after by
        simpa using commits).split
    have started : start.disk.workingDirectory = working :=
      leading.alike.keeps.workingDirectory.trans here
    -- what comes later has a target of its own: in between nothing is moved to its staging place
    have later : ∀ other ∈ back, (slotOf working earlier).target ≠ (slotOf working other).target := by
      intro other listed
      obtain ⟨before, behind, rfl⟩ := List.append_of_mem listed
      have shorter := ih behind.length (by simp [← length]; omega) behind rfl
        (first ++ earlier :: (between ++ target :: before)) other (by simp [whole])
      exact (show Commits (earlier :: ((between ++ target :: before) ++ other :: behind)) start two after
        by simpa using rest).target_ne_target started fun moved among => shorter moved (by simp [among])
    obtain ⟨stop, three, four, split', across, ended⟩ :=
      (show Commits ((earlier :: between) ++ target :: back) start two after by simpa using rest).split
    have stopped : stop.disk.workingDirectory = working :=
      across.alike.keeps.workingDirectory.trans started
    cases ended with
    | @more _ _ _ next _ last others second behind =>
      have moves := moves_of_commit second
      have gone := moves.find?_staging
      rw [stopped, ← same] at gone
      have listed : earlier ∈ targets := by simp [whole]
      refine present earlier listed (behind.find?_none
        (moves.alike.keeps.workingDirectory.trans stopped) gone later fun backup kept => ?_)
      refine unkept earlier listed backup ?_
      obtain ⟨entry, among, here⟩ := List.mem_filterMap.1 kept
      exact List.mem_filterMap.2 ⟨entry, by simp [split, split', among], here⟩

/-- If no target is where a file is kept aside in a run, the condition on kept files holds. -/
theorem aside_of_unkept (commits : Commits targets desk committed after)
    (here : desk.disk.workingDirectory = working)
    (unkept : ∀ target ∈ targets, ∀ backup ∈ committed.filterMap Committed.backup,
      (slotOf working target).target ≠ backup.place working) {front back : List Path} {target : Path}
    (whole : targets = front ++ target :: back)
    (held : ∃ content, desk.disk.find? (slotOf working target).target = some (.file content))
    (left : ∀ earlier ∈ front, (slotOf working earlier).staging ≠ (slotOf working target).target) :
    ∀ other ∈ targets, (slotOf working other).target ≠ (slotOf working target).backup := by
  intro other member
  obtain ⟨start, one, two, split, leading, rest⟩ := (whole ▸ commits).split
  cases rest with
  | @more _ _ _ next _ last others second behind =>
    have moves := moves_of_commit second
    have started : start.disk.workingDirectory = working :=
      leading.alike.keeps.workingDirectory.trans here
    obtain ⟨content, there⟩ := leading.file_kept here held fun earlier listed => (left earlier listed).symm
    have kept := moves.backup_of_ne (by rw [started, there]; simp)
    exact unkept other member (sibling target backupSuffix)
      (List.mem_filterMap.2 ⟨last, by simp [split], kept⟩)

end Needed

theorem pairwise_of_splits {α : Type} {relation : α → α → Prop} {list : List α}
    (splits : ∀ front last back, list = front ++ last :: back → ∀ earlier ∈ front,
      relation earlier last) : list.Pairwise relation := by
  induction list with
  | nil => exact .nil
  | cons first list ih =>
    refine .cons (fun last member => ?_) (ih fun front last back whole earlier member => ?_)
    · obtain ⟨between, back, rfl⟩ := List.append_of_mem member
      exact splits (first :: between) last back rfl first List.mem_cons_self
    · exact splits (first :: front) last back (by rw [whole]; rfl) earlier
        (List.mem_cons_of_mem _ member)

section Enough

variable {working : Location} {targets front rest : List Path} {target : Path} {staged : FileSystem}
  {desk after : Desk} {committed : List Committed}

structure InOrder (working : Location) (earlier later : Path) : Prop where
  target : (slotOf working earlier).target ≠ (slotOf working later).target
  staging : (slotOf working earlier).staging ≠ (slotOf working later).staging
  ahead : (slotOf working earlier).target ≠ (slotOf working later).staging

/-- In a run where no file is moved to where another one is still staged, no two targets meet. -/
theorem pairwise_inOrder (commits : Commits targets desk committed after)
    (here : desk.disk.workingDirectory = working)
    (ahead : ∀ front target back, targets = front ++ target :: back → ∀ earlier ∈ front,
      (slotOf working earlier).target ≠ (slotOf working target).staging) :
    targets.Pairwise (InOrder working) := by
  refine pairwise_of_splits fun front target back whole earlier listed => ?_
  have named (path : Path) (among : path ∈ targets) : ∃ name, path.fileName? = some name :=
    fileName?_of_leads (commits.leads among).1
  obtain ⟨name, own⟩ := named earlier (by rw [whole]; exact List.mem_append_left _ listed)
  obtain ⟨other, theirs⟩ := named target (by simp [whole])
  have different : (slotOf working earlier).target ≠ (slotOf working target).target := by
    obtain ⟨before, between, rfl⟩ := List.append_of_mem listed
    obtain ⟨start, one, two, -, leading, following⟩ :=
      (show Commits (before ++ earlier :: (between ++ target :: back)) desk committed after by
        simpa [whole] using commits).split
    exact following.target_ne_target (leading.alike.keeps.workingDirectory.trans here)
      fun path among => ahead _ target back whole path (by simp [among])
  exact ⟨different, (staging_eq_iff own theirs working).not.2 different,
    ahead front target back whole earlier listed⟩

def Sheltered (working : Location) (targets : List Path) (staged : FileSystem) : Prop :=
  ∀ target ∈ targets, (∃ content, staged.find? (slotOf working target).target = some (.file content)) →
    (∀ other ∈ targets, (slotOf working other).staging ≠ (slotOf working target).target) →
      ∀ other ∈ targets, (slotOf working other).target ≠ (slotOf working target).backup

/-- How far a run has come that nothing disturbs. `staged` is what there was at the beginning, the targets
of `front` have been moved, those of `back` have not, and `now` is what there is. -/
structure Midway (working : Location) (staged : FileSystem) (front back : List Path) (now : FileSystem) :
    Prop where
  placed : ∀ target ∈ front,
    now.find? (slotOf working target).target = staged.find? (slotOf working target).staging
  waiting : ∀ target ∈ back,
    now.find? (slotOf working target).staging = staged.find? (slotOf working target).staging
  vacated : ∀ target ∈ back, ∀ earlier ∈ front,
    (slotOf working earlier).staging = (slotOf working target).target →
      now.find? (slotOf working target).target = none
  untouched : ∀ target ∈ back,
    (∀ earlier ∈ front, (slotOf working earlier).staging ≠ (slotOf working target).target) →
      now.find? (slotOf working target).target = staged.find? (slotOf working target).target

namespace Midway

theorem start (working : Location) (staged : FileSystem) (targets : List Path) :
    Midway working staged [] targets staged :=
  ⟨by simp, fun _ _ => rfl, by simp, fun _ _ _ => rfl⟩

variable {now next : FileSystem} {one : Committed}
  (midway : Midway working staged front (target :: rest) now) (moves : Moves target now next one)
  (here : now.workingDirectory = working) (apart : (front ++ target :: rest).Pairwise (InOrder working))
  (sheltered : Sheltered working (front ++ target :: rest) staged)
include midway moves here apart sheltered

/-- A file that is kept aside was there when everything had been staged, so that no target is there. -/
theorem ne_backup {backup : Path} (kept : one.backup = some backup) {other : Path}
    (member : other ∈ front ++ target :: rest) :
    (slotOf working other).target ≠ backup.place working := by
  subst here
  obtain ⟨-, behind, -⟩ := List.pairwise_append.1 apart
  have filled : now.find? (slotOf now.workingDirectory target).target ≠ none :=
    fun nothing => by simp [moves.backup_eq, nothing] at kept
  obtain rfl := moves.eq_sibling kept
  have left : ∀ earlier ∈ front, (slotOf now.workingDirectory earlier).staging ≠
      (slotOf now.workingDirectory target).target :=
    fun earlier listed same => filled (midway.vacated target List.mem_cons_self earlier listed same)
  refine sheltered target (by simp) ?_ ?_ other member
  · obtain ⟨content, held⟩ := moves.exists_file filled
    exact ⟨content, (midway.untouched target List.mem_cons_self left).symm.trans held⟩
  · intro other listed
    rcases List.mem_append.1 listed with earlier | listed
    · exact left other earlier
    · rcases List.mem_cons.1 listed with rfl | later
      · obtain ⟨name, named⟩ := moves.named
        exact (target_ne_staging named _).symm
      · exact ((List.rel_of_pairwise_cons behind later).ahead).symm

/-- One more target is moved. -/
theorem step : Midway working staged (front ++ [target]) rest next := by
  have unkept {other : Path} (member : other ∈ front ++ target :: rest) (backup : Path)
      (kept : one.backup = some backup) : (slotOf working other).target ≠ backup.place working :=
    midway.ne_backup moves here apart sheltered kept member
  subst here
  obtain ⟨-, behind, across⟩ := List.pairwise_append.1 apart
  have later {other : Path} (member : other ∈ rest) : InOrder now.workingDirectory target other :=
    List.rel_of_pairwise_cons behind member
  constructor
  case placed =>
    intro other member
    rcases List.mem_append.1 member with old | new
    · have order := across other old target List.mem_cons_self
      rw [moves.find?_of_ne order.target order.ahead (unkept (by simp [old])), midway.placed other old]
    · obtain rfl := List.mem_singleton.1 new
      rw [moves.find?_target, midway.waiting other List.mem_cons_self]
  case waiting =>
    intro other member
    rw [← midway.waiting other (List.mem_cons_of_mem _ member)]
    refine moves.find?_of_ne (later member).ahead.symm (later member).staging.symm fun backup kept => ?_
    rw [moves.eq_sibling kept]
    exact staging_ne_backup _ other target
  case vacated =>
    intro other member earlier listed same
    rcases List.mem_append.1 listed with old | new
    · exact moves.find?_none (midway.vacated other (List.mem_cons_of_mem _ member) earlier old same)
        (later member).target.symm (unkept (by simp [member]))
    · obtain rfl := List.mem_singleton.1 new
      rw [← same, moves.find?_staging]
  case untouched =>
    intro other member left
    rw [← midway.untouched other (List.mem_cons_of_mem _ member) fun earlier old =>
      left earlier (List.mem_append_left _ old)]
    exact moves.find?_of_ne (later member).target.symm (left target (by simp)).symm
      (unkept (by simp [member]))

end Midway

/-- In a run that nothing disturbs, every file that is moved stays where it has been moved to, and no target
is where a file is kept. -/
theorem Commits.midway (commits : Commits rest desk committed after)
    (midway : Midway working staged front rest desk.disk) (here : desk.disk.workingDirectory = working)
    (apart : (front ++ rest).Pairwise (InOrder working))
    (sheltered : Sheltered working (front ++ rest) staged) :
    Midway working staged (front ++ rest) [] after.disk ∧
      ∀ backup ∈ committed.filterMap Committed.backup, ∀ target ∈ front ++ rest,
        (slotOf working target).target ≠ backup.place working := by
  induction commits generalizing front with
  | done => simpa using midway
  | @more target rest desk middle after one others first remaining ih =>
    have moves := moves_of_commit first
    have unkept : ∀ backup, one.backup = some backup → ∀ other ∈ front ++ target :: rest,
        (slotOf working other).target ≠ backup.place working :=
      fun _ kept _ => midway.ne_backup moves here apart sheltered kept
    have next := midway.step moves here apart sheltered
    rw [List.append_cons] at apart sheltered unkept ⊢
    obtain ⟨finished, still⟩ := ih next (moves.alike.keeps.workingDirectory.trans here) apart sheltered
    refine ⟨finished, fun backup listed other member => ?_⟩
    obtain ⟨entry, among, kept⟩ := List.mem_filterMap.1 listed
    rcases List.mem_cons.1 among with rfl | later
    · exact unkept backup kept other member
    · exact still backup (List.mem_filterMap.2 ⟨entry, later, kept⟩) other member

end Enough

section Dropped

variable {working : Location} {targets : List Path} {staged moved : Desk} {committed : List Committed}
  (commits : Commits targets staged committed moved) (here : staged.disk.workingDirectory = working)
include commits here

theorem read_dropBackups {target : Path} (member : target ∈ targets) (content : ByteArray) :
    (dropBackups committed moved).disk.read target = .ok content ↔
      (dropBackups committed moved).disk.find? (slotOf working target).target = some (.file content) := by
  subst here
  obtain ⟨dropped, -, -⟩ := commits.dropBackups
  obtain ⟨leads, closed⟩ := commits.leads member
  have alike := commits.alike.trans dropped
  have there := ((alike.leads_iff _).2 leads).locate closed
  rw [alike.placeOf] at there
  rw [read_eq_ok, alike.placeOf]
  exact ⟨fun both => both.2, fun held => ⟨there, held⟩⟩

theorem undisturbed_of_present (present : ∀ target ∈ targets,
    (dropBackups committed moved).disk.find? (slotOf working target).target ≠ none) :
    Undisturbed working targets staged.disk := by
  have unkept (target : Path) (member : target ∈ targets) (backup : Path)
      (kept : backup ∈ committed.filterMap Committed.backup) :
      (slotOf working target).target ≠ backup.place working := fun same =>
    present target member (same ▸ find?_dropBackups_backup commits here kept)
  refine ⟨fun front target back whole => ?_, fun front target back whole =>
    aside_of_unkept commits here unkept whole⟩
  refine ahead_of_present commits here (fun target member => ?_) unkept back front target whole
  rw [← find?_dropBackups commits here (unkept target member)]
  exact present target member

theorem find?_dropBackups_target (apart : targets.Pairwise (InOrder working))
    (sheltered : Sheltered working targets staged.disk) {target : Path} (member : target ∈ targets) :
    (dropBackups committed moved).disk.find? (slotOf working target).target =
      staged.disk.find? (slotOf working target).staging := by
  obtain ⟨finished, unkept⟩ := commits.midway (.start working staged.disk targets) here apart sheltered
  rw [find?_dropBackups commits here fun backup kept => unkept backup kept target member,
    finished.placed target member]

end Dropped

section Staged

variable {directory : Path} {assets : List (Path × Asset)} {before : FileSystem} {made staged : Desk}
  (first : makeDirectories directory before = .ok () made.disk) (stages : Stages assets made staged)
include first stages

theorem undisturbed_before
    (undisturbed : Undisturbed before.workingDirectory (assets.map Prod.fst) staged.disk) :
    Undisturbed before.workingDirectory (assets.map Prod.fst) before := by
  refine ⟨undisturbed.ahead, fun front target back whole held => undisturbed.aside front target back whole ?_⟩
  obtain ⟨content, old⟩ := held
  exact stages.file_kept ⟨content, (gains_makeDirectories first).file old⟩

/-- A file that is at a target when everything has been staged was there before, unless it is a staged
one. -/
theorem sheltered_of_undisturbed
    (undisturbed : Undisturbed before.workingDirectory (assets.map Prod.fst) before) :
    Sheltered before.workingDirectory (assets.map Prod.fst) staged.disk := by
  intro target member held left
  obtain ⟨front, back, whole⟩ := List.append_of_mem member
  refine undisturbed.aside front target back whole ?_ fun earlier among =>
    left earlier (by rw [whole]; exact List.mem_append_left _ among)
  obtain ⟨content, there⟩ := held
  rcases (prepared_of_stages first stages).elsewhere _ fun other among => (left other among).symm
    with same | ⟨-, new, -⟩
  · exact ⟨content, same.symm.trans there⟩
  · rw [there] at new
    cases new

end Staged

/-- A write that succeeds answers the names of all assets. It has written each of them as it was given,
exactly if nothing disturbs it. -/
theorem writeAssets_read_iff {assets : Table Asset} {directory : Path} {desk after : Desk}
    {files : List String} (success : writeAssets assets directory desk = .ok files after) :
    files = assets.names ∧
      ((∀ entry ∈ assets.entries,
          after.disk.read (directory.join ⟨entry.1⟩) = .ok entry.2.bytes) ↔
        Undisturbed desk.disk.workingDirectory (assets.names.map fun name => directory.join ⟨name⟩)
          desk.disk) := by
  obtain ⟨rfl, -, made, staged, moved, committed, first, stages, commits, rfl⟩ :=
    writeAssets_eq_ok success
  refine ⟨rfl, ?_⟩
  have entries (claim : Path × Asset → Prop) :
      (∀ entry ∈ assets.entries, claim (directory.join ⟨entry.1⟩, entry.2)) ↔
        ∀ entry ∈ targetsIn directory assets.entries, claim entry :=
    List.forall_mem_map.symm
  rw [names_map_join, entries fun entry =>
    (dropBackups committed moved).disk.read entry.1 = .ok entry.2.bytes]
  generalize targetsIn directory assets.entries = items at *
  have working := (prepared_of_stages first stages).keeps.workingDirectory
  have read_iff (entry : Path × Asset) (member : entry ∈ items) :=
    read_dropBackups commits working (List.mem_map_of_mem member) entry.2.bytes
  constructor
  · intro reads
    refine undisturbed_before first stages (undisturbed_of_present commits working fun target member => ?_)
    obtain ⟨entry, listed, rfl⟩ := List.mem_map.1 member
    rw [(read_iff entry listed).1 (reads entry listed)]
    nofun
  · intro undisturbed entry member
    have apart := pairwise_inOrder commits working undisturbed.ahead
    have sheltered := sheltered_of_undisturbed first stages undisturbed
    have distinct : items.Pairwise fun earlier later =>
        (slotOf made.disk.workingDirectory earlier.1).staging ≠
          (slotOf made.disk.workingDirectory later.1).staging := by
      rw [made_workingDirectory first]
      exact (List.pairwise_map.1 apart).imp InOrder.staging
    have content := stages.content distinct member
    rw [made_workingDirectory first] at content
    rw [read_iff entry member, find?_dropBackups_target commits working apart sheltered
      (List.mem_map_of_mem member), content]

end ModuleBundler.Persist
