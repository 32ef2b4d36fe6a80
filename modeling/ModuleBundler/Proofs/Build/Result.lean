import ModuleBundler.Build.Bundler
import ModuleBundler.Proofs.Outcome

/-!
How a build ends. Compiling only reads the file system and showing what is done leaves it alone, so that a
build changes it as writing the assets does, or not at all.
-/

namespace ModuleBundler.Bundler

variable {ω : Type} {bundler : Bundler ω} {elapsed : Report.Duration} {world after : World ω}

theorem reading_eq_ok {α : Type} {action : FileSystem → EStateM BuildError (Session ω) α} {found : α} :
    reading action world = .ok found after ↔
      action world.disk world.session = .ok found after.session ∧ after.disk = world.disk := by
  obtain ⟨session, disk⟩ := after
  unfold reading
  cases action world.disk world.session with
  | error error session => simp
  | ok other session =>
    simp only [EStateM.Result.ok.injEq, World.mk.injEq, and_assoc]
    exact and_congr_right fun _ => and_congr_right fun _ => eq_comm

theorem reading_eq_error {α : Type} {action : FileSystem → EStateM BuildError (Session ω) α}
    {error : BuildError} :
    reading action world = .error error after ↔
      action world.disk world.session = .error error after.session ∧ after.disk = world.disk := by
  obtain ⟨session, disk⟩ := after
  unfold reading
  cases action world.disk world.session with
  | ok other session => simp
  | error cause session =>
    simp only [EStateM.Result.error.injEq, World.mk.injEq, and_assoc]
    exact and_congr_right fun _ => and_congr_right fun _ => eq_comm

/-- A project is produced by compiling it and writing its assets. -/
theorem produce_eq_ok {compilation : Compilation}
    (produced : bundler.produce world = .ok compilation after) :
    ∃ compiled session files desk,
      bundler.compile world.disk world.session = .ok compiled session ∧
        Persist.writeAssets compiled.assets bundler.config.outputDirectory ⟨world.disk, session.log⟩ =
          .ok files desk ∧
        compilation = { compiled with files } ∧ after.disk = desk.disk := by
  obtain ⟨compiled, middle, compiling, rest⟩ := bind_eq_ok.1 produced
  obtain ⟨read, same⟩ := reading_eq_ok.1 compiling
  obtain ⟨files, last, persisted, answered⟩ := bind_eq_ok.1 rest
  obtain ⟨rfl, rfl⟩ := pure_eq_ok.1 answered
  unfold persist at persisted
  rw [same] at persisted
  cases written : Persist.writeAssets compiled.assets bundler.config.outputDirectory
      ⟨world.disk, middle.session.log⟩ with
  | error error desk => simp [written] at persisted
  | ok found desk =>
    rw [written] at persisted
    cases persisted
    exact ⟨compiled, middle.session, files, desk, read, written, rfl, rfl⟩

/-- Where a project cannot be produced, it has not been compiled, or its assets have not been written. -/
theorem produce_eq_error {error : BuildError} (failed : bundler.produce world = .error error after) :
    (bundler.compile world.disk world.session = .error error after.session ∧ after.disk = world.disk) ∨
      ∃ compiled session desk, bundler.compile world.disk world.session = .ok compiled session ∧
        Persist.writeAssets compiled.assets bundler.config.outputDirectory ⟨world.disk, session.log⟩ =
          .error error desk ∧ after.disk = desk.disk := by
  rcases bind_eq_error.1 failed with compiling | ⟨compiled, middle, compiling, rest⟩
  · exact .inl (reading_eq_error.1 compiling)
  · obtain ⟨read, same⟩ := reading_eq_ok.1 compiling
    rcases bind_eq_error.1 rest with persisting | ⟨files, last, -, answered⟩
    · unfold persist at persisting
      rw [same] at persisting
      cases written : Persist.writeAssets compiled.assets bundler.config.outputDirectory
          ⟨world.disk, middle.session.log⟩ with
      | ok found desk => simp [written] at persisting
      | error cause desk =>
        rw [written] at persisting
        cases persisting
        exact .inr ⟨compiled, middle.session, desk, read, written, rfl⟩
    · cases answered

theorem build_eq_ok {stats : Stats} (built : bundler.build elapsed world = .ok stats after) :
    ∃ middle, bundler.produce world = .ok stats.compilation middle ∧ after.disk = middle.disk := by
  obtain ⟨compilation, middle, produced, rest⟩ := bind_eq_ok.1 built
  obtain ⟨_, last, shown, answered⟩ := bind_eq_ok.1 rest
  obtain ⟨rfl, rfl⟩ := pure_eq_ok.1 answered
  exact ⟨middle, produced, (reading_eq_ok.1 shown).2⟩

/-- Where a project is compiled and its assets are written, a build succeeds, unless a plugin refuses what is
done. -/
theorem exists_build {compiled : Compilation} {session : Session ω} {files : List String}
    {desk : Persist.Desk}
    (compiling : bundler.compile world.disk world.session = .ok compiled session)
    (written : Persist.writeAssets compiled.assets bundler.config.outputDirectory
      ⟨world.disk, session.log⟩ = .ok files desk)
    (accepted : ∀ stats session, ∃ after, bundler.hooks.done.show stats session = .ok () after)
    (elapsed : Report.Duration) : ∃ stats after, bundler.build elapsed world = .ok stats after := by
  have persisted : bundler.persist compiled { world with session } =
      .ok files ⟨{ session with log := desk.log }, desk.disk⟩ := by
    unfold persist
    rw [written]
  have produced : bundler.produce world =
      .ok { compiled with files } ⟨{ session with log := desk.log }, desk.disk⟩ :=
    bind_eq_ok.2 ⟨compiled, { world with session }, reading_eq_ok.2 ⟨compiling, rfl⟩,
      bind_eq_ok.2 ⟨files, _, persisted, rfl⟩⟩
  obtain ⟨last, shown⟩ := accepted ⟨{ compiled with files }, elapsed⟩ { session with log := desk.log }
  exact ⟨_, ⟨last, desk.disk⟩, bind_eq_ok.2 ⟨_, _, produced,
    bind_eq_ok.2 ⟨(), ⟨last, desk.disk⟩, reading_eq_ok.2 ⟨shown, rfl⟩, rfl⟩⟩⟩

theorem build_eq_error {error : BuildError} (failed : bundler.build elapsed world = .error error after) :
    bundler.produce world = .error error after ∨
      ∃ compilation middle, bundler.produce world = .ok compilation middle := by
  rcases bind_eq_error.1 failed with producing | ⟨compilation, middle, produced, -⟩
  · exact .inl producing
  · exact .inr ⟨compilation, middle, produced⟩

end ModuleBundler.Bundler
