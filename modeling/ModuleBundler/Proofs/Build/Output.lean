import ModuleBundler.Proofs.Build.Result
import ModuleBundler.Proofs.Persist.Faithful
import ModuleBundler.Proofs.Persist.Survival

/-!
What a build does to files: whether one that succeeds has written what it reports, and whether one that fails
has kept what was there. Both hold but for assets that meet at one path or at the hidden files of each other.
-/

namespace ModuleBundler.Bundler

open Persist

variable {ω : Type} {bundler : Bundler ω} {elapsed : Report.Duration} {world after : World ω}

/-- A bundler of one entry, whose only plugin emits other assets. -/
def emitting (assets : Table Asset) : Bundler Unit where
  config := .ofEntry ⟨"/"⟩ "main.js"
  hooks := tapEmit "emitting" (fun (compilation, session) => .ok () ({ compilation with assets }, session)) .new
  transforms := {}
  externals := 0

theorem assets_of_emitting {assets : Table Asset} {disk : FileSystem} {session last : Session Unit}
    {compiled : Compilation} (compiling : (emitting assets).compile disk session = .ok compiled last) :
    compiled.assets = assets := by
  unfold compile at compiling
  obtain ⟨_, _, -, rest⟩ := bind_eq_ok.1 compiling
  obtain ⟨_, _, -, rest⟩ := bind_eq_ok.1 rest
  cases rules : TransformPipeline.ofRules (emitting assets).config.rules with
  | error error =>
    rw [rules] at rest
    cases rest
  | ok pipeline =>
    rw [rules] at rest
    obtain ⟨_, _, -, rest⟩ := bind_eq_ok.1 rest
    obtain ⟨_, _, -, rest⟩ := bind_eq_ok.1 rest
    obtain ⟨revised, _, revising, rest⟩ := bind_eq_ok.1 rest
    obtain ⟨_, _, -, answered⟩ := bind_eq_ok.1 rest
    obtain ⟨rfl, -⟩ := pure_eq_ok.1 answered
    cases revising
    rfl

def outputDisk : FileSystem where
  nodes := [
    (["main.js"], .file "".toUTF8), (["dist"], .directory), (["dist", "a.js"], .file "old".toUTF8),
    (["dist", "lib"], .directory)]
  workingDirectory := []

def outputWorld : World Unit :=
  ⟨.new (), outputDisk⟩

def written? (path : Path) : EStateM.Result BuildError (World Unit) Stats →
    Option (List String × Option ByteArray)
  | .ok stats after => some (stats.compilation.files, (after.disk.read path).toOption)
  | .error _ _ => none

def left? (place : Location) : EStateM.Result BuildError (World Unit) Compilation → Option (Option Node)
  | .ok _ _ => none
  | .error _ after => some (after.disk.find? place)

theorem exists_of_written? {path : Path} {result : EStateM.Result BuildError (World Unit) Stats}
    {files : List String} {found : Option ByteArray} (answer : written? path result = some (files, found)) :
    ∃ stats after, result = .ok stats after ∧ stats.compilation.files = files ∧
      (after.disk.read path).toOption = found := by
  cases result with
  | error error after => cases answer
  | ok stats after =>
    cases answer
    exact ⟨stats, after, rfl, rfl, rfl⟩

theorem exists_of_left? {place : Location} {found : Option Node} {bundler : Bundler Unit}
    {world : World Unit} (elapsed : Report.Duration)
    (answer : left? place (bundler.produce world) = some found) :
    ∃ error after, bundler.build elapsed world = .error error after ∧
      (∀ compilation middle, bundler.produce world ≠ .ok compilation middle) ∧
      after.disk.find? place = found := by
  cases produced : bundler.produce world with
  | ok compilation after =>
    rw [produced] at answer
    cases answer
  | error error after =>
    rw [produced] at answer
    cases answer
    exact ⟨error, after, bind_eq_error.2 (.inl produced), nofun, rfl⟩

/-- A build that succeeds reports the names of all assets. What it has written is read back as it is
reported, exactly if nothing disturbs it. -/
theorem build_reads_back_iff {stats : Stats} (built : bundler.build elapsed world = .ok stats after) :
    stats.compilation.files = stats.compilation.assets.names ∧
      ((∀ entry ∈ stats.compilation.assets.entries,
          after.disk.read (bundler.config.outputDirectory.join ⟨entry.1⟩) = .ok entry.2.bytes) ↔
        Undisturbed world.disk.workingDirectory
          (stats.compilation.assets.names.map fun name => bundler.config.outputDirectory.join ⟨name⟩)
          world.disk) := by
  obtain ⟨middle, produced, shown⟩ := build_eq_ok built
  obtain ⟨compiled, session, files, desk, -, written, whole, same⟩ := produce_eq_ok produced
  obtain ⟨named, reads⟩ := writeAssets_read_iff written
  rw [shown, same, whole]
  exact ⟨named, reads⟩

def apartAssets : Table Asset :=
  .ofList [("a.js", .text "new"), ("lib/b.js", .text "code")]

set_option maxRecDepth 10000 in
theorem apartAssets_read_back : ∃ stats after,
    (emitting apartAssets).build ⟨0, 0⟩ outputWorld = .ok stats after ∧
      stats.compilation.files = ["a.js", "lib/b.js"] ∧
      ∀ entry ∈ stats.compilation.assets.entries,
        after.disk.read (Path.join ⟨"/dist"⟩ ⟨entry.1⟩) = .ok entry.2.bytes := by
  have answer : written? ⟨"/dist/a.js"⟩ ((emitting apartAssets).build ⟨0, 0⟩ outputWorld) =
      some (["a.js", "lib/b.js"], some "new".toUTF8) := by decide +kernel
  obtain ⟨stats, after, built, files, -⟩ := exists_of_written? answer
  obtain ⟨names, reads⟩ := build_reads_back_iff built
  have directory : (emitting apartAssets).config.outputDirectory = ⟨"/dist"⟩ := by decide +kernel
  rw [files] at names
  rw [directory, ← names] at reads
  have targets : ∀ earlier ∈ ["a.js", "lib/b.js"].map fun name => Path.join ⟨"/dist"⟩ ⟨name⟩,
      ∀ target ∈ ["a.js", "lib/b.js"].map fun name => Path.join ⟨"/dist"⟩ ⟨name⟩,
        (slotOf [] earlier).target ≠ (slotOf [] target).staging ∧
          (slotOf [] earlier).target ≠ (slotOf [] target).backup := by decide +kernel
  refine ⟨stats, after, built, files, reads.2 ⟨fun front target back whole earlier member => ?_,
    fun front target back whole _ _ other member => ?_⟩⟩
  · exact (targets earlier (by simp [whole, member]) target (by simp [whole])).1
  · exact (targets other member target (by simp [whole])).2

/-- The target of one asset is where another one is staged. -/
def stagedOver : Table Asset :=
  .ofList [(".x.modpack-tmp", .text "1"), ("x", .text "2")]

set_option maxRecDepth 10000 in
/-- A file that a build reports does not exist. -/
theorem stagedOver_missing : (emitting stagedOver).config.fault? = none ∧ ∃ stats after,
    (emitting stagedOver).build ⟨0, 0⟩ outputWorld = .ok stats after ∧
      stats.compilation.files = [".x.modpack-tmp", "x"] ∧
      ∀ content, after.disk.read ⟨"/dist/.x.modpack-tmp"⟩ ≠ .ok content := by
  have answer : written? ⟨"/dist/.x.modpack-tmp"⟩ ((emitting stagedOver).build ⟨0, 0⟩ outputWorld) =
      some ([".x.modpack-tmp", "x"], none) := by decide +kernel
  obtain ⟨stats, after, built, files, missing⟩ := exists_of_written? answer
  refine ⟨by decide +kernel, stats, after, built, files, fun content found => ?_⟩
  rw [found] at missing
  cases missing

/-- When a build fails, but not because a plugin refuses what is done, a file that was there before is there
afterwards, exactly if it is not lost when files are moved aside. -/
theorem build_keeps_iff {error : BuildError} (failed : bundler.build elapsed world = .error error after)
    (early : ∀ compilation middle, bundler.produce world ≠ .ok compilation middle)
    {place : Location} {content : ByteArray} (held : world.disk.find? place = some (.file content))
    (visible : ∀ compiled session, bundler.compile world.disk world.session = .ok compiled session →
      ∀ name ∈ compiled.assets.names,
        place ≠ (slotOf world.disk.workingDirectory
            (bundler.config.outputDirectory.join ⟨name⟩)).staging ∧
          place ≠ (slotOf world.disk.workingDirectory
            (bundler.config.outputDirectory.join ⟨name⟩)).backup) :
    after.disk.find? place = some (.file content) ↔
      ∀ compiled session, bundler.compile world.disk world.session = .ok compiled session →
        ∀ front failing, StopsAt compiled.assets bundler.config.outputDirectory
            ⟨world.disk, session.log⟩ front failing →
          whereabouts place (slots world.disk.workingDirectory (reached front failing)) ≠ none := by
  have produced : bundler.produce world = .error error after :=
    (build_eq_error failed).resolve_right fun ⟨compilation, middle, done⟩ => early compilation middle done
  rcases produce_eq_error produced with ⟨uncompiled, same⟩ | ⟨compiled, session, desk, compiling, unwritten, same⟩
  · rw [same]
    refine iff_of_true held fun compiled session compiling => ?_
    rw [uncompiled] at compiling
    cases compiling
  · rw [same, writeAssets_keeps_iff unwritten held (visible compiled session compiling)]
    constructor
    · intro followed other last again
      rw [compiling] at again
      cases again
      exact followed
    · exact fun followed => followed compiled session compiling

/-- The second asset cannot be moved to its target, which is a directory. -/
def blockedAssets : Table Asset :=
  .ofList [("a.js", .text "new"), ("lib", .text "code")]

set_option maxRecDepth 10000 in
theorem blockedAssets_kept : ∃ error after,
    (emitting blockedAssets).build ⟨0, 0⟩ outputWorld = .error error after ∧
      after.disk.find? ["dist", "a.js"] = some (.file "old".toUTF8) := by
  have answer : left? ["dist", "lib"] ((emitting blockedAssets).produce outputWorld) =
      some (some .directory) := by decide +kernel
  obtain ⟨error, after, failed, early, -⟩ := exists_of_left? ⟨0, 0⟩ answer
  have directory : (emitting blockedAssets).config.outputDirectory = ⟨"/dist"⟩ := by decide +kernel
  have names : blockedAssets.names = ["a.js", "lib"] := by decide +kernel
  have hidden : ∀ name ∈ ["a.js", "lib"],
      ["dist", "a.js"] ≠ (slotOf [] (Path.join ⟨"/dist"⟩ ⟨name⟩)).staging ∧
        ["dist", "a.js"] ≠ (slotOf [] (Path.join ⟨"/dist"⟩ ⟨name⟩)).backup := by decide +kernel
  refine ⟨error, after, failed, (build_keeps_iff failed early (by decide +kernel) ?_).2 ?_⟩
  · intro compiled session compiling
    rw [assets_of_emitting compiling, names, directory]
    exact hidden
  · intro compiled session compiling front failing stops
    rw [assets_of_emitting compiling, directory] at stops
    obtain ⟨-, -, -, -, -, -, -, back, -, whole, -⟩ := stops
    rw [names] at whole
    rcases front with _ | ⟨first, _ | ⟨second, front⟩⟩
    · obtain ⟨rfl, -⟩ := List.cons.inj whole
      decide +kernel
    · obtain ⟨rfl, rest⟩ := List.cons.inj whole
      obtain ⟨rfl, -⟩ := List.cons.inj rest
      decide +kernel
    · simp at whole

/-- Two names of one target. -/
def sameTarget : Table Asset :=
  .ofList [("./a.js", .text "1"), ("a.js", .text "2")]

set_option maxRecDepth 10000 in
/-- A file that was there before is lost: what the first asset has written is kept in its place. -/
theorem sameTarget_lost : (emitting sameTarget).config.fault? = none ∧ ∃ error after,
    (emitting sameTarget).build ⟨0, 0⟩ outputWorld = .error error after ∧
      (∀ compilation middle, (emitting sameTarget).produce outputWorld ≠ .ok compilation middle) ∧
      outputWorld.disk.find? ["dist", "a.js"] = some (.file "old".toUTF8) ∧
      after.disk.find? ["dist", "a.js"] = none := by
  have answer : left? ["dist", "a.js"] ((emitting sameTarget).produce outputWorld) = some none := by
    decide +kernel
  obtain ⟨error, after, failed, early, gone⟩ := exists_of_left? ⟨0, 0⟩ answer
  exact ⟨by decide +kernel, error, after, failed, early, by decide +kernel, gone⟩

end ModuleBundler.Bundler
