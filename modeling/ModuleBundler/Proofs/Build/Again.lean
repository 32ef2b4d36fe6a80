import ModuleBundler.Proofs.Build.Mirror
import ModuleBundler.Proofs.Build.Output
import ModuleBundler.Proofs.Persist.Again

/-!
Building again. Where nothing that a build has looked up lies in its output directory, another build at once
finds what the first one has found and writes the same assets. It takes the way of a build that replaces
files, and only there it can fail: a file cannot be kept aside where a directory is.
-/

namespace ModuleBundler

variable {ω : Type}

/-- The paths that are looked up for a module: that of its file, and those that are tested for its imports,
unless hooks claim them. -/
def Discover.Setup.lookups (setup : Setup (Session ω)) (session : Session ω) (path : Path) :
    List Path :=
  path :: (setup.callSites path).flatMap fun site =>
    match site.argument with
    | .text request _ =>
      let context := path.parent?.getD ⟨"."⟩
      if (setup.around.hooks.factorize.ask { request, context } session).1.isSome then []
      else setup.around.resolver.tested setup.around.disk request context
    | _ => []

namespace Bundler

open Persist (Apart IsNeeded IsParent slotOf)

/-- The paths that are looked up in a build that ends with a graph: those that are tested for the entries,
and those for the modules. -/
def lookups (bundler : Bundler ω) (world : World ω) (graph : ModuleGraph) : List Path :=
  match TransformPipeline.ofRules bundler.config.rules with
  | .error _ => []
  | .ok pipeline =>
    let root := bundler.config.contextDirectory
    let setup := bundler.setup world.disk root pipeline
    bundler.config.entries.entries.flatMap (fun (_, path) =>
        setup.around.resolver.tested world.disk path.text root) ++
      graph.normalContents.flatMap fun module =>
        match module.kind with
        | .normal path => setup.lookups world.session path
        | .external _ => []

/-- The paths that assets are written to. -/
def targets (bundler : Bundler ω) (compilation : Compilation) : List Path :=
  compilation.assets.names.map fun name => bundler.config.outputDirectory.join ⟨name⟩

section Lookups

variable {bundler : Bundler ω} {claim : ResolveData → Option ExternalModule} {world : World ω}
  {pipeline : TransformPipeline} {graph : ModuleGraph} {output : Location} {other : FileSystem}

theorem readsAlike_of_outside {setup : Discover.Setup (Session ω)} (session : Session ω)
    (claims : ∀ data state, setup.around.hooks.factorize.ask data state = (claim data, state))
    (clean : ∀ suffix ∈ setup.around.resolver.extensions, '/' ∉ suffix.toList)
    (tree : setup.around.disk.IsTree) (same : FileSystem.SameOutside output setup.around.disk other)
    {path : Path} (outside : ∀ looked ∈ setup.lookups session path,
      ¬output.Inside (setup.around.disk.placeOf looked)) : setup.ReadsAlike claim other path := by
  refine ⟨fun text held => same.readText (outside path List.mem_cons_self) held, ?_⟩
  intro site member request span given unclaimed found resolved
  refine Resolver.resolve?_of_sameOutside same tree clean (fun tested listed => ?_) resolved
  refine outside tested (List.mem_cons_of_mem _ (List.mem_flatMap.2 ⟨site, member, ?_⟩))
  rw [given]
  dsimp only
  rw [claims, unclaimed, if_neg (by simp)]
  exact listed

variable (tame : bundler.Tame claim)
  (clean : ∀ suffix ∈ bundler.config.extensions, '/' ∉ suffix.toList) (tree : world.disk.IsTree)
  (ruled : TransformPipeline.ofRules bundler.config.rules = .ok pipeline)
  (same : FileSystem.SameOutside output world.disk other)
  (outside : ∀ path ∈ bundler.lookups world graph, ¬output.Inside (world.disk.placeOf path))
include clean tree ruled same outside

theorem located_of_outside : ∀ one ∈ bundler.config.entries.entries, ∀ file,
    (Resolver.new bundler.config.contextDirectory bundler.config.extensions).resolve? world.disk
        one.2.text bundler.config.contextDirectory = some file →
      (Resolver.new bundler.config.contextDirectory bundler.config.extensions).resolve? other
        one.2.text bundler.config.contextDirectory = some file := by
  intro one member file resolved
  refine Resolver.resolve?_of_sameOutside same tree clean (fun tested listed => outside tested ?_) resolved
  unfold lookups
  rw [ruled]
  exact List.mem_append_left _ (List.mem_flatMap.2 ⟨one, member, listed⟩)

include tame in
theorem graphAlike_of_outside :
    (bundler.setup world.disk bundler.config.contextDirectory pipeline).GraphAlike claim other graph := by
  intro module member path kind
  refine readsAlike_of_outside world.session (tame.imports 0).claims clean tree same
    fun looked listed => outside looked ?_
  unfold lookups
  rw [ruled]
  refine List.mem_append_right _ (List.mem_flatMap.2 ⟨module, ?_, by rw [kind]; exact listed⟩)
  exact List.mem_filter.2 ⟨member, by simp [Module.isExternal, kind]⟩

end Lookups

section Again

variable {bundler : Bundler ω} {elapsed : Report.Duration} {world after : World ω} {stats : Stats}

/-- When a build has succeeded that looks up nothing in its output directory and whose assets do not get
into each other's way, another build at once succeeds, exactly if no file would have to be kept aside where
the first one has made a directory. It then finds and writes the same, and leaves every place as it was. -/
theorem build_again_iff (builtin : bundler.Builtin)
    (clean : ∀ suffix ∈ bundler.config.extensions, '/' ∉ suffix.toList)
    (built : bundler.build elapsed world = .ok stats after) (tree : world.disk.IsTree)
    (outside : ∀ path ∈ bundler.lookups world stats.compilation.graph,
      ¬(world.disk.placeOf bundler.config.outputDirectory).Inside (world.disk.placeOf path))
    (apart : Persist.Apart world.disk.workingDirectory (bundler.targets stats.compilation))
    (free : ∀ target ∈ bundler.targets stats.compilation,
      world.disk.find? (Persist.slotOf world.disk.workingDirectory target).staging = none ∧
        world.disk.find? (Persist.slotOf world.disk.workingDirectory target).backup = none)
    (again : Report.Duration) :
    ((∃ repeated final, bundler.build again after = .ok repeated final) ↔
        ∀ target ∈ bundler.targets stats.compilation,
          ¬Persist.IsNeeded world.disk.workingDirectory bundler.config.outputDirectory
            (bundler.targets stats.compilation)
            (Persist.slotOf world.disk.workingDirectory target).backup) ∧
      ∀ repeated final, bundler.build again after = .ok repeated final →
        repeated.compilation = stats.compilation ∧
          final.disk.workingDirectory = after.disk.workingDirectory ∧
          ∀ place, final.disk.find? place = after.disk.find? place := by
  obtain ⟨claim, tame⟩ := builtin.exists_tame
  obtain ⟨middle, produced, shown⟩ := build_eq_ok built
  obtain ⟨compiled, session, files, desk, compiling, written, whole, kept⟩ := produce_eq_ok produced
  obtain ⟨_, pipeline, _, _, _, -, ruled, -⟩ := compile_eq_ok.1 compiling
  have disk : after.disk = desk.disk := shown.trans kept
  have assets : stats.compilation.assets = compiled.assets := by rw [whole]
  have graph : stats.compilation.graph = compiled.graph := by rw [whole]
  unfold targets at apart free ⊢
  rw [assets] at apart free ⊢
  rw [graph] at outside
  have same := Persist.sameOutside_of_writeAssets written
  -- the other build compiles to the same, from whatever session the first one has left
  obtain ⟨last, recompiling⟩ := compile_mirrored tame ruled compiling
    (located_of_outside clean tree ruled same outside)
    (graphAlike_of_outside tame clean tree ruled same outside) after.session
  rw [← disk] at recompiling
  have rewrites : ∀ repeated final, bundler.build again after = .ok repeated final →
      ∃ others ended, Persist.writeAssets compiled.assets bundler.config.outputDirectory
          ⟨desk.disk, last.log⟩ = .ok others ended ∧
        repeated.compilation = { compiled with files := others } ∧ final.disk = ended.disk := by
    intro repeated final rebuilt
    obtain ⟨between, reproduced, shown'⟩ := build_eq_ok rebuilt
    obtain ⟨compiled', session', others, ended, compiling', rewritten, whole', kept'⟩ :=
      produce_eq_ok reproduced
    rw [recompiling] at compiling'
    cases compiling'
    rw [disk] at rewritten
    exact ⟨others, ended, rewritten, whole', shown'.trans kept'⟩
  constructor
  · rw [← Persist.writeAssets_again_iff written apart free last.log]
    constructor
    · rintro ⟨repeated, final, rebuilt⟩
      obtain ⟨others, ended, rewritten, -⟩ := rewrites repeated final rebuilt
      exact ⟨others, ended, rewritten⟩
    · rintro ⟨others, ended, rewritten⟩
      rw [← disk] at rewritten
      exact exists_build recompiling rewritten tame.done again
  · intro repeated final rebuilt
    obtain ⟨others, ended, rewritten, whole', kept'⟩ := rewrites repeated final rebuilt
    obtain ⟨rfl, working, places⟩ := Persist.find?_of_writeAssets_again written apart free rewritten
    rw [whole', whole, kept', disk]
    exact ⟨rfl, working, places⟩

end Again

/-- A bundler without plugins that writes one file under two names. -/
def twice (first second : String) : Bundler Unit :=
  withPlugins {
    entry := .named (.ofList [(first, "main.js"), (second, "main.js")])
    output := { filename := "[name]" }
    root := ⟨"/"⟩ } []

theorem builtin_twice (first second : String) : (twice first second).Builtin :=
  ⟨[], by simp, rfl⟩

/-- The names of the assets that a build makes, what it looks up, and whether another build at once
succeeds. -/
def repeated? (bundler : Bundler Unit) (world : World Unit) :
    EStateM.Result BuildError (World Unit) Stats → Option (List String × List Path × Bool)
  | .ok stats after =>
    some (stats.compilation.assets.names, bundler.lookups world stats.compilation.graph,
      match bundler.build ⟨0, 0⟩ after with
      | .ok _ _ => true
      | .error _ _ => false)
  | .error _ _ => none

theorem exists_of_repeated? {bundler : Bundler Unit} {world : World Unit} {names : List String}
    {paths : List Path} {again : Bool}
    (answer : repeated? bundler world (bundler.build ⟨0, 0⟩ world) = some (names, paths, again)) :
    ∃ stats after, bundler.build ⟨0, 0⟩ world = .ok stats after ∧
      stats.compilation.assets.names = names ∧ bundler.lookups world stats.compilation.graph = paths ∧
      ((∃ error final, bundler.build ⟨0, 0⟩ after = .error error final) ↔ again = false) := by
  cases built : bundler.build ⟨0, 0⟩ world with
  | error error after =>
    rw [built] at answer
    cases answer
  | ok stats after =>
    rw [built] at answer
    cases answer
    refine ⟨stats, after, rfl, rfl, rfl, ?_⟩
    cases bundler.build ⟨0, 0⟩ after <;> simp

set_option maxRecDepth 10000 in
theorem twice_apart_again : ∃ stats after repeated final,
    (twice "a.js" "lib/b.js").build ⟨0, 0⟩ outputWorld = .ok stats after ∧
      (twice "a.js" "lib/b.js").build ⟨0, 0⟩ after = .ok repeated final ∧
      repeated.compilation = stats.compilation ∧
      ∀ place, final.disk.find? place = after.disk.find? place := by
  have answer : repeated? (twice "a.js" "lib/b.js") outputWorld
      ((twice "a.js" "lib/b.js").build ⟨0, 0⟩ outputWorld) =
        some (["a.js", "lib/b.js"], [⟨"/main.js"⟩, ⟨"/main.js"⟩, ⟨"/main.js"⟩], true) := by
    decide +kernel
  obtain ⟨stats, after, built, names, looked, -⟩ := exists_of_repeated? answer
  have targets : (twice "a.js" "lib/b.js").targets stats.compilation =
      [⟨"/dist/a.js"⟩, ⟨"/dist/lib/b.js"⟩] := by
    rw [Bundler.targets, names]
    decide +kernel
  have whole := build_again_iff (builtin_twice _ _) (by decide +kernel) built
    (FileSystem.isTree_of_nodes (by decide +kernel)) (by rw [looked]; decide +kernel)
    (by rw [targets]; unfold Apart; decide +kernel) (by rw [targets]; decide +kernel) ⟨0, 0⟩
  rw [targets] at whole
  obtain ⟨repeated, final, rebuilt⟩ :=
    whole.1.2 (by unfold IsNeeded IsParent; decide +kernel)
  obtain ⟨same, -, places⟩ := whole.2 repeated final rebuilt
  exact ⟨stats, after, repeated, final, built, rebuilt, same, places⟩

set_option maxRecDepth 10000 in
/-- The directory of one asset is where the file of the other one would be kept aside. The first build makes
it, and the second one fails, although no two paths of targets and their hidden files are the same. -/
theorem twice_blocked_again :
    (twice ".x.modpack-bak/y" "x").config.fault? = none ∧
      (twice ".x.modpack-bak/y" "x").Builtin ∧
      (∀ suffix ∈ (twice ".x.modpack-bak/y" "x").config.extensions, '/' ∉ suffix.toList) ∧
      ∃ stats after, (twice ".x.modpack-bak/y" "x").build ⟨0, 0⟩ outputWorld = .ok stats after ∧
        (∀ path ∈ (twice ".x.modpack-bak/y" "x").lookups outputWorld stats.compilation.graph,
          ¬(outputWorld.disk.placeOf (twice ".x.modpack-bak/y" "x").config.outputDirectory).Inside
            (outputWorld.disk.placeOf path)) ∧
        Apart [] ((twice ".x.modpack-bak/y" "x").targets stats.compilation) ∧
        (∀ target ∈ (twice ".x.modpack-bak/y" "x").targets stats.compilation,
          outputWorld.disk.find? (slotOf [] target).staging = none ∧
            outputWorld.disk.find? (slotOf [] target).backup = none) ∧
        ∃ error final,
          (twice ".x.modpack-bak/y" "x").build ⟨0, 0⟩ after = .error error final := by
  have answer : repeated? (twice ".x.modpack-bak/y" "x") outputWorld
      ((twice ".x.modpack-bak/y" "x").build ⟨0, 0⟩ outputWorld) =
        some ([".x.modpack-bak/y", "x"], [⟨"/main.js"⟩, ⟨"/main.js"⟩, ⟨"/main.js"⟩], false) := by
    decide +kernel
  obtain ⟨stats, after, built, names, looked, again⟩ := exists_of_repeated? answer
  have targets : (twice ".x.modpack-bak/y" "x").targets stats.compilation =
      [⟨"/dist/.x.modpack-bak/y"⟩, ⟨"/dist/x"⟩] := by
    rw [Bundler.targets, names]
    decide +kernel
  refine ⟨by decide +kernel, builtin_twice _ _, by decide +kernel, stats, after, built, ?_, ?_, ?_,
    again.2 rfl⟩
  · rw [looked]
    decide +kernel
  · rw [targets]
    unfold Apart
    decide +kernel
  · rw [targets]
    decide +kernel

end Bundler

end ModuleBundler
