import ModuleBundler.Proofs.Build.Compile
import ModuleBundler.Proofs.Bundle.Loader

/-!
What happens when the bundle of an entry is run. Its loader finds every module that it is asked for, and
comes to an end even where modules require each other in a circle.
-/

namespace ModuleBundler

open ModuleBundler.Bundle (Loader registered)
open Discover (Reading Readings)

/-- One of the import calls in the file of a module has been turned into a call of the loader with an
id. -/
def Discover.Setup.Asks {σ : Type} (setup : Discover.Setup σ) (readings : List Reading)
    (id called : String) : Prop :=
  ∃ reading ∈ readings, setup.around.resolver.moduleId reading.path = id ∧
    ∃ one ∈ reading.imports, one.dependency.id = called

namespace Bundler

variable {ω : Type} {setup : Discover.Setup (Session ω)} {compilation : Compilation}
  {readings : List Reading}

/-- The modules of a chunk ask for modules of the chunk. -/
theorem mem_modules_of_asks (settled : compilation.Settled)
    (normal : compilation.graph.normalContents = readings.map (Reading.module setup))
    {entry : EntryPoint} {chunk : Chunk} (bundles : Bundles compilation.graph entry chunk)
    {id called : String} (listed : id ∈ chunk.modules) (asks : setup.Asks readings id called) :
    called ∈ chunk.modules := by
  obtain ⟨reading, read, rfl, one, member, rfl⟩ := asks
  have among : reading.module setup ∈ compilation.graph.contents := by
    refine List.mem_of_mem_filter (?_ : _ ∈ compilation.graph.normalContents)
    rw [normal]
    exact List.mem_map_of_mem read
  have needs : compilation.graph.dependenciesOf (setup.around.resolver.moduleId reading.path) =
      (reading.module setup).dependencies := settled.indexed.dependenciesOf_eq among
  have requires : compilation.graph.Requires (setup.around.resolver.moduleId reading.path)
      one.dependency.id := by
    rw [ModuleGraph.Requires, needs]
    exact Reading.id_mem_dependencies setup member
  exact (bundles.reached _).2 (((bundles.reached _).1 listed).tail requires)

/-- The loader of each chunk of a discovery runs to its end from the module of the entry, whatever calls
that stand in the files of the modules their bodies make. -/
theorem discover_runs {config : Config} {session last : Session ω}
    (found : discover setup config.entries.entries (.new config) session = .ok compilation last)
    (normal : compilation.graph.normalContents = readings.map (Reading.module setup))
    {chunk : Chunk} (listed : chunk ∈ compilation.chunks) :
    Bundle.renderModules compilation.graph chunk.modules =
        String.join ((registered compilation.graph chunk.modules).map fun entry =>
          Bundle.renderModule entry.1 entry.2) ∧
      Bundle.render chunk compilation.graph =
        "(() => \x7b\n  var " ++ Bundle.registryName ++ " = \x7b\n" ++
          String.join ((registered compilation.graph chunk.modules).map fun entry =>
            Bundle.renderModule entry.1 entry.2) ++
          "\n  \x7d;\n" ++ Bundle.runtime ++ "  var __modpack_exports__ = " ++ Bundle.loaderName ++ "(" ++
          Text.quoted chunk.entryModule ++ ");\n\x7d)();\n" ∧
      (registered compilation.graph chunk.modules).map Prod.fst = chunk.modules ∧
      (chunk.modules.map Text.quoted).Nodup ∧
      Loader.Runs ((registered compilation.graph chunk.modules).map Prod.fst) (setup.Asks readings)
        chunk.entryModule := by
  obtain ⟨settled, -⟩ := settled_discover config.entries.entries (settled_new config)
    config.entries.ascending (by simp [Compilation.new]) found
  obtain ⟨entry, -, bundles⟩ := exists_of_forall₂ (bundles_of_settled settled).flip listed
  have keys := Bundle.registered_ids bundles.present
  refine ⟨Bundle.renderModules_eq _ _, Bundle.render_eq _ _, keys,
    bundles.distinct.map Text.quoted_injective, ?_⟩
  rw [keys]
  refine Loader.runs_of_closed ?_ fun id held call asks =>
    mem_modules_of_asks settled normal bundles held asks
  rw [bundles.reached, bundles.root]
  exact .refl

/-- When a build has succeeded, each chunk that it has rendered can be run. Its script registers just its
modules, under keys that are all different, and calls the loader with the module of the entry. The loader never
misses one, starts the body of each at most once, and returns. -/
theorem build_runs {bundler : Bundler ω} {elapsed : Report.Duration} {world after : World ω} {stats : Stats}
    (built : bundler.build elapsed world = .ok stats after) :
    ∃ pipeline start compilation last readings,
      TransformPipeline.ofRules bundler.config.rules = .ok pipeline ∧
      bundler.construct world.disk pipeline start = .ok compilation last ∧
      (∃ middle revised final files,
        reviseWith bundler.hooks (emitChunks bundler.config.output.filename compilation) middle =
            .ok revised final ∧
          stats.compilation = { revised with files }) ∧
      let setup := bundler.setup world.disk bundler.config.contextDirectory pipeline
      Readings setup readings start last ∧
        compilation.graph.normalContents = readings.map (Reading.module setup) ∧
        ∀ chunk ∈ compilation.chunks,
          Bundle.renderModules compilation.graph chunk.modules =
              String.join ((registered compilation.graph chunk.modules).map fun entry =>
                Bundle.renderModule entry.1 entry.2) ∧
            Bundle.render chunk compilation.graph =
              "(() => \x7b\n  var " ++ Bundle.registryName ++ " = \x7b\n" ++
                String.join ((registered compilation.graph chunk.modules).map fun entry =>
                  Bundle.renderModule entry.1 entry.2) ++
                "\n  \x7d;\n" ++ Bundle.runtime ++ "  var __modpack_exports__ = " ++ Bundle.loaderName ++ "(" ++
                Text.quoted chunk.entryModule ++ ");\n\x7d)();\n" ∧
            (registered compilation.graph chunk.modules).map Prod.fst = chunk.modules ∧
            (chunk.modules.map Text.quoted).Nodup ∧
            Loader.Runs ((registered compilation.graph chunk.modules).map Prod.fst)
              (setup.Asks readings) chunk.entryModule := by
  obtain ⟨middle, produced, -⟩ := build_eq_ok built
  obtain ⟨compiled, session, files, desk, compiling, -, shape, -⟩ := produce_eq_ok produced
  obtain ⟨shown, pipeline, found, between, final, -, ruled, constructed, revised, -⟩ :=
    compile_eq_ok.1 compiling
  obtain ⟨readings, chain, explores⟩ := explores_of_discover constructed
  exact ⟨pipeline, _, found, between, readings, ruled, constructed,
    ⟨_, compiled, final, files, revised, shape⟩, chain, explores.normal,
    fun chunk listed => discover_runs constructed explores.normal listed⟩

def builtModules? : EStateM.Result BuildError (World Unit) Stats → Option (List (List String))
  | .ok stats _ => some (stats.compilation.chunks.map (·.modules))
  | .error _ _ => none

set_option maxRecDepth 10000 in
/-- Both bundles can be run, though the modules that they share require each other. -/
theorem circle_runs : ∃ stats after,
    circleBundler.build ⟨0, 0⟩ ⟨.new (), circleDisk⟩ = .ok stats after ∧
      stats.compilation.chunks.map (·.modules) =
        [["./left", "./shared", "./right"], ["./shared", "./right"]] ∧
      ∃ pipeline start compilation last readings,
        circleBundler.construct circleDisk pipeline start = .ok compilation last ∧
        ∀ chunk ∈ compilation.chunks, Loader.Runs chunk.modules
          ((circleBundler.setup circleDisk ⟨"/"⟩ pipeline).Asks readings) chunk.entryModule := by
  have outcome : builtModules? (circleBundler.build ⟨0, 0⟩ ⟨.new (), circleDisk⟩) =
      some [["./left", "./shared", "./right"], ["./shared", "./right"]] := by decide +kernel
  cases built : circleBundler.build ⟨0, 0⟩ ⟨.new (), circleDisk⟩ with
  | error error after =>
    rw [built] at outcome
    cases outcome
  | ok stats after =>
    rw [built] at outcome
    obtain ⟨pipeline, start, compilation, last, readings, -, constructed, -, -, -, runs⟩ :=
      build_runs built
    refine ⟨stats, after, rfl, Option.some.inj outcome, pipeline, start, compilation, last, readings,
      constructed, fun chunk listed => ?_⟩
    obtain ⟨-, -, keys, -, ran⟩ := runs chunk listed
    exact keys ▸ ran

end Bundler

end ModuleBundler
