import ModuleBundler.Proofs.Build.Entries
import ModuleBundler.Proofs.Discover.Recording

/-!
In which order a build does its work. The modules stand in depth-first order, and the hooks are called for
one module after another in this order, once for each import call of its source.
-/

namespace ModuleBundler.Bundler

open Discover (Reading Readings)

variable {ω : Type} {setup : Discover.Setup (Session ω)}

theorem discoverEntry_recording {name : String} {path : Path} {compilation next : Compilation}
    {session last : Session ω} (indexed : compilation.graph.Indexed)
    (found : discoverEntry setup name path compilation session = .ok next last) :
    discoverEntry setup.recording name path compilation
        (session.withCalls (setup.graphCalls compilation.graph)) =
      .ok next (last.withCalls (setup.graphCalls next.graph)) := by
  obtain ⟨file, id, graph, resolved, added, rfl⟩ := discoverEntry_eq_ok_iff.1 found
  exact discoverEntry_eq_ok_iff.2 ⟨file, id, graph, resolved,
    Discover.addModule_recording _ indexed added, rfl⟩

/-- The discovery of entries is recorded in step with the graph. -/
theorem discover_recording {asked : List (String × Path)} {compilation final : Compilation}
    {session last : Session ω} (indexed : compilation.graph.Indexed)
    (found : discover setup asked compilation session = .ok final last) :
    discover setup.recording asked compilation
        (session.withCalls (setup.graphCalls compilation.graph)) =
      .ok final (last.withCalls (setup.graphCalls final.graph)) := by
  induction asked generalizing compilation session with
  | nil =>
    obtain ⟨rfl, rfl⟩ := pure_eq_ok.1 found
    rfl
  | cons one asked ih =>
    obtain ⟨next, middle, first, rest⟩ := bind_eq_ok.1 found
    obtain ⟨file, graph, -, visits, shape⟩ := discoverEntry_eq_ok first
    have later : next.graph.Indexed := by
      rw [shape]
      exact (visits.extends indexed).1
    exact bind_eq_ok.2 ⟨next, _, discoverEntry_recording indexed first, ih later rest⟩

/-- The modules of a discovery stand in the one depth-first order that there is from the modules of the
entries, which are taken in the order of their names. One file is read for each module that is made of a
file, in this order, and when the calls of the hooks are recorded, they are those for the import calls of
one such module after another. -/
theorem discover_in_sequence {config : Config} {compilation : Compilation} {session last : Session ω}
    (found : discover setup config.entries.entries (.new config) session = .ok compilation last) :
    compilation.entries.map (·.name) = config.entries.names ∧
      (compilation.entries.map (·.name)).Pairwise (· < ·) ∧
      (∀ ids, compilation.graph.DepthFirst (compilation.entries.map (·.module)) [] ids ↔
        ids = compilation.graph.modules.toList.map Module.id) ∧
      (∃ readings, Readings setup readings session last ∧
        compilation.graph.normalContents = readings.map (Reading.module setup)) ∧
      discover setup.recording config.entries.entries (.new config) (session.withCalls []) =
        .ok compilation
          (last.withCalls (compilation.graph.normalContents.flatMap setup.moduleCalls)) := by
  obtain ⟨entries, listed, enters⟩ := enters_of_discover found
  obtain rfl : compilation.entries = entries := listed
  have indexed : (Compilation.new config).graph.Indexed := ModuleGraph.indexed_empty
  have names : compilation.entries.map (·.name) = config.entries.names := enters.names
  obtain ⟨ended, -⟩ := enters.extends indexed
  have order := enters.depthFirst indexed fun module member => ended.dependenciesOf_eq member
  rw [ModuleGraph.map_id_contents, ModuleGraph.map_id_contents] at order
  obtain ⟨readings, chain, explores⟩ := explores_of_discover found
  refine ⟨names, ?_, ?_, ⟨readings, chain, explores.normal⟩, discover_recording indexed found⟩
  · rw [names]
    exact List.pairwise_map.2 config.entries.ascending
  · intro ids
    constructor
    · exact fun other => other.unique order
    · rintro rfl
      exact order

def idsAndCalls (setup : Discover.Setup (Session ω)) :
    EStateM.Result BuildError (Session ω) Compilation → List String × List ImportCall
  | .ok compilation _ => (compilation.graph.modules.toList.map Module.id,
      compilation.graph.normalContents.flatMap setup.moduleCalls)
  | .error _ _ => ([], [])

/-- The shared module and the circle are walked through once. -/
theorem circle_in_sequence : ∃ compilation last,
    discover circleSetup circleConfig.entries.entries (.new circleConfig) (.new ()) =
        .ok compilation last ∧
      compilation.graph.modules.toList.map Module.id = ["./left", "./shared", "./right"] ∧
      compilation.graph.DepthFirst (compilation.entries.map (·.module)) []
        ["./left", "./shared", "./right"] ∧
      discover circleSetup.recording circleConfig.entries.entries (.new circleConfig)
          ((Session.new ()).withCalls []) =
        .ok compilation (last.withCalls [
          .requireCall ⟨"./shared", ⟨"/left"⟩⟩, .factorize ⟨"./shared", ⟨"/"⟩⟩,
          .requireCall ⟨"./right", ⟨"/shared"⟩⟩, .factorize ⟨"./right", ⟨"/"⟩⟩,
          .requireCall ⟨"./shared", ⟨"/right"⟩⟩, .factorize ⟨"./shared", ⟨"/"⟩⟩]) := by
  have outcome : idsAndCalls circleSetup (discover circleSetup circleConfig.entries.entries
      (.new circleConfig) (.new ())) = (["./left", "./shared", "./right"], [
          .requireCall ⟨"./shared", ⟨"/left"⟩⟩, .factorize ⟨"./shared", ⟨"/"⟩⟩,
          .requireCall ⟨"./right", ⟨"/shared"⟩⟩, .factorize ⟨"./right", ⟨"/"⟩⟩,
          .requireCall ⟨"./shared", ⟨"/right"⟩⟩, .factorize ⟨"./shared", ⟨"/"⟩⟩]) := by
    decide +kernel
  cases found : discover circleSetup circleConfig.entries.entries (.new circleConfig) (.new ()) with
  | error error last =>
    rw [found] at outcome
    cases outcome
  | ok compilation last =>
    rw [found] at outcome
    obtain ⟨ids, calls⟩ := Prod.mk.inj outcome
    obtain ⟨-, -, order, -, recorded⟩ := discover_in_sequence found
    refine ⟨compilation, last, rfl, ids, (order _).2 ids.symm, ?_⟩
    rw [recorded, calls]

end ModuleBundler.Bundler
