import ModuleBundler.Proofs.Build.Entries
import ModuleBundler.Proofs.Config
import ModuleBundler.Proofs.Discover.Faithful

/-!
Entries do not influence each other. What a build with all entries finds for one of them a build with this
entry alone finds as well, if ids are faithful and hooks answer whatever they are asked in the same way.
-/

namespace ModuleBundler

/-- The configuration with one of its entries alone. -/
def Config.only (config : Config) (name path : String) : Config :=
  { config with entry := .named (Table.empty.insert name path) }

namespace Bundler

variable {ω : Type}

def only (bundler : Bundler ω) (name path : String) : Bundler ω :=
  { bundler with config := bundler.config.only name path }

/-- The taps of a plugin that brings no callbacks of its own answer alike whenever they are asked. -/
theorem predictable_tapPlugin {hooks : Hooks ω} (predictable : hooks.imports.Predictable) (number : Nat)
    {plugin : Plugin ω} (builtin : ∀ name taps, plugin ≠ .custom name taps) :
    (tapPlugin number plugin hooks).imports.Predictable := by
  cases plugin with
  | externals libraries =>
    refine ⟨fun tap member call => ?_, fun tap member => ?_⟩
    · rcases List.mem_append.1 member with old | new
      · exact predictable.requireCall tap old call
      · obtain rfl := List.mem_singleton.1 new
        show Steady (Plugin.noteRequest number libraries call)
        unfold Plugin.noteRequest
        split
        · exact fun _ _ => rfl
        · exact .pure ()
    · rcases List.mem_append.1 member with old | new
      · exact predictable.factorize tap old
      · obtain rfl := List.mem_singleton.1 new
        exact ⟨fun request => (libraries.find? request).map fun library => ⟨library.global⟩,
          fun _ _ => rfl⟩
  | custom name taps => exact absurd rfl (builtin name taps)
  | _ => exact predictable

theorem predictable_withPlugins (config : Config) {plugins : List (Plugin ω)}
    (builtin : ∀ plugin ∈ plugins, ∀ name taps, plugin ≠ .custom name taps) :
    (withPlugins config plugins).hooks.imports.Predictable := by
  have all (plugins : List (Plugin ω)) (bundler : Bundler ω)
      (builtin : ∀ plugin ∈ plugins, ∀ name taps, plugin ≠ .custom name taps)
      (predictable : bundler.hooks.imports.Predictable) :
      (plugins.foldl apply bundler).hooks.imports.Predictable := by
    induction plugins generalizing bundler with
    | nil => exact predictable
    | cons plugin plugins ih =>
      exact ih _ (fun other member => builtin other (List.mem_cons_of_mem _ member))
        (predictable_tapPlugin predictable _ (builtin plugin List.mem_cons_self))
  exact all plugins _ builtin ⟨by simp [Hooks.new, Hook.new], by simp [Hooks.new, Hook.new]⟩

section Found

variable {setup : Discover.Setup (Session ω)} {claim : String → Option ExternalModule} {root : Path}
  {asked : List (String × Path)} {graph : ModuleGraph} {session last : Session ω}
  {entries : List EntryPoint}

theorem meant_need (faithful : setup.Faithful claim) (absolute : root.isAbsolute = true)
    {one : String × Path} {entry : EntryPoint} (located : Locates setup root one entry) :
    setup.Meant claim entry.need :=
  ⟨Discover.canonical_of_resolve? absolute faithful.clean located.path, located.module⟩

theorem Enters.finds (enters : Enters setup root asked .empty session entries graph last)
    (faithful : setup.Faithful claim) (absolute : root.isAbsolute = true) :
    ∃ readings, setup.Finds claim (entries.map EntryPoint.need) graph readings := by
  have canonical (entry : EntryPoint) (member : entry ∈ entries) : setup.Canonical entry.path := by
    obtain ⟨one, -, located⟩ := enters.exists_located member
    exact Discover.canonical_of_resolve? absolute faithful.clean located.path
  obtain ⟨readings, chain, explores, all⟩ := enters.explores ModuleGraph.indexed_empty
    (Discover.keeps_canonical faithful.clean) canonical
  refine ⟨readings, ⟨session, last, chain⟩, all, fun need member => ?_, explores⟩
  obtain ⟨entry, listed, rfl⟩ := List.mem_map.1 member
  obtain ⟨one, -, located⟩ := enters.exists_located listed
  exact meant_need faithful absolute located

end Found

/-- An entry alone is discovered, when a complete list of modules has the one of its file. -/
theorem exists_discover_one {setup : Discover.Setup (Session ω)} {modules : List Module}
    (complete : setup.Complete modules) {compilation : Compilation}
    (indexed : compilation.graph.Indexed) (within : compilation.graph.contents ⊆ modules)
    {one : String × Path} {entry : EntryPoint} (located : Locates setup compilation.root one entry)
    (known : ∃ module ∈ modules, module.kind = .normal entry.path) (session : Session ω) :
    ∃ alone last, discover setup [one] compilation session = .ok alone last ∧
      alone.entries = compilation.entries ++ [entry] ∧ alone.graph.contents ⊆ modules := by
  generalize added : Discover.addEntry setup one.1 entry.path (compilation.graph, session) = outcome
  have rebuilds := Discover.addEntry_rebuilds complete indexed within known added
  cases outcome with
  | error error final =>
    obtain ⟨deep, rfl⟩ := rebuilds
    exact absurd added (Discover.addEntry_spares_tooDeep indexed session final)
  | ok id final =>
    obtain ⟨graph, last⟩ := final
    obtain ⟨-, found⟩ := rebuilds
    obtain ⟨rfl, -⟩ := Discover.visits_of_addModule _ entry.need rfl added .done
    have first := discoverEntry_eq_ok_iff.2 ⟨entry.path, _, graph, located.path, added, rfl⟩
    refine ⟨_, last, bind_eq_ok.2 ⟨_, last, first, rfl⟩, ?_, found⟩
    dsimp only
    rw [← located.module, ← located.name]

/-- The module of an id is the same in two graphs, but for its owners. -/
def SameModule (first second : ModuleGraph) (id : String) : Prop :=
  ∃ module other, first.find? id = some module ∧ second.find? id = some other ∧
    module.kind = other.kind ∧ module.source = other.source ∧
    module.dependencies = other.dependencies

theorem sameModule_of_subset {part whole : ModuleGraph} (indexed : part.Indexed)
    (also : whole.Indexed) (within : part.contents ⊆ whole.contents) {id : String}
    (present : id ∈ part.contents.map Module.id) : SameModule whole part id := by
  obtain ⟨module, member, named⟩ := List.mem_map.1 present
  obtain ⟨other, looked, same⟩ := indexed.bare_find?.2 ⟨member, named⟩
  obtain ⟨found, held, equal⟩ := also.bare_find?.2 ⟨within member, named⟩
  obtain ⟨-, kind, source, dependencies⟩ := Module.bare_eq_iff.1 (equal.trans same.symm)
  exact ⟨found, other, held, looked, kind, source, dependencies⟩

theorem mem_entries {config : Config} {name path : String}
    (asked : (name, path) ∈ config.entry.paths.entries) :
    (name, config.contextDirectory.join ⟨path⟩) ∈ config.entries.entries :=
  List.mem_map.2 ⟨(name, path), asked, rfl⟩

/-- Where a build has found nothing but what another one has, its chunks hold what those of the other hold. -/
theorem exists_same_chunk {whole part : Compilation} (settled : whole.Settled) (also : part.Settled)
    (within : part.graph.contents ⊆ whole.graph.contents) {entry : EntryPoint}
    (member : entry ∈ whole.entries) (shared : entry ∈ part.entries) :
    ∃ chunk ∈ whole.chunks, ∃ other ∈ part.chunks, chunk.name = entry.name ∧
      other.name = entry.name ∧ chunk.entryModule = other.entryModule ∧
      (∀ id, id ∈ other.modules ↔ id ∈ chunk.modules) ∧
      ∀ id ∈ chunk.modules, SameModule whole.graph part.graph id := by
  obtain ⟨chunk, listed, bundles⟩ := exists_of_forall₂ (bundles_of_settled settled) member
  obtain ⟨other, found, holds⟩ := exists_of_forall₂ (bundles_of_settled also) shared
  have rooted : entry.module ∈ part.graph.contents.map Module.id :=
    (also.indexed.contains_iff_mem_ids _).1 (also.rooted entry shared)
  have same (id : String) : id ∈ other.modules ↔ id ∈ chunk.modules := by
    rw [holds.reached, bundles.reached]
    exact also.indexed.reaches_iff_of_subset settled.indexed within (mem_ids_of_settled also) rooted id
  refine ⟨chunk, listed, other, found, bundles.name, holds.name, bundles.root.trans holds.root.symm,
    same, fun id held => sameModule_of_subset also.indexed settled.indexed within ?_⟩
  obtain ⟨module, looked⟩ := holds.present id ((same id).2 held)
  obtain ⟨among, named⟩ := (also.indexed.find?_iff id module).1 looked
  exact (also.indexed.contains_iff_mem_ids id).1 ((also.indexed.contains_iff id).2 ⟨module, among, named⟩)

/-- If the modules of all entries of a configuration can be found, then those of each of its entries can
be found with that entry alone. It has the same module, its chunk holds the same ids, and the modules that go
by them are the same but for their owners. -/
theorem construct_only {bundler : Bundler ω} {disk : FileSystem} {pipeline : TransformPipeline}
    (rooted : bundler.config.root.isAbsolute = true)
    (clean : ∀ suffix ∈ bundler.config.extensions, '/' ∉ suffix.toList)
    (free : disk.BackslashFree) (predictable : bundler.hooks.imports.Predictable)
    {name path : String} (asked : (name, path) ∈ bundler.config.entry.paths.entries)
    {compilation : Compilation} {session last : Session ω}
    (found : bundler.construct disk pipeline session = .ok compilation last) (other : Session ω) :
    ∃ alone final, (bundler.only name path).construct disk pipeline other = .ok alone final ∧
      (∃ entry ∈ compilation.entries, entry.name = name ∧ alone.entries = [entry]) ∧
      ∃ chunk ∈ compilation.chunks, ∃ sole, alone.chunks = [sole] ∧
        chunk.name = name ∧ sole.name = name ∧ chunk.entryModule = sole.entryModule ∧
        (∀ id, id ∈ sole.modules ↔ id ∈ chunk.modules) ∧
        ∀ id ∈ chunk.modules, SameModule compilation.graph alone.graph id := by
  have absolute := Config.isAbsolute_contextDirectory rooted
  obtain ⟨claim, claims⟩ := predictable.exists_claim
  have faithful : (bundler.setup disk bundler.config.contextDirectory pipeline).Faithful claim :=
    Discover.faithful_of_backslashFree rfl absolute clean free claims
  have steady (path : Path) :
      Steady (Discover.load (bundler.setup disk bundler.config.contextDirectory pipeline) path) :=
    Discover.steady_load predictable path
  obtain ⟨settled, -⟩ := settled_discover bundler.config.entries.entries
    (settled_new bundler.config) bundler.config.entries.ascending (by simp [Compilation.new]) found
  obtain ⟨entries, listed, enters⟩ := enters_of_discover found
  obtain rfl : compilation.entries = entries := listed
  obtain ⟨readings, finds⟩ := enters.finds faithful absolute
  have complete := finds.complete faithful steady (mem_ids_of_settled settled)
  obtain ⟨entry, member, located⟩ := exists_of_forall₂ enters.located (mem_entries asked)
  obtain ⟨module, held, answers⟩ := finds.exists_answer faithful
    (finds.meant _ (List.mem_map_of_mem member))
    ((settled.indexed.contains_iff_mem_ids _).1 (settled.rooted entry member))
  -- with this entry alone nothing is found that was not found for all of them
  have empty : (Compilation.new (bundler.config.only name path)).graph.Indexed :=
    ModuleGraph.indexed_empty
  obtain ⟨alone, final, run, one, within⟩ := exists_discover_one complete empty (List.nil_subset _)
    located ⟨module, held, answers.2⟩ other
  obtain ⟨also, -⟩ := settled_discover [(name, bundler.config.contextDirectory.join ⟨path⟩)]
    (settled_new (bundler.config.only name path)) (List.pairwise_singleton _ _)
    (by simp [Compilation.new]) run
  obtain ⟨chunk, first, sole, second, names, others, modules, same, agree⟩ :=
    exists_same_chunk settled also within member (by rw [one]; exact List.mem_singleton_self entry)
  have named : entry.name = name := located.name
  have single : alone.chunks = [sole] := by
    have assembled := also.assembled
    rw [one] at assembled
    rw [assembled] at second
    rw [assembled, List.mem_singleton.1 second]
    rfl
  exact ⟨alone, final, run, ⟨entry, member, named, one⟩, chunk, first, sole, single,
    names.trans named, others.trans named, modules, same, agree⟩

/-- Two files that require a third one, which requires a library. -/
def sharingDisk : FileSystem where
  nodes := [
    (["left"], .file "require('./shared'); require('lib')".toUTF8),
    (["right"], .file "require('./shared')".toUTF8),
    (["shared"], .file "require('lib')".toUTF8)]
  workingDirectory := []

/-- A bundler for both of them, with a plugin that provides the library. -/
def sharingBundler : Bundler Unit :=
  withPlugins circleConfig [.externals (.ofList [("lib", ⟨"Lib", none⟩)])]

/-- What was found first for one entry the other one finds alone. -/
theorem sharing_only : ∃ compilation last alone final,
    sharingBundler.construct sharingDisk ⟨[]⟩ (.new ()) = .ok compilation last ∧
      compilation.chunks.map (·.modules) =
        [["./left", "./shared", "external \"lib\""], ["./shared", "external \"lib\"", "./right"]] ∧
      (sharingBundler.only "right" "right").construct sharingDisk ⟨[]⟩ (.new ()) = .ok alone final ∧
      ∃ chunk ∈ compilation.chunks, ∃ sole, alone.chunks = [sole] ∧ chunk.name = "right" ∧
        (∀ id, id ∈ sole.modules ↔ id ∈ chunk.modules) ∧
        ∀ id ∈ chunk.modules, SameModule compilation.graph alone.graph id := by
  have modules : chunkModules (sharingBundler.construct sharingDisk ⟨[]⟩ (.new ())) =
      [["./left", "./shared", "external \"lib\""],
        ["./shared", "external \"lib\"", "./right"]] := by decide +kernel
  have predictable : sharingBundler.hooks.imports.Predictable :=
    predictable_withPlugins circleConfig (by simp)
  have free : sharingDisk.BackslashFree := by
    simp [FileSystem.BackslashFree, sharingDisk]
  have asked : ("right", "right") ∈ sharingBundler.config.entry.paths.entries := by decide +kernel
  cases found : sharingBundler.construct sharingDisk ⟨[]⟩ (.new ()) with
  | error error last =>
    rw [found] at modules
    cases modules
  | ok compilation last =>
    rw [found] at modules
    obtain ⟨alone, final, run, -, chunk, listed, sole, single, named, -, -, same, agree⟩ :=
      construct_only (by decide +kernel) (by decide +kernel) free predictable asked found (.new ())
    exact ⟨compilation, last, alone, final, rfl, modules, run, chunk, listed, sole, single, named,
      same, agree⟩

end Bundler

end ModuleBundler
