import ModuleBundler.Build.Bundler
import ModuleBundler.Proofs.Discover.Closure
import ModuleBundler.Proofs.Outcome

/-!
The chunks of a build. When the modules of all entries are there, the chunk of an entry is what its own
module reaches, and the owners of a module are the entries whose chunks hold it.
-/

namespace ModuleBundler

/-- A compilation between two entries: nothing is half built, and whatever the entries so far own is what
their modules reach. -/
structure Compilation.Settled (compilation : Compilation) : Prop where
  indexed : compilation.graph.Indexed
  present : ∀ module ∈ compilation.graph.modules.toList, ∀ id ∈ module.dependencies,
    compilation.graph.contains id = true
  assembled : compilation.chunks = compilation.entries.map fun entry =>
    .assemble entry.name entry.module compilation.graph
  rooted : ∀ entry ∈ compilation.entries, compilation.graph.contains entry.module = true
  owned : ∀ entry ∈ compilation.entries, ∀ id,
    compilation.graph.Owns entry.name id ↔ compilation.graph.Reaches entry.module id
  kept : ∀ module ∈ compilation.graph.modules.toList, module.owners ≠ []
  sorted : ∀ module ∈ compilation.graph.modules.toList, module.owners.Pairwise (· < ·)
  known : ∀ module ∈ compilation.graph.modules.toList, ∀ owner ∈ module.owners,
    ∃ entry ∈ compilation.entries, entry.name = owner

namespace Bundler

variable {ω : Type}

/-- The entry point that an entry of the configuration has become. -/
structure Locates (setup : Discover.Setup (Session ω)) (root : Path) (asked : String × Path)
    (entry : EntryPoint) : Prop where
  name : entry.name = asked.1
  path : setup.around.resolver.resolve? setup.around.disk asked.2.text root = some entry.path
  module : entry.module = setup.around.resolver.moduleId entry.path

/-- The chunk of an entry holds what the module of the entry reaches, and owns it. -/
structure Bundles (graph : ModuleGraph) (entry : EntryPoint) (chunk : Chunk) : Prop where
  name : chunk.name = entry.name
  root : chunk.entryModule = entry.module
  ordered : chunk.modules.Sublist (graph.modules.toList.map Module.id)
  distinct : chunk.modules.Nodup
  reached : ∀ id, id ∈ chunk.modules ↔ graph.Reaches entry.module id
  present : ∀ id ∈ chunk.modules, ∃ module, graph.find? id = some module
  owned : ∀ module ∈ graph.modules.toList, entry.name ∈ module.owners ↔ module.id ∈ chunk.modules

/-- An entry is discovered from the file that it is resolved to, and its chunk is assembled at once. -/
theorem discoverEntry_eq_ok_iff {setup : Discover.Setup (Session ω)} {name : String} {path : Path}
    {compilation next : Compilation} {session last : Session ω} :
    discoverEntry setup name path compilation session = .ok next last ↔
      ∃ file id graph, setup.around.resolver.resolve? setup.around.disk path.text compilation.root =
          some file ∧
        Discover.addEntry setup name file (compilation.graph, session) = .ok id (graph, last) ∧
        next = { compilation with
          graph
          entries := compilation.entries ++ [⟨name, file, id⟩]
          chunks := compilation.chunks ++ [.assemble name id graph] } := by
  unfold discoverEntry
  cases resolved : setup.around.resolver.resolve? setup.around.disk path.text compilation.root with
  | none =>
    rw [Resolver.resolve_of_none resolved]
    dsimp only
    rw [throw_apply]
    simp
  | some file =>
    rw [Resolver.resolve_of_some resolved]
    dsimp only
    rw [bind_eq_ok]
    constructor
    · rintro ⟨⟨id, graph⟩, middle, added, rest⟩
      obtain ⟨rfl, rfl⟩ := pure_eq_ok.1 rest
      unfold addEntryModules at added
      cases called : Discover.addEntry setup name file (compilation.graph, session) with
      | error error state =>
        rw [called] at added
        cases added
      | ok id state =>
        rw [called] at added
        cases added
        exact ⟨file, _, _, rfl, called, rfl⟩
    · rintro ⟨other, id, graph, same, added, shape⟩
      cases Option.some.inj same
      refine ⟨(id, graph), last, ?_, ?_⟩
      · unfold addEntryModules
        generalize Discover.addEntry setup name file (compilation.graph, session) = outcome at added ⊢
        subst added
        rfl
      · rw [shape]
        rfl

/-- An entry that is discovered is walked to from its file. -/
theorem discoverEntry_eq_ok {setup : Discover.Setup (Session ω)} {name : String} {path : Path}
    {compilation next : Compilation} {session last : Session ω}
    (found : discoverEntry setup name path compilation session = .ok next last) :
    ∃ file graph, setup.around.resolver.resolve? setup.around.disk path.text compilation.root =
        some file ∧
      Discover.Visits setup name [⟨setup.around.resolver.moduleId file, file.text, .file file⟩]
        compilation.graph session graph last ∧
      next = { compilation with
        graph
        entries := compilation.entries ++ [⟨name, file, setup.around.resolver.moduleId file⟩]
        chunks := compilation.chunks ++
          [.assemble name (setup.around.resolver.moduleId file) graph] } := by
  obtain ⟨file, id, graph, resolved, added, rfl⟩ := discoverEntry_eq_ok_iff.1 found
  obtain ⟨rfl, visits⟩ := Discover.visits_of_addModule _
    ⟨setup.around.resolver.moduleId file, file.text, .file file⟩ rfl added .done
  exact ⟨file, graph, resolved, visits, rfl⟩

/-- Discovering one more entry, whose name is behind all others, leaves nothing half built. -/
theorem settled_discoverEntry {setup : Discover.Setup (Session ω)} {name : String} {path : Path}
    {compilation next : Compilation} {session last : Session ω} (settled : compilation.Settled)
    (behind : ∀ entry ∈ compilation.entries, entry.name < name)
    (found : discoverEntry setup name path compilation session = .ok next last) : next.Settled := by
  obtain ⟨file, graph, -, visits, rfl⟩ := discoverEntry_eq_ok found
  obtain ⟨indexed, present, assembled, rooted, owned, kept, sorted, known⟩ := settled
  have below : ∀ module ∈ compilation.graph.modules.toList, ∀ owner ∈ module.owners, owner < name := by
    intro module member owner mine
    obtain ⟨entry, listed, rfl⟩ := known module member owner mine
    exact behind entry listed
  have apart (entry : EntryPoint) (listed : entry ∈ compilation.entries) : entry.name ≠ name :=
    (String.ne_of_lt (behind entry listed))
  obtain ⟨ended, grows, mine⟩ := visits.growing
    (.start indexed present fun module member mine =>
      String.lt_irrefl _ (below module member name mine))
    (by simp [Discover.Setup.idOf]) (by simpa using .refl)
  have later := ended.indexed
  have own : graph.Owns name (setup.around.resolver.moduleId file) := mine _ List.mem_cons_self
  refine ⟨later, fun module member => ended.present module member not_false, ?_, ?_, ?_,
    grows.owners_ne_nil kept, grows.pairwise_owners below sorted, ?_⟩
  · have kept : compilation.chunks = compilation.entries.map fun entry =>
        .assemble entry.name entry.module graph := by
      rw [assembled]
      refine List.map_congr_left fun entry listed => ?_
      simp only [Chunk.assemble, grows.ownedBy_ids (apart entry listed)]
    dsimp only
    rw [kept, List.map_append, List.map_singleton]
  · intro entry listed
    rcases List.mem_append.1 listed with old | new
    · exact grows.contains_of_contains indexed later (rooted entry old)
    · obtain rfl := List.mem_singleton.1 new
      obtain ⟨module, looked, -⟩ := own
      obtain ⟨member, named⟩ := (later.find?_iff _ module).1 looked
      exact (later.contains_iff _).2 ⟨module, member, named⟩
  · intro entry listed id
    rcases List.mem_append.1 listed with old | new
    · exact grows.owns_iff_reaches indexed later present (apart entry old) (rooted entry old)
        (owned entry old)
    · obtain rfl := List.mem_singleton.1 new
      exact ended.owns_iff own id
  · intro module member owner holds
    rcases grows.mem_owners_cases member holds with rfl | ⟨old, listed, before⟩
    · exact ⟨_, List.mem_append_right _ (List.mem_singleton_self _), rfl⟩
    · obtain ⟨entry, among, named⟩ := known old listed owner before
      exact ⟨entry, List.mem_append_left _ among, named⟩

/-- Discovering entries in the order of their names leaves nothing half built, and each entry becomes an
entry point of its own. -/
theorem settled_discover {setup : Discover.Setup (Session ω)} (asked : List (String × Path))
    {compilation final : Compilation} {session last : Session ω} (settled : compilation.Settled)
    (ascending : asked.Pairwise fun earlier later => earlier.1 < later.1)
    (behind : ∀ entry ∈ compilation.entries, ∀ next ∈ asked, entry.name < next.1)
    (found : discover setup asked compilation session = .ok final last) :
    final.Settled ∧ ∃ added, final.entries = compilation.entries ++ added ∧
      List.Forall₂ (Locates setup compilation.root) asked added := by
  induction asked generalizing compilation session with
  | nil =>
    obtain ⟨rfl, -⟩ := pure_eq_ok.1 found
    exact ⟨settled, [], by simp, .nil⟩
  | cons first asked ih =>
    obtain ⟨name, path⟩ := first
    obtain ⟨next, middle, one, rest⟩ := bind_eq_ok.1 found
    obtain ⟨front, ascending⟩ := List.pairwise_cons.1 ascending
    have stepped := settled_discoverEntry settled
      (fun entry listed => behind entry listed _ List.mem_cons_self) one
    obtain ⟨file, graph, resolved, -, rfl⟩ := discoverEntry_eq_ok one
    obtain ⟨ended, added, entries, located⟩ := ih stepped ascending (by
      intro entry listed next among
      rcases List.mem_append.1 listed with old | new
      · exact behind entry old next (List.mem_cons_of_mem _ among)
      · obtain rfl := List.mem_singleton.1 new
        exact front next among) rest
    exact ⟨ended, _ :: added, by rw [entries, List.append_assoc, List.singleton_append],
      .cons ⟨rfl, resolved, rfl⟩ located⟩

theorem settled_new (config : Config) : (Compilation.new config).Settled where
  indexed := ModuleGraph.indexed_empty
  present := by simp [Compilation.new, ModuleGraph.empty]
  assembled := rfl
  rooted := by simp [Compilation.new]
  owned := by simp [Compilation.new]
  kept := by simp [Compilation.new, ModuleGraph.empty]
  sorted := by simp [Compilation.new, ModuleGraph.empty]
  known := by simp [Compilation.new, ModuleGraph.empty]

/-- The chunks of a compilation that is settled hold what the entries' modules reach. -/
theorem bundles_of_settled {compilation : Compilation} (settled : compilation.Settled) :
    List.Forall₂ (Bundles compilation.graph) compilation.entries compilation.chunks := by
  rw [settled.assembled, List.forall₂_map_right_iff]
  refine List.forall₂_same.2 fun entry listed => ?_
  have indexed := settled.indexed
  have ordered : ((compilation.graph.ownedBy entry.name).map Module.id).Sublist
      (compilation.graph.modules.toList.map Module.id) := List.filter_sublist.map _
  have member_iff (id : String) : id ∈ (compilation.graph.ownedBy entry.name).map Module.id ↔
      compilation.graph.Owns entry.name id := by
    simp only [List.mem_map, ModuleGraph.ownedBy, List.mem_filter, Module.isOwnedBy,
      List.contains_iff_mem, ModuleGraph.Owns, indexed.find?_iff]
    constructor
    · rintro ⟨module, ⟨member, mine⟩, named⟩
      exact ⟨module, ⟨member, named⟩, mine⟩
    · rintro ⟨module, ⟨member, named⟩, mine⟩
      exact ⟨module, ⟨member, mine⟩, named⟩
  refine ⟨rfl, rfl, ordered, indexed.nodup_ids.sublist ordered, ?_, ?_, ?_⟩
  · exact fun id => (member_iff id).trans (settled.owned entry listed id)
  · intro id holds
    obtain ⟨module, looked, -⟩ := (member_iff id).1 holds
    exact ⟨module, looked⟩
  · intro module member
    have looked := (indexed.find?_iff module.id module).2 ⟨member, rfl⟩
    refine Iff.trans ⟨fun mine => ⟨module, looked, mine⟩, ?_⟩ (member_iff module.id).symm
    rintro ⟨other, found, mine⟩
    rw [looked] at found
    cases found
    exact mine

/-- When the modules of all entries have been discovered, each entry's chunk holds, in the order of the
graph, what the entry's module reaches, and an entry owns a module exactly if its chunk holds it. -/
theorem discover_bundles {setup : Discover.Setup (Session ω)} {config : Config}
    {compilation : Compilation} {session last : Session ω}
    (found : discover setup config.entries.entries (.new config) session = .ok compilation last) :
    List.Forall₂ (Locates setup config.contextDirectory) config.entries.entries compilation.entries ∧
      List.Forall₂ (Bundles compilation.graph) compilation.entries compilation.chunks ∧
      ∀ module ∈ compilation.graph.modules.toList, module.owners ≠ [] ∧
        module.owners.Pairwise (· < ·) ∧ ∀ owner ∈ module.owners, owner ∈ config.entries.names := by
  obtain ⟨settled, added, entries, located⟩ := settled_discover config.entries.entries
    (settled_new config) config.entries.ascending (by simp [Compilation.new]) found
  obtain rfl : compilation.entries = added := entries
  refine ⟨located, bundles_of_settled settled, fun module member => ?_⟩
  refine ⟨settled.kept module member, settled.sorted module member, fun owner holds => ?_⟩
  obtain ⟨entry, listed, rfl⟩ := settled.known module member owner holds
  obtain ⟨place, bound, rfl⟩ := List.getElem_of_mem listed
  have within : place < config.entries.entries.length := located.length_eq ▸ bound
  have named : compilation.entries[place].name = config.entries.entries[place].1 :=
    ((List.forall₂_iff_get.1 located).2 place within bound).name
  rw [named]
  exact List.mem_map_of_mem (List.getElem_mem within)

/-- Two files that require a third one, which requires the second of them. -/
def circleDisk : FileSystem where
  nodes := [
    (["left"], .file "require('./shared')".toUTF8),
    (["right"], .file "require('./shared')".toUTF8),
    (["shared"], .file "require('./right')".toUTF8)]
  workingDirectory := []

def circleSetup : Discover.Setup (Session Unit) where
  around := { disk := circleDisk, resolver := .new ⟨"/"⟩ [], hooks := Hooks.new.imports }
  pipeline := ⟨[]⟩
  transforms := {}

def circleConfig : Config where
  entry := .named (.ofList [("left", "left"), ("right", "right")])
  root := ⟨"/"⟩

/-- A bundler for two files that share a circle. -/
def circleBundler : Bundler Unit := withPlugins circleConfig []

def chunkModules : EStateM.Result BuildError (Session Unit) Compilation → List (List String)
  | .ok compilation _ => compilation.chunks.map (·.modules)
  | .error _ _ => []

theorem circle_bundles : ∃ compilation last,
    discover circleSetup circleConfig.entries.entries (.new circleConfig) (.new ()) =
        .ok compilation last ∧
      compilation.chunks.map (·.modules) =
        [["./left", "./shared", "./right"], ["./shared", "./right"]] ∧
      List.Forall₂ (Bundles compilation.graph) compilation.entries compilation.chunks := by
  have modules : chunkModules (discover circleSetup circleConfig.entries.entries
      (.new circleConfig) (.new ())) =
        [["./left", "./shared", "./right"], ["./shared", "./right"]] := by decide +kernel
  cases found : discover circleSetup circleConfig.entries.entries (.new circleConfig) (.new ()) with
  | error error last =>
    rw [found] at modules
    cases modules
  | ok compilation last =>
    rw [found] at modules
    exact ⟨compilation, last, rfl, modules, (discover_bundles found).2.1⟩

end Bundler

end ModuleBundler
