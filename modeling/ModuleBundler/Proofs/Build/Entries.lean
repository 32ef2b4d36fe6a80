import ModuleBundler.Proofs.Build.Chunks
import ModuleBundler.Proofs.Discover.Preorder
import ModuleBundler.Proofs.Discover.Request

/-!
The discovery of all entries as a relation: one walk after another, each from the file that an entry was
resolved to.
-/

namespace ModuleBundler

open Discover (Explores Met Reading Readings Visits)

def EntryPoint.need (entry : EntryPoint) : Dependency :=
  ⟨entry.module, entry.path.text, .file entry.path⟩

theorem exists_of_forall₂ {α β : Type} {relates : α → β → Prop} {first : List α} {second : List β}
    (all : List.Forall₂ relates first second) {one : α} (member : one ∈ first) :
    ∃ other ∈ second, relates one other := by
  induction all with
  | nil => cases member
  | @cons _ other _ _ head _ ih =>
    rcases List.mem_cons.1 member with rfl | later
    · exact ⟨other, List.mem_cons_self, head⟩
    · obtain ⟨partner, listed, related⟩ := ih later
      exact ⟨partner, List.mem_cons_of_mem _ listed, related⟩

namespace Bundler

variable {ω : Type} {setup : Discover.Setup (Session ω)} {root : Path} {asked : List (String × Path)}
  {graph final : ModuleGraph} {session last : Session ω} {entries : List EntryPoint}

/-- The part of a build that finds the modules of all entries. -/
def construct (bundler : Bundler ω) (disk : FileSystem) (pipeline : TransformPipeline) :
    EStateM BuildError (Session ω) Compilation :=
  discover (bundler.setup disk bundler.config.contextDirectory pipeline)
    bundler.config.entries.entries (.new bundler.config)

theorem mem_ids_of_settled {compilation : Compilation} (settled : compilation.Settled) :
    ∀ module ∈ compilation.graph.contents, ∀ id ∈ module.dependencies,
      id ∈ compilation.graph.contents.map Module.id := by
  intro module member id required
  obtain ⟨found, listed, rfl⟩ := ModuleGraph.mem_contents.1 member
  exact (settled.indexed.contains_iff_mem_ids id).1 (settled.present found listed id required)

/-- The walks of a discovery, which make entry points of the entries asked for. -/
inductive Enters (setup : Discover.Setup (Session ω)) (root : Path) :
    List (String × Path) → ModuleGraph → Session ω → List EntryPoint → ModuleGraph → Session ω → Prop
    where
  | done {graph : ModuleGraph} {session : Session ω} :
      Enters setup root [] graph session [] graph session
  | next {one : String × Path} {asked : List (String × Path)} {entry : EntryPoint}
      {entries : List EntryPoint} {graph middle final : ModuleGraph} {session between last : Session ω}
      (located : Locates setup root one entry)
      (visits : Visits setup entry.name [entry.need] graph session middle between)
      (rest : Enters setup root asked middle between entries final last) :
      Enters setup root (one :: asked) graph session (entry :: entries) final last

/-- A discovery that succeeds walks from one entry after another. -/
theorem enters_of_discover {compilation ended : Compilation}
    (found : discover setup asked compilation session = .ok ended last) :
    ∃ entries, ended.entries = compilation.entries ++ entries ∧
      Enters setup compilation.root asked compilation.graph session entries ended.graph last := by
  induction asked generalizing compilation session with
  | nil =>
    obtain ⟨rfl, rfl⟩ := pure_eq_ok.1 found
    exact ⟨[], by simp, .done⟩
  | cons one asked ih =>
    obtain ⟨next, middle, first, rest⟩ := bind_eq_ok.1 found
    obtain ⟨file, graph, resolved, visits, rfl⟩ := discoverEntry_eq_ok first
    obtain ⟨entries, listed, enters⟩ := ih rest
    refine ⟨⟨one.1, file, setup.around.resolver.moduleId file⟩ :: entries, ?_, ?_⟩
    · rw [listed, List.append_assoc, List.singleton_append]
    · exact .next ⟨rfl, resolved, rfl⟩ visits enters

theorem discover_shape {compilation ended : Compilation}
    (found : discover setup asked compilation session = .ok ended last) :
    ended = { compilation with
      graph := ended.graph, entries := ended.entries, chunks := ended.chunks } := by
  induction asked generalizing compilation session with
  | nil =>
    obtain ⟨rfl, -⟩ := pure_eq_ok.1 found
    rfl
  | cons one asked ih =>
    obtain ⟨next, middle, first, rest⟩ := bind_eq_ok.1 found
    obtain ⟨file, graph, -, -, rfl⟩ := discoverEntry_eq_ok first
    have shape := ih rest
    exact shape

theorem root_of_discover {compilation ended : Compilation}
    (found : discover setup asked compilation session = .ok ended last) :
    ended.root = compilation.root := by
  rw [discover_shape found]

theorem Enters.extends (enters : Enters setup root asked graph session entries final last)
    (indexed : graph.Indexed) : final.Indexed ∧ graph.contents <+: final.contents := by
  induction enters with
  | done => exact ⟨indexed, List.prefix_rfl⟩
  | next _ visits _ ih =>
    obtain ⟨halfway, more⟩ := visits.extends indexed
    obtain ⟨ended, others⟩ := ih halfway
    exact ⟨ended, more.trans others⟩

namespace Enters

theorem located (enters : Enters setup root asked graph session entries final last) :
    List.Forall₂ (Locates setup root) asked entries := by
  induction enters with
  | done => exact .nil
  | next located _ _ ih => exact .cons located ih

theorem exists_located (enters : Enters setup root asked graph session entries final last)
    {entry : EntryPoint} (member : entry ∈ entries) : ∃ one ∈ asked, Locates setup root one entry :=
  exists_of_forall₂ enters.located.flip member

theorem names (enters : Enters setup root asked graph session entries final last) :
    entries.map (·.name) = asked.map Prod.fst := by
  induction enters with
  | done => rfl
  | next located _ _ ih => rw [List.map_cons, List.map_cons, located.name, ih]

/-- The modules of all entries stand in depth-first order, from the module of one entry after another. -/
theorem depthFirst (enters : Enters setup root asked graph session entries final last)
    (indexed : graph.Indexed) {whole : ModuleGraph}
    (agrees : ∀ module ∈ final.contents, whole.dependenciesOf module.id = module.dependencies) :
    whole.DepthFirst (entries.map (·.module)) (graph.contents.map Module.id)
      (final.contents.map Module.id) := by
  induction enters with
  | done => exact .done
  | @next one asked entry entries graph middle final session between last located visits rest ih =>
    obtain ⟨halfway, -⟩ := visits.extends indexed
    obtain ⟨-, more⟩ := rest.extends halfway
    have first := visits.depthFirst indexed fun module member => agrees module (more.subset member)
    have own : [entry.need].map setup.idOf = [entry.module] := by
      rw [located.module]
      rfl
    rw [own] at first
    exact first.append (ih halfway agrees)

/-- A discovery reads one file for each module that it makes of a file, and in this order. -/
theorem explores (enters : Enters setup root asked graph session entries final last)
    (indexed : graph.Indexed) {sound : Path → Prop} (keeps : setup.Keeps sound)
    (starts : ∀ entry ∈ entries, sound entry.path) :
    ∃ readings, Readings setup readings session last ∧
      Explores setup (entries.map EntryPoint.need) graph final readings ∧
      ∀ reading ∈ readings, sound reading.path := by
  induction enters with
  | done => exact ⟨[], .done _, .start setup _, by simp⟩
  | @next one asked entry entries graph middle final session between last located visits rest ih =>
    obtain ⟨halfway, -⟩ := visits.extends indexed
    obtain ⟨inside, chain, explores, all⟩ := visits.explores indexed keeps (by
      rintro need member path file
      obtain rfl := List.mem_singleton.1 member
      cases file
      exact starts entry List.mem_cons_self)
    obtain ⟨others, behind, further, more⟩ := ih halfway fun other member =>
      starts other (List.mem_cons_of_mem _ member)
    refine ⟨inside ++ others, chain.append behind, explores.trans further, ?_⟩
    intro reading member
    rcases List.mem_append.1 member with first | later
    · exact all reading first
    · exact more reading later

end Enters

theorem explores_of_discover {config : Config} {compilation : Compilation}
    (found : discover setup asked (.new config) session = .ok compilation last) :
    ∃ readings, Readings setup readings session last ∧
      Explores setup (compilation.entries.map EntryPoint.need) .empty compilation.graph readings := by
  obtain ⟨entries, listed, enters⟩ := enters_of_discover found
  obtain rfl : compilation.entries = entries := listed
  have keeps : setup.Keeps fun _ => True := fun _ _ _ _ _ => trivial
  obtain ⟨readings, chain, explores, -⟩ :=
    enters.explores ModuleGraph.indexed_empty keeps fun _ _ => trivial
  exact ⟨readings, chain, explores⟩

theorem exists_request_of_discover {config : Config} {compilation : Compilation}
    (found : discover setup asked (.new config) session = .ok compilation last) {module : Module}
    (member : module ∈ compilation.graph.contents) {global : String}
    (kind : module.kind = .external global) :
    ∃ request ∈ setup.graphRequests compilation.graph, module.id = externalId request := by
  obtain ⟨readings, chain, explores⟩ := explores_of_discover found
  refine explores.exists_request chain (fun need start => ?_) member kind
  obtain ⟨entry, -, rfl⟩ := List.mem_map.1 start
  exact ⟨entry.path, rfl⟩

end Bundler

end ModuleBundler
