import ModuleBundler.Proofs.Discover.Counting
import ModuleBundler.Proofs.Discover.Rebuild

/-!
When an id means one module. If no two files share an id and a request is claimed everywhere or nowhere,
then the module that goes by the id of an import is the one that the import leads to, so that whatever a
discovery has found is complete.
-/

namespace ModuleBundler

namespace Discover

variable {σ : Type} {setup : Setup σ}

def Setup.Canonical (setup : Setup σ) (path : Path) : Prop :=
  setup.Rooted path ∧ path = (setup.around.disk.placeOf path).path

theorem canonical_of_resolve? {root path : Path} {request : String} (absolute : root.isAbsolute = true)
    (clean : ∀ suffix ∈ setup.around.resolver.extensions, '/' ∉ suffix.toList)
    (found : setup.around.resolver.resolve? setup.around.disk request root = some path) :
    setup.Canonical path :=
  ⟨⟨Resolver.isAbsolute_of_resolve? absolute found, Resolver.isFile_of_resolve? found⟩,
    Resolver.eq_path_of_resolve? absolute clean found⟩

theorem keeps_canonical
    (clean : ∀ suffix ∈ setup.around.resolver.extensions, '/' ∉ suffix.toList) :
    setup.Keeps setup.Canonical := by
  rintro path request found ⟨⟨absolute, isFile⟩, -⟩ looked
  exact canonical_of_resolve? (Path.isAbsolute_parent absolute isFile) clean looked

def Setup.Meant (setup : Setup σ) (claim : String → Option ExternalModule) (need : Dependency) :
    Prop :=
  match need.target with
  | .file path => setup.Canonical path ∧ need.id = setup.around.resolver.moduleId path
  | .external library => claim need.request = some library ∧ need.id = externalId need.request

/-- What discoveries rely on to find the same modules: hooks claim a request or do not, and different files
have different ids. -/
structure Setup.Faithful (setup : Setup σ) (claim : String → Option ExternalModule) : Prop where
  claims : ∀ data state, (setup.around.hooks.factorize.ask data state).1 = claim data.request
  clean : ∀ suffix ∈ setup.around.resolver.extensions, '/' ∉ suffix.toList
  apart : ∀ path other, setup.Canonical path → setup.Canonical other →
    setup.around.resolver.moduleId path = setup.around.resolver.moduleId other → path = other

variable {claim : String → Option ExternalModule}

theorem faithful_of_backslashFree {root : Path} {extensions : List String}
    (resolver : setup.around.resolver = .new root extensions) (rooted : root.isAbsolute = true)
    (clean : ∀ suffix ∈ extensions, '/' ∉ suffix.toList) (free : setup.around.disk.BackslashFree)
    (claims : ∀ data state, (setup.around.hooks.factorize.ask data state).1 = claim data.request) :
    setup.Faithful claim := by
  refine ⟨claims, by rwa [resolver], ?_⟩
  rintro path other ⟨⟨absolute, isFile⟩, own⟩ ⟨⟨also, held⟩, straight⟩ same
  rw [resolver] at same
  have place := Resolver.placeOf_eq_of_moduleId_eq rooted extensions free absolute isFile also held same
  rw [own, straight, place]

theorem Setup.Faithful.meant (faithful : setup.Faithful claim) {reading : Reading} {before after : σ}
    (takes : reading.Takes setup before after) (own : setup.Canonical reading.path)
    {one : Import.Resolved} (member : one ∈ reading.imports) : setup.Meant claim one.dependency := by
  obtain ⟨request, start, final, resolving⟩ := takes.resolve member
  obtain ⟨shown, answer, -, asked, meant⟩ := Import.resolve_eq_ok_iff.1 resolving
  have answers := faithful.claims ⟨request, reading.path.parent?.getD ⟨"."⟩⟩ shown
  rw [asked] at answers
  unfold Setup.Meant
  cases answer with
  | some library =>
    rw [← Option.some.inj meant]
    exact ⟨answers.symm, rfl⟩
  | none =>
    obtain ⟨path, found, same⟩ := Import.meaning?_none_eq_some.1 meant
    rw [← same]
    exact ⟨keeps_canonical faithful.clean _ _ _ own found, rfl⟩

/-- Of all modules that imports lead to only one goes by the id of an import. -/
theorem Setup.Faithful.answers (faithful : setup.Faithful claim) {need other : Dependency}
    (meant : setup.Meant claim need) (also : setup.Meant claim other) {module : Module}
    (made : setup.Answers other module) (same : need.id = other.id) : setup.Answers need module := by
  unfold Setup.Meant at meant also
  unfold Setup.Answers at made ⊢
  cases target : need.target with
  | file path =>
    rw [target] at meant
    cases goal : other.target with
    | file found =>
      rw [goal] at also made
      obtain ⟨canonical, named⟩ := meant
      obtain ⟨straight, known⟩ := also
      obtain rfl := faithful.apart path found canonical straight (by rw [← named, same, known])
      exact made
    | external library =>
      rw [goal] at also
      exact absurd (meant.2.symm.trans (same.trans also.2)) (moduleId_ne_externalId _ _ _)
  | external library =>
    rw [target] at meant
    cases goal : other.target with
    | file found =>
      rw [goal] at also
      exact absurd (also.2.symm.trans (same.symm.trans meant.2)) (moduleId_ne_externalId _ _ _)
    | external another =>
      rw [goal] at also made
      obtain ⟨claimed, named⟩ := meant
      obtain ⟨also, known⟩ := also
      have request := externalId_injective (named.symm.trans (same.trans known))
      rw [request, also] at claimed
      cases claimed
      rw [same]
      exact made

theorem Setup.Meant.id_eq {need : Dependency} (meant : setup.Meant claim need) {module : Module}
    (made : setup.Answers need module) : module.id = need.id := by
  unfold Setup.Meant at meant
  unfold Setup.Answers at made
  cases target : need.target with
  | file path =>
    rw [target] at meant made
    exact made.1.trans meant.2.symm
  | external library =>
    rw [target] at made
    rw [made]
    rfl

/-- A discovery from some imports has read files and put modules into a graph, all of which are what imports
lead to. -/
structure Setup.Finds (setup : Setup σ) (claim : String → Option ExternalModule)
    (needs : List Dependency) (graph : ModuleGraph) (readings : List Reading) : Prop where
  chain : ∃ start last, Readings setup readings start last
  canonical : ∀ reading ∈ readings, setup.Canonical reading.path
  meant : ∀ need ∈ needs, setup.Meant claim need
  explores : Explores setup needs .empty graph readings

namespace Setup.Finds

variable {needs : List Dependency} {graph : ModuleGraph} {readings : List Reading}

theorem meant_of_met (finds : setup.Finds claim needs graph readings) (faithful : setup.Faithful claim)
    {need : Dependency} (met : Met needs readings need) : setup.Meant claim need := by
  rcases met with first | ⟨reading, listed, one, member, rfl⟩
  · exact finds.meant need first
  · obtain ⟨start, last, chain⟩ := finds.chain
    obtain ⟨before, after, takes⟩ := chain.takes listed
    exact faithful.meant takes (finds.canonical reading listed) member

theorem exists_answered (finds : setup.Finds claim needs graph readings)
    (faithful : setup.Faithful claim) {module : Module} (member : module ∈ graph.contents) :
    ∃ need, setup.Meant claim need ∧ setup.Answers need module := by
  obtain ⟨need, met, made⟩ := finds.explores.exists_met member
  refine ⟨need, finds.meant_of_met faithful met, ?_⟩
  unfold Setup.Answers
  rcases made with ⟨reading, read, file, rfl⟩ | ⟨library, claimed, rfl⟩
  · rw [file]
    exact ⟨rfl, rfl⟩
  · rw [claimed]

theorem exists_answer (finds : setup.Finds claim needs graph readings)
    (faithful : setup.Faithful claim) {need : Dependency} (own : setup.Meant claim need)
    (present : need.id ∈ graph.contents.map Module.id) :
    ∃ module ∈ graph.contents, setup.Answers need module := by
  obtain ⟨module, member, named⟩ := List.mem_map.1 present
  obtain ⟨other, also, made⟩ := finds.exists_answered faithful member
  exact ⟨module, member, faithful.answers own also made (named.symm.trans (also.id_eq made))⟩

theorem complete (finds : setup.Finds claim needs graph readings) (faithful : setup.Faithful claim)
    (steady : ∀ path, Steady (load setup path))
    (present : ∀ module ∈ graph.contents, ∀ id ∈ module.dependencies,
      id ∈ graph.contents.map Module.id) : setup.Complete graph.contents := by
  intro module member path kind
  obtain ⟨reading, read, rfl⟩ :=
    finds.explores.exists_reading member (Module.isExternal_eq_false_iff.2 ⟨path, kind⟩)
  cases kind
  obtain ⟨start, last, chain⟩ := finds.chain
  obtain ⟨before, after, takes⟩ := chain.takes read
  refine ⟨reading, rfl, (steady reading.path).eq_ok takes.loaded, fun need required => ?_⟩
  obtain ⟨one, among, rfl⟩ := List.mem_map.1 (Import.distinct_subset _ _ required)
  exact finds.exists_answer faithful (faithful.meant takes (finds.canonical reading read) among)
    (present _ member _ (List.mem_map_of_mem required))

end Setup.Finds

end Discover

end ModuleBundler
