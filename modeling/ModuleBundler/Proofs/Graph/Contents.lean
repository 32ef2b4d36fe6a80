import ModuleBundler.Proofs.Graph.Growth

/-!
What the modules of a graph are, whoever owns them. Becoming an owner changes nothing of it, so that only
insertions count.
-/

namespace ModuleBundler

namespace Module

def bare (module : Module) : Module :=
  { module with owners := [] }

variable {module other : Module}

theorem bare_eq_iff : module.bare = other.bare ↔ module.id = other.id ∧ module.kind = other.kind ∧
    module.source = other.source ∧ module.dependencies = other.dependencies := by
  simp [bare]

theorem isExternal_eq_false_iff : module.isExternal = false ↔ ∃ path, module.kind = .normal path := by
  unfold isExternal
  cases module.kind <;> simp

end Module

namespace ModuleGraph

def contents (graph : ModuleGraph) : List Module :=
  graph.modules.toList.map Module.bare

/-- Those of them that are made of files. -/
def normalContents (graph : ModuleGraph) : List Module :=
  graph.contents.filter (!·.isExternal)

variable {graph : ModuleGraph}

theorem mem_contents {module : Module} :
    module ∈ graph.contents ↔ ∃ found ∈ graph.modules.toList, found.bare = module :=
  List.mem_map

theorem map_id_contents (graph : ModuleGraph) :
    graph.contents.map Module.id = graph.modules.toList.map Module.id := by
  rw [contents, List.map_map]
  rfl

theorem contents_addOwner (indexed : graph.Indexed) (id entry : String) :
    (graph.addOwner id entry).contents = graph.contents := by
  rw [contents, contents, toList_addOwner indexed, List.map_map]
  apply List.map_congr_left
  intro module _
  rw [Function.comp_apply, tagIf]
  split <;> rfl

theorem contents_insert {module : Module} (fresh : graph.contains module.id = false) :
    (graph.insert module).2.contents = graph.contents ++ [module.bare] := by
  rw [contents, contents, toList_insert fresh, List.map_append, List.map_singleton]

theorem mem_contents_insert {module : Module} (fresh : graph.contains module.id = false) :
    module.bare ∈ (graph.insert module).2.contents := by
  rw [contents_insert fresh]
  exact List.mem_append_right _ (List.mem_singleton_self _)

theorem Indexed.contains_iff_mem_ids (indexed : graph.Indexed) (id : String) :
    graph.contains id = true ↔ id ∈ graph.contents.map Module.id := by
  rw [map_id_contents, indexed.contains_iff, List.mem_map]

theorem Indexed.bare_find? (indexed : graph.Indexed) {id : String} {module : Module} :
    (∃ found, graph.find? id = some found ∧ found.bare = module) ↔
      module ∈ graph.contents ∧ module.id = id := by
  constructor
  · rintro ⟨found, looked, rfl⟩
    obtain ⟨member, named⟩ := (indexed.find?_iff id found).1 looked
    exact ⟨mem_contents.2 ⟨found, member, rfl⟩, named⟩
  · rintro ⟨listed, named⟩
    obtain ⟨found, member, rfl⟩ := mem_contents.1 listed
    exact ⟨found, (indexed.find?_iff id found).2 ⟨member, named⟩, rfl⟩

theorem Indexed.dependenciesOf_eq (indexed : graph.Indexed) {module : Module}
    (listed : module ∈ graph.contents) : graph.dependenciesOf module.id = module.dependencies := by
  obtain ⟨found, looked, rfl⟩ := indexed.bare_find?.2 ⟨listed, rfl⟩
  rw [dependenciesOf, looked]
  rfl

theorem reaches_of_agree {other : ModuleGraph} {held : String → Prop}
    (agree : ∀ id, held id → graph.dependenciesOf id = other.dependenciesOf id)
    (closed : ∀ id, held id → ∀ next ∈ graph.dependenciesOf id, held next) {root id : String}
    (rooted : held root) (reaches : graph.Reaches root id) : held id ∧ other.Reaches root id := by
  induction reaches with
  | refl => exact ⟨rooted, .refl⟩
  | @tail middle last _ requires ih =>
    obtain ⟨there, reached⟩ := ih
    refine ⟨closed middle there last requires, reached.tail ?_⟩
    rw [Requires, ← agree middle there]
    exact requires

/-- What a graph reaches is what one with its modules and others reaches. -/
theorem Indexed.reaches_iff_of_subset {part : ModuleGraph} (indexed : part.Indexed)
    (also : graph.Indexed) (within : part.contents ⊆ graph.contents)
    (present : ∀ module ∈ part.contents, ∀ id ∈ module.dependencies,
      id ∈ part.contents.map Module.id)
    {root : String} (rooted : root ∈ part.contents.map Module.id) (id : String) :
    part.Reaches root id ↔ graph.Reaches root id := by
  have agree (key : String) (there : key ∈ part.contents.map Module.id) :
      part.dependenciesOf key = graph.dependenciesOf key := by
    obtain ⟨module, member, rfl⟩ := List.mem_map.1 there
    rw [indexed.dependenciesOf_eq member, also.dependenciesOf_eq (within member)]
  have closed (key : String) (there : key ∈ part.contents.map Module.id) (next : String)
      (requires : next ∈ part.dependenciesOf key) : next ∈ part.contents.map Module.id := by
    obtain ⟨module, member, rfl⟩ := List.mem_map.1 there
    rw [indexed.dependenciesOf_eq member] at requires
    exact present module member next requires
  constructor
  · exact fun reaches => (reaches_of_agree agree closed rooted reaches).2
  · intro reaches
    refine (reaches_of_agree (fun key there => (agree key there).symm) ?_ rooted reaches).2
    intro key there next requires
    rw [← agree key there] at requires
    exact closed key there next requires

end ModuleGraph

end ModuleBundler
