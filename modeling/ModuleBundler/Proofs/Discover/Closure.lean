import ModuleBundler.Proofs.Discover.Visit
import ModuleBundler.Proofs.Graph.Growth
import ModuleBundler.Proofs.Import.Extract

/-!
What an entry owns while its modules are being discovered. A module is open from when it is put into the
graph until all that it requires has been visited; every other module that the entry owns has all it
requires owned by the entry as well.
-/

namespace ModuleBundler.Discover

variable {σ : Type}

structure Growing (entry root : String) (isOpen : String → Prop) (graph : ModuleGraph) : Prop where
  indexed : graph.Indexed
  present : ∀ module ∈ graph.modules.toList, ¬isOpen module.id →
    ∀ id ∈ module.dependencies, graph.contains id = true
  owned : ∀ module ∈ graph.modules.toList, entry ∈ module.owners → ¬isOpen module.id →
    ∀ id ∈ module.dependencies, graph.Owns entry id
  busy : ∀ module ∈ graph.modules.toList, isOpen module.id → entry ∈ module.owners
  reached : ∀ id, graph.Owns entry id → graph.Reaches root id

namespace Growing

variable {entry root : String} {isOpen : String → Prop} {graph : ModuleGraph}

theorem start (indexed : graph.Indexed) (present : ∀ module ∈ graph.modules.toList,
      ∀ id ∈ module.dependencies, graph.contains id = true)
    (unowned : ∀ module ∈ graph.modules.toList, entry ∉ module.owners) :
    Growing entry root (fun _ => False) graph := by
  refine ⟨indexed, fun module member _ => present module member,
    fun module member mine => absurd mine (unowned module member), fun _ _ none => none.elim, ?_⟩
  rintro id ⟨module, looked, mine⟩
  exact absurd mine (unowned module ((indexed.find?_iff id module).1 looked).1)

theorem owns_iff (growing : Growing entry root (fun _ => False) graph)
    (rooted : graph.Owns entry root) (id : String) : graph.Owns entry id ↔ graph.Reaches root id := by
  refine ⟨growing.reached id, fun reaches => ?_⟩
  induction reaches with
  | refl => exact rooted
  | tail _ requires ih =>
    obtain ⟨module, looked, holds⟩ := ih
    obtain ⟨member, rfl⟩ := (growing.indexed.find?_iff _ module).1 looked
    exact growing.owned module member holds not_false _
      ((ModuleGraph.requires_iff growing.indexed member _).1 requires)

/-- Tagging a module tags all that it requires: what the entry did not own is not open. -/
theorem addOwner (growing : Growing entry root isOpen graph) {id : String}
    (known : graph.contains id = true) (reached : graph.Reaches root id) :
    Growing entry root isOpen (graph.addOwner id entry) ∧ (graph.addOwner id entry).Owns entry id := by
  have indexed := growing.indexed
  have later := indexed.addOwner id entry
  have grows := ModuleGraph.Grows.addOwner indexed id entry
  have former {after : Module} (member : after ∈ (graph.addOwner id entry).modules.toList) :
      ∃ module ∈ graph.modules.toList,
        ModuleGraph.tagIf entry (graph.OpenWay entry id module.id) module = after := by
    rwa [ModuleGraph.toList_addOwner indexed, List.mem_map] at member
  refine ⟨?growing, (ModuleGraph.owns_addOwner_iff indexed id entry id).2 <|
    (ModuleGraph.lacks_or_owns indexed known entry).symm.imp_right .here⟩
  constructor
  case indexed => exact later
  case present =>
    intro after member closed key required
    obtain ⟨module, listed, rfl⟩ := former member
    rw [ModuleGraph.tagIf_id] at closed
    rw [ModuleGraph.tagIf_dependencies] at required
    rw [ModuleGraph.contains_addOwner indexed]
    exact growing.present module listed closed key required
  case owned =>
    intro after member mine closed key required
    obtain ⟨module, listed, rfl⟩ := former member
    rw [ModuleGraph.tagIf_id] at closed
    rw [ModuleGraph.tagIf_dependencies] at required
    rw [ModuleGraph.owns_addOwner_iff indexed]
    rcases ModuleGraph.mem_owners_tagIf.1 mine with before | ⟨way, -⟩
    · exact .inl (growing.owned module listed before closed key required)
    · have there := growing.present module listed closed key required
      have requires := (ModuleGraph.requires_iff indexed listed key).2 required
      exact (ModuleGraph.lacks_or_owns indexed there entry).symm.imp_right (way.onward requires)
  case busy =>
    intro after member stillOpen
    obtain ⟨module, listed, rfl⟩ := former member
    rw [ModuleGraph.tagIf_id] at stillOpen
    exact ModuleGraph.mem_owners_tagIf.2 (.inl (growing.busy module listed stillOpen))
  case reached =>
    intro key owns
    rcases (ModuleGraph.owns_addOwner_iff indexed id entry key).1 owns with before | way
    · exact grows.reaches indexed later (growing.reached key before)
    · exact grows.reaches indexed later (reached.trans way.reaches)

/-- A module that is put into the graph is open. -/
theorem insert (growing : Growing entry root isOpen graph) (module : Module)
    (absent : graph.contains module.id = false) (owners : module.owners = [entry])
    (reached : graph.Reaches root module.id) :
    Growing entry root (fun id => isOpen id ∨ id = module.id) (graph.insert module).2 := by
  have indexed := growing.indexed
  have later := indexed.insert module
  have grows := ModuleGraph.Grows.insert absent owners
  have member_iff (other : Module) : other ∈ (graph.insert module).2.modules.toList ↔
      other ∈ graph.modules.toList ∨ other = module := by
    rw [ModuleGraph.toList_insert absent, List.mem_append, List.mem_singleton]
  refine ⟨later, ?_, ?_, ?_, ?_⟩
  · intro other member closed key required
    rcases (member_iff other).1 member with old | rfl
    · exact grows.contains_of_contains indexed later
        (growing.present other old (fun before => closed (.inl before)) key required)
    · exact absurd (.inr rfl) closed
  · intro other member mine closed key required
    rcases (member_iff other).1 member with old | rfl
    · exact grows.owns indexed later
        (growing.owned other old mine (fun before => closed (.inl before)) key required)
    · exact absurd (.inr rfl) closed
  · intro other member stillOpen
    rcases (member_iff other).1 member with old | rfl
    · rcases stillOpen with before | same
      · exact growing.busy other old before
      · have taken := (indexed.contains_iff module.id).2 ⟨other, old, same⟩
        rw [absent] at taken
        cases taken
    · simp [owners]
  · rintro key ⟨other, found, mine⟩
    obtain ⟨member, rfl⟩ := (later.find?_iff key other).1 found
    rcases (member_iff other).1 member with old | rfl
    · exact grows.reaches indexed later
        (growing.reached _ ⟨other, (indexed.find?_iff _ _).2 ⟨old, rfl⟩, mine⟩)
    · exact grows.reaches indexed later reached

/-- A module is closed once all that it requires is owned. -/
theorem close {id : String} (growing : Growing entry root (fun key => isOpen key ∨ key = id) graph)
    (done : ∀ module ∈ graph.modules.toList, module.id = id →
      ∀ key ∈ module.dependencies, graph.Owns entry key) : Growing entry root isOpen graph := by
  have indexed := growing.indexed
  refine ⟨indexed, ?_, ?_, ?_, growing.reached⟩
  · intro module member closed key required
    by_cases same : module.id = id
    · obtain ⟨other, found, -⟩ := done module member same key required
      obtain ⟨among, named⟩ := (indexed.find?_iff key other).1 found
      exact (indexed.contains_iff key).2 ⟨other, among, named⟩
    · exact growing.present module member (not_or.2 ⟨closed, same⟩) key required
  · intro module member mine closed key required
    by_cases same : module.id = id
    · exact done module member same key required
    · exact growing.owned module member mine (not_or.2 ⟨closed, same⟩) key required
  · exact fun module member before => growing.busy module member (.inl before)

end Growing

/-- Every import that a file turns out to have goes by the id of the module that it leads to. -/
theorem idOf_of_load {setup : Setup σ} {path : Path} {state read : σ} {extracted : Import.Extracted}
    (source : load setup path state = .ok extracted read) {need : Dependency}
    (member : need ∈ extracted.dependencies) : setup.idOf need = need.id := by
  unfold load at source
  cases reading : setup.around.disk.readText path with
  | error cause =>
    rw [reading] at source
    cases source
  | ok raw =>
    rw [reading] at source
    dsimp only at source
    cases applied : setup.pipeline.apply setup.transforms path raw with
    | error error =>
      rw [applied] at source
      cases source
    | ok text =>
      rw [applied] at source
      obtain ⟨_, _, _, resolved⟩ := Import.resolve_of_mem_extract source member
      rcases Import.resolve_eq_ok resolved with ⟨provided, rfl⟩ | ⟨file, -, rfl⟩ <;> rfl

/-- What a walk over imports does to a graph: it only adds to it, what was open still is, and the entry owns
all that is imported. -/
structure Walked (entry root : String) (isOpen : String → Prop) (needs : List Dependency)
    (graph final : ModuleGraph) : Prop where
  growing : Growing entry root isOpen final
  grows : ModuleGraph.Grows entry graph final
  owns : ∀ need ∈ needs, final.Owns entry need.id

namespace Walked

variable {entry root : String} {isOpen : String → Prop} {need : Dependency} {needs : List Dependency}
  {graph middle final : ModuleGraph}

theorem cons (first : Walked entry root isOpen [need] graph middle)
    (rest : Walked entry root isOpen needs middle final) :
    Walked entry root isOpen (need :: needs) graph final := by
  refine ⟨rest.growing, first.grows.trans rest.grows, fun other member => ?_⟩
  rcases List.mem_cons.1 member with rfl | later
  · exact rest.grows.owns first.growing.indexed rest.growing.indexed (first.owns other (.head _))
  · exact rest.owns other later

theorem reaches (walked : Walked entry root isOpen [need] graph middle) (indexed : graph.Indexed)
    (reached : ∀ other ∈ need :: needs, graph.Reaches root other.id) :
    ∀ other ∈ needs, middle.Reaches root other.id :=
  fun other member => walked.grows.reaches indexed walked.growing.indexed (reached other (.tail _ member))

end Walked

namespace Growing

variable {entry root : String} {isOpen : String → Prop} {graph middle : ModuleGraph} {need : Dependency}

theorem walked_known (growing : Growing entry root isOpen graph) (present : graph.contains need.id = true)
    (reached : graph.Reaches root need.id) :
    Walked entry root isOpen [need] graph (graph.addOwner need.id entry) := by
  obtain ⟨next, mine⟩ := growing.addOwner present reached
  exact ⟨next, .addOwner growing.indexed need.id entry, by simpa using mine⟩

/-- An import whose module is put into the graph, with all that it imports. -/
theorem walked_insert (growing : Growing entry root isOpen graph) {module : Module}
    (imports : List Dependency) (named : need.id = module.id) (absent : graph.contains module.id = false)
    (owners : module.owners = [entry]) (dependencies : module.dependencies = imports.map Dependency.id)
    (reached : graph.Reaches root module.id)
    (inner : Growing entry root (fun id => isOpen id ∨ id = module.id) (graph.insert module).2 →
      (∀ other ∈ imports, (graph.insert module).2.Reaches root other.id) →
      Walked entry root (fun id => isOpen id ∨ id = module.id) imports (graph.insert module).2 middle) :
    Walked entry root isOpen [need] graph middle := by
  have grows : ModuleGraph.Grows entry graph (graph.insert module).2 := .insert absent owners
  have inserted := growing.insert module absent owners reached
  have member : module ∈ (graph.insert module).2.modules.toList := by
    rw [ModuleGraph.toList_insert absent]
    simp
  -- the imports of the new module are reached through it
  have onward : ∀ other ∈ imports, (graph.insert module).2.Reaches root other.id := fun other listed =>
    (grows.reaches growing.indexed inserted.indexed reached).tail <|
      (ModuleGraph.requires_iff inserted.indexed member _).2
        (dependencies ▸ List.mem_map_of_mem listed)
  obtain ⟨visited, through, owned⟩ := inner inserted onward
  obtain ⟨still, found, tagged⟩ := through.find?_tagged inserted.indexed visited.indexed
    ((inserted.indexed.find?_iff _ _).2 ⟨member, rfl⟩)
  have closed : Growing entry root isOpen middle :=
    visited.close fun other listed same key required => by
      have among := (visited.indexed.find?_iff _ still).1 found
      rw [visited.indexed.eq_of_id_eq listed among.1 (same.trans among.2.symm), tagged.dependencies_eq,
        dependencies] at required
      obtain ⟨one, within, rfl⟩ := List.mem_map.1 required
      exact owned one within
  refine ⟨closed, grows.trans through, fun other listed => ?_⟩
  obtain rfl := List.mem_singleton.1 listed
  exact ⟨still, named ▸ found, tagged.mem_owners (by simp [owners])⟩

end Growing

/-- A walk over imports that are reached leaves the graph closed but for the modules that were open, only
adds to it, and makes the entry the owner of all of them. -/
theorem Visits.growing {setup : Setup σ} {entry root : String} {needs : List Dependency}
    {graph final : ModuleGraph} {state last : σ}
    (visits : Visits setup entry needs graph state final last) {isOpen : String → Prop}
    (growing : Growing entry root isOpen graph) (named : ∀ need ∈ needs, setup.idOf need = need.id)
    (reached : ∀ need ∈ needs, graph.Reaches root need.id) :
    Walked entry root isOpen needs graph final := by
  induction visits generalizing isOpen with
  | done => exact ⟨growing, .refl _ _, by simp⟩
  | @known need needs graph final state last present rest ih =>
    rw [named need List.mem_cons_self] at present rest ih
    have first := growing.walked_known present (reached need List.mem_cons_self)
    exact first.cons (ih first.growing (fun other member => named other (.tail _ member))
      (first.reaches growing.indexed reached))
  | @provided need needs external graph final state last claimed absent rest ih =>
    have first : Walked entry root isOpen [need] graph
        (graph.insert (externalModule entry need.id external)).2 :=
      growing.walked_insert [] rfl absent rfl rfl (reached need List.mem_cons_self)
        fun inserted _ => ⟨inserted, .refl _ _, by simp⟩
    exact first.cons (ih first.growing (fun other member => named other (.tail _ member))
      (first.reaches growing.indexed reached))
  | @loaded need needs path extracted graph middle final state read between last file absent source
      inner rest ihInner ihRest =>
    have own : need.id = (setup.normalModule entry path extracted).id := by
      rw [← named need List.mem_cons_self]
      simp only [Setup.idOf, file]
      rfl
    have first : Walked entry root isOpen [need] graph middle :=
      growing.walked_insert extracted.dependencies own absent rfl rfl (own ▸ reached need List.mem_cons_self)
        fun inserted onward => ihInner inserted (fun _ listed => idOf_of_load source listed) onward
    exact first.cons (ihRest first.growing (fun other member => named other (.tail _ member))
      (first.reaches growing.indexed reached))

end ModuleBundler.Discover
