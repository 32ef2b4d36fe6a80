import ModuleBundler.Proofs.Discover.Closure
import ModuleBundler.Proofs.Discover.Reading

/-!
The order of the modules of a graph. A discovery puts a module behind those that are there and goes on with
what it requires, so that it lists the modules as a depth-first walk over the finished graph does.
-/

namespace ModuleBundler

namespace ModuleGraph

/-- A depth-first walk over ids from the left to the right, each with what it requires, directly or not,
before the next one. It takes the ids that are listed already to those listed behind it. -/
inductive DepthFirst (graph : ModuleGraph) : List String → List String → List String → Prop where
  | done {listed : List String} : DepthFirst graph [] listed listed
  | skip {id : String} {ids listed after : List String} (known : id ∈ listed)
      (rest : DepthFirst graph ids listed after) : DepthFirst graph (id :: ids) listed after
  | list {id : String} {ids listed between after : List String} (new : id ∉ listed)
      (below : DepthFirst graph (graph.dependenciesOf id) (listed ++ [id]) between)
      (rest : DepthFirst graph ids between after) : DepthFirst graph (id :: ids) listed after

namespace DepthFirst

variable {graph : ModuleGraph} {ids others listed between after : List String}

theorem append (first : graph.DepthFirst ids listed between)
    (second : graph.DepthFirst others between after) :
    graph.DepthFirst (ids ++ others) listed after := by
  induction first with
  | done => exact second
  | skip known _ ih => exact .skip known (ih second)
  | list new below _ _ ih => exact .list new below (ih second)

/-- A graph has one depth-first order. -/
theorem unique (first : graph.DepthFirst ids listed after) {other : List String}
    (second : graph.DepthFirst ids listed other) : after = other := by
  induction first generalizing other with
  | done =>
    cases second
    rfl
  | skip known _ ih =>
    cases second with
    | skip _ rest => exact ih rest
    | list new _ _ => exact absurd known new
  | list new _ _ ihBelow ihRest =>
    cases second with
    | skip known _ => exact absurd known new
    | list _ below rest =>
      obtain rfl := ihBelow below
      exact ihRest rest

end DepthFirst

end ModuleGraph

namespace Discover

variable {σ : Type}

/-- A module that is put into a graph is listed behind those that are there, and what it requires behind
it. -/
theorem depthFirst_insert {graph whole : ModuleGraph} {module : Module} {ids between after : List String}
    (indexed : graph.Indexed) (absent : graph.contains module.id = false)
    (below : whole.DepthFirst (whole.dependenciesOf module.id)
      ((graph.insert module).2.contents.map Module.id) between)
    (rest : whole.DepthFirst ids between after) :
    whole.DepthFirst (module.id :: ids) (graph.contents.map Module.id) after := by
  rw [ModuleGraph.contents_insert absent, List.map_append, List.map_singleton] at below
  refine .list ?_ below rest
  rw [← indexed.contains_iff_mem_ids, absent]
  exact Bool.false_ne_true

/-- A walk over imports lists the modules that it adds as a depth-first walk does over any graph in which
they require the same. -/
theorem Visits.depthFirst {setup : Setup σ} {entry : String} {needs : List Dependency}
    {graph final : ModuleGraph} {state last : σ}
    (visits : Visits setup entry needs graph state final last) (indexed : graph.Indexed)
    {whole : ModuleGraph}
    (agrees : ∀ module ∈ final.contents, whole.dependenciesOf module.id = module.dependencies) :
    whole.DepthFirst (needs.map setup.idOf) (graph.contents.map Module.id)
      (final.contents.map Module.id) := by
  induction visits with
  | done => exact .done
  | known present _ ih =>
    have order := ih (indexed.addOwner _ _) agrees
    rw [ModuleGraph.contents_addOwner indexed] at order
    exact .skip ((indexed.contains_iff_mem_ids _).1 present) order
  | @provided need needs external graph _ _ _ claimed absent rest ih =>
    have own : setup.idOf need = (externalModule entry need.id external).id := by
      simp only [Setup.idOf, claimed]
      rfl
    obtain ⟨-, more⟩ := rest.extends (indexed.insert _)
    have alone : whole.dependenciesOf (externalModule entry need.id external).id = [] :=
      agrees (externalModule entry need.id external).bare (more.subset (ModuleGraph.mem_contents_insert absent))
    rw [List.map_cons, own]
    refine depthFirst_insert indexed absent ?_ (ih (indexed.insert _) agrees)
    rw [alone]
    exact .done
  | @loaded need needs path extracted graph middle _ _ read _ _ file absent source inner rest ihInner
      ihRest =>
    have own : setup.idOf need = (setup.normalModule entry path extracted).id := by
      simp only [Setup.idOf, file]
      rfl
    obtain ⟨halfway, inside⟩ := inner.extends (indexed.insert _)
    obtain ⟨-, more⟩ := rest.extends halfway
    have imports : whole.dependenciesOf (setup.normalModule entry path extracted).id =
        extracted.dependencies.map setup.idOf :=
      calc whole.dependenciesOf (setup.normalModule entry path extracted).id
        _ = extracted.dependencies.map Dependency.id :=
          agrees (setup.normalModule entry path extracted).bare
            (more.subset (inside.subset (ModuleGraph.mem_contents_insert absent)))
        _ = extracted.dependencies.map setup.idOf :=
          List.map_congr_left fun other listed => (idOf_of_load source listed).symm
    rw [List.map_cons, own]
    refine depthFirst_insert indexed absent ?_ (ihRest halfway agrees)
    rw [imports]
    exact ihInner (indexed.insert _) fun module member => agrees module (more.subset member)

end Discover

end ModuleBundler
