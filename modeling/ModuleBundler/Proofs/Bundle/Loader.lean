import Mathlib.Algebra.GroupWithZero.Nat
import Mathlib.Data.Finset.Card
import Mathlib.Data.List.Nodup
import Mathlib.Data.Prod.Lex
import Mathlib.Logic.Relation
import Mathlib.Order.WellFounded
import ModuleBundler.Bundle.Script
import ModuleBundler.Proofs.Text.Quoted

/-!
The loader of a chunk. A call of it gives the instance that is cached for an id if there is one, fails if
nothing is registered under the id, and otherwise caches an instance and runs the body of the module, which
may call the loader in turn.
-/

namespace ModuleBundler.Bundle

/-- The modules that are registered, each under its id. -/
def registered (graph : ModuleGraph) (ids : List String) : List (String × Module) :=
  ids.filterMap fun id => (graph.find? id).map fun module => (id, module)

theorem renderModules_eq (graph : ModuleGraph) (ids : List String) :
    renderModules graph ids =
      String.join ((registered graph ids).map fun entry => renderModule entry.1 entry.2) := by
  rw [renderModules, registered, List.map_filterMap]
  simp only [Option.map_map]
  rfl

theorem render_eq (chunk : Chunk) (graph : ModuleGraph) : render chunk graph =
    "(() => \x7b\n  var " ++ registryName ++ " = \x7b\n" ++
      String.join ((registered graph chunk.modules).map fun entry => renderModule entry.1 entry.2) ++
      "\n  \x7d;\n" ++ runtime ++ "  var __modpack_exports__ = " ++ loaderName ++ "(" ++
      Text.quoted chunk.entryModule ++ ");\n\x7d)();\n" := by
  unfold render
  rw [renderModules_eq]

theorem registered_ids {graph : ModuleGraph} {ids : List String}
    (present : ∀ id ∈ ids, ∃ module, graph.find? id = some module) :
    (registered graph ids).map Prod.fst = ids := by
  induction ids with
  | nil => rfl
  | cons id ids ih =>
    obtain ⟨module, found⟩ := present id List.mem_cons_self
    have rest := ih fun other listed => present other (List.mem_cons_of_mem _ listed)
    rw [registered, List.filterMap_cons, found]
    exact congrArg (id :: ·) rest

inductive Activity where
  /-- The loader looks for an instance. -/
  | loading (id : String)
  /-- An instance has been cached, and the body is about to be run. -/
  | entering (id : String)
  /-- The body is running, and is going to call the loader with some ids, one after another. -/
  | running (id : String) (calls : List String)
  deriving DecidableEq, Repr

namespace Activity

/-- The ids that the loader is still called with. -/
def asked : Activity → List String
  | loading id => [id]
  | entering _ => []
  | running _ calls => calls

def entered : Activity → List String
  | entering id => [id]
  | loading _ | running _ _ => []

def weight : Activity → Nat
  | loading _ => 1
  | entering _ => 0
  | running _ calls => 2 * calls.length + 1

end Activity

/-- A loader with the calls that have not returned, the innermost one first. -/
structure Loader where
  /-- The ids that an instance is cached for. -/
  cached : List String
  /-- The modules whose bodies have been started, in this order. -/
  started : List String
  stack : List Activity
  deriving DecidableEq, Repr

namespace Loader

def boot (id : String) : Loader :=
  ⟨[], [], [.loading id]⟩

/-- The loader fails: nothing is registered under the id that it is called with. -/
def Fails (registry : List String) (loader : Loader) : Prop :=
  ∃ id stack, loader.stack = .loading id :: stack ∧ id ∉ loader.cached ∧ id ∉ registry

/-- What happens next. A body that is started may go on to make any calls of its sites. -/
inductive Step (registry : List String) (sites : String → String → Prop) : Loader → Loader → Prop where
  | hit {cached started : List String} {stack : List Activity} {id : String} (known : id ∈ cached) :
      Step registry sites ⟨cached, started, .loading id :: stack⟩ ⟨cached, started, stack⟩
  | enter {cached started : List String} {stack : List Activity} {id : String} (new : id ∉ cached)
      (held : id ∈ registry) :
      Step registry sites ⟨cached, started, .loading id :: stack⟩
        ⟨id :: cached, started, .entering id :: stack⟩
  | start {cached started : List String} {stack : List Activity} {id : String} {calls : List String}
      (own : ∀ call ∈ calls, sites id call) :
      Step registry sites ⟨cached, started, .entering id :: stack⟩
        ⟨cached, started ++ [id], .running id calls :: stack⟩
  | call {cached started : List String} {stack : List Activity} {id call : String}
      {calls : List String} :
      Step registry sites ⟨cached, started, .running id (call :: calls) :: stack⟩
        ⟨cached, started, .loading call :: .running id calls :: stack⟩
  | leave {cached started : List String} {stack : List Activity} {id : String} :
      Step registry sites ⟨cached, started, .running id [] :: stack⟩ ⟨cached, started, stack⟩

variable {registry : List String} {sites : String → String → Prop} {loader next : Loader}

/-- Only registered modules are asked for, and the modules that have an instance are those that have been
started or are about to be, each once. -/
structure Orderly (registry : List String) (loader : Loader) : Prop where
  held : loader.cached ⊆ registry
  asked : loader.stack.flatMap Activity.asked ⊆ registry
  entered : (loader.stack.flatMap Activity.entered ++ loader.started).Perm loader.cached
  once : loader.cached.Nodup

theorem orderly_boot {id : String} (held : id ∈ registry) : Orderly registry (boot id) where
  held := List.nil_subset _
  asked := by simpa [boot, Activity.asked] using held
  entered := .refl _
  once := List.nodup_nil

theorem Orderly.step (closed : ∀ id ∈ registry, ∀ call, sites id call → call ∈ registry)
    (orderly : Orderly registry loader) (step : Step registry sites loader next) :
    Orderly registry next := by
  obtain ⟨held, asked, entered, once⟩ := orderly
  cases step with
  | hit known => exact ⟨held, fun id member => asked (List.mem_append_right _ member), entered, once⟩
  | @enter cached started stack id new registered =>
    refine ⟨List.cons_subset.2 ⟨registered, held⟩, fun id member => asked (List.mem_append_right _ member),
      entered.cons id, List.nodup_cons.2 ⟨new, once⟩⟩
  | @start cached started stack id calls own =>
    have mine : id ∈ cached := entered.subset List.mem_cons_self
    refine ⟨held, ?_, ?_, once⟩
    · intro other member
      rcases List.mem_append.1 member with called | later
      · exact closed id (held mine) other (own other called)
      · exact asked later
    · refine .trans ?_ entered
      rw [← List.append_assoc]
      exact List.perm_append_singleton _ _
  | call => exact ⟨held, asked, entered, once⟩
  | leave => exact ⟨held, asked, entered, once⟩

def Reached (registry : List String) (sites : String → String → Prop) (id : String) (loader : Loader) :
    Prop :=
  Relation.ReflTransGen (Step registry sites) (boot id) loader

theorem orderly_of_reached {id : String} (held : id ∈ registry)
    (closed : ∀ id ∈ registry, ∀ call, sites id call → call ∈ registry)
    (reached : Reached registry sites id loader) : Orderly registry loader := by
  induction reached with
  | refl => exact orderly_boot held
  | tail _ step ih => exact ih.step closed step

namespace Orderly

theorem not_fails (orderly : Orderly registry loader) : ¬ loader.Fails registry := by
  rintro ⟨id, stack, top, -, missing⟩
  refine missing (orderly.asked ?_)
  rw [top]
  exact List.mem_cons_self

theorem nodup_started (orderly : Orderly registry loader) : loader.started.Nodup :=
  (List.nodup_append.1 (orderly.entered.nodup_iff.2 orderly.once)).2.1

theorem started_subset (orderly : Orderly registry loader) : loader.started ⊆ registry :=
  fun _ member => orderly.held (orderly.entered.subset (List.mem_append_right _ member))

end Orderly

theorem exists_step (fine : ¬ loader.Fails registry) :
    loader.stack = [] ∨ ∃ next, Step registry sites loader next := by
  obtain ⟨cached, started, stack⟩ := loader
  match stack with
  | [] => exact .inl rfl
  | .loading id :: stack =>
    by_cases known : id ∈ cached
    · exact .inr ⟨_, .hit known⟩
    · by_cases held : id ∈ registry
      · exact .inr ⟨_, .enter known held⟩
      · exact absurd ⟨id, stack, rfl, known, held⟩ fine
  | .entering id :: stack => exact .inr ⟨_, .start (List.forall_mem_nil _)⟩
  | .running id [] :: stack => exact .inr ⟨_, .leave⟩
  | .running id (call :: calls) :: stack => exact .inr ⟨_, .call⟩

def effort (registry : List String) (loader : Loader) : Nat ×ₗ Nat ×ₗ Nat :=
  toLex ((registry.toFinset \ loader.cached.toFinset).card,
    toLex ((loader.stack.flatMap Activity.entered).length, (loader.stack.map Activity.weight).sum))

/-- Each step leaves less to do, however many calls a body makes: an instance is cached at most once for
each module, and its body is started at most once. -/
theorem effort_lt (step : Step registry sites loader next) :
    next.effort registry < loader.effort registry := by
  cases step with
  | hit known =>
    refine Prod.Lex.right _ (Prod.Lex.right _ ?_)
    simp [Activity.weight]
  | @enter cached started stack id new held =>
    refine Prod.Lex.left _ _ (Finset.card_lt_card ?_)
    rw [Finset.ssubset_iff_of_subset]
    · exact ⟨id, by simp [new, held], by simp⟩
    · intro other
      simp +contextual
  | start own =>
    refine Prod.Lex.right _ (Prod.Lex.left _ _ ?_)
    simp [Activity.entered]
  | call =>
    refine Prod.Lex.right _ (Prod.Lex.right _ ?_)
    simp [Activity.weight]
    omega
  | leave =>
    refine Prod.Lex.right _ (Prod.Lex.right _ ?_)
    simp [Activity.weight]

theorem wellFounded_step (registry : List String) (sites : String → String → Prop) :
    WellFounded (flip (Step registry sites)) :=
  Subrelation.wf effort_lt (InvImage.wf (effort registry) wellFounded_lt)

theorem exists_last (registry : List String) (sites : String → String → Prop) (run : Nat → Loader) :
    ∃ count, ¬ Step registry sites (run count) (run (count + 1)) := by
  have grounded : IsWellFounded Loader (flip (Step registry sites)) :=
    ⟨wellFounded_step registry sites⟩
  exact WellFounded.not_rel_apply_succ (r := flip (Step registry sites)) run

/-- How a loader runs that is called with an id: it never fails, it starts registered modules only, each
at most once, it goes on until all calls have returned, and it does not go on for ever. -/
structure Runs (registry : List String) (sites : String → String → Prop) (id : String) : Prop where
  finds : ∀ loader, Reached registry sites id loader → ¬ loader.Fails registry
  once : ∀ loader, Reached registry sites id loader → loader.started.Nodup
  own : ∀ loader, Reached registry sites id loader → loader.started ⊆ registry
  goesOn : ∀ loader, Reached registry sites id loader →
    loader.stack = [] ∨ ∃ next, Step registry sites loader next
  ends : ∀ run : Nat → Loader, run 0 = boot id →
    ∃ count, ¬ Step registry sites (run count) (run (count + 1))

theorem runs_of_closed {id : String} (held : id ∈ registry)
    (closed : ∀ id ∈ registry, ∀ call, sites id call → call ∈ registry) : Runs registry sites id where
  finds _ reached := (orderly_of_reached held closed reached).not_fails
  once _ reached := (orderly_of_reached held closed reached).nodup_started
  own _ reached := (orderly_of_reached held closed reached).started_subset
  goesOn _ reached := exists_step (orderly_of_reached held closed reached).not_fails
  ends run _ := exists_last registry sites run

end Loader

end ModuleBundler.Bundle
