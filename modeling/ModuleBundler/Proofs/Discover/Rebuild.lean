import ModuleBundler.Proofs.Discover.Steady

/-!
Discovering modules once more. Where a list of modules has everything that its modules require, and every
file turns out as it did, another discovery finds nothing that is not in the list.
-/

namespace ModuleBundler.Discover

variable {σ : Type}

def Setup.Answers (setup : Setup σ) (need : Dependency) (module : Module) : Prop :=
  match need.target with
  | .file path => module.id = setup.around.resolver.moduleId path ∧ module.kind = .normal path
  | .external library => module = providedModule need.id library

/-- Modules that are made of files become what they are whenever their files are read, and all that they
require is there. -/
def Setup.Complete (setup : Setup σ) (modules : List Module) : Prop :=
  ∀ module ∈ modules, ∀ path, module.kind = .normal path →
    ∃ reading : Reading, module = reading.module setup ∧
      (∀ state, ∃ after, load setup path state = .ok reading.extracted after) ∧
      ∀ need ∈ reading.extracted.dependencies, ∃ next ∈ modules, setup.Answers need next

def Rebuilds (modules : List Module) {α : Type} :
    EStateM.Result BuildError (ModuleGraph × σ) α → Prop
  | .ok _ (graph, _) => graph.Indexed ∧ graph.contents ⊆ modules
  | .error error _ => ∃ deep, error = .tooDeep deep

variable {setup : Setup σ} {entry : String} {modules : List Module} {graph : ModuleGraph}

theorem rebuilds_insert {module : Module} (indexed : graph.Indexed)
    (within : graph.contents ⊆ modules) (absent : graph.contains module.id = false)
    (member : module.bare ∈ modules) :
    (graph.insert module).2.Indexed ∧ (graph.insert module).2.contents ⊆ modules := by
  refine ⟨indexed.insert module, ?_⟩
  rw [ModuleGraph.contents_insert absent]
  exact List.append_subset.2 ⟨within, by simpa using member⟩

theorem rebuilds_addOwner (indexed : graph.Indexed) (within : graph.contents ⊆ modules) (id : String) :
    (graph.addOwner id entry).Indexed ∧ (graph.addOwner id entry).contents ⊆ modules := by
  rw [ModuleGraph.contents_addOwner indexed]
  exact ⟨indexed.addOwner id entry, within⟩

/-- When calls of some depth find nothing new, following an import does not. -/
theorem follow_rebuilds {depth : Nat}
    (called : ∀ {path : Path} {graph : ModuleGraph} (state : σ), graph.Indexed →
      graph.contents ⊆ modules → (∃ module ∈ modules, module.kind = .normal path) →
      Rebuilds modules (addModule setup entry depth path (graph, state)))
    {need : Dependency} (answered : ∃ next ∈ modules, setup.Answers need next)
    (state : σ) (indexed : graph.Indexed) (within : graph.contents ⊆ modules) :
    Rebuilds modules (follow setup entry depth need (graph, state)) := by
  obtain ⟨next, member, answers⟩ := answered
  unfold Setup.Answers at answers
  cases target : need.target with
  | file path =>
    rw [target] at answers
    have added := called state indexed within ⟨next, member, answers.2⟩
    rw [follow_file target]
    cases result : addModule setup entry depth path (graph, state) with
    | ok id final =>
      rw [result] at added
      exact added
    | error error final =>
      rw [result] at added
      exact added
  | external library =>
    rw [target] at answers
    have same : next = (externalModule entry need.id library).bare := answers
    rw [follow_external target]
    cases taken : graph.contains need.id with
    | true =>
      rw [if_pos rfl]
      exact rebuilds_addOwner indexed within need.id
    | false =>
      rw [if_neg Bool.false_ne_true]
      exact rebuilds_insert indexed within taken (same ▸ member)

/-- When calls of some depth find nothing new, a loop of them does not. -/
theorem loop_rebuilds {depth : Nat}
    (called : ∀ {path : Path} {graph : ModuleGraph} (state : σ), graph.Indexed →
      graph.contents ⊆ modules → (∃ module ∈ modules, module.kind = .normal path) →
      Rebuilds modules (addModule setup entry depth path (graph, state)))
    {needs : List Dependency} (answered : ∀ need ∈ needs, ∃ next ∈ modules, setup.Answers need next)
    (state : σ) (indexed : graph.Indexed) (within : graph.contents ⊆ modules) :
    Rebuilds modules (needs.forM (follow setup entry depth) (graph, state)) := by
  induction needs generalizing graph state with
  | nil => exact ⟨indexed, within⟩
  | cons need needs ih =>
    have first := follow_rebuilds called (answered need List.mem_cons_self) state indexed within
    change Rebuilds modules (EStateM.bind (follow setup entry depth need)
      (fun _ => needs.forM (follow setup entry depth)) (graph, state))
    unfold EStateM.bind
    cases followed : follow setup entry depth need (graph, state) with
    | error error final =>
      rw [followed] at first
      exact first
    | ok _ final =>
      rw [followed] at first
      obtain ⟨later, still⟩ := first
      exact ih (fun other listed => answered other (List.mem_cons_of_mem _ listed)) _ later still

/-- A call finds nothing but modules of a list that is complete and holds its own. -/
theorem addModule_rebuilds (complete : setup.Complete modules) (depth : Nat) {path : Path} (state : σ)
    (indexed : graph.Indexed) (within : graph.contents ⊆ modules)
    (known : ∃ module ∈ modules, module.kind = .normal path) :
    Rebuilds modules (addModule setup entry depth path (graph, state)) := by
  induction depth generalizing path graph state with
  | zero => exact ⟨path, rfl⟩
  | succ depth ih =>
    cases taken : graph.contains (setup.around.resolver.moduleId path) with
    | true =>
      rw [addModule_known taken]
      exact rebuilds_addOwner indexed within _
    | false =>
      obtain ⟨module, member, kind⟩ := known
      obtain ⟨reading, rfl, loads, answered⟩ := complete module member path kind
      obtain ⟨after, source⟩ := loads state
      cases kind
      rw [addModule_new taken, source]
      dsimp only
      have bare : (setup.normalModule entry reading.path reading.extracted).bare ∈ modules := member
      obtain ⟨later, still⟩ := rebuilds_insert indexed within taken bare
      have looped := loop_rebuilds ih answered after later still
      cases followed : reading.extracted.dependencies.forM (follow setup entry depth)
          ((graph.insert (setup.normalModule entry reading.path reading.extracted)).2, after) with
      | ok _ final =>
        rw [followed] at looped
        exact looped
      | error error final =>
        rw [followed] at looped
        exact looped

theorem addEntry_rebuilds (complete : setup.Complete modules) {path : Path} {state : σ}
    (indexed : graph.Indexed) (within : graph.contents ⊆ modules)
    (known : ∃ module ∈ modules, module.kind = .normal path)
    {result : EStateM.Result BuildError (ModuleGraph × σ) String}
    (added : addEntry setup entry path (graph, state) = result) : Rebuilds modules result := by
  rw [← added]
  unfold addEntry
  generalize FileSystem.pathCount + 1 = depth
  exact addModule_rebuilds complete depth state indexed within known

end ModuleBundler.Discover
