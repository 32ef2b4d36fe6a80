import ModuleBundler.Build.Discover
import ModuleBundler.Proofs.Outcome

/-!
Discovery as a relation. A successful discovery is a walk over a list of imports, each of which is known
already, provided by the environment, or a file whose own imports are walked before the next one.
-/

namespace ModuleBundler.Discover

variable {σ : Type}

def follow (setup : Setup σ) (entry : String) (depth : Nat) (need : Dependency) :
    Discovery σ PUnit :=
  match need.target with
  | .file path => discard (addModule setup entry depth path)
  | .external provided => addExternal entry need.id provided

def Setup.normalModule (setup : Setup σ) (entry : String) (path : Path)
    (extracted : Import.Extracted) : Module :=
  .new (setup.around.resolver.moduleId path) (.normal path) extracted.source
    (extracted.dependencies.map Dependency.id) entry

def externalModule (entry id : String) (provided : ExternalModule) : Module :=
  .new id (.external provided.global) (Bundle.externalSource provided.global) [] entry

def Setup.idOf (setup : Setup σ) (need : Dependency) : String :=
  match need.target with
  | .file path => setup.around.resolver.moduleId path
  | .external _ => need.id

section Call

variable {setup : Setup σ} {entry : String} {depth : Nat} {path : Path} {graph : ModuleGraph}
  {state : σ}

theorem addModule_known (known : graph.contains (setup.around.resolver.moduleId path) = true) :
    addModule setup entry (depth + 1) path (graph, state) =
      .ok (setup.around.resolver.moduleId path)
        (graph.addOwner (setup.around.resolver.moduleId path) entry, state) := by
  unfold addModule
  dsimp only [bind, EStateM.bind, Discover.graph, get, getThe, MonadStateOf.get, EStateM.get, pure,
    EStateM.pure]
  rw [if_pos known]
  rfl

theorem addModule_new (new : graph.contains (setup.around.resolver.moduleId path) = false) :
    addModule setup entry (depth + 1) path (graph, state) =
      match load setup path state with
      | .error error state => .error error (graph, state)
      | .ok extracted state =>
        match extracted.dependencies.forM (follow setup entry depth)
            ((graph.insert (setup.normalModule entry path extracted)).2, state) with
        | .ok _ final => .ok (setup.around.resolver.moduleId path) final
        | .error error final => .error error final := by
  unfold addModule
  dsimp only [bind, EStateM.bind, Discover.graph, get, getThe, MonadStateOf.get, EStateM.get, pure,
    EStateM.pure]
  rw [if_neg (by simp [new])]
  unfold aside EStateM.bind
  dsimp only
  cases load setup path state with
  | error error state => rfl
  | ok extracted state =>
    change EStateM.bind (extracted.dependencies.forM (follow setup entry depth))
      (fun _ => EStateM.pure (setup.around.resolver.moduleId path))
      ((graph.insert (setup.normalModule entry path extracted)).2, state) = _
    unfold EStateM.bind
    dsimp only
    cases extracted.dependencies.forM (follow setup entry depth)
      ((graph.insert (setup.normalModule entry path extracted)).2, state) <;> rfl

theorem addModule_new_eq_ok (new : graph.contains (setup.around.resolver.moduleId path) = false)
    {id : String} {final : ModuleGraph × σ} :
    addModule setup entry (depth + 1) path (graph, state) = .ok id final ↔
      ∃ extracted read, load setup path state = .ok extracted read ∧
        extracted.dependencies.forM (follow setup entry depth)
            ((graph.insert (setup.normalModule entry path extracted)).2, read) = .ok () final ∧
        setup.around.resolver.moduleId path = id := by
  rw [addModule_new new]
  constructor
  · intro added
    cases source : load setup path state with
    | error error read =>
      rw [source] at added
      cases added
    | ok extracted read =>
      rw [source] at added
      dsimp only at added
      cases followed : extracted.dependencies.forM (follow setup entry depth)
          ((graph.insert (setup.normalModule entry path extracted)).2, read) with
      | error error last =>
        rw [followed] at added
        cases added
      | ok _ last =>
        rw [followed] at added
        cases added
        exact ⟨extracted, read, rfl, followed, rfl⟩
  · rintro ⟨extracted, read, source, followed, rfl⟩
    rw [source]
    dsimp only
    rw [followed]

theorem follow_file {need : Dependency} (file : need.target = .file path)
    (start : ModuleGraph × σ) :
    follow setup entry depth need start =
      match addModule setup entry depth path start with
      | .ok _ final => .ok () final
      | .error error final => .error error final := by
  unfold follow
  rw [file]
  show EStateM.map _ _ _ = _
  unfold EStateM.map
  cases addModule setup entry depth path start <;> rfl

theorem follow_file_eq_ok {need : Dependency} (file : need.target = .file path)
    {start final : ModuleGraph × σ} :
    follow setup entry depth need start = .ok () final ↔
      ∃ id, addModule setup entry depth path start = .ok id final := by
  rw [follow_file file]
  cases addModule setup entry depth path start <;> simp

theorem follow_external {need : Dependency} {provided : ExternalModule}
    (external : need.target = .external provided) :
    follow setup entry depth need (graph, state) =
      if graph.contains need.id = true then .ok () (graph.addOwner need.id entry, state)
      else .ok () ((graph.insert (externalModule entry need.id provided)).2, state) := by
  unfold follow
  rw [external]
  dsimp only [addExternal, bind, EStateM.bind, Discover.graph, get, getThe, MonadStateOf.get,
    EStateM.get, pure, EStateM.pure]
  split <;> rfl

end Call

/-- A successful walk over imports, from a graph and a state of the hooks to others. -/
inductive Visits (setup : Setup σ) (entry : String) :
    List Dependency → ModuleGraph → σ → ModuleGraph → σ → Prop where
  | done {graph : ModuleGraph} {state : σ} : Visits setup entry [] graph state graph state
  | known {need : Dependency} {needs : List Dependency} {graph final : ModuleGraph} {state last : σ}
      (present : graph.contains (setup.idOf need) = true)
      (rest : Visits setup entry needs (graph.addOwner (setup.idOf need) entry) state final last) :
      Visits setup entry (need :: needs) graph state final last
  | provided {need : Dependency} {needs : List Dependency} {external : ExternalModule}
      {graph final : ModuleGraph} {state last : σ}
      (claimed : need.target = .external external)
      (absent : graph.contains need.id = false)
      (rest : Visits setup entry needs (graph.insert (externalModule entry need.id external)).2 state
        final last) :
      Visits setup entry (need :: needs) graph state final last
  | loaded {need : Dependency} {needs : List Dependency} {path : Path} {extracted : Import.Extracted}
      {graph middle final : ModuleGraph} {state read between last : σ}
      (file : need.target = .file path)
      (absent : graph.contains (setup.around.resolver.moduleId path) = false)
      (source : load setup path state = .ok extracted read)
      (inner : Visits setup entry extracted.dependencies
        (graph.insert (setup.normalModule entry path extracted)).2 read middle between)
      (rest : Visits setup entry needs middle between final last) :
      Visits setup entry (need :: needs) graph state final last

/-- When calls of some depth walk over imports of their files, a loop of them walks over all its imports. -/
theorem visits_of_loop {setup : Setup σ} {entry : String} {depth : Nat}
    (called : ∀ {path : Path} {graph middle final : ModuleGraph} {state between last : σ} {id : String}
      (need : Dependency) {needs : List Dependency}, need.target = .file path →
      addModule setup entry depth path (graph, state) = .ok id (middle, between) →
      Visits setup entry needs middle between final last →
      id = setup.around.resolver.moduleId path ∧
        Visits setup entry (need :: needs) graph state final last)
    {needs : List Dependency} {graph final : ModuleGraph} {state last : σ}
    (followed : needs.forM (follow setup entry depth) (graph, state) = .ok () (final, last)) :
    Visits setup entry needs graph state final last := by
  induction needs generalizing graph state with
  | nil =>
    cases followed
    exact .done
  | cons need needs ih =>
    obtain ⟨⟨middle, between⟩, first, rest⟩ := forM_cons_eq_ok.1 followed
    cases target : need.target with
    | file path =>
      obtain ⟨id, added⟩ := (follow_file_eq_ok target).1 first
      exact (called need target added (ih rest)).2
    | external library =>
      rw [follow_external target] at first
      have own : setup.idOf need = need.id := by simp only [Setup.idOf, target]
      cases taken : graph.contains need.id with
      | true =>
        rw [if_pos taken] at first
        cases first
        exact .known (own ▸ taken) (own ▸ ih rest)
      | false =>
        rw [if_neg (by simp [taken])] at first
        cases first
        exact .provided target taken (ih rest)

/-- What a call adds is what a walk over an import of its file adds. -/
theorem visits_of_addModule {setup : Setup σ} {entry : String} (depth : Nat) {path : Path}
    {graph middle final : ModuleGraph} {state between last : σ} {id : String} (need : Dependency)
    {needs : List Dependency} (file : need.target = .file path)
    (added : addModule setup entry depth path (graph, state) = .ok id (middle, between))
    (rest : Visits setup entry needs middle between final last) :
    id = setup.around.resolver.moduleId path ∧
      Visits setup entry (need :: needs) graph state final last := by
  induction depth generalizing path graph middle final state between last id need needs with
  | zero => cases added
  | succ depth ih =>
    have own : setup.idOf need = setup.around.resolver.moduleId path := by
      simp only [Setup.idOf, file]
    cases known : graph.contains (setup.around.resolver.moduleId path) with
    | true =>
      rw [addModule_known known] at added
      cases added
      exact ⟨rfl, .known (own ▸ known) (own ▸ rest)⟩
    | false =>
      obtain ⟨extracted, read, source, followed, rfl⟩ := (addModule_new_eq_ok known).1 added
      exact ⟨rfl, .loaded file known source (visits_of_loop ih followed) rest⟩

theorem visits_of_forM {setup : Setup σ} {entry : String} {depth : Nat} {needs : List Dependency}
    {graph final : ModuleGraph} {state last : σ}
    (followed : needs.forM (follow setup entry depth) (graph, state) = .ok () (final, last)) :
    Visits setup entry needs graph state final last :=
  visits_of_loop (visits_of_addModule depth) followed

end ModuleBundler.Discover
