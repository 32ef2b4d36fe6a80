import ModuleBundler.Proofs.Discover.Recording

/-!
A discovery that goes the way of another one. It starts from a state that the hooks cannot tell from that of
the other, on a file system where every file that the other has read is read alike.
-/

namespace ModuleBundler

variable {ε σ α β : Type}

/-- Wherever an action succeeds, another one does so with the same answer from every state like the first,
and the states stay alike. -/
def Mirrors (alike : σ → σ → Prop) (action other : EStateM ε σ α) : Prop :=
  ∀ ⦃start state found final⦄, alike start state → action start = .ok found final →
    ∃ last, other state = .ok found last ∧ alike final last

namespace Mirrors

variable {alike : σ → σ → Prop}

theorem pure (found : α) : Mirrors alike (Pure.pure found : EStateM ε σ α) (Pure.pure found) := by
  intro start state other final same ended
  obtain ⟨rfl, rfl⟩ := pure_eq_ok.1 ended
  exact ⟨state, rfl, same⟩

theorem bind {action other : EStateM ε σ α} {second continued : α → EStateM ε σ β}
    (mirrors : Mirrors alike action other)
    (continues : ∀ found, Mirrors alike (second found) (continued found)) :
    Mirrors alike (action >>= second) (other >>= continued) := by
  intro start state answer final same succeeded
  obtain ⟨found, middle, one, two⟩ := bind_eq_ok.1 succeeded
  obtain ⟨between, first, still⟩ := mirrors same one
  obtain ⟨last, rest, ended⟩ := continues found still two
  exact ⟨last, bind_eq_ok.2 ⟨found, between, first, rest⟩, ended⟩

theorem fail (error : ε) (other : EStateM ε σ α) :
    Mirrors alike (throw error : EStateM ε σ α) other := by
  intro start state found final same ended
  cases ended

end Mirrors

/-- Hooks that go the same way from alike states. What they claim is a matter of the request alone, and
claiming leaves the state as it is. -/
structure ImportHooks.Mirrored (hooks : ImportHooks σ) (alike : σ → σ → Prop)
    (claim : ResolveData → Option ExternalModule) : Prop where
  requireCall : ∀ call, Mirrors alike (hooks.requireCall.show call) (hooks.requireCall.show call)
  claims : ∀ data state, hooks.factorize.ask data state = (claim data, state)

namespace Import

def Surroundings.on (around : Surroundings σ) (disk : FileSystem) : Surroundings σ :=
  { around with disk }

variable {around : Surroundings σ} {alike : σ → σ → Prop}
  {claim : ResolveData → Option ExternalModule} {other : FileSystem} {module : Path}

def Surroundings.FindsAlike (around : Surroundings σ) (claim : ResolveData → Option ExternalModule)
    (other : FileSystem) (module : Path) (request : String) : Prop :=
  claim { request, context := module.parent?.getD ⟨"."⟩ } = none → ∀ found,
    around.resolver.resolve? around.disk request (module.parent?.getD ⟨"."⟩) = some found →
      around.resolver.resolve? other request (module.parent?.getD ⟨"."⟩) = some found

theorem mirrors_resolve (mirrored : around.hooks.Mirrored alike claim) {request : String}
    (found : around.FindsAlike claim other module request) :
    Mirrors alike (resolve around module request) (resolve (around.on other) module request) := by
  intro start state dependency final same resolved
  obtain ⟨shown, answer, showing, asked, meant⟩ := resolve_eq_ok_iff.1 resolved
  obtain ⟨heard, also, still⟩ := mirrored.requireCall _ same showing
  rw [mirrored.claims] at asked
  cases asked
  refine ⟨heard, resolve_eq_ok_iff.2 ⟨heard, _, also, mirrored.claims _ heard, ?_⟩, still⟩
  cases claimed : claim { request, context := module.parent?.getD ⟨"."⟩ } with
  | some provided =>
    rw [claimed] at meant
    exact meant
  | none =>
    rw [claimed] at meant
    obtain ⟨path, looked, named⟩ := meaning?_none_eq_some.1 meant
    exact meaning?_none_eq_some.2 ⟨path, found claimed path looked, named⟩

theorem mirrors_resolveSites (mirrored : around.hooks.Mirrored alike claim) (source : List Char)
    {sites : List Script.CallSite}
    (found : ∀ site ∈ sites, ∀ request span, site.argument = .text request span →
      around.FindsAlike claim other module request) :
    Mirrors alike (resolveSites around module source sites)
      (resolveSites (around.on other) module source sites) := by
  induction sites with
  | nil => exact .pure []
  | cons site sites ih =>
    unfold resolveSites
    refine .bind ?_ fun first =>
      (ih fun next member => found next (List.mem_cons_of_mem _ member)).bind fun others => .pure _
    unfold resolveSite
    split
    · rename_i request span given
      have own := found site List.mem_cons_self request span given
      exact (mirrors_resolve mirrored own).bind fun _ => .pure _
    · exact .fail _ _

end Import

namespace Discover

def Setup.on (setup : Setup σ) (disk : FileSystem) : Setup σ :=
  { setup with around := setup.around.on disk }

variable {ω : Type} {setup : Setup (Session ω)} {alike : Session ω → Session ω → Prop}
  {claim : ResolveData → Option ExternalModule} {other : FileSystem}

structure Setup.ReadsAlike (setup : Setup (Session ω))
    (claim : ResolveData → Option ExternalModule) (other : FileSystem) (path : Path) : Prop where
  text : ∀ text, setup.around.disk.readText path = .ok text → other.readText path = .ok text
  found : ∀ site ∈ setup.callSites path, ∀ request span, site.argument = .text request span →
    setup.around.FindsAlike claim other path request

def Setup.GraphAlike (setup : Setup (Session ω)) (claim : ResolveData → Option ExternalModule)
    (other : FileSystem) (graph : ModuleGraph) : Prop :=
  ∀ module ∈ graph.contents, ∀ path, module.kind = .normal path → setup.ReadsAlike claim other path

theorem mirrors_load (mirrored : setup.around.hooks.Mirrored alike claim) {path : Path}
    (reads : setup.ReadsAlike claim other path) :
    Mirrors alike (load setup path) (load (setup.on other) path) := by
  intro start state extracted final same loaded
  obtain ⟨text, known, extraction⟩ := load_eq_ok.1 loaded
  obtain ⟨program, imports, code, parsed, resolving, edited, rfl⟩ := Import.extract_eq_ok extraction
  have sites : setup.callSites path = program.callSites := by
    unfold Setup.callSites
    rw [known, Option.bind_some, parsed]
    dsimp only [Except.toOption]
  have again : (setup.on other).text? path = some text := by
    unfold Setup.text? at known ⊢
    cases read : setup.around.disk.readText path with
    | error cause => simp [read, Except.toOption] at known
    | ok raw =>
      rw [read] at known
      show (other.readText path).toOption.bind _ = _
      rw [reads.text raw read]
      exact known
  obtain ⟨last, resolved, still⟩ := Import.mirrors_resolveSites mirrored text.toList
    (sites ▸ reads.found) same resolving
  refine ⟨last, load_eq_ok.2 ⟨text, again, ?_⟩, still⟩
  unfold Import.extract
  rw [parsed]
  refine bind_eq_ok.2 ⟨imports, last, resolved, ?_⟩
  simp only [edited]
  rfl

section Calls

variable {entry : String} {depth : Nat} {graph final : ModuleGraph} {session last state : Session ω}

/-- When calls of some depth go the same way, following an import does. -/
theorem follow_mirrored {need : Dependency}
    (called : ∀ {path : Path} {id : String},
      addModule setup entry depth path (graph, session) = .ok id (final, last) →
      ∃ ended, addModule (setup.on other) entry depth path (graph, state) = .ok id (final, ended) ∧
        alike last ended)
    (same : alike session state)
    (followed : follow setup entry depth need (graph, session) = .ok () (final, last)) :
    ∃ ended, follow (setup.on other) entry depth need (graph, state) = .ok () (final, ended) ∧
      alike last ended := by
  cases target : need.target with
  | file path =>
    obtain ⟨id, added⟩ := (follow_file_eq_ok target).1 followed
    obtain ⟨ended, also, still⟩ := called added
    exact ⟨ended, (follow_file_eq_ok target).2 ⟨id, also⟩, still⟩
  | external library =>
    rw [follow_external target] at followed ⊢
    cases taken : graph.contains need.id with
    | true =>
      rw [if_pos taken] at followed
      cases followed
      exact ⟨state, if_pos rfl, same⟩
    | false =>
      rw [if_neg (by simp [taken])] at followed
      cases followed
      exact ⟨state, if_neg Bool.false_ne_true, same⟩

/-- When calls of some depth go the same way, a loop of them does. -/
theorem loop_mirrored
    (called : ∀ {path : Path} {graph final : ModuleGraph} {session last state : Session ω} {id : String},
      graph.Indexed → setup.GraphAlike claim other final → alike session state →
      addModule setup entry depth path (graph, session) = .ok id (final, last) →
      ∃ ended, addModule (setup.on other) entry depth path (graph, state) = .ok id (final, ended) ∧
        alike last ended)
    {needs : List Dependency} (indexed : graph.Indexed) (reads : setup.GraphAlike claim other final)
    (same : alike session state)
    (followed : needs.forM (follow setup entry depth) (graph, session) = .ok () (final, last)) :
    ∃ ended, needs.forM (follow (setup.on other) entry depth) (graph, state) = .ok () (final, ended) ∧
      alike last ended := by
  induction needs generalizing graph session state with
  | nil =>
    cases followed
    exact ⟨state, rfl, same⟩
  | cons need needs ih =>
    obtain ⟨⟨middle, between⟩, first, rest⟩ := forM_cons_eq_ok.1 followed
    have alone : [need].forM (follow setup entry depth) (graph, session) = .ok () (middle, between) :=
      forM_cons_eq_ok.2 ⟨_, first, rfl⟩
    obtain ⟨halfway, -⟩ := (visits_of_forM alone).extends indexed
    obtain ⟨-, more⟩ := (visits_of_forM rest).extends halfway
    obtain ⟨next, start, still⟩ := follow_mirrored
      (called indexed (fun module member => reads module (more.subset member)) same) same first
    obtain ⟨ended, others, alike'⟩ := ih halfway still rest
    exact ⟨ended, forM_cons_eq_ok.2 ⟨_, start, others⟩, alike'⟩

/-- A call goes the same way where the files of the graph that it ends with are read alike. -/
theorem addModule_mirrored (mirrored : setup.around.hooks.Mirrored alike claim) (depth : Nat)
    {path : Path} {graph final : ModuleGraph} {session last state : Session ω} {id : String}
    (indexed : graph.Indexed) (reads : setup.GraphAlike claim other final)
    (same : alike session state)
    (added : addModule setup entry depth path (graph, session) = .ok id (final, last)) :
    ∃ ended, addModule (setup.on other) entry depth path (graph, state) = .ok id (final, ended) ∧
      alike last ended := by
  induction depth generalizing path graph final session last state id with
  | zero => cases added
  | succ depth ih =>
    cases known : graph.contains (setup.around.resolver.moduleId path) with
    | true =>
      rw [addModule_known known] at added
      cases added
      exact ⟨state, addModule_known known, same⟩
    | false =>
      obtain ⟨extracted, read, source, followed, rfl⟩ := (addModule_new_eq_ok known).1 added
      obtain ⟨-, more⟩ := (visits_of_forM followed).extends (indexed.insert _)
      have own : (setup.normalModule entry path extracted).bare ∈ final.contents :=
        more.subset (ModuleGraph.mem_contents_insert known)
      obtain ⟨next, loaded, still⟩ := mirrors_load mirrored (reads _ own path rfl) same source
      obtain ⟨ended, looped, alike'⟩ := loop_mirrored ih (indexed.insert _) reads still followed
      have absent : graph.contains ((setup.on other).around.resolver.moduleId path) = false := known
      exact ⟨ended, (addModule_new_eq_ok absent).2 ⟨extracted, next, loaded, looped, rfl⟩, alike'⟩

end Calls

end Discover

end ModuleBundler
