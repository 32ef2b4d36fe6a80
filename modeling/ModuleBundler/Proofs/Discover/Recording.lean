import ModuleBundler.Build.Session
import ModuleBundler.Proofs.Discover.Reading
import ModuleBundler.Proofs.Hook

/-!
What the hooks are called with while imports are found. A recorder in front of the other taps is called
whenever a hook is; it keeps the calls in the plugins' memory and changes nothing else.
-/

namespace ModuleBundler

/-- A call of a hook that takes part in finding imports. -/
inductive ImportCall where
  | requireCall (call : RequireCall)
  | factorize (data : ResolveData)
  deriving DecidableEq, Repr

variable {ω α β : Type}

namespace Session

/-- A session with calls in the plugins' memory. -/
def withCalls (session : Session ω) (calls : List ImportCall) : Session (ω × List ImportCall) :=
  { session with memory := (session.memory, calls) }

def calls (session : Session (ω × List ImportCall)) : List ImportCall :=
  session.memory.2

def plain (session : Session (ω × List ImportCall)) : Session ω :=
  { session with memory := session.memory.1 }

def note (call : ImportCall) (session : Session (ω × List ImportCall)) :
    Session (ω × List ImportCall) :=
  session.plain.withCalls (session.calls ++ [call])

def besideObserver (observe : Observer (Session ω) α) :
    Observer (Session (ω × List ImportCall)) α := fun value session =>
  match observe value session.plain with
  | .ok _ after => .ok () (after.withCalls session.calls)
  | .error cause after => .error cause (after.withCalls session.calls)

def besideDecider (decide : Decider (Session ω) α β) :
    Decider (Session (ω × List ImportCall)) α β := fun value session =>
  let (answer, after) := decide value session.plain
  (answer, after.withCalls session.calls)

end Session

/-- The same callbacks behind one that is called first. -/
def Hook.behind {Callback Other : Type} (first : Other) (change : Callback → Other)
    (hook : Hook Callback) : Hook Other where
  name := hook.name
  taps := ⟨"recorder", first⟩ :: hook.taps.map fun tap => ⟨tap.plugin, change tap.callback⟩

/-- Import hooks that keep their calls. -/
def ImportHooks.recording (hooks : ImportHooks (Session ω)) :
    ImportHooks (Session (ω × List ImportCall)) where
  requireCall := hooks.requireCall.behind
    (fun call session => .ok () (session.note (.requireCall call))) Session.besideObserver
  factorize := hooks.factorize.behind
    (fun data session => (none, session.note (.factorize data))) Session.besideDecider

def Import.Surroundings.recording (around : Surroundings (Session ω)) :
    Surroundings (Session (ω × List ImportCall)) :=
  { around with hooks := around.hooks.recording }

def Discover.Setup.recording (setup : Setup (Session ω)) :
    Setup (Session (ω × List ImportCall)) :=
  { setup with around := setup.around.recording }

def Records (action : EStateM BuildError (Session ω) α)
    (recorded : EStateM BuildError (Session (ω × List ImportCall)) α) (calls : List ImportCall) :
    Prop :=
  ∀ ⦃session found after⦄, action session = .ok found after →
    ∀ before, recorded (session.withCalls before) = .ok found (after.withCalls (before ++ calls))

namespace Records

theorem pure (found : α) :
    Records (pure found : EStateM BuildError (Session ω) α) (Pure.pure found) [] := by
  intro session other after ended before
  obtain ⟨rfl, rfl⟩ := pure_eq_ok.1 ended
  rw [List.append_nil]
  rfl

theorem bind {first : EStateM BuildError (Session ω) α}
    {recorded : EStateM BuildError (Session (ω × List ImportCall)) α}
    {second : α → EStateM BuildError (Session ω) β}
    {continued : α → EStateM BuildError (Session (ω × List ImportCall)) β}
    {calls more : List ImportCall} (records : Records first recorded calls)
    (continues : ∀ found, Records (second found) (continued found) more) :
    Records (first >>= second) (recorded >>= continued) (calls ++ more) := by
  intro session answer after succeeded before
  obtain ⟨found, middle, one, two⟩ := bind_eq_ok.1 succeeded
  rw [← List.append_assoc]
  exact bind_eq_ok.2 ⟨found, _, records one before, continues found two _⟩

theorem map {action : EStateM BuildError (Session ω) α}
    {recorded : EStateM BuildError (Session (ω × List ImportCall)) α} {calls : List ImportCall}
    (records : Records action recorded calls) (change : α → β) :
    Records (do return change (← action)) (do return change (← recorded)) calls := by
  have ended := records.bind fun found => .pure (change found)
  rwa [List.append_nil] at ended

theorem fail (error : BuildError) (recorded : EStateM BuildError (Session (ω × List ImportCall)) α)
    (calls : List ImportCall) :
    Records (throw error : EStateM BuildError (Session ω) α) recorded calls := by
  intro session found after ended
  cases ended

end Records

section Hooks

variable (hooks : ImportHooks (Session ω))

/-- A shown value is seen by the recorder and then by the taps. -/
theorem records_show (call : RequireCall) :
    Records (hooks.requireCall.show call) (hooks.recording.requireCall.show call)
      [.requireCall call] := by
  have taps (all : List (Tap (Observer (Session ω) RequireCall)))
      {session after : Session ω} (before : List ImportCall)
      (shown : callTaps (fun observe => observe call) (.hookFailure hooks.requireCall.name) all
        session = .ok () after) :
      callTaps (fun observe => observe call) (.hookFailure hooks.requireCall.name)
        (all.map fun tap => ⟨tap.plugin, Session.besideObserver tap.callback⟩)
        (session.withCalls before) = .ok () (after.withCalls before) := by
    induction all generalizing session with
    | nil =>
      cases shown
      rfl
    | cons tap all ih =>
      obtain ⟨middle, called, rest⟩ := callTaps_cons_eq_ok.1 shown
      refine callTaps_cons_eq_ok.2 ⟨middle.withCalls before, ?_, ih rest⟩
      unfold Session.besideObserver
      dsimp only
      rw [show (session.withCalls before).plain = session from rfl, called]
      rfl
  intro session found after shown before
  exact taps hooks.requireCall.taps (before ++ [.requireCall call]) shown

/-- A question is heard by the recorder and then by the taps. -/
theorem ask_recording (data : ResolveData) (session : Session ω) (before : List ImportCall) :
    hooks.recording.factorize.ask data (session.withCalls before) =
      ((hooks.factorize.ask data session).1,
        (hooks.factorize.ask data session).2.withCalls (before ++ [.factorize data])) := by
  have taps (all : List (Tap (Decider (Session ω) ResolveData ExternalModule)))
      (session : Session ω) (before : List ImportCall) :
      askTaps data (all.map fun tap => ⟨tap.plugin, Session.besideDecider tap.callback⟩)
          (session.withCalls before) =
        ((askTaps data all session).1, (askTaps data all session).2.withCalls before) := by
    induction all generalizing session with
    | nil => rfl
    | cons tap all ih =>
      cases decided : tap.callback data session with
      | mk answer after =>
        have beside : Session.besideDecider tap.callback data (session.withCalls before) =
            (answer, after.withCalls before) := by
          unfold Session.besideDecider
          rw [show (session.withCalls before).plain = session from rfl, decided]
          rfl
        rw [List.map_cons, askTaps, askTaps]
        dsimp only [bind, StateT.bind]
        rw [beside, decided]
        cases answer with
        | some answer => rfl
        | none => exact ih after
  exact taps hooks.factorize.taps session (before ++ [.factorize data])

end Hooks

namespace Import

variable (around : Surroundings (Session ω)) (module : Path)

def requestCalls (module : Path) (request : String) : List ImportCall :=
  [.requireCall { request, module }, .factorize { request, context := module.parent?.getD ⟨"."⟩ }]

/-- What the hooks are called with for an import call. -/
def siteCalls (module : Path) (site : Script.CallSite) : List ImportCall :=
  match site.argument with
  | .text request _ => requestCalls module request
  | _ => []

theorem records_resolve (request : String) :
    Records (resolve around module request) (resolve around.recording module request)
      (requestCalls module request) := by
  intro session found after resolved before
  obtain ⟨shown, answer, showing, asked, meant⟩ := resolve_eq_ok_iff.1 resolved
  refine resolve_eq_ok_iff.2 ⟨_, answer, records_show around.hooks _ showing before, ?_, meant⟩
  rw [show around.recording.hooks = around.hooks.recording from rfl, ask_recording, asked,
    List.append_assoc]
  rfl

theorem records_resolveSite (source : List Char) (site : Script.CallSite) :
    Records (resolveSite around module source site)
      (resolveSite around.recording module source site) (siteCalls module site) := by
  unfold resolveSite siteCalls
  cases site.argument with
  | text request argument =>
    exact (records_resolve around module request).map fun dependency =>
      (⟨site, argument, dependency⟩ : Resolved)
  | _ => exact .fail _ _ _

theorem records_resolveSites (source : List Char) (sites : List Script.CallSite) :
    Records (resolveSites around module source sites)
      (resolveSites around.recording module source sites) (sites.flatMap (siteCalls module)) := by
  induction sites with
  | nil => exact .pure []
  | cons site sites ih =>
    unfold resolveSites
    rw [List.flatMap_cons]
    refine (records_resolveSite around module source site).bind fun first => ?_
    exact ih.map fun others => first :: others

end Import

namespace Discover

variable (setup : Setup (Session ω))

/-- The import calls in the source of the module at a path. -/
def Setup.callSites (path : Path) : List Script.CallSite :=
  match (setup.text? path).bind fun text => (Script.Node.ofText? text).toOption with
  | some program => program.callSites
  | none => []

theorem Setup.callSites_eq {path : Path} {text : String} {program : Script.Node}
    (known : setup.text? path = some text) (parsed : Script.Node.ofText? text = .ok program) :
    setup.callSites path = program.callSites := by
  unfold callSites
  rw [known, Option.bind_some, parsed]
  dsimp only [Except.toOption]

/-- What the hooks are called with for a module: once for each import call of its source. -/
def Setup.moduleCalls (module : Module) : List ImportCall :=
  match module.kind with
  | .normal path => (setup.callSites path).flatMap (Import.siteCalls path)
  | .external _ => []

def Setup.graphCalls (graph : ModuleGraph) : List ImportCall :=
  graph.normalContents.flatMap setup.moduleCalls

/-- Loading a file calls the hooks for its import calls, in order. -/
theorem records_load (path : Path) :
    Records (load setup path) (load setup.recording path)
      ((setup.callSites path).flatMap (Import.siteCalls path)) := by
  intro session extracted after loaded before
  obtain ⟨text, known, extraction⟩ := load_eq_ok.1 loaded
  obtain ⟨program, imports, code, parsed, resolving, edited, rfl⟩ := Import.extract_eq_ok extraction
  have sites := setup.callSites_eq known parsed
  refine load_eq_ok.2 ⟨text, known, ?_⟩
  have recorded := Import.records_resolveSites setup.around path text.toList program.callSites
    resolving before
  unfold Import.extract
  rw [parsed]
  refine bind_eq_ok.2 ⟨imports, _, recorded, ?_⟩
  simp only [edited]
  rw [sites]
  rfl

variable {setup}

theorem graphCalls_of_contents {graph other : ModuleGraph} {added : List Module}
    (contents : other.contents = graph.contents ++ added) :
    setup.graphCalls other =
      setup.graphCalls graph ++ (added.filter (!·.isExternal)).flatMap setup.moduleCalls := by
  rw [Setup.graphCalls, ModuleGraph.normalContents, contents, List.filter_append,
    List.flatMap_append, ← ModuleGraph.normalContents, ← Setup.graphCalls]

theorem graphCalls_addOwner {graph : ModuleGraph} (indexed : graph.Indexed) (id entry : String) :
    setup.graphCalls (graph.addOwner id entry) = setup.graphCalls graph := by
  have same : (graph.addOwner id entry).contents = graph.contents ++ [] := by
    rw [ModuleGraph.contents_addOwner indexed, List.append_nil]
  rw [graphCalls_of_contents same, List.filter_nil, List.flatMap_nil, List.append_nil]

theorem graphCalls_insert {graph : ModuleGraph} {module : Module}
    (absent : graph.contains module.id = false) :
    setup.graphCalls (graph.insert module).2 =
      setup.graphCalls graph ++ setup.moduleCalls module.bare := by
  rw [graphCalls_of_contents (ModuleGraph.contents_insert absent)]
  cases kind : module.kind <;> simp [Module.bare, Module.isExternal, Setup.moduleCalls, kind]

/-- When calls of some depth are recorded in step with the graph, a loop of them is. -/
theorem loop_recording {entry : String} {depth : Nat}
    (called : ∀ {path : Path} {graph final : ModuleGraph} {session last : Session ω} {id : String},
      graph.Indexed → addModule setup entry depth path (graph, session) = .ok id (final, last) →
      addModule setup.recording entry depth path
          (graph, session.withCalls (setup.graphCalls graph)) =
        .ok id (final, last.withCalls (setup.graphCalls final)))
    {needs : List Dependency} {graph final : ModuleGraph} {session last : Session ω}
    (indexed : graph.Indexed)
    (followed : needs.forM (follow setup entry depth) (graph, session) = .ok () (final, last)) :
    needs.forM (follow setup.recording entry depth)
        (graph, session.withCalls (setup.graphCalls graph)) =
      .ok () (final, last.withCalls (setup.graphCalls final)) := by
  induction needs generalizing graph session with
  | nil =>
    cases followed
    rfl
  | cons need needs ih =>
    obtain ⟨⟨middle, between⟩, first, rest⟩ := forM_cons_eq_ok.1 followed
    have alone : [need].forM (follow setup entry depth) (graph, session) = .ok () (middle, between) :=
      forM_cons_eq_ok.2 ⟨_, first, rfl⟩
    refine forM_cons_eq_ok.2 ⟨_, ?_, ih ((visits_of_forM alone).extends indexed).1 rest⟩
    cases target : need.target with
    | file path =>
      obtain ⟨id, added⟩ := (follow_file_eq_ok target).1 first
      exact (follow_file_eq_ok target).2 ⟨id, called indexed added⟩
    | external library =>
      rw [follow_external target] at first ⊢
      cases taken : graph.contains need.id with
      | true =>
        rw [if_pos taken] at first
        cases first
        rw [if_pos rfl, graphCalls_addOwner indexed]
      | false =>
        rw [if_neg (by simp [taken])] at first
        cases first
        rw [if_neg Bool.false_ne_true, graphCalls_insert taken]
        simp [Setup.moduleCalls, externalModule, Module.new, Module.bare]

/-- A discovery is recorded in step with the graph: when a call ends, the calls that have been kept are
those for the modules that are there. -/
theorem addModule_recording {entry : String} (depth : Nat) {path : Path} {graph final : ModuleGraph}
    {session last : Session ω} {id : String} (indexed : graph.Indexed)
    (added : addModule setup entry depth path (graph, session) = .ok id (final, last)) :
    addModule setup.recording entry depth path (graph, session.withCalls (setup.graphCalls graph)) =
      .ok id (final, last.withCalls (setup.graphCalls final)) := by
  induction depth generalizing path graph final session last id with
  | zero => cases added
  | succ depth ih =>
    cases known : graph.contains (setup.around.resolver.moduleId path) with
    | true =>
      rw [addModule_known known] at added
      cases added
      rw [graphCalls_addOwner indexed]
      exact addModule_known known
    | false =>
      obtain ⟨extracted, read, source, followed, rfl⟩ := (addModule_new_eq_ok known).1 added
      have recorded := records_load setup path source (setup.graphCalls graph)
      have calls : setup.graphCalls graph ++
          (setup.callSites path).flatMap (Import.siteCalls path) =
            setup.graphCalls (graph.insert (setup.normalModule entry path extracted)).2 := by
        rw [graphCalls_insert known]
        rfl
      rw [calls] at recorded
      have same : graph.contains (setup.recording.around.resolver.moduleId path) = false := known
      exact (addModule_new_eq_ok same).2
        ⟨extracted, _, recorded, loop_recording ih (indexed.insert _) followed, rfl⟩

end Discover

end ModuleBundler
