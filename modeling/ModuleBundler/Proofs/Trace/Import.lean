import ModuleBundler.Proofs.Discover.Composed
import ModuleBundler.Proofs.Trace.Basic

/-!
What taps are called with while the graph is constructed: import calls and requests only, until one fails
or something else does.
-/

namespace ModuleBundler

variable {ω σ τ α β : Type}

def TapCall.OfImport (call : TapCall) : Prop :=
  (∃ required, call.shown = .requireCall required) ∨ ∃ data, call.shown = .factorize data

def TracesImports (marking : Marking σ τ) (action : EStateM BuildError σ α)
    (traced : EStateM BuildError τ α) : Prop :=
  ∀ start, ∃ calls, Traces marking action traced start calls ∧ ∀ call ∈ calls, call.OfImport

namespace TracesImports

variable {marking : Marking σ τ}

theorem pure (found : α) : TracesImports marking (Pure.pure found) (Pure.pure found) :=
  fun _ => ⟨[], .pure found, nofun⟩

theorem throw (error : BuildError) :
    TracesImports marking (MonadExcept.throw error : EStateM BuildError σ α)
      (MonadExcept.throw error) :=
  fun _ => ⟨[], .throw error, nofun⟩

theorem bind {first : EStateM BuildError σ α} {traced : EStateM BuildError τ α}
    {second : α → EStateM BuildError σ β} {continued : α → EStateM BuildError τ β}
    (traces : TracesImports marking first traced)
    (continues : ∀ found, TracesImports marking (second found) (continued found)) :
    TracesImports marking (first >>= second) (traced >>= continued) := by
  intro start
  obtain ⟨calls, begun, ofImport⟩ := traces start
  cases ended : first start with
  | error error final =>
    refine ⟨calls ++ [], begun.bind ?_ fun _ _ _ => rfl, by rwa [List.append_nil]⟩
    intro found middle succeeded
    rw [ended] at succeeded
    cases succeeded
  | ok found middle =>
    obtain ⟨more, rest, others⟩ := continues found middle
    refine ⟨calls ++ more, begun.bind ?_ ?_, fun call member => ?_⟩
    · intro met between succeeded
      rw [ended] at succeeded
      cases succeeded
      exact rest
    · intro error final failed
      rw [ended] at failed
      cases failed
    · exact (List.mem_append.1 member).elim (ofImport call) (others call)

theorem composes (marking : Marking σ τ) :
    Related.Composes fun _ action traced => TracesImports marking action traced where
  pure := pure
  throw error _ := throw error
  bind := bind

end TracesImports

/-- Asking taps is traced by asking the taps that keep their calls. -/
theorem Hook.traces_ask (hook : Hook (Decider (Session ω) ResolveData ExternalModule))
    (data : ResolveData) (session : Session ω) : ∃ calls,
      (∀ before, hook.tracedAsk.ask data (Marking.session.mark session before) =
        ((hook.ask data session).1,
          Marking.session.mark (hook.ask data session).2 (before ++ calls))) ∧
        Quiet calls ∧ ∀ call ∈ calls, call.OfImport := by
  unfold Hook.ask Hook.tracedAsk Hook.change
  dsimp only
  induction hook.taps generalizing session with
  | nil => exact ⟨[], fun before => by rw [List.append_nil]; rfl, quiet_nil, nofun⟩
  | cons tap taps ih =>
    cases decided : tap.callback data session with
    | mk answer after =>
      let call : TapCall := ⟨hook.name, tap.plugin, .factorize data, none⟩
      cases answer with
      | some provided =>
        refine ⟨[call], fun before => ?_, by simp [Quiet, call], ?_⟩
        · rw [List.map_cons, askTaps, askTaps]
          dsimp only [bind, StateT.bind]
          rw [Marking.plain_mark, Marking.calls_mark, decided]
          rfl
        · intro one member
          obtain rfl := List.mem_singleton.1 member
          exact .inr ⟨data, rfl⟩
      | none =>
        obtain ⟨calls, asked, quiet, ofImport⟩ := ih after
        refine ⟨call :: calls, fun before => ?_, ?_, ?_⟩
        · rw [List.map_cons, askTaps, askTaps]
          dsimp only [bind, StateT.bind]
          rw [Marking.plain_mark, Marking.calls_mark, decided]
          dsimp only
          rw [asked, List.append_assoc]
          rfl
        · have first : Quiet [call] := by simp [Quiet, call]
          exact quiet_append.2 ⟨first, quiet⟩
        · intro one member
          rcases List.mem_cons.1 member with rfl | later
          · exact .inr ⟨data, rfl⟩
          · exact ofImport one later

def Import.Surroundings.traced (around : Import.Surroundings (Session ω)) :
    Import.Surroundings (Session (ω × List TapCall)) :=
  { around with hooks := around.hooks.traced }

namespace Discover

variable (setup : Setup (Session ω))

def Setup.traced : Setup (Session (ω × List TapCall)) :=
  { setup with around := setup.around.traced }

/-- What the hooks of a traced setup do is traced by what those of the setup do. -/
theorem counterpart_traced : setup.Counterpart
    (fun _ action traced => TracesImports Marking.session action traced) setup.traced where
  disk := rfl
  resolver := rfl
  pipeline := rfl
  transforms := rfl
  shows call := by
    refine fun session => ⟨_, Hook.traces_show fun _ _ _ => rfl, fun made member => ?_⟩
    obtain ⟨-, _, shown⟩ := hook_of_mem_tapCalls member
    exact .inl ⟨_, shown⟩
  asks data := by
    intro session
    obtain ⟨calls, asked, quiet, ofImport⟩ := setup.around.hooks.factorize.traces_ask data session
    refine ⟨calls, ⟨fun before => ?_, .inl quiet⟩, ofImport⟩
    have same : setup.traced.around.hooks.factorize = setup.around.hooks.factorize.tracedAsk := rfl
    unfold ImportHooks.asking
    rw [same, asked before]
    rfl

theorem aside_eq (action : EStateM BuildError σ α) (graph : ModuleGraph) (state : σ) :
    aside action (graph, state) =
      mapOutcome (fun found _ => found) (graph, ·) (action state) := by
  unfold aside
  dsimp only
  cases action state <;> rfl

theorem traces_aside {action : EStateM BuildError σ α} {traced : EStateM BuildError τ α}
    {marking : Marking σ τ} (traces : TracesImports marking action traced) :
    TracesImports marking.beside (aside action) (aside traced) := by
  intro (graph, state)
  obtain ⟨calls, begun, ofImport⟩ := traces state
  exact ⟨calls, begun.within (aside_eq action graph state)
    (fun before => aside_eq traced graph (marking.mark state before)) (fun _ _ _ => rfl)
    fun _ _ => rfl, ofImport⟩

theorem traces_graph {marking : Marking σ τ} : TracesImports marking.beside graph graph :=
  fun _ => ⟨[], ⟨fun before => by rw [List.append_nil]; rfl, .inl quiet_nil⟩, nofun⟩

theorem traces_changeGraph {marking : Marking σ τ} (change : ModuleGraph → ModuleGraph) :
    TracesImports marking.beside (changeGraph change) (changeGraph change) :=
  fun _ => ⟨[], ⟨fun before => by rw [List.append_nil]; rfl, .inl quiet_nil⟩, nofun⟩

theorem besides_traced (marking : Marking σ τ) :
    Beside (fun _ action traced => TracesImports marking action traced)
      fun _ action traced => TracesImports marking.beside action traced where
  composes := TracesImports.composes marking.beside
  tooDeep _ := .throw _
  aside := traces_aside
  graph := traces_graph
  changeGraph := traces_changeGraph

theorem traces_addModule (entry : String) (depth : Nat) (path : Path) :
    TracesImports Marking.session.beside (addModule setup entry depth path)
      (addModule setup.traced entry depth path) :=
  (counterpart_traced setup).addModule (TracesImports.composes _) (besides_traced _) entry depth path

end Discover

namespace Bundler

variable (setup : Discover.Setup (Session ω))

theorem addEntryModules_eq (name : String) (path : Path) (compilation : Compilation)
    (session : Session ω) : addEntryModules setup name path compilation session =
      mapOutcome (fun id final => (id, final.1)) Prod.snd
        (Discover.addEntry setup name path (compilation.graph, session)) := by
  unfold addEntryModules
  cases Discover.addEntry setup name path (compilation.graph, session) <;> rfl

theorem traces_addEntryModules (name : String) (path : Path) (compilation : Compilation) :
    TracesImports Marking.session (addEntryModules setup name path compilation)
      (addEntryModules setup.traced name path compilation) := by
  intro session
  obtain ⟨calls, begun, ofImport⟩ :=
    Discover.traces_addModule setup name (FileSystem.pathCount + 1) path (compilation.graph, session)
  exact ⟨calls, begun.within (addEntryModules_eq setup name path compilation session)
    (fun before => addEntryModules_eq setup.traced name path compilation
      (Marking.session.mark session before)) (fun _ _ _ => rfl) fun _ _ => rfl, ofImport⟩

theorem traces_discover (asked : List (String × Path)) (compilation : Compilation) :
    TracesImports Marking.session (discover setup asked compilation)
      (discover setup.traced asked compilation) := by
  induction asked generalizing compilation with
  | nil => exact .pure _
  | cons one asked ih =>
    refine .bind ?_ fun next => ih next
    unfold discoverEntry
    rw [show setup.traced.around.resolver = setup.around.resolver from rfl,
      show setup.traced.around.disk = setup.around.disk from rfl]
    cases setup.around.resolver.resolve setup.around.disk one.2.text compilation.root with
    | error failure => exact .throw _
    | ok file => exact (traces_addEntryModules setup one.1 file compilation).bind fun _ => .pure _

end Bundler

end ModuleBundler
