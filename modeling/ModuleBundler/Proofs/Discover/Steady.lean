import ModuleBundler.Proofs.Discover.Composed
import ModuleBundler.Proofs.Discover.Reading

/-!
Reading files with hooks whose answers are a matter of what they are asked. A file then turns out the same
whenever it is read, and a request is claimed everywhere or nowhere.
-/

namespace ModuleBundler

variable {σ : Type}

/-- The answers of import hooks are functions of what they are called with, those about external modules of
the request alone. -/
structure ImportHooks.Predictable (hooks : ImportHooks σ) : Prop where
  requireCall : ∀ tap ∈ hooks.requireCall.taps, ∀ call, Steady (tap.callback call)
  factorize : ∀ tap ∈ hooks.factorize.taps, ∃ answer : String → Option ExternalModule,
    ∀ data state, (tap.callback data state).1 = answer data.request

namespace ImportHooks.Predictable

variable {hooks : ImportHooks σ}

theorem steady_show (predictable : hooks.Predictable) (call : RequireCall) :
    Steady (hooks.requireCall.show call) := by
  have taps (all : List (Tap (Observer σ RequireCall)))
      (steady : ∀ tap ∈ all, Steady (tap.callback call)) :
      Steady (callTaps (fun observe => observe call) (.hookFailure hooks.requireCall.name) all) := by
    induction all with
    | nil => exact .pure ()
    | cons tap all ih =>
      intro start other
      have same := steady tap List.mem_cons_self start other
      have rest := ih fun next member => steady next (List.mem_cons_of_mem _ member)
      simp only [callTaps]
      cases left : tap.callback call start with
      | ok _ middle =>
        cases right : tap.callback call other with
        | ok _ between => exact rest middle between
        | error cause between =>
          rw [left, right] at same
          cases same
      | error cause middle =>
        cases right : tap.callback call other with
        | ok _ between =>
          rw [left, right] at same
          cases same
        | error fault between =>
          rw [left, right] at same
          cases same
          rfl
  exact taps hooks.requireCall.taps fun tap member => predictable.requireCall tap member call

/-- A request is claimed as the same external module wherever it is made, or nowhere. -/
theorem exists_claim (predictable : hooks.Predictable) :
    ∃ claim : String → Option ExternalModule,
      ∀ data state, (hooks.factorize.ask data state).1 = claim data.request := by
  have taps (all : List (Tap (Decider σ ResolveData ExternalModule)))
      (answers : ∀ tap ∈ all, ∃ answer : String → Option ExternalModule,
        ∀ data state, (tap.callback data state).1 = answer data.request) :
      ∃ claim : String → Option ExternalModule,
        ∀ data state, (askTaps data all state).1 = claim data.request := by
    induction all with
    | nil => exact ⟨fun _ => none, fun _ _ => rfl⟩
    | cons tap all ih =>
      obtain ⟨answer, first⟩ := answers tap List.mem_cons_self
      obtain ⟨claim, rest⟩ := ih fun other member => answers other (List.mem_cons_of_mem _ member)
      refine ⟨fun request => (answer request).orElse fun _ => claim request, fun data state => ?_⟩
      have here := first data state
      rw [askTaps]
      dsimp only [bind, StateT.bind]
      cases decided : tap.callback data state with
      | mk given after =>
        rw [decided] at here
        dsimp only at here ⊢
        rw [← here]
        cases given with
        | some provided => rfl
        | none => exact rest data after
  exact taps hooks.factorize.taps predictable.factorize

end ImportHooks.Predictable

def Steadily (σ : Type) : Related σ σ :=
  fun _ action _ => Steady action

theorem composes_steadily : (Steadily σ).Composes where
  pure found := .pure found
  throw error _ := .throw error
  bind steady continues := steady.bind continues

theorem Discover.steady_load {setup : Setup σ} (predictable : setup.around.hooks.Predictable)
    (path : Path) : Steady (load setup path) := by
  obtain ⟨claim, answers⟩ := predictable.exists_claim
  have asks (data : ResolveData) : Steady (setup.around.hooks.asking data) := fun start other =>
    congrArg Except.ok ((answers data start).trans (answers data other).symm)
  have same : setup.Counterpart (Steadily σ) setup :=
    ⟨rfl, rfl, rfl, rfl, predictable.steady_show, asks⟩
  exact same.load composes_steadily path

end ModuleBundler
