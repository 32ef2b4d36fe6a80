import ModuleBundler.Build.Bundler
import ModuleBundler.Proofs.Hook
import ModuleBundler.Proofs.Outcome

/-!
What taps are called with, and in which order. A traced bundler keeps every call of a tap in the plugins'
memory, with what the tap was shown and why it failed, if it did. An action and its traced form end alike,
and the calls that are kept meanwhile end with a failure only where the action ends with it.
-/

namespace ModuleBundler

inductive Shown where
  | run (compilation : Compilation)
  | requireCall (call : RequireCall)
  | factorize (data : ResolveData)
  | emit (compilation : Compilation)
  | done (stats : Stats)

structure TapCall where
  hook : String
  plugin : String
  shown : Shown
  failure : Option String

namespace TapCall

/-- The error that a build ends with when a call fails. -/
def error (call : TapCall) (cause : String) : BuildError :=
  match call.shown with
  | .emit _ => .asyncHookFailure call.hook call.plugin cause
  | _ => .hookFailure call.hook call.plugin cause

end TapCall

def Quiet (calls : List TapCall) : Prop :=
  ∀ call ∈ calls, call.failure = none

structure Marking (σ τ : Type) where
  mark : σ → List TapCall → τ
  plain : τ → σ
  calls : τ → List TapCall
  plain_mark (state : σ) (kept : List TapCall) : plain (mark state kept) = state
  calls_mark (state : σ) (kept : List TapCall) : calls (mark state kept) = kept

variable {ω σ τ α β : Type}

namespace Marking

/-- Calls are kept in the memory of a session. -/
def session : Marking (Session ω) (Session (ω × List TapCall)) where
  mark session kept := { session with memory := (session.memory, kept) }
  plain session := { session with memory := session.memory.1 }
  calls session := session.memory.2
  plain_mark _ _ := rfl
  calls_mark _ _ := rfl

def beside (marking : Marking σ τ) : Marking (α × σ) (α × τ) where
  mark state kept := (state.1, marking.mark state.2 kept)
  plain state := (state.1, marking.plain state.2)
  calls state := marking.calls state.2
  plain_mark state kept := Prod.ext rfl (marking.plain_mark state.2 kept)
  calls_mark state kept := marking.calls_mark state.2 kept

def world : Marking (Bundler.World ω) (Bundler.World (ω × List TapCall)) where
  mark world kept := ⟨session.mark world.session kept, world.disk⟩
  plain world := ⟨session.plain world.session, world.disk⟩
  calls world := session.calls world.session
  plain_mark _ _ := rfl
  calls_mark _ _ := rfl

variable (marking : Marking σ τ)

/-- A result with calls in its state. -/
def result {ε : Type} (kept : List TapCall) : EStateM.Result ε σ α → EStateM.Result ε τ α
  | .ok found final => .ok found (marking.mark final kept)
  | .error error final => .error error (marking.mark final kept)

def noting (call : σ → Option String → TapCall) (run : EStateM String σ Unit) :
    EStateM String τ Unit := fun state =>
  let before := marking.plain state
  match run before with
  | .ok _ after => .ok () (marking.mark after (marking.calls state ++ [call before none]))
  | .error cause after =>
    .error cause (marking.mark after (marking.calls state ++ [call before (some cause)]))

end Marking

def Hook.change {Callback Other : Type} (hook : Hook Callback) (change : Tap Callback → Other) :
    Hook Other where
  name := hook.name
  taps := hook.taps.map fun tap => ⟨tap.plugin, change tap⟩

def Hook.tracedShow (hook : Hook (Observer (Session ω) α)) (shown : α → Shown) :
    Hook (Observer (Session (ω × List TapCall)) α) :=
  hook.change fun tap value =>
    Marking.session.noting (fun _ failure => ⟨hook.name, tap.plugin, shown value, failure⟩)
      (tap.callback value)

def Hook.tracedRevise (hook : Hook (Reviser (Session ω) Compilation)) :
    Hook (Reviser (Session (ω × List TapCall)) Compilation) :=
  hook.change fun tap =>
    Marking.session.beside.noting
      (fun state failure => ⟨hook.name, tap.plugin, .emit state.1, failure⟩) tap.callback

def Hook.tracedAsk (hook : Hook (Decider (Session ω) ResolveData ExternalModule)) :
    Hook (Decider (Session (ω × List TapCall)) ResolveData ExternalModule) :=
  hook.change fun tap data session =>
    let (answer, after) := tap.callback data (Marking.session.plain session)
    (answer, Marking.session.mark after
      (Marking.session.calls session ++ [⟨hook.name, tap.plugin, .factorize data, none⟩]))

def ImportHooks.traced (hooks : ImportHooks (Session ω)) :
    ImportHooks (Session (ω × List TapCall)) where
  requireCall := hooks.requireCall.tracedShow .requireCall
  factorize := hooks.factorize.tracedAsk

def Hooks.traced (hooks : Hooks ω) : Hooks (ω × List TapCall) where
  run := hooks.run.tracedShow .run
  emit := hooks.emit.tracedRevise
  done := hooks.done.tracedShow .done
  imports := hooks.imports.traced

/-- The same bundler with every call of a tap kept. -/
def Bundler.traced (bundler : Bundler ω) : Bundler (ω × List TapCall) :=
  { bundler with hooks := bundler.hooks.traced }

def Ended (calls : List TapCall) (ended : EStateM.Result BuildError σ α) : Prop :=
  Quiet calls ∨ ∃ front last cause final, calls = front ++ [last] ∧ Quiet front ∧
    last.failure = some cause ∧ ended = .error (last.error cause) final

structure Traces (marking : Marking σ τ) (action : EStateM BuildError σ α)
    (traced : EStateM BuildError τ α) (start : σ) (calls : List TapCall) : Prop where
  result : ∀ before, traced (marking.mark start before) =
    marking.result (before ++ calls) (action start)
  ended : Ended calls (action start)

theorem quiet_nil : Quiet [] := nofun

theorem quiet_append {calls more : List TapCall} :
    Quiet (calls ++ more) ↔ Quiet calls ∧ Quiet more := by
  unfold Quiet
  simp only [List.mem_append, or_imp, forall_and]

theorem Ended.quiet {calls : List TapCall} {found : α} {final : σ}
    (ended : Ended calls (.ok found final : EStateM.Result BuildError σ α)) : Quiet calls := by
  rcases ended with quiet | ⟨_, _, _, _, _, _, _, failed⟩
  · exact quiet
  · cases failed

theorem Ended.quiet_of_append {calls more : List TapCall} {ended : EStateM.Result BuildError σ α}
    (whole : Ended (calls ++ more) ended) (onward : more ≠ []) : Quiet calls := by
  rcases whole with quiet | ⟨front, last, _, _, same, quiet, -⟩
  · exact (quiet_append.1 quiet).1
  · rw [← List.dropLast_concat_getLast onward, ← List.append_assoc] at same
    obtain ⟨rfl, -⟩ := List.append_inj' same rfl
    exact (quiet_append.1 quiet).1

theorem Ended.after {calls more : List TapCall} {ended : EStateM.Result BuildError σ α}
    (quiet : Quiet calls) (rest : Ended more ended) : Ended (calls ++ more) ended := by
  rcases rest with others | ⟨front, last, cause, final, rfl, others, failure, failed⟩
  · exact .inl (quiet_append.2 ⟨quiet, others⟩)
  · exact .inr ⟨calls ++ front, last, cause, final, (List.append_assoc ..).symm,
      quiet_append.2 ⟨quiet, others⟩, failure, failed⟩

theorem Ended.map_error {calls : List TapCall} {error : BuildError} {final : σ} {last : τ}
    (ended : Ended calls (.error error final : EStateM.Result BuildError σ α)) :
    Ended calls (.error error last : EStateM.Result BuildError τ β) := by
  rcases ended with quiet | ⟨front, call, cause, _, rfl, quiet, failure, failed⟩
  · exact .inl quiet
  · cases failed
    exact .inr ⟨front, call, cause, last, rfl, quiet, failure, rfl⟩

namespace Traces

variable {marking : Marking σ τ} {start : σ}

theorem pure (found : α) : Traces marking (Pure.pure found) (Pure.pure found) start [] where
  result before := by
    rw [List.append_nil]
    rfl
  ended := .inl quiet_nil

theorem throw (error : BuildError) :
    Traces marking (MonadExcept.throw error : EStateM BuildError σ α) (MonadExcept.throw error)
      start [] where
  result before := by
    rw [List.append_nil]
    rfl
  ended := .inl quiet_nil

theorem bind {first : EStateM BuildError σ α} {traced : EStateM BuildError τ α}
    {second : α → EStateM BuildError σ β} {continued : α → EStateM BuildError τ β}
    {calls more : List TapCall} (traces : Traces marking first traced start calls)
    (continues : ∀ found middle, first start = .ok found middle →
      Traces marking (second found) (continued found) middle more)
    (stops : ∀ error final, first start = .error error final → more = []) :
    Traces marking (first >>= second) (traced >>= continued) start (calls ++ more) := by
  have begun := traces.ended
  have kept := traces.result
  cases ended : first start with
  | ok found middle =>
    rw [ended] at begun kept
    have rest := continues found middle ended
    have whole : (first >>= second) start = second found middle := by
      change EStateM.bind first second start = _
      unfold EStateM.bind
      rw [ended]
    refine ⟨fun before => ?_, whole ▸ rest.ended.after begun.quiet⟩
    change EStateM.bind traced continued _ = _
    unfold EStateM.bind
    rw [kept before, whole, ← List.append_assoc]
    exact rest.result (before ++ calls)
  | error error final =>
    rw [ended] at begun kept
    rw [stops error final ended, List.append_nil]
    have whole : (first >>= second) start = .error error final := by
      change EStateM.bind first second start = _
      unfold EStateM.bind
      rw [ended]
    refine ⟨fun before => ?_, whole ▸ begun.map_error⟩
    change EStateM.bind traced continued _ = _
    unfold EStateM.bind
    rw [kept before, whole]
    rfl

theorem bind_quiet {first : EStateM BuildError σ α} {traced : EStateM BuildError τ α}
    {second : α → EStateM BuildError σ β} {continued : α → EStateM BuildError τ β}
    {calls : List TapCall} (traces : Traces marking first traced start calls)
    (continues : ∀ found middle, first start = .ok found middle →
      Traces marking (second found) (continued found) middle []) :
    Traces marking (first >>= second) (traced >>= continued) start calls := by
  have whole := traces.bind continues fun _ _ _ => rfl
  rwa [List.append_nil] at whole

end Traces

def mapOutcome {ε ρ : Type} (answer : α → σ → β) (state : σ → ρ) :
    EStateM.Result ε σ α → EStateM.Result ε ρ β
  | .ok found final => .ok (answer found final) (state final)
  | .error error final => .error error (state final)

/-- What is done with a part of a state is traced with the rest beside it. -/
theorem Traces.within {σ' τ' : Type} {marking : Marking σ τ} {wider : Marking σ' τ'}
    {inner : EStateM BuildError σ α} {innerTraced : EStateM BuildError τ α}
    {outer : EStateM BuildError σ' β} {outerTraced : EStateM BuildError τ' β}
    {start : σ} {begun : σ'} {calls : List TapCall} {answer : α → σ → β} {state : σ → σ'}
    {answerTraced : α → τ → β} {stateTraced : τ → τ'}
    (traces : Traces marking inner innerTraced start calls)
    (plainly : outer begun = mapOutcome answer state (inner start))
    (traced : ∀ before, outerTraced (wider.mark begun before) =
      mapOutcome answerTraced stateTraced (innerTraced (marking.mark start before)))
    (answers : ∀ found final kept, answerTraced found (marking.mark final kept) = answer found final)
    (states : ∀ final kept, stateTraced (marking.mark final kept) = wider.mark (state final) kept) :
    Traces wider outer outerTraced begun calls := by
  obtain ⟨kept, ended⟩ := traces
  cases done : inner start with
  | ok found final =>
    rw [done] at plainly kept ended
    refine ⟨fun before => ?_, .inl ended.quiet⟩
    rw [traced, kept, plainly]
    simp only [Marking.result, mapOutcome, answers, states]
  | error error final =>
    rw [done] at plainly kept ended
    refine ⟨fun before => ?_, plainly ▸ ended.map_error⟩
    rw [traced, kept, plainly]
    simp only [Marking.result, mapOutcome, states]

def tapCalls {Callback : Type} (hook : String) (run : Callback → EStateM String σ Unit)
    (shown : σ → Shown) : List (Tap Callback) → σ → List TapCall
  | [], _ => []
  | tap :: taps, state =>
    match run tap.callback state with
    | .ok _ next => ⟨hook, tap.plugin, shown state, none⟩ :: tapCalls hook run shown taps next
    | .error cause _ => [⟨hook, tap.plugin, shown state, some cause⟩]

section Taps

variable {Callback Other : Type} {hook : String} {run : Callback → EStateM String σ Unit}
  {shown : σ → Shown} {taps : List (Tap Callback)} {start : σ}

theorem tapCalls_plugins :
    (tapCalls hook run shown taps start).map TapCall.plugin <+: taps.map Tap.plugin := by
  induction taps generalizing start with
  | nil => exact List.prefix_rfl
  | cons tap taps ih =>
    unfold tapCalls
    split
    · exact (List.cons_prefix_cons).2 ⟨rfl, ih⟩
    · exact (List.cons_prefix_cons).2 ⟨rfl, List.nil_prefix⟩

theorem hook_of_mem_tapCalls {call : TapCall} (member : call ∈ tapCalls hook run shown taps start) :
    call.hook = hook ∧ ∃ state, call.shown = shown state := by
  induction taps generalizing start with
  | nil => cases member
  | cons tap taps ih =>
    unfold tapCalls at member
    split at member
    · rcases List.mem_cons.1 member with rfl | later
      · exact ⟨rfl, start, rfl⟩
      · exact ih later
    · obtain rfl := List.mem_singleton.1 member
      exact ⟨rfl, start, rfl⟩

/-- A call is shown the state that the taps in front of it lead to. -/
theorem tapCalls_reached (fault : String → String → BuildError) {front back : List TapCall} {call : TapCall}
    (made : tapCalls hook run shown taps start = front ++ call :: back) :
    ∃ state, callTaps run fault (taps.take front.length) start = .ok () state ∧
      call.shown = shown state := by
  induction taps generalizing start front with
  | nil => simp [tapCalls] at made
  | cons tap taps ih =>
    unfold tapCalls at made
    cases called : run tap.callback start with
    | error cause next =>
      rw [called] at made
      rcases front with _ | ⟨one, front⟩
      · obtain ⟨rfl, -⟩ := List.cons.inj made
        exact ⟨start, rfl, rfl⟩
      · simp at made
    | ok _ next =>
      rw [called] at made
      rcases front with _ | ⟨one, front⟩
      · obtain ⟨rfl, -⟩ := List.cons.inj made
        exact ⟨start, rfl, rfl⟩
      · obtain ⟨state, others, same⟩ := ih (List.cons.inj made).2
        exact ⟨state, callTaps_cons_eq_ok.2 ⟨next, called, others⟩, same⟩

theorem tapCalls_plugins_of_quiet (quiet : Quiet (tapCalls hook run shown taps start)) :
    (tapCalls hook run shown taps start).map TapCall.plugin = taps.map Tap.plugin := by
  induction taps generalizing start with
  | nil => rfl
  | cons tap taps ih =>
    unfold tapCalls at quiet ⊢
    cases called : run tap.callback start with
    | ok _ next =>
      rw [called] at quiet
      exact congrArg (tap.plugin :: ·) (ih (List.forall_mem_cons.1 quiet).2)
    | error cause next =>
      rw [called] at quiet
      cases quiet _ List.mem_cons_self

/-- Calling taps is traced by calling the taps that keep their calls. -/
theorem traces_callTaps {marking : Marking σ τ} {fault : String → String → BuildError}
    {change : Tap Callback → Other} {traced : Other → EStateM String τ Unit}
    (noted : ∀ tap, traced (change tap) =
      marking.noting (fun state failure => ⟨hook, tap.plugin, shown state, failure⟩)
        (run tap.callback))
    (named : ∀ plugin state cause failure,
      TapCall.error ⟨hook, plugin, shown state, failure⟩ cause = fault plugin cause) :
    Traces marking (callTaps run fault taps)
      (callTaps traced fault (taps.map fun tap => ⟨tap.plugin, change tap⟩)) start
      (tapCalls hook run shown taps start) := by
  induction taps generalizing start with
  | nil => exact .pure ()
  | cons tap taps ih =>
    have noting (before : List TapCall) : traced (change tap) (marking.mark start before) =
        match run tap.callback start with
        | .ok _ after => .ok () (marking.mark after
            (before ++ [⟨hook, tap.plugin, shown start, none⟩]))
        | .error cause after => .error cause (marking.mark after
            (before ++ [⟨hook, tap.plugin, shown start, some cause⟩])) := by
      rw [noted]
      unfold Marking.noting
      rw [marking.plain_mark, marking.calls_mark]
    simp only [tapCalls]
    cases called : run tap.callback start with
    | error cause next =>
      have failed : callTaps run fault (tap :: taps) start = .error (fault tap.plugin cause) next := by
        simp only [callTaps, called]
      refine ⟨fun before => ?_, failed ▸ .inr ⟨[], _, cause, next, rfl, quiet_nil, rfl, ?_⟩⟩
      · rw [failed, List.map_cons]
        simp only [callTaps]
        rw [noting, called]
        rfl
      · rw [named]
    | ok _ next =>
      have passed : callTaps run fault (tap :: taps) start = callTaps run fault taps next := by
        simp only [callTaps, called]
      have quiet : Quiet [⟨hook, tap.plugin, shown start, none⟩] := by simp [Quiet]
      refine ⟨fun before => ?_, passed ▸ .after quiet ih.ended⟩
      rw [passed, List.map_cons]
      simp only [callTaps]
      rw [noting, called]
      dsimp only
      rw [ih.result, List.append_assoc]
      rfl

end Taps

def Hook.showCalls (hook : Hook (Observer (Session ω) α)) (shown : Shown) (value : α)
    (session : Session ω) : List TapCall :=
  tapCalls hook.name (fun observe => observe value) (fun _ => shown) hook.taps session

/-- A hook fails with the name of a plugin. -/
theorem Hook.exists_of_show_eq_error {hook : Hook (Observer σ α)} {value : α} {error : BuildError}
    {start final : σ} (failed : hook.show value start = .error error final) :
    ∃ plugin cause, error = .hookFailure hook.name plugin cause := by
  unfold Hook.show at failed
  generalize hook.taps = taps at failed
  induction taps generalizing start with
  | nil => cases failed
  | cons tap taps ih =>
    simp only [callTaps] at failed
    cases called : tap.callback value start with
    | ok _ next =>
      rw [called] at failed
      exact ih failed
    | error cause next =>
      rw [called] at failed
      cases failed
      exact ⟨tap.plugin, cause, rfl⟩

def Hook.reviseCalls (hook : Hook (Reviser (Session ω) Compilation)) (compilation : Compilation)
    (session : Session ω) : List TapCall :=
  tapCalls hook.name id (fun state => .emit state.1) hook.taps (compilation, session)

theorem Hook.traces_show {hook : Hook (Observer (Session ω) α)} {shown : α → Shown} {value : α}
    {session : Session ω}
    (named : ∀ plugin cause failure, TapCall.error ⟨hook.name, plugin, shown value, failure⟩ cause =
      .hookFailure hook.name plugin cause) :
    Traces Marking.session (hook.show value) ((hook.tracedShow shown).show value) session
      (hook.showCalls (shown value) value session) :=
  traces_callTaps (fun _ => rfl) fun plugin _ cause failure => named plugin cause failure

theorem reviseWith_eq (hooks : Hooks ω) (compilation : Compilation) (session : Session ω) :
    Bundler.reviseWith hooks compilation session =
      mapOutcome (fun _ final => final.1) Prod.snd (hooks.emit.revise (compilation, session)) := by
  unfold Bundler.reviseWith
  cases hooks.emit.revise (compilation, session) <;> rfl

theorem traces_reviseWith {hooks : Hooks ω} {compilation : Compilation} {session : Session ω} :
    Traces Marking.session (Bundler.reviseWith hooks compilation)
      (Bundler.reviseWith hooks.traced compilation) session
      (hooks.emit.reviseCalls compilation session) := by
  have whole : Traces Marking.session.beside hooks.emit.revise hooks.traced.emit.revise
      (compilation, session) (hooks.emit.reviseCalls compilation session) :=
    traces_callTaps (fun _ => rfl) fun _ _ _ _ => rfl
  exact whole.within (reviseWith_eq hooks compilation session)
    (fun before => reviseWith_eq hooks.traced compilation (Marking.session.mark session before))
    (fun _ _ _ => rfl) fun _ _ => rfl

end ModuleBundler
