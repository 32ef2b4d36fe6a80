import ModuleBundler.Hook

/-!
Taps that are called one after another: those in front of one, one more behind the others, and the one at which
a property of the state is lost.
-/

namespace ModuleBundler

variable {σ α β : Type}

theorem callTaps_cons_eq_ok {Callback : Type} {run : Callback → EStateM String σ Unit}
    {fault : String → String → BuildError} {tap : Tap Callback} {taps : List (Tap Callback)}
    {start final : σ} : callTaps run fault (tap :: taps) start = .ok () final ↔
      ∃ middle, run tap.callback start = .ok () middle ∧
        callTaps run fault taps middle = .ok () final := by
  simp only [callTaps]
  cases run tap.callback start <;> simp

theorem callTaps_append_eq_ok {Callback : Type} {run : Callback → EStateM String σ Unit}
    {fault : String → String → BuildError} {front back : List (Tap Callback)} {start final : σ} :
    callTaps run fault (front ++ back) start = .ok () final ↔
      ∃ middle, callTaps run fault front start = .ok () middle ∧
        callTaps run fault back middle = .ok () final := by
  induction front generalizing start with
  | nil =>
    constructor
    · exact fun called => ⟨start, rfl, called⟩
    · rintro ⟨middle, ended, called⟩
      cases ended
      exact called
  | cons first front ih =>
    simp only [List.cons_append, callTaps_cons_eq_ok, ih]
    exact ⟨fun ⟨next, one, middle, others, last⟩ => ⟨middle, ⟨next, one, others⟩, last⟩,
      fun ⟨middle, ⟨next, one, others⟩, last⟩ => ⟨next, one, middle, others, last⟩⟩

theorem callTaps_concat_eq_ok {Callback : Type} {run : Callback → EStateM String σ Unit}
    {fault : String → String → BuildError} {tap : Tap Callback} {taps : List (Tap Callback)}
    {start final : σ} : callTaps run fault (taps ++ [tap]) start = .ok () final ↔
      ∃ middle, callTaps run fault taps start = .ok () middle ∧
        run tap.callback middle = .ok () final := by
  rw [callTaps_append_eq_ok]
  refine exists_congr fun middle => and_congr_right fun _ => ?_
  rw [callTaps_cons_eq_ok]
  constructor
  · rintro ⟨last, called, ended⟩
    cases ended
    exact called
  · exact fun called => ⟨final, called, rfl⟩

/-- What holds of the state at the start and not at the end is lost when one of the taps is called. -/
theorem exists_lost_of_callTaps {Callback : Type} {run : Callback → EStateM String σ Unit}
    {fault : String → String → BuildError} {taps : List (Tap Callback)} {start final : σ} (Has : σ → Prop)
    (called : callTaps run fault taps start = .ok () final) (first : Has start) (last : ¬ Has final) :
    ∃ passed tap later before after, taps = passed ++ tap :: later ∧
      callTaps run fault passed start = .ok () before ∧ run tap.callback before = .ok () after ∧
      Has before ∧ ¬ Has after := by
  induction taps generalizing start with
  | nil =>
    cases called
    exact absurd first last
  | cons tap taps ih =>
    obtain ⟨next, one, rest⟩ := callTaps_cons_eq_ok.1 called
    by_cases kept : Has next
    · obtain ⟨passed, other, later, before, after, rfl, others, lost⟩ := ih rest kept
      exact ⟨tap :: passed, other, later, before, after, rfl, callTaps_cons_eq_ok.2 ⟨next, one, others⟩, lost⟩
    · exact ⟨[], tap, taps, start, next, rfl, rfl, one, first, kept⟩

theorem Hook.show_tap_eq_ok {hook : Hook (Observer σ α)} {plugin : String} {observe : Observer σ α}
    {value : α} {start final : σ} : (hook.tap plugin observe).show value start = .ok () final ↔
      ∃ middle, hook.show value start = .ok () middle ∧ observe value middle = .ok () final :=
  callTaps_concat_eq_ok

theorem Hook.revise_tap_eq_ok {hook : Hook (Reviser σ α)} {plugin : String} {revise : Reviser σ α}
    {start final : α × σ} : (hook.tap plugin revise).revise start = .ok () final ↔
      ∃ middle, hook.revise start = .ok () middle ∧ revise middle = .ok () final :=
  callTaps_concat_eq_ok

/-- One more tap is asked where none before it has answered. -/
theorem askTaps_concat (value : α) (plugin : String) (decide : Decider σ α β)
    (taps : List (Tap (Decider σ α β))) (state : σ) :
    askTaps value (taps ++ [⟨plugin, decide⟩]) state =
      match askTaps value taps state with
      | (some found, after) => (some found, after)
      | (none, after) => decide value after := by
  induction taps generalizing state with
  | nil =>
    show askTaps value [⟨plugin, decide⟩] state = decide value state
    simp only [askTaps, bind, StateT.bind]
    cases decide value state with
    | mk given after => cases given <;> rfl
  | cons tap taps ih =>
    simp only [List.cons_append, askTaps, bind, StateT.bind]
    cases decided : tap.callback value state with
    | mk given after =>
      cases given with
      | some found => rfl
      | none => exact ih after

theorem Hook.ask_tap {hook : Hook (Decider σ α β)} {answer more : α → Option β} {plugin : String}
    {decide : Decider σ α β} (answers : ∀ value state, hook.ask value state = (answer value, state))
    (decides : ∀ value state, decide value state = (more value, state)) (value : α) (state : σ) :
    (hook.tap plugin decide).ask value state =
      ((answer value).orElse fun _ => more value, state) := by
  have known := answers value state
  rw [ask] at known
  rw [ask, tap, askTaps_concat, known]
  cases answer value with
  | some found => rfl
  | none => exact decides value state

end ModuleBundler
