import ModuleBundler.Proofs.Build.Mirror
import ModuleBundler.Proofs.Discover.Seen

/-!
What an externals plugin has seen when a graph has been constructed. Its taps forget at the start what is left
from earlier builds, and note what they want of each request; the taps of other plugins leave alone what it
has seen.
-/

namespace ModuleBundler

variable {ω : Type}

/-- What the taps of hooks do to what the externals plugin of a number has seen: the first ones begin anew or
go on with what is there, those about imports note what is wanted, and those that revise leave it alone. -/
structure Hooks.Watch (hooks : Hooks ω) (number : Nat) (begun : List String → List String)
    (wanted : String → Bool) : Prop where
  run : ∀ compilation session after, hooks.run.show compilation session = .ok () after →
    after.seen number = begun (session.seen number)
  imports : hooks.imports.Note number wanted
  emit : ∀ tap ∈ hooks.emit.taps, ∀ start final, tap.callback start = .ok () final →
    final.2.seen number = start.2.seen number

namespace Plugin

theorem seen_of_observing {α : Type} {observe : Observer ω α} {value : α} {session after : Session ω}
    (shown : observing observe value session = .ok () after) : after.seen = session.seen := by
  unfold observing at shown
  split at shown
  · cases shown
    rfl
  · cases shown

theorem seen_of_revising {α : Type} {revise : Reviser ω α} {start final : α × Session ω}
    (revised : revising revise start = .ok () final) : final.2.seen = start.2.seen := by
  unfold revising at revised
  cases called : revise (start.1, start.2.memory) with
  | ok answer state =>
    simp only [called] at revised
    cases revised
    rfl
  | error cause state =>
    simp only [called] at revised
    cases revised

theorem seen_of_noteRequest {number : Nat} {libraries : Table ExternalLibrary} {call : RequireCall}
    {session after : Session ω} (noted : noteRequest number libraries call session = .ok () after)
    (other : Nat) : after.seen other = if other = number then
      Session.noted libraries.contains [call.request] (session.seen other) else session.seen other := by
  unfold noteRequest at noted
  rw [Session.noted_cons]
  split at noted
  · rename_i wanted
    cases noted
    rw [if_pos wanted]
    rfl
  · rename_i unwanted
    cases noted
    rw [if_neg unwanted]
    exact (ite_self _).symm

end Plugin

namespace Hooks.Watch

variable {hooks : Hooks ω} {number : Nat} {begun : List String → List String} {wanted : String → Bool}
  (watch : hooks.Watch number begun wanted) (plugin : String)
include watch

theorem tapRun {observe : Observer (Session ω) Compilation}
    (keeps : ∀ compilation session after, observe compilation session = .ok () after →
      after.seen number = session.seen number) :
    (Bundler.tapRun plugin observe hooks).Watch number begun wanted := by
  refine ⟨fun compilation session after shown => ?_, watch.imports, watch.emit⟩
  obtain ⟨middle, first, last⟩ := Hook.show_tap_eq_ok.1 shown
  rw [keeps _ _ _ last, watch.run _ _ _ first]

theorem tapEmit {revise : Reviser (Session ω) Compilation}
    (keeps : ∀ start final, revise start = .ok () final → final.2.seen number = start.2.seen number) :
    (Bundler.tapEmit plugin revise hooks).Watch number begun wanted := by
  refine ⟨watch.run, watch.imports, fun tap member => ?_⟩
  rcases List.mem_append.1 member with old | new
  · exact watch.emit tap old
  · obtain rfl := List.mem_singleton.1 new
    exact keeps

theorem tapFactorize {decide : Decider (Session ω) ResolveData ExternalModule}
    (keeps : ∀ data session, (decide data session).2.seen number = session.seen number) :
    (Bundler.tapFactorize plugin decide hooks).Watch number begun wanted := by
  refine ⟨watch.run, ⟨watch.imports.requireCall, fun data session => ?_⟩, watch.emit⟩
  have asked := watch.imports.factorize data session
  show (askTaps data (hooks.imports.factorize.taps ++ [⟨plugin, decide⟩]) session).2.seen number = _
  rw [askTaps_concat]
  unfold Hook.ask at asked
  split
  · rename_i same
    rwa [same] at asked
  · rename_i same
    rw [same] at asked
    rw [keeps, asked]

theorem tapRequireCall {observe : Observer (Session ω) RequireCall}
    (keeps : ∀ call session after, observe call session = .ok () after →
      after.seen number = session.seen number) :
    (Bundler.tapRequireCall plugin observe hooks).Watch number begun wanted := by
  refine ⟨watch.run, ⟨fun call session after shown => ?_, watch.imports.factorize⟩, watch.emit⟩
  obtain ⟨middle, first, last⟩ := Hook.show_tap_eq_ok.1 shown
  rw [keeps _ _ _ last, watch.imports.requireCall _ _ _ first]

theorem tapCustom (tap : CustomTap ω) : (Bundler.tapCustom plugin hooks tap).Watch number begun wanted := by
  cases tap with
  | run observe =>
    exact watch.tapRun plugin fun _ _ _ shown => congrFun (Plugin.seen_of_observing shown) number
  | emit revise =>
    exact watch.tapEmit plugin fun _ _ revised => congrFun (Plugin.seen_of_revising revised) number
  | done observe => exact ⟨watch.run, watch.imports, watch.emit⟩
  | factorize decide => exact watch.tapFactorize plugin fun _ _ => rfl
  | requireCall observe =>
    exact watch.tapRequireCall plugin fun _ _ _ shown => congrFun (Plugin.seen_of_observing shown) number

theorem tapCustoms (taps : List (CustomTap ω)) :
    (taps.foldl (Bundler.tapCustom plugin) hooks).Watch number begun wanted := by
  induction taps generalizing hooks with
  | nil => exact watch
  | cons tap taps ih => exact ih (watch.tapCustom plugin tap)

end Hooks.Watch

namespace Bundler

variable {bundler : Bundler ω} {number : Nat} {begun : List String → List String} {wanted : String → Bool}

theorem keeps_claim (number : Nat) (libraries : Table ExternalLibrary) (data : ResolveData)
    (session : Session ω) : (Plugin.claim libraries data session).2.seen number = session.seen number :=
  rfl

theorem keeps_emitManifest (number own : Nat) (libraries : Table ExternalLibrary)
    (start final : Compilation × Session ω)
    (revised : Plugin.emitManifest own libraries start = .ok () final) :
    final.2.seen number = start.2.seen number := by
  cases revised
  rfl

/-- A plugin leaves alone what others have seen. -/
theorem watch_apply (watch : bundler.hooks.Watch number begun wanted) {plugin : Plugin ω}
    (apart : number < bundler.externals ∨ (bundler.apply plugin).externals ≤ number) :
    (bundler.apply plugin).hooks.Watch number begun wanted := by
  cases plugin with
  | logger =>
    have logged : (tapRun "LoggerPlugin" Plugin.logStart bundler.hooks).Watch number begun wanted :=
      watch.tapRun _ fun _ _ _ shown => by cases shown; rfl
    exact ⟨logged.run, logged.imports, logged.emit⟩
  | define definitions => exact watch.tapEmit _ fun _ _ revised => by cases revised; rfl
  | compress output => exact watch.tapEmit _ fun _ _ revised => by cases revised; rfl
  | externals libraries =>
    have other : number ≠ bundler.externals := by
      have counted : (bundler.apply (.externals libraries)).externals = bundler.externals + 1 := rfl
      omega
    have started : (tapRun "ExternalsPlugin" (Plugin.forgetRequests bundler.externals)
        bundler.hooks).Watch number begun wanted :=
      watch.tapRun _ fun _ _ _ shown => by cases shown; exact if_neg other
    have claimed := started.tapFactorize "ExternalsPlugin" (keeps_claim number libraries)
    have noted : (tapRequireCall "ExternalsPlugin" (Plugin.noteRequest bundler.externals libraries)
        _).Watch number begun wanted :=
      claimed.tapRequireCall _ fun _ _ _ shown =>
        (Plugin.seen_of_noteRequest shown number).trans (if_neg other)
    exact noted.tapEmit "ExternalsPlugin" (keeps_emitManifest number _ libraries)
  | transform name transform => exact watch
  | custom name taps => exact watch.tapCustoms name taps

/-- From the point on that an externals plugin is applied, its number is begun anew with each build and what it
wants is noted. -/
theorem watch_apply_externals (watch : bundler.hooks.Watch bundler.externals id fun _ => false)
    (libraries : Table ExternalLibrary) : (bundler.apply (.externals libraries)).hooks.Watch
      bundler.externals (fun _ => []) libraries.contains := by
  refine ⟨fun compilation session after shown => ?_, ⟨fun call session after shown => ?_,
    fun data session => ?_⟩, ?_⟩
  · obtain ⟨middle, -, last⟩ := Hook.show_tap_eq_ok.1 shown
    cases last
    exact if_pos rfl
  · obtain ⟨middle, first, last⟩ := Hook.show_tap_eq_ok.1 shown
    rw [Plugin.seen_of_noteRequest last, if_pos rfl, watch.imports.requireCall _ _ _ first]
    rfl
  · have claimed := watch.tapFactorize "ExternalsPlugin" (keeps_claim bundler.externals libraries)
    exact claimed.imports.factorize data session
  · have listed := watch.tapEmit "ExternalsPlugin" (keeps_emitManifest _ bundler.externals libraries)
    exact listed.emit

theorem externals_le_apply (bundler : Bundler ω) (plugin : Plugin ω) :
    bundler.externals ≤ (bundler.apply plugin).externals := by
  cases plugin with
  | externals libraries => exact Nat.le_succ _
  | _ => exact Nat.le_refl _

theorem externals_le_foldl (bundler : Bundler ω) (plugins : List (Plugin ω)) :
    bundler.externals ≤ (plugins.foldl apply bundler).externals := by
  induction plugins generalizing bundler with
  | nil => exact Nat.le_refl _
  | cons plugin plugins ih => exact (bundler.externals_le_apply plugin).trans (ih _)

theorem watch_foldl (watch : bundler.hooks.Watch number begun wanted) {plugins : List (Plugin ω)}
    (apart : number < bundler.externals ∨ (plugins.foldl apply bundler).externals ≤ number) :
    (plugins.foldl apply bundler).hooks.Watch number begun wanted := by
  induction plugins generalizing bundler with
  | nil => exact watch
  | cons plugin plugins ih =>
    have first := bundler.externals_le_apply plugin
    have rest := (bundler.apply plugin).externals_le_foldl plugins
    rw [List.foldl_cons] at apart ⊢
    exact ih (watch_apply watch (by omega)) (by omega)

def numberBehind (config : Config) (front : List (Plugin ω)) : Nat :=
  (withPlugins config front).externals

theorem watch_withPlugins (config : Config) (front : List (Plugin ω))
    (libraries : Table ExternalLibrary) (back : List (Plugin ω)) :
    (withPlugins config (front ++ .externals libraries :: back)).hooks.Watch
      (numberBehind config front) (fun _ => []) libraries.contains := by
  have before : (withPlugins config front).hooks.Watch (numberBehind config front) id fun _ => false := by
    refine watch_foldl ⟨?_, ⟨?_, fun _ _ => rfl⟩, ?_⟩ (.inr le_rfl)
    · intro _ session after shown
      cases shown
      rfl
    · intro _ session after shown
      cases shown
      rfl
    · exact nofun
  unfold withPlugins
  rw [List.foldl_append, List.foldl_cons]
  exact watch_foldl (watch_apply_externals before libraries) (.inl (Nat.lt_succ_self _))

theorem prefix_emit_tapCustoms (name : String) (taps : List (CustomTap ω)) (hooks : Hooks ω) :
    hooks.emit.taps <+: (taps.foldl (tapCustom name) hooks).emit.taps := by
  induction taps generalizing hooks with
  | nil => exact List.prefix_rfl
  | cons tap taps ih =>
    refine List.IsPrefix.trans ?_ (ih (tapCustom name hooks tap))
    cases tap with
    | emit revise => exact List.prefix_append _ _
    | _ => exact List.prefix_rfl

theorem prefix_emit_foldl (bundler : Bundler ω) (plugins : List (Plugin ω)) :
    bundler.hooks.emit.taps <+: (plugins.foldl apply bundler).hooks.emit.taps := by
  induction plugins generalizing bundler with
  | nil => exact List.prefix_rfl
  | cons plugin plugins ih =>
    refine List.IsPrefix.trans ?_ (ih (bundler.apply plugin))
    cases plugin with
    | logger | transform => exact List.prefix_rfl
    | define | compress | externals => exact List.prefix_append _ _
    | custom name taps => exact prefix_emit_tapCustoms name taps bundler.hooks

/-- When a graph has been constructed, an externals plugin has seen just what the files of the graph ask for and
the plugin wants, whatever it had seen before. -/
theorem seen_of_construct (watch : bundler.hooks.Watch number (fun _ => []) wanted) {disk : FileSystem}
    {pipeline : TransformPipeline} {session shown last : Session ω} {compilation found : Compilation}
    (showing : bundler.hooks.run.show compilation session = .ok () shown) (message : String)
    (constructed : bundler.construct disk pipeline (shown.write .info message) = .ok found last) :
    last.seen number = Session.noted wanted
      ((bundler.setup disk bundler.config.contextDirectory pipeline).graphRequests found.graph) [] := by
  obtain ⟨readings, chain, explores⟩ := explores_of_discover constructed
  rw [Discover.graphRequests_of_readings explores.normal, Discover.Readings.seen watch.imports chain]
  have clear : shown.seen number = [] := watch.run _ _ _ showing
  rw [show (shown.write .info message).seen number = [] from clear]

theorem seen_of_callTaps {taps : List (Tap (Reviser (Session ω) Compilation))}
    (keeps : ∀ tap ∈ taps, ∀ start final, tap.callback start = .ok () final →
      final.2.seen number = start.2.seen number) {fault : String → String → BuildError}
    {start final : Compilation × Session ω} (revised : callTaps id fault taps start = .ok () final) :
    final.2.seen number = start.2.seen number := by
  induction taps generalizing start with
  | nil =>
    cases revised
    rfl
  | cons tap taps ih =>
    obtain ⟨middle, first, rest⟩ := callTaps_cons_eq_ok.1 revised
    rw [ih (fun other member => keeps other (List.mem_cons_of_mem _ member)) rest,
      keeps tap List.mem_cons_self _ _ first]

end Bundler

end ModuleBundler
