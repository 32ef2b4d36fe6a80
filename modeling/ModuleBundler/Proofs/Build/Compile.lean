import ModuleBundler.Proofs.Build.Entries
import ModuleBundler.Proofs.Build.Result
import ModuleBundler.Proofs.Hook

/-!
What compiling is made of: the hooks before it, the rules, the construction of the graph, the rendering of
the chunks, and the hooks behind it.
-/

namespace ModuleBundler.Bundler

variable {ω : Type} {bundler : Bundler ω} {disk : FileSystem} {session last : Session ω}

theorem reviseWith_eq_ok {hooks : Hooks ω} {compilation revised : Compilation} :
    reviseWith hooks compilation session = .ok revised last ↔
      hooks.emit.revise (compilation, session) = .ok () (revised, last) := by
  unfold reviseWith
  cases hooks.emit.revise (compilation, session) with
  | ok answer state => simp [Prod.ext_iff]
  | error error state => simp

/-- A compilation that succeeds has shown itself to the hooks before anything is read, has constructed the
graph with the rules of the configuration, and has been revised with an asset for each chunk. -/
theorem compile_eq_ok {compilation : Compilation} :
    bundler.compile disk session = .ok compilation last ↔
      ∃ shown pipeline found middle final,
        bundler.hooks.run.show (.new bundler.config) session = .ok () shown ∧
          TransformPipeline.ofRules bundler.config.rules = .ok pipeline ∧
          bundler.construct disk pipeline (shown.write .info "Building module graph...") =
            .ok found middle ∧
          reviseWith bundler.hooks (emitChunks bundler.config.output.filename found)
              (middle.write .info
                ("Rendering " ++ toString found.chunks.length ++ " chunks...")) =
            .ok compilation final ∧
          last = final.write .info
            ("Writing " ++ toString compilation.assets.size ++ " assets...") := by
  unfold compile
  dsimp only
  constructor
  · intro compiled
    obtain ⟨_, shown, showing, compiled⟩ := bind_eq_ok.1 compiled
    obtain ⟨_, _, logged, compiled⟩ := bind_eq_ok.1 compiled
    cases logged
    cases ruled : TransformPipeline.ofRules bundler.config.rules with
    | error error =>
      rw [ruled] at compiled
      cases compiled
    | ok pipeline =>
      rw [ruled] at compiled
      obtain ⟨found, middle, constructed, compiled⟩ := bind_eq_ok.1 compiled
      obtain ⟨_, _, logged, compiled⟩ := bind_eq_ok.1 compiled
      cases logged
      obtain ⟨revised, final, revising, compiled⟩ := bind_eq_ok.1 compiled
      obtain ⟨_, _, logged, compiled⟩ := bind_eq_ok.1 compiled
      cases logged
      obtain ⟨rfl, rfl⟩ := pure_eq_ok.1 compiled
      exact ⟨shown, pipeline, found, middle, final, showing, rfl, constructed, revising, rfl⟩
  · rintro ⟨shown, pipeline, found, middle, final, showing, ruled, constructed, revising, rfl⟩
    rw [ruled]
    refine bind_eq_ok.2 ⟨(), shown, showing, bind_eq_ok.2 ⟨(), _, rfl, ?_⟩⟩
    refine bind_eq_ok.2 ⟨found, middle, constructed, bind_eq_ok.2 ⟨(), _, rfl, ?_⟩⟩
    exact bind_eq_ok.2 ⟨compilation, final, revising, bind_eq_ok.2 ⟨(), _, rfl, rfl⟩⟩

/-- What a build constructs when the first taps have let it, and the session that is left by then. -/
def Constructs (bundler : Bundler ω) (disk : FileSystem) (session : Session ω) (pipeline : TransformPipeline)
    (found : Compilation) (middle : Session ω) : Prop :=
  ∃ shown, bundler.hooks.run.show (.new bundler.config) session = .ok () shown ∧
    TransformPipeline.ofRules bundler.config.rules = .ok pipeline ∧
    bundler.construct disk pipeline (shown.write .info "Building module graph...") = .ok found middle

/-- A build that has constructed its graph and has called the first ones of the taps that revise its assets. -/
def Reaches (bundler : Bundler ω) (disk : FileSystem) (session : Session ω)
    (passed : List (Tap (Reviser (Session ω) Compilation))) (pipeline : TransformPipeline)
    (found : Compilation) (state : Compilation × Session ω) : Prop :=
  ∃ middle, bundler.Constructs disk session pipeline found middle ∧
    callTaps id (.asyncHookFailure bundler.hooks.emit.name) passed
        (emitChunks bundler.config.output.filename found, middle.write .info
          ("Rendering " ++ toString found.chunks.length ++ " chunks...")) = .ok () state

theorem exists_reaches {compilation : Compilation}
    (compiled : bundler.compile disk session = .ok compilation last)
    {passed later : List (Tap (Reviser (Session ω) Compilation))}
    (taps : bundler.hooks.emit.taps = passed ++ later) :
    ∃ pipeline found state final, bundler.Reaches disk session passed pipeline found state ∧
      callTaps id (.asyncHookFailure bundler.hooks.emit.name) later state =
        .ok () (compilation, final) := by
  obtain ⟨shown, pipeline, found, middle, final, showing, ruled, constructed, revising, -⟩ :=
    compile_eq_ok.1 compiled
  have revised := reviseWith_eq_ok.1 revising
  rw [Hook.revise, taps] at revised
  obtain ⟨state, first, rest⟩ := callTaps_append_eq_ok.1 revised
  exact ⟨pipeline, found, state, final, ⟨middle, ⟨shown, showing, ruled, constructed⟩, first⟩, rest⟩

end ModuleBundler.Bundler
