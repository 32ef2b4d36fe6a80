import ModuleBundler.Proofs.Build.Assets
import ModuleBundler.Proofs.Build.Compile
import ModuleBundler.Proofs.Discover.Mirror

/-!
A compilation that goes the way of another one. Plugins that bring no callbacks of their own forget at the
start what they have seen before, so that nothing is left over from one build to the next.
-/

namespace ModuleBundler

variable {ω σ α β : Type}

section Mirrors

variable {alike : σ → σ → Prop}

theorem Mirrors.show_tap {hook : Hook (Observer σ α)} {plugin : String} {observe : Observer σ α}
    {value : α} (mirrors : Mirrors alike (hook.show value) (hook.show value))
    (also : Mirrors alike (observe value) (observe value)) :
    Mirrors alike ((hook.tap plugin observe).show value) ((hook.tap plugin observe).show value) := by
  intro start state _ final same shown
  obtain ⟨middle, first, last⟩ := Hook.show_tap_eq_ok.1 shown
  obtain ⟨between, one, still⟩ := mirrors same first
  obtain ⟨ended, two, alike'⟩ := also still last
  exact ⟨ended, Hook.show_tap_eq_ok.2 ⟨between, one, two⟩, alike'⟩

theorem Mirrors.revise_tap {alike : α × σ → α × σ → Prop} {hook : Hook (Reviser σ α)}
    {plugin : String} {revise : Reviser σ α} (mirrors : Mirrors alike hook.revise hook.revise)
    (also : Mirrors alike revise revise) :
    Mirrors alike (hook.tap plugin revise).revise (hook.tap plugin revise).revise := by
  intro start state _ final same revised
  obtain ⟨middle, first, last⟩ := Hook.revise_tap_eq_ok.1 revised
  obtain ⟨between, one, still⟩ := mirrors same first
  obtain ⟨ended, two, alike'⟩ := also still last
  exact ⟨ended, Hook.revise_tap_eq_ok.2 ⟨between, one, two⟩, alike'⟩

end Mirrors

def Session.AlikeBelow (count : Nat) (session other : Session ω) : Prop :=
  ∀ number < count, session.seen number = other.seen number

def Session.RevisedAlike (count : Nat) (first second : Compilation × Session ω) : Prop :=
  first.1 = second.1 ∧ Session.AlikeBelow count first.2 second.2

/-- Hooks that nothing is left over in: the first ones clear what externals plugins have seen, those about
a build that is done never fail, and the others go the same way wherever as much has been seen. -/
structure Hooks.Tame (hooks : Hooks ω) (count : Nat) (claim : ResolveData → Option ExternalModule) :
    Prop where
  run : ∀ compilation session, ∃ after, hooks.run.show compilation session = .ok () after ∧
    ∀ number < count, after.seen number = []
  imports : ∀ level, hooks.imports.Mirrored (Session.AlikeBelow level) claim
  emit : ∀ level, count ≤ level →
    Mirrors (Session.RevisedAlike level) hooks.emit.revise hooks.emit.revise
  graph : ∀ start final, hooks.emit.revise start = .ok () final → final.1.graph = start.1.graph
  done : ∀ stats session, ∃ after, hooks.done.show stats session = .ok () after

namespace Plugin

theorem mirrors_revise (level : Nat) (change : Compilation → Compilation) :
    Mirrors (Session.RevisedAlike level) (revise change) (revise change : Reviser (Session ω) _) := by
  rintro ⟨compilation, session⟩ ⟨other, also⟩ _ final ⟨same, alike⟩ revised
  cases revised
  exact ⟨(change other, also), rfl, congrArg change same, alike⟩

theorem mirrors_emitManifest {level number : Nat} (below : number < level)
    (libraries : Table ExternalLibrary) : Mirrors (Session.RevisedAlike level)
      (emitManifest number libraries) (emitManifest number libraries : Reviser (Session ω) _) := by
  rintro ⟨compilation, session⟩ ⟨other, also⟩ _ final ⟨same, alike⟩ revised
  cases revised
  refine ⟨(withManifest libraries (also.seen number) other, also), rfl, ?_, alike⟩
  dsimp only at same ⊢
  rw [same, show session.seen number = also.seen number from alike number below]

theorem mirrors_noteRequest (level number : Nat) (libraries : Table ExternalLibrary)
    (call : RequireCall) : Mirrors (Session.AlikeBelow level)
      (noteRequest number libraries call) (noteRequest number libraries call :
        EStateM String (Session ω) Unit) := by
  unfold noteRequest
  split
  · intro session other _ final alike noted
    cases noted
    refine ⟨other.see number call.request, rfl, fun one below => ?_⟩
    show (if one = number then _ else _) = if one = number then _ else _
    rw [alike one below]
  · exact .pure ()

end Plugin

namespace Bundler

def Tame (bundler : Bundler ω) (claim : ResolveData → Option ExternalModule) : Prop :=
  bundler.hooks.Tame bundler.externals claim

theorem graph_tap {hook : Hook (Reviser (Session ω) Compilation)} {plugin : String}
    {revise : Reviser (Session ω) Compilation}
    (graph : ∀ start final, hook.revise start = .ok () final → final.1.graph = start.1.graph)
    (also : ∀ start final, revise start = .ok () final → final.1.graph = start.1.graph)
    (start final : Compilation × Session ω) (revised : (hook.tap plugin revise).revise start = .ok () final) :
    final.1.graph = start.1.graph := by
  obtain ⟨middle, first, last⟩ := Hook.revise_tap_eq_ok.1 revised
  exact (also middle final last).trans (graph start middle first)

theorem Tame.apply {bundler : Bundler ω} {claim : ResolveData → Option ExternalModule}
    (tame : bundler.Tame claim) {plugin : Plugin ω}
    (builtin : ∀ name taps, plugin ≠ .custom name taps) :
    ∃ more, (bundler.apply plugin).Tame more := by
  obtain ⟨run, imports, emit, graph, done⟩ := tame
  cases plugin with
  | logger =>
    refine ⟨claim, fun compilation session => ?_, imports, emit, graph, fun stats session => ?_⟩
    · obtain ⟨after, shown, clear⟩ := run compilation session
      exact ⟨_, Hook.show_tap_eq_ok.2 ⟨after, shown, rfl⟩, clear⟩
    · obtain ⟨after, shown⟩ := done stats session
      exact ⟨_, Hook.show_tap_eq_ok.2 ⟨after, shown, rfl⟩⟩
  | define definitions =>
    exact ⟨claim, run, imports, fun level above =>
      (emit level above).revise_tap (Plugin.mirrors_revise level _),
      graph_tap graph fun start final revised => by cases revised; rfl, done⟩
  | compress output =>
    exact ⟨claim, run, imports, fun level above =>
      (emit level above).revise_tap (Plugin.mirrors_revise level _),
      graph_tap graph fun start final revised => by cases revised; rfl, done⟩
  | externals libraries =>
    have counted : (bundler.apply (.externals libraries)).externals = bundler.externals + 1 := rfl
    refine ⟨fun data => (claim data).orElse fun _ =>
        (libraries.find? data.request).map fun library => ⟨library.global⟩,
      fun compilation session => ?_, fun level => ⟨fun call => ?_, ?_⟩, fun level above => ?_,
      graph_tap graph fun start final revised => ?_, done⟩
    · obtain ⟨after, shown, clear⟩ := run compilation session
      refine ⟨_, Hook.show_tap_eq_ok.2 ⟨after, shown, rfl⟩, fun number below => ?_⟩
      show (if number = bundler.externals then [] else after.seen number) = []
      split
      · rfl
      · rw [counted] at below
        exact clear number (by omega)
    · exact ((imports level).requireCall call).show_tap
        (Plugin.mirrors_noteRequest level bundler.externals libraries call)
    · exact Hook.ask_tap (imports level).claims fun _ _ => rfl
    · rw [counted] at above
      exact (emit level (by omega)).revise_tap (Plugin.mirrors_emitManifest (by omega) libraries)
    · cases revised
      show (Plugin.withManifest libraries (start.2.seen bundler.externals) start.1).graph = _
      unfold Plugin.withManifest
      split <;> rfl
  | transform name transform => exact ⟨claim, run, imports, emit, graph, done⟩
  | custom name taps => exact absurd rfl (builtin name taps)

/-- Plugins without callbacks of their own leave nothing over in the hooks. -/
theorem exists_tame_withPlugins (config : Config) {plugins : List (Plugin ω)}
    (builtin : ∀ plugin ∈ plugins, ∀ name taps, plugin ≠ .custom name taps) :
    ∃ claim, (withPlugins config plugins).Tame claim := by
  have all (plugins : List (Plugin ω)) (bundler : Bundler ω)
      (builtin : ∀ plugin ∈ plugins, ∀ name taps, plugin ≠ .custom name taps)
      (tame : ∃ claim, bundler.Tame claim) : ∃ claim, (plugins.foldl Bundler.apply bundler).Tame claim := by
    induction plugins generalizing bundler with
    | nil => exact tame
    | cons plugin plugins ih =>
      obtain ⟨claim, tame⟩ := tame
      exact ih _ (fun other member => builtin other (List.mem_cons_of_mem _ member))
        (tame.apply (builtin plugin List.mem_cons_self))
  refine all plugins _ builtin ⟨fun _ => none, ?_⟩
  exact ⟨fun _ session => ⟨session, rfl, nofun⟩, fun _ => ⟨fun _ => .pure (), fun _ _ => rfl⟩,
    fun _ _ => .pure (), fun _ _ ended => by cases ended; rfl, fun _ session => ⟨session, rfl⟩⟩

/-- A bundler whose plugins bring no callbacks of their own. -/
def Builtin (bundler : Bundler ω) : Prop :=
  ∃ plugins : List (Plugin ω), (∀ plugin ∈ plugins, ∀ name taps, plugin ≠ .custom name taps) ∧
    withPlugins bundler.config plugins = bundler

theorem config_withPlugins (config : Config) (plugins : List (Plugin ω)) :
    (withPlugins config plugins).config = config := by
  have all (plugins : List (Plugin ω)) (bundler : Bundler ω) :
      (plugins.foldl Bundler.apply bundler).config = bundler.config := by
    induction plugins generalizing bundler with
    | nil => rfl
    | cons plugin plugins ih => exact ih (bundler.apply plugin)
  exact all plugins _

/-- The plugins that configurations ask for bring no callbacks of their own. -/
theorem builtin_of_ofConfigs {configs : List PluginConfig} {plugins : List (Plugin ω)}
    (asked : Plugin.ofConfigs configs = .ok plugins) :
    ∀ plugin ∈ plugins, ∀ name taps, plugin ≠ .custom name taps := by
  have single (one : PluginConfig) (plugin : Plugin ω) (asked : Plugin.ofConfig one = .ok plugin)
      (name : String) (taps : List (CustomTap ω)) : plugin ≠ .custom name taps := by
    rintro rfl
    unfold Plugin.ofConfig at asked
    dsimp only at asked
    split at asked
    · cases asked
    · cases options : Plugin.definitionsOf? (one.options.getD []) <;> simp [options] at asked
    · cases options : ((one.options.getD []).lookup "output").bind Plugin.textOption? <;>
        simp [options] at asked
    · cases options : Plugin.librariesOf? (one.options.getD []) <;> simp [options] at asked
    · cases asked
  unfold Plugin.ofConfigs at asked
  induction configs generalizing plugins with
  | nil =>
    cases asked
    simp
  | cons one configs ih =>
    rw [List.mapM_cons] at asked
    obtain ⟨first, own, rest⟩ := except_bind_eq_ok.1 asked
    obtain ⟨others, further, ended⟩ := except_bind_eq_ok.1 rest
    cases ended
    intro plugin member
    rcases List.mem_cons.1 member with rfl | later
    · exact single one plugin own
    · exact ih further plugin later

theorem Builtin.exists_tame {bundler : Bundler ω} (builtin : bundler.Builtin) :
    ∃ claim, bundler.Tame claim := by
  obtain ⟨plugins, each, same⟩ := builtin
  rw [← same]
  exact exists_tame_withPlugins bundler.config each

section Compile

variable {setup : Discover.Setup (Session ω)} {alike : Session ω → Session ω → Prop}
  {claim : ResolveData → Option ExternalModule} {other : FileSystem}

/-- A discovery goes the same way where its entries are resolved alike and its files are read alike. -/
theorem discover_mirrored (mirrored : setup.around.hooks.Mirrored alike claim)
    {asked : List (String × Path)} {compilation ended : Compilation} {session last state : Session ω}
    (indexed : compilation.graph.Indexed)
    (located : ∀ one ∈ asked, ∀ file,
      setup.around.resolver.resolve? setup.around.disk one.2.text compilation.root = some file →
        setup.around.resolver.resolve? other one.2.text compilation.root = some file)
    (reads : setup.GraphAlike claim other ended.graph) (same : alike session state)
    (found : discover setup asked compilation session = .ok ended last) :
    ∃ final, discover (setup.on other) asked compilation state = .ok ended final ∧
      alike last final := by
  induction asked generalizing compilation session state with
  | nil =>
    obtain ⟨rfl, rfl⟩ := pure_eq_ok.1 found
    exact ⟨state, rfl, same⟩
  | cons one asked ih =>
    obtain ⟨next, middle, first, rest⟩ := bind_eq_ok.1 found
    obtain ⟨file, id, graph, resolved, added, made⟩ := discoverEntry_eq_ok_iff.1 first
    obtain ⟨-, visits⟩ := Discover.visits_of_addModule _ ⟨id, file.text, .file file⟩ rfl added .done
    have root : next.root = compilation.root := by rw [made]
    have halfway : next.graph.Indexed := by
      rw [made]
      exact (visits.extends indexed).1
    obtain ⟨entries, -, enters⟩ := enters_of_discover rest
    obtain ⟨-, more⟩ := enters.extends halfway
    have early : setup.GraphAlike claim other graph := fun module member =>
      reads module (more.subset (by rwa [made]))
    unfold Discover.addEntry at added
    obtain ⟨between, also, still⟩ :=
      Discover.addModule_mirrored mirrored _ indexed early same added
    have single : discoverEntry (setup.on other) one.1 one.2 compilation state = .ok next between :=
      discoverEntry_eq_ok_iff.2
        ⟨file, id, graph, located one List.mem_cons_self file resolved, also, made⟩
    obtain ⟨final, others, alike'⟩ := ih halfway
      (fun next member => by rw [root]; exact located next (List.mem_cons_of_mem _ member)) still rest
    exact ⟨final, bind_eq_ok.2 ⟨next, between, single, others⟩, alike'⟩

/-- Where the entries are resolved alike and all files are read alike, a compilation by plugins that leave
nothing over succeeds again, and with the same result. -/
theorem compile_mirrored {bundler : Bundler ω} (tame : bundler.Tame claim) {disk : FileSystem}
    {pipeline : TransformPipeline} (ruled : TransformPipeline.ofRules bundler.config.rules = .ok pipeline)
    {compilation : Compilation} {session last : Session ω}
    (compiled : bundler.compile disk session = .ok compilation last)
    (located : ∀ one ∈ bundler.config.entries.entries, ∀ file,
      (Resolver.new bundler.config.contextDirectory bundler.config.extensions).resolve? disk one.2.text
          bundler.config.contextDirectory = some file →
        (Resolver.new bundler.config.contextDirectory bundler.config.extensions).resolve? other
          one.2.text bundler.config.contextDirectory = some file)
    (reads : (bundler.setup disk bundler.config.contextDirectory pipeline).GraphAlike claim other
      compilation.graph)
    (state : Session ω) : ∃ final, bundler.compile other state = .ok compilation final := by
  obtain ⟨shown, pipeline', found, middle, final, showing, ruled', constructed, revising, -⟩ :=
    compile_eq_ok.1 compiled
  rw [ruled] at ruled'
  cases ruled'
  have revised := reviseWith_eq_ok.1 revising
  have graph : compilation.graph = found.graph :=
    (tame.graph _ _ revised).trans (by rw [emitChunks_eq])
  obtain ⟨again, clear, forgot⟩ := tame.run (.new bundler.config) session
  rw [showing] at clear
  cases clear
  obtain ⟨start, showing', forgot'⟩ := tame.run (.new bundler.config) state
  have same : Session.AlikeBelow bundler.externals
      (shown.write .info "Building module graph...")
      (start.write .info "Building module graph...") := by
    intro number below
    exact (forgot number below).trans (forgot' number below).symm
  rw [graph] at reads
  have mirrored : (bundler.setup disk bundler.config.contextDirectory pipeline).around.hooks.Mirrored
      (Session.AlikeBelow bundler.externals) claim := tame.imports bundler.externals
  have empty : (Compilation.new bundler.config).graph.Indexed := ModuleGraph.indexed_empty
  obtain ⟨between, constructed', still⟩ :=
    discover_mirrored mirrored empty located reads same constructed
  have rendering : Session.RevisedAlike bundler.externals
      (emitChunks bundler.config.output.filename found, middle.write .info
        ("Rendering " ++ toString found.chunks.length ++ " chunks..."))
      (emitChunks bundler.config.output.filename found, between.write .info
        ("Rendering " ++ toString found.chunks.length ++ " chunks...")) :=
    ⟨rfl, fun number below => still number below⟩
  obtain ⟨⟨other', ended⟩, revising', also, -⟩ := tame.emit _ le_rfl rendering revised
  obtain rfl : compilation = other' := also
  exact ⟨_, compile_eq_ok.2 ⟨start, pipeline, found, between, ended, showing', ruled, constructed',
    reviseWith_eq_ok.2 revising', rfl⟩⟩

end Compile

end Bundler

end ModuleBundler
