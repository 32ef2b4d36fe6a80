import ModuleBundler.Proofs.Build.Assets
import ModuleBundler.Proofs.Build.Compile
import ModuleBundler.Proofs.Persist.Run
import ModuleBundler.Proofs.Trace.Import

/-!
The phases of a build. Taps are called in the order of their phases, and a phase begins only when all that
comes before it has succeeded. Files are written between the taps that revise the assets and those that are
told of the end, all at once, so that a build that fails earlier leaves the file system alone.
-/

namespace ModuleBundler

variable {ω : Type}

def Hook.Calls {Callback : Type} (hook : Hook Callback) (calls : List TapCall) : Prop :=
  calls.map TapCall.plugin <+: hook.tapNames ∧ ∀ call ∈ calls, call.hook = hook.name

def Hook.Passed {Callback : Type} (hook : Hook Callback) (calls : List TapCall) : Prop :=
  calls.map TapCall.plugin = hook.tapNames ∧ Quiet calls

theorem calls_tapCalls {σ Callback : Type} {hook : Hook Callback}
    {run : Callback → EStateM String σ Unit} {shown : σ → Shown} {start : σ} :
    hook.Calls (tapCalls hook.name run shown hook.taps start) :=
  ⟨tapCalls_plugins, fun _ member => (hook_of_mem_tapCalls member).1⟩

namespace Bundler

/-- The calls that compiling makes. The taps of each hook are called only when what comes before them has
succeeded. -/
structure CompileCalls (bundler : Bundler ω) (disk : FileSystem) (session : Session ω)
    (runs imports emits : List TapCall) : Prop where
  traces : Traces Marking.session (bundler.compile disk) (bundler.traced.compile disk) session
    (runs ++ (imports ++ emits))
  runs_eq : runs = bundler.hooks.run.showCalls (.run (.new bundler.config)) (.new bundler.config) session
  ofImport : ∀ call ∈ imports, call.OfImport
  imports_nil : imports = [] ∨ ∃ shown pipeline,
    bundler.hooks.run.show (.new bundler.config) session = .ok () shown ∧
      TransformPipeline.ofRules bundler.config.rules = .ok pipeline
  emits_eq : (emits = [] ∧ ∀ pipeline found middle, ¬bundler.Constructs disk session pipeline found middle) ∨
    ∃ pipeline found middle, bundler.Constructs disk session pipeline found middle ∧
      emits = bundler.hooks.emit.reviseCalls (emitChunks bundler.config.output.filename found)
        (middle.write .info ("Rendering " ++ toString found.chunks.length ++ " chunks..."))

def compileBy (bundler : Bundler ω) (disk : FileSystem) (pipeline : TransformPipeline) :
    EStateM BuildError (Session ω) Compilation := do
  let compilation ← bundler.construct disk pipeline
  log ("Rendering " ++ toString compilation.chunks.length ++ " chunks...")
  let compilation ←
    reviseWith bundler.hooks (emitChunks bundler.config.output.filename compilation)
  log ("Writing " ++ toString compilation.assets.size ++ " assets...")
  return compilation

theorem compile_eq (bundler : Bundler ω) (disk : FileSystem) : bundler.compile disk = (do
    bundler.hooks.run.show (.new bundler.config)
    log "Building module graph..."
    match TransformPipeline.ofRules bundler.config.rules with
    | .error error => throw error
    | .ok pipeline => bundler.compileBy disk pipeline) :=
  rfl

/-- Files that are there before any is written have been noted by one of the taps. -/
theorem Reaches.files_eq_nil_or {bundler : Bundler ω} {disk : FileSystem} {session : Session ω}
    {taps : List (Tap (Reviser (Session ω) Compilation))} {pipeline : TransformPipeline}
    {found : Compilation} {state : Compilation × Session ω}
    (reaches : bundler.Reaches disk session taps pipeline found state) :
    state.1.files = [] ∨ ∃ passed tap later before after, taps = passed ++ tap :: later ∧
      bundler.Reaches disk session passed pipeline found before ∧
      tap.callback before = .ok () after ∧ before.1.files = [] ∧ after.1.files ≠ [] := by
  obtain ⟨middle, constructs, called⟩ := reaches
  have unwritten : (emitChunks bundler.config.output.filename found).files = [] := by
    obtain ⟨_, -, -, constructed⟩ := constructs
    rw [emitChunks_eq, discover_shape constructed]
    rfl
  by_cases kept : state.1.files = []
  · exact .inl kept
  · obtain ⟨passed, tap, later, before, after, split, reached, lost⟩ :=
      exists_lost_of_callTaps (fun state => state.1.files = []) called unwritten kept
    exact .inr ⟨passed, tap, later, before, after, split, ⟨middle, constructs, reached⟩, lost⟩

variable (bundler : Bundler ω) (disk : FileSystem)

theorem traces_log {α : Type} {message : String} {session : Session ω} {calls : List TapCall}
    {next : EStateM BuildError (Session ω) α}
    {traced : EStateM BuildError (Session (ω × List TapCall)) α}
    (traces : Traces Marking.session next traced (session.write .info message) calls) :
    Traces Marking.session (do log message; next) (do log message; traced) session calls :=
  ⟨traces.result, traces.ended⟩

/-- The calls that are made when the first taps have been called. -/
theorem exists_compileBy_calls (pipeline : TransformPipeline) (session : Session ω) :
    ∃ imports emits,
      Traces Marking.session (bundler.compileBy disk pipeline) (bundler.traced.compileBy disk pipeline)
          session (imports ++ emits) ∧
        (∀ call ∈ imports, call.OfImport) ∧
        ((emits = [] ∧ ∃ error final, bundler.construct disk pipeline session = .error error final) ∨
          ∃ found middle, bundler.construct disk pipeline session = .ok found middle ∧
            emits = bundler.hooks.emit.reviseCalls (emitChunks bundler.config.output.filename found)
              (middle.write .info ("Rendering " ++ toString found.chunks.length ++ " chunks..."))) := by
  obtain ⟨imports, constructing, ofImport⟩ :=
    traces_discover (bundler.setup disk bundler.config.contextDirectory pipeline)
      bundler.config.entries.entries (.new bundler.config) session
  change Traces Marking.session (bundler.construct disk pipeline)
    (bundler.traced.construct disk pipeline) session imports at constructing
  cases constructed : bundler.construct disk pipeline session with
  | error error final =>
    refine ⟨imports, [], constructing.bind ?_ fun _ _ _ => rfl, ofImport, .inl ⟨rfl, error, final, rfl⟩⟩
    intro found middle succeeded
    rw [constructed] at succeeded
    cases succeeded
  | ok found middle =>
    refine ⟨imports, _, constructing.bind ?_ ?_, ofImport, .inr ⟨found, middle, rfl, rfl⟩⟩
    · intro other between succeeded
      rw [constructed] at succeeded
      cases succeeded
      exact traces_log (traces_reviseWith.bind_quiet fun revised last _ => traces_log (.pure revised))
    · intro error final failed
      rw [constructed] at failed
      cases failed

theorem exists_compileCalls (session : Session ω) :
    ∃ runs imports emits, CompileCalls bundler disk session runs imports emits := by
  have showing : Traces Marking.session (bundler.hooks.run.show (.new bundler.config))
      (bundler.traced.hooks.run.show (.new bundler.config)) session
      (bundler.hooks.run.showCalls (.run (.new bundler.config)) (.new bundler.config) session) :=
    Hook.traces_show fun _ _ _ => rfl
  cases shown : bundler.hooks.run.show (.new bundler.config) session with
  | error error final =>
    refine ⟨_, [], [], ?_, rfl, nofun, .inl rfl, .inl ⟨rfl, ?_⟩⟩
    · rw [compile_eq, compile_eq]
      refine showing.bind ?_ fun _ _ _ => rfl
      intro found middle succeeded
      rw [shown] at succeeded
      cases succeeded
    · rintro pipeline found middle ⟨_, passed, -⟩
      rw [shown] at passed
      cases passed
  | ok _ middle =>
    cases ruled : TransformPipeline.ofRules bundler.config.rules with
    | error error =>
      refine ⟨_, [], [], ?_, rfl, nofun, .inl rfl, .inl ⟨rfl, ?_⟩⟩
      · rw [compile_eq, compile_eq, show bundler.traced.config = bundler.config from rfl, ruled]
        exact showing.bind (fun _ _ _ => traces_log (.throw error)) fun _ _ _ => rfl
      · rintro pipeline found between ⟨_, -, read, -⟩
        rw [ruled] at read
        cases read
    | ok pipeline =>
      obtain ⟨imports, emits, compiling, ofImport, revised⟩ := bundler.exists_compileBy_calls disk
        pipeline (middle.write .info "Building module graph...")
      refine ⟨_, imports, emits, ?_, rfl, ofImport, .inr ⟨middle, pipeline, shown, ruled⟩, ?_⟩
      · rw [compile_eq, compile_eq, show bundler.traced.config = bundler.config from rfl, ruled]
        refine showing.bind (fun _ between succeeded => ?_) fun error final failed => ?_
        · rw [shown] at succeeded
          cases succeeded
          exact traces_log compiling
        · rw [shown] at failed
          cases failed
      · rcases revised with ⟨no, error, final, stopped⟩ | ⟨found, last, constructed, made⟩
        · refine .inl ⟨no, ?_⟩
          rintro other found between ⟨_, passed, read, constructed⟩
          rw [shown] at passed
          cases passed
          rw [ruled] at read
          cases read
          rw [stopped] at constructed
          cases constructed
        · exact .inr ⟨pipeline, found, last, ⟨middle, shown, ruled, constructed⟩, made⟩

theorem CompileCalls.runs_whole {bundler : Bundler ω} {disk : FileSystem} {runs imports emits : List TapCall}
    {session : Session ω} (calls : CompileCalls bundler disk session runs imports emits)
    (quiet : Quiet runs) : bundler.hooks.run.Passed runs := by
  refine ⟨?_, quiet⟩
  rw [calls.runs_eq] at quiet ⊢
  exact tapCalls_plugins_of_quiet quiet

theorem CompileCalls.emits_whole {bundler : Bundler ω} {disk : FileSystem} {runs imports emits : List TapCall}
    {session middle : Session ω} {pipeline : TransformPipeline} {found : Compilation}
    (calls : CompileCalls bundler disk session runs imports emits)
    (constructs : bundler.Constructs disk session pipeline found middle) (quiet : Quiet emits) :
    bundler.hooks.emit.Passed emits := by
  rcases calls.emits_eq with ⟨-, never⟩ | ⟨_, _, _, -, rfl⟩
  · exact absurd constructs (never pipeline found middle)
  · exact ⟨tapCalls_plugins_of_quiet quiet, quiet⟩

theorem CompileCalls.passed {bundler : Bundler ω} {disk : FileSystem}
    {runs imports emits : List TapCall} {session last : Session ω} {compiled : Compilation}
    (calls : CompileCalls bundler disk session runs imports emits)
    (compiling : bundler.compile disk session = .ok compiled last) :
    bundler.hooks.run.Passed runs ∧ Quiet imports ∧ bundler.hooks.emit.Passed emits := by
  have ended := calls.traces.ended
  rw [compiling] at ended
  obtain ⟨ran, others⟩ := quiet_append.1 ended.quiet
  obtain ⟨asked, revised⟩ := quiet_append.1 others
  obtain ⟨shown, pipeline, found, middle, final, showing, ruled, constructed, revising, -⟩ :=
    compile_eq_ok.1 compiling
  exact ⟨calls.runs_whole ran, asked,
    calls.emits_whole ⟨shown, showing, ruled, constructed⟩ revised⟩

theorem reading_eq {α : Type} (action : FileSystem → EStateM BuildError (Session ω) α)
    (world : World ω) : reading action world =
      mapOutcome (fun found _ => found) (fun session => { world with session })
        (action world.disk world.session) := by
  unfold reading
  cases action world.disk world.session <;> rfl

theorem traces_reading {α : Type} {action : FileSystem → EStateM BuildError (Session ω) α}
    {traced : FileSystem → EStateM BuildError (Session (ω × List TapCall)) α} {world : World ω}
    {calls : List TapCall}
    (traces : Traces Marking.session (action world.disk) (traced world.disk) world.session calls) :
    Traces Marking.world (reading action) (reading traced) world calls := by
  have within (before : List TapCall) : reading traced (Marking.world.mark world before) =
      mapOutcome (fun found _ => found) (fun session => ⟨session, world.disk⟩)
        (traced world.disk (Marking.session.mark world.session before)) :=
    reading_eq traced (Marking.world.mark world before)
  exact traces.within (reading_eq action world) within (fun _ _ _ => rfl) fun _ _ => rfl

theorem traces_persist (compilation : Compilation) (world : World ω) :
    Traces Marking.world (bundler.persist compilation) (bundler.traced.persist compilation) world [] where
  result before := by
    rw [List.append_nil, persist, persist]
    have unchanged : Persist.writeAssets compilation.assets bundler.traced.config.outputDirectory
        ⟨(Marking.world.mark world before).disk, (Marking.world.mark world before).session.log⟩ =
      Persist.writeAssets compilation.assets bundler.config.outputDirectory
        ⟨world.disk, world.session.log⟩ := rfl
    rw [unchanged]
    cases Persist.writeAssets compilation.assets bundler.config.outputDirectory
      ⟨world.disk, world.session.log⟩ <;> rfl
  ended := .inl quiet_nil

theorem traces_produce {world : World ω} {calls : List TapCall}
    (traces : Traces Marking.session (bundler.compile world.disk) (bundler.traced.compile world.disk)
      world.session calls) :
    Traces Marking.world bundler.produce bundler.traced.produce world calls :=
  (traces_reading traces).bind_quiet fun compiled middle _ =>
    (traces_persist bundler compiled middle).bind_quiet fun _ _ _ => .pure _

theorem traces_finish (elapsed : Report.Duration) (compilation : Compilation) (world : World ω) :
    Traces Marking.world (bundler.finish elapsed compilation)
      (bundler.traced.finish elapsed compilation) world
      (bundler.hooks.done.showCalls (.done ⟨compilation, elapsed⟩) ⟨compilation, elapsed⟩
        world.session) := by
  have showing : Traces Marking.session (bundler.hooks.done.show ⟨compilation, elapsed⟩)
      (bundler.traced.hooks.done.show ⟨compilation, elapsed⟩) world.session _ :=
    Hook.traces_show fun _ _ _ => rfl
  have reading : Traces Marking.world (reading fun _ => bundler.hooks.done.show ⟨compilation, elapsed⟩)
      (reading fun _ => bundler.traced.hooks.done.show ⟨compilation, elapsed⟩) world _ :=
    traces_reading showing
  exact reading.bind_quiet fun _ _ _ => .pure _

def withDone (hook : Hook (Observer (Session ω) Stats)) : Bundler ω :=
  { bundler with hooks := { bundler.hooks with done := hook } }

/-- How a build calls taps, and what it has done to the file system at that time. -/
structure Phases (elapsed : Report.Duration) (world : World ω)
    (runs imports emits dones : List TapCall) : Prop where
  /-- A build that keeps the calls of all taps ends like one that does not, and has kept these. -/
  kept : bundler.traced.build elapsed (Marking.world.mark world []) =
    Marking.world.result (runs ++ imports ++ emits ++ dones) (bundler.build elapsed world)
  /-- A call that fails is the last one, and the build ends with the error that names it. -/
  ended : Ended (runs ++ imports ++ emits ++ dones) (bundler.build elapsed world)
  /-- The first taps see a compilation that has nothing yet. -/
  runs_calls : bundler.hooks.run.Calls runs ∧ ∀ call ∈ runs, ∃ compilation,
    call.shown = .run compilation ∧ compilation.graph = .empty ∧ compilation.entries = [] ∧
      compilation.chunks = [] ∧ compilation.assets = {} ∧ compilation.files = []
  imports_calls : ∀ call ∈ imports, call.OfImport
  /-- A tap that revises the assets is shown what those in front of it have made of them. It sees no written
  files, unless one of those has noted some itself. -/
  emits_calls : bundler.hooks.emit.Calls emits ∧ ∀ front call back, emits = front ++ call :: back →
    ∃ pipeline found state,
      bundler.Reaches world.disk world.session (bundler.hooks.emit.taps.take front.length) pipeline
        found state ∧
      call.shown = .emit state.1 ∧ (state.1.files = [] ∨ ∃ passed tap later before after,
        bundler.hooks.emit.taps.take front.length = passed ++ tap :: later ∧
          bundler.Reaches world.disk world.session passed pipeline found before ∧
          tap.callback before = .ok () after ∧ before.1.files = [] ∧ after.1.files ≠ [])
  dones_calls : bundler.hooks.done.Calls dones
  imports_after : imports ≠ [] → bundler.hooks.run.Passed runs ∧
    ∃ pipeline, TransformPipeline.ofRules bundler.config.rules = .ok pipeline
  emits_after : emits ≠ [] → bundler.hooks.run.Passed runs ∧ Quiet imports ∧
    ∃ pipeline found middle, bundler.Constructs world.disk world.session pipeline found middle
  /-- The last taps are told only of a build whose assets have all been written. -/
  dones_after : dones ≠ [] → bundler.hooks.run.Passed runs ∧ Quiet imports ∧
    bundler.hooks.emit.Passed emits ∧ ∃ compiled session desk final,
      bundler.compile world.disk world.session = .ok compiled session ∧
      Persist.writeAssets compiled.assets bundler.config.outputDirectory ⟨world.disk, session.log⟩ =
        .ok compiled.assets.names desk ∧
      bundler.produce world = .ok { compiled with files := compiled.assets.names } final ∧
      final.disk = desk.disk ∧
      ∀ call ∈ dones,
        call.shown = .done ⟨{ compiled with files := compiled.assets.names }, elapsed⟩
  /-- All taps of a hook are called when its phase has come, unless one of them fails. -/
  runs_whole : Quiet runs → bundler.hooks.run.Passed runs
  emits_whole : ∀ pipeline found middle,
    bundler.Constructs world.disk world.session pipeline found middle → Quiet emits →
      bundler.hooks.emit.Passed emits
  dones_whole : ∀ compilation final, bundler.produce world = .ok compilation final → Quiet dones →
    bundler.hooks.done.Passed dones
  /-- A build that succeeds has gone through all phases. -/
  passed : ∀ stats final, bundler.build elapsed world = .ok stats final →
    bundler.hooks.run.Passed runs ∧ Quiet imports ∧ bundler.hooks.emit.Passed emits ∧
      bundler.hooks.done.Passed dones
  /-- Nothing is written by a build that fails before the assets are written, or because of a name. -/
  unchanged : ∀ error final, bundler.build elapsed world = .error error final →
    ((∃ session, bundler.compile world.disk world.session = .error error session) ∨
      (∃ call ∈ runs ++ imports ++ emits, call.failure ≠ none) ∨
      ∃ name, error = .invalidAssetName name) →
    final.disk = world.disk
  /-- When a tap refuses what is done, the files are those of a build that no tap refuses. -/
  refused : ∀ error final, bundler.build elapsed world = .error error final → dones ≠ [] →
    (∀ hook stats last, (bundler.withDone hook).build elapsed world = .ok stats last →
      last.disk = final.disk) ∧
    ∃ stats last, (bundler.withDone (.new bundler.hooks.done.name)).build elapsed world = .ok stats last

section Ends

variable {bundler} {elapsed : Report.Duration} {world final : World ω} {error : BuildError}

theorem disk_of_uncompiled (failed : bundler.build elapsed world = .error error final)
    (uncompiled : ∀ compiled session, bundler.compile world.disk world.session ≠ .ok compiled session) :
    final.disk = world.disk := by
  rcases build_eq_error failed with unproduced | ⟨compilation, middle, produced⟩
  · rcases produce_eq_error unproduced with ⟨-, same⟩ | ⟨compiled, session, -, compiling, -⟩
    · exact same
    · exact absurd compiling (uncompiled compiled session)
  · obtain ⟨compiled, session, -, -, compiling, -⟩ := produce_eq_ok produced
    exact absurd compiling (uncompiled compiled session)

theorem disk_of_invalidAssetName {name : String}
    (failed : bundler.build elapsed world = .error (.invalidAssetName name) final) :
    final.disk = world.disk := by
  rcases bind_eq_error.1 failed with unproduced | ⟨compilation, middle, -, finishing⟩
  · rcases produce_eq_error unproduced with ⟨-, same⟩ | ⟨compiled, session, desk, -, refused, same⟩
    · exact same
    · rw [same, Persist.writeAssets_eq_invalidAssetName refused]
  · rcases bind_eq_error.1 finishing with showing | ⟨_, _, -, answered⟩
    · obtain ⟨_, _, other⟩ := Hook.exists_of_show_eq_error (reading_eq_error.1 showing).1
      cases other
    · cases answered

/-- The taps that are told of the end have no part in what is produced. -/
theorem disk_of_produce (elapsed : Report.Duration) {compilation : Compilation} {middle : World ω}
    (produced : bundler.produce world = .ok compilation middle) :
    (stateAfter (bundler.build elapsed world)).disk = middle.disk := by
  cases built : bundler.build elapsed world with
  | ok stats after =>
    obtain ⟨between, again, same⟩ := build_eq_ok built
    rw [produced] at again
    cases again
    exact same
  | error error after =>
    rcases bind_eq_error.1 built with unproduced | ⟨_, between, again, finishing⟩
    · rw [produced] at unproduced
      cases unproduced
    · rw [produced] at again
      cases again
      rcases bind_eq_error.1 finishing with showing | ⟨_, _, -, answered⟩
      · exact (reading_eq_error.1 showing).2
      · cases answered

end Ends

/-- A build whose assets cannot be written has called no tap of the last hook. -/
theorem traces_build (elapsed : Report.Duration) {world : World ω} {calls : List TapCall}
    (traces : Traces Marking.world bundler.produce bundler.traced.produce world calls) :
    ∃ dones, Traces Marking.world (bundler.build elapsed) (bundler.traced.build elapsed) world
        (calls ++ dones) ∧
      ((dones = [] ∧ ∀ compilation middle, bundler.produce world ≠ .ok compilation middle) ∨
        ∃ compilation middle, bundler.produce world = .ok compilation middle ∧
          dones = bundler.hooks.done.showCalls (.done ⟨compilation, elapsed⟩) ⟨compilation, elapsed⟩
            middle.session) := by
  cases produced : bundler.produce world with
  | error error final =>
    refine ⟨[], traces.bind ?_ fun _ _ _ => rfl, .inl ⟨rfl, nofun⟩⟩
    intro compilation middle succeeded
    rw [produced] at succeeded
    cases succeeded
  | ok compilation middle =>
    refine ⟨_, traces.bind ?_ ?_, .inr ⟨compilation, middle, rfl, rfl⟩⟩
    · intro found between succeeded
      rw [produced] at succeeded
      cases succeeded
      exact bundler.traces_finish elapsed compilation middle
    · intro error final failed
      rw [produced] at failed
      cases failed

/-- Every build calls taps in phases, in the order of their registration. Each phase begins only when
everything before it has succeeded, and a failing tap is called last. -/
theorem build_in_phases (elapsed : Report.Duration) (world : World ω) :
    ∃ runs imports emits dones, Phases bundler elapsed world runs imports emits dones := by
  obtain ⟨runs, imports, emits, calls⟩ := bundler.exists_compileCalls world.disk world.session
  obtain ⟨dones, traces, told⟩ := bundler.traces_build elapsed
    (bundler.traces_produce calls.traces)
  rw [← List.append_assoc] at traces
  have whole {compilation : Compilation} {final : World ω}
      (produced : bundler.produce world = .ok compilation final) (quiet : Quiet dones) :
      bundler.hooks.done.Passed dones := by
    rcases told with ⟨-, never⟩ | ⟨_, _, -, rfl⟩
    · exact absurd produced (never compilation final)
    · exact ⟨tapCalls_plugins_of_quiet quiet, quiet⟩
  refine ⟨runs, imports, emits, dones, ?_⟩
  constructor
  case kept => exact traces.result []
  case ended => exact traces.ended
  case runs_calls =>
    rw [calls.runs_eq]
    refine ⟨calls_tapCalls, fun call member => ?_⟩
    obtain ⟨-, _, shown⟩ := hook_of_mem_tapCalls member
    exact ⟨_, shown, rfl, rfl, rfl, rfl, rfl⟩
  case imports_calls => exact calls.ofImport
  case emits_calls =>
    rcases calls.emits_eq with ⟨rfl, -⟩ | ⟨pipeline, found, middle, constructs, rfl⟩
    · exact ⟨⟨List.nil_prefix, nofun⟩, fun front call back made => by simp at made⟩
    · refine ⟨calls_tapCalls, fun front call back made => ?_⟩
      obtain ⟨state, called, same⟩ := tapCalls_reached (.asyncHookFailure bundler.hooks.emit.name) made
      have reaches : bundler.Reaches _ _ _ pipeline found state := ⟨middle, constructs, called⟩
      exact ⟨pipeline, found, state, reaches, same, reaches.files_eq_nil_or⟩
  case dones_calls =>
    rcases told with ⟨rfl, -⟩ | ⟨compilation, middle, -, rfl⟩
    · exact ⟨List.nil_prefix, nofun⟩
    · exact calls_tapCalls
  case imports_after =>
    intro some
    obtain ⟨shown, pipeline, -, ruled⟩ := calls.imports_nil.resolve_left some
    exact ⟨calls.runs_whole (calls.traces.ended.quiet_of_append (by simp [some])), pipeline, ruled⟩
  case emits_after =>
    intro some
    obtain ⟨pipeline, found, middle, constructs, -⟩ :=
      calls.emits_eq.resolve_left fun none => some none.1
    have whole := calls.traces.ended
    rw [← List.append_assoc] at whole
    obtain ⟨ran, asked⟩ := quiet_append.1 (whole.quiet_of_append some)
    exact ⟨calls.runs_whole ran, asked, pipeline, found, middle, constructs⟩
  case dones_after =>
    intro some
    obtain ⟨compilation, middle, produced, rfl⟩ := told.resolve_left fun none => some none.1
    obtain ⟨compiled, session, files, desk, compiling, written, rfl, same⟩ := produce_eq_ok produced
    obtain ⟨rfl, -⟩ := Persist.writeAssets_eq_ok written
    obtain ⟨ran, asked, revised⟩ := calls.passed compiling
    refine ⟨ran, asked, revised, compiled, session, desk, middle, compiling, written, produced, same, ?_⟩
    intro call member
    obtain ⟨-, _, shown⟩ := hook_of_mem_tapCalls member
    exact shown
  case runs_whole => exact calls.runs_whole
  case emits_whole => exact fun pipeline found middle => calls.emits_whole
  case dones_whole => exact fun compilation final => whole
  case passed =>
    intro stats final built
    obtain ⟨middle, produced, -⟩ := build_eq_ok built
    obtain ⟨compiled, session, files, desk, compiling, -⟩ := produce_eq_ok produced
    obtain ⟨ran, asked, revised⟩ := calls.passed compiling
    have ended := traces.ended
    rw [built] at ended
    exact ⟨ran, asked, revised, whole produced (quiet_append.1 ended.quiet).2⟩
  case unchanged =>
    rintro error final failed (⟨session, uncompiled⟩ | ⟨call, member, failure⟩ | ⟨name, rfl⟩)
    · refine disk_of_uncompiled failed fun compiled last compiling => ?_
      rw [uncompiled] at compiling
      cases compiling
    · refine disk_of_uncompiled failed fun compiled last compiling => ?_
      obtain ⟨⟨-, ran⟩, asked, -, revised⟩ := calls.passed compiling
      exact failure (quiet_append.2 ⟨quiet_append.2 ⟨ran, asked⟩, revised⟩ call member)
    · exact disk_of_invalidAssetName failed
  case refused =>
    intro error final failed some
    obtain ⟨compilation, middle, produced, -⟩ := told.resolve_left fun none => some none.1
    have same := disk_of_produce elapsed produced
    rw [failed] at same
    refine ⟨fun hook stats last built => ?_, ⟨compilation, elapsed⟩, middle, ?_⟩
    · have others : (bundler.withDone hook).produce world = .ok compilation middle := produced
      have other := disk_of_produce elapsed others
      rw [built] at other
      exact other.trans same.symm
    · exact bind_eq_ok.2 ⟨compilation, middle, produced, rfl⟩

def watching : Bundler Unit :=
  withPlugins (.ofEntry ⟨"/"⟩ "main.js") [.custom "watcher" [
    .run fun _ => pure (), .requireCall fun _ => pure (), .factorize fun _ => pure none,
    .emit (fun state => .ok () state), .done fun _ => throw "refused"]]

def selfishDisk : FileSystem where
  nodes := [(["main.js"], .file "require('./main.js')".toUTF8)]
  workingDirectory := []

set_option maxRecDepth 10000 in
example : (Marking.world.calls (stateAfter (watching.traced.build ⟨0, 0⟩
      (Marking.world.mark ⟨.new (), selfishDisk⟩ [])))).map (fun call => (call.hook, call.failure)) =
    [("run", none), ("require_call", none), ("factorize", none), ("emit", none),
      ("done", some "refused")] := by
  decide +kernel

end Bundler

end ModuleBundler
