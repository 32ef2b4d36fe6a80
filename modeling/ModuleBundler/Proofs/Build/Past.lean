import ModuleBundler.Command.Execute
import ModuleBundler.Proofs.Trace.Import

/-!
A build never looks back at what has been logged before it. Where other lines have been logged, it ends alike,
and they stand in front of what it logs itself.
-/

namespace ModuleBundler

variable {ε ω σ ρ α β : Type}

def Respects (change : σ → σ) (action : EStateM ε σ α) : Prop :=
  ∀ start, action (change start) = mapOutcome (fun found _ => found) change (action start)

namespace Respects

variable {change : σ → σ}

theorem pure (found : α) : Respects change (Pure.pure found : EStateM ε σ α) :=
  fun _ => rfl

theorem throw (error : ε) : Respects change (MonadExcept.throw error : EStateM ε σ α) :=
  fun _ => rfl

theorem modify {update : σ → σ} (commutes : ∀ state, update (change state) = change (update state)) :
    Respects change (modify update : EStateM ε σ PUnit) :=
  fun start => congrArg (EStateM.Result.ok PUnit.unit) (commutes start)

theorem bind {first : EStateM ε σ α} {second : α → EStateM ε σ β} (respects : Respects change first)
    (continues : ∀ found, Respects change (second found)) : Respects change (first >>= second) := by
  intro start
  change EStateM.bind first second _ = mapOutcome _ _ (EStateM.bind first second start)
  unfold EStateM.bind
  rw [respects start]
  cases first start with
  | ok found middle => exact continues found middle
  | error error final => rfl

theorem within {inner : EStateM ε σ α} {outer : EStateM ε ρ β} {changeWhole : ρ → ρ}
    {answer : α → σ → β} (respects : Respects change inner) (part : ρ → σ) (put : ρ → σ → ρ)
    (plainly : ∀ whole, outer whole = mapOutcome answer (put whole) (inner (part whole)))
    (parts : ∀ whole, part (changeWhole whole) = change (part whole))
    (answers : ∀ found final, answer found (change final) = answer found final)
    (puts : ∀ whole final, put (changeWhole whole) (change final) = changeWhole (put whole final)) :
    Respects changeWhole outer := by
  intro whole
  rw [plainly, plainly, parts, respects]
  cases inner (part whole) with
  | ok found final => simp only [mapOutcome, answers, puts]
  | error error final => simp only [mapOutcome, puts]

theorem callTaps {Callback : Type} {change : σ → σ} {run : Callback → EStateM String σ Unit}
    {fault : String → String → BuildError} {taps : List (Tap Callback)}
    (respects : ∀ tap ∈ taps, Respects change (run tap.callback)) :
    Respects change (callTaps run fault taps) := by
  induction taps with
  | nil => exact .pure ()
  | cons tap taps ih =>
    intro start
    simp only [ModuleBundler.callTaps]
    rw [respects tap List.mem_cons_self start]
    cases run tap.callback start with
    | ok _ next => exact ih (fun other member => respects other (List.mem_cons_of_mem _ member)) next
    | error cause final => rfl

end Respects

theorem askTaps_change {change : σ → σ} {value : α} {taps : List (Tap (Decider σ α β))}
    (respects : ∀ tap ∈ taps, ∀ state,
      tap.callback value (change state) = Prod.map id change (tap.callback value state)) (state : σ) :
    askTaps value taps (change state) = Prod.map id change (askTaps value taps state) := by
  induction taps generalizing state with
  | nil => rfl
  | cons tap taps ih =>
    simp only [askTaps, bind, StateT.bind]
    rw [respects tap List.mem_cons_self]
    cases tap.callback value state with
    | mk given after =>
      cases given with
      | some answer => rfl
      | none => exact ih (fun other member => respects other (List.mem_cons_of_mem _ member)) after

def Session.withPast (past : List LogLine) (session : Session ω) : Session ω :=
  { session with log := past ++ session.log }

theorem Session.write_withPast (past : List LogLine) (level : LogLevel) (message : String)
    (session : Session ω) : (session.withPast past).write level message =
      (session.write level message).withPast past := by
  simp only [write, withPast, List.append_assoc]

def Hook.Each {Callback : Type} (property : Callback → Prop) (hook : Hook Callback) : Prop :=
  ∀ tap ∈ hook.taps, property tap.callback

theorem Hook.Each.tap {Callback : Type} {property : Callback → Prop} {hook : Hook Callback}
    {callback : Callback} (each : hook.Each property) (plugin : String) (new : property callback) :
    (hook.tap plugin callback).Each property := by
  intro tap member
  rcases List.mem_append.1 member with old | last
  · exact each tap old
  · obtain rfl := List.mem_singleton.1 last
    exact new

/-- No callback looks at what has been logged. -/
structure Hooks.Blind (hooks : Hooks ω) (past : List LogLine) : Prop where
  run : hooks.run.Each fun observe =>
    ∀ compilation, Respects (Session.withPast past) (observe compilation)
  emit : hooks.emit.Each (Respects (Prod.map id (Session.withPast past)))
  done : hooks.done.Each fun observe => ∀ stats, Respects (Session.withPast past) (observe stats)
  requireCall : hooks.imports.requireCall.Each fun observe =>
    ∀ call, Respects (Session.withPast past) (observe call)
  factorize : hooks.imports.factorize.Each fun decide => ∀ data session,
    decide data (Session.withPast past session) =
      Prod.map id (Session.withPast past) (decide data session)

section Taps

variable {past : List LogLine}

theorem Hook.Each.show {hook : Hook (Observer (Session ω) α)}
    (each : hook.Each fun observe => ∀ value, Respects (Session.withPast past) (observe value))
    (value : α) : Respects (Session.withPast past) (hook.show value) :=
  .callTaps fun tap member => each tap member value

namespace Plugin

theorem respects_write (level : LogLevel) (message : String) :
    Respects (Session.withPast past)
      (modify (Session.write level message) : EStateM ε (Session ω) PUnit) :=
  .modify fun session => session.write_withPast past level message

theorem respects_observing (observe : Observer ω α) (value : α) :
    Respects (Session.withPast past) (observing observe value) := by
  intro session
  unfold observing
  dsimp only [Session.withPast]
  cases observe value session.memory <;> rfl

theorem respects_revising (revise : Reviser ω α) :
    Respects (Prod.map id (Session.withPast past)) (revising revise) := by
  rintro ⟨value, session⟩
  unfold revising
  dsimp only [Session.withPast, Prod.map, id]
  cases revise (value, session.memory) <;> rfl

theorem respects_revise (change : Compilation → Compilation) :
    Respects (Prod.map id (Session.withPast past)) (revise change : Reviser (Session ω) Compilation) :=
  .modify fun _ => rfl

theorem respects_noteRequest (number : Nat) (libraries : Table ExternalLibrary) (call : RequireCall) :
    Respects (Session.withPast past)
      (noteRequest number libraries call : EStateM String (Session ω) Unit) := by
  unfold noteRequest
  split
  · exact .modify fun _ => rfl
  · exact .pure ()

end Plugin

namespace Hooks.Blind

variable {hooks : Hooks ω}

theorem tapCustom (blind : hooks.Blind past) (plugin : String) (tap : CustomTap ω) :
    (Bundler.tapCustom plugin hooks tap).Blind past := by
  obtain ⟨run, emit, done, requireCall, factorize⟩ := blind
  cases tap with
  | run observe =>
    exact ⟨run.tap plugin (Plugin.respects_observing observe), emit, done, requireCall, factorize⟩
  | emit revise =>
    exact ⟨run, emit.tap plugin (Plugin.respects_revising revise), done, requireCall, factorize⟩
  | done observe =>
    exact ⟨run, emit, done.tap plugin (Plugin.respects_observing observe), requireCall, factorize⟩
  | factorize decide =>
    exact ⟨run, emit, done, requireCall, factorize.tap plugin fun _ _ => rfl⟩
  | requireCall observe =>
    exact ⟨run, emit, done, requireCall.tap plugin (Plugin.respects_observing observe), factorize⟩

/-- Plugins bring callbacks that do not look at what has been logged: they log, keep requests of their own,
or have a memory of their own and nothing else. -/
theorem tapPlugin (blind : hooks.Blind past) (number : Nat) (plugin : Plugin ω) :
    (Bundler.tapPlugin number plugin hooks).Blind past := by
  cases plugin with
  | logger =>
    obtain ⟨run, emit, done, requireCall, factorize⟩ := blind
    exact ⟨run.tap _ fun _ => Plugin.respects_write .info _, emit,
      done.tap _ fun _ => Plugin.respects_write .info _, requireCall, factorize⟩
  | define definitions =>
    exact { blind with emit := blind.emit.tap _ (Plugin.respects_revise _) }
  | compress output =>
    exact { blind with emit := blind.emit.tap _ (Plugin.respects_revise _) }
  | externals libraries =>
    obtain ⟨run, emit, done, requireCall, factorize⟩ := blind
    exact ⟨run.tap _ fun _ => .modify fun _ => rfl, emit.tap _ (.modify fun _ => rfl), done,
      requireCall.tap _ (Plugin.respects_noteRequest number libraries),
      factorize.tap _ fun _ _ => rfl⟩
  | transform name transform => exact blind
  | custom name taps =>
    show (taps.foldl (Bundler.tapCustom name) hooks).Blind past
    induction taps generalizing hooks with
    | nil => exact blind
    | cons tap taps ih => exact ih (blind.tapCustom name tap)

end Hooks.Blind

theorem Bundler.blind_withPlugins (past : List LogLine) (config : Config) (plugins : List (Plugin ω)) :
    (withPlugins config plugins).hooks.Blind past := by
  have all (bundler : Bundler ω) (blind : bundler.hooks.Blind past) :
      (plugins.foldl apply bundler).hooks.Blind past := by
    induction plugins generalizing bundler with
    | nil => exact blind
    | cons plugin plugins ih => exact ih (bundler.apply plugin) (blind.tapPlugin _ plugin)
  exact all _ ⟨nofun, nofun, nofun, nofun, nofun⟩

theorem Bundler.blind_of_ofConfig (past : List LogLine) {config : Config} {bundler : Bundler ω}
    (made : ofConfig config = .ok bundler) : bundler.hooks.Blind past := by
  unfold ofConfig at made
  cases asked : Plugin.ofConfigs (ω := ω) config.plugins with
  | error error => simp [asked, Except.map] at made
  | ok plugins =>
    rw [asked] at made
    cases made
    exact blind_withPlugins past config plugins

end Taps

def Respecting (change : σ → σ) : Related σ σ :=
  fun _ action _ => Respects change action

theorem composes_respecting (change : σ → σ) : (Respecting change).Composes where
  pure found := .pure found
  throw error _ := .throw error
  bind respects continues := respects.bind continues

section Construction

variable {past : List LogLine} {setup : Discover.Setup (Session ω)} {hooks : Hooks ω}

namespace Discover

theorem respects_aside {change : σ → σ} {action : EStateM BuildError σ α}
    (respects : Respects change action) : Respects (Prod.map id change) (aside action) :=
  respects.within Prod.snd (fun whole state => (whole.1, state))
    (fun whole => aside_eq action whole.1 whole.2) (fun _ => rfl) (fun _ _ => rfl) fun _ _ => rfl

theorem besides_respecting (change : σ → σ) :
    Beside (Respecting change) (Respecting (Prod.map id change)) where
  composes := composes_respecting _
  tooDeep _ := .throw _
  aside := respects_aside
  graph _ := rfl
  changeGraph _ := .modify fun _ => rfl

theorem counterpart_respecting (blind : hooks.Blind past) (same : setup.around.hooks = hooks.imports) :
    setup.Counterpart (Respecting (Session.withPast past)) setup where
  disk := rfl
  resolver := rfl
  pipeline := rfl
  transforms := rfl
  shows call := by
    rw [same]
    exact blind.requireCall.show call
  asks data := by
    intro session
    unfold ImportHooks.asking Hook.ask
    rw [same, askTaps_change fun tap member => blind.factorize tap member data]
    rfl

theorem respects_addEntry (blind : hooks.Blind past) (same : setup.around.hooks = hooks.imports)
    (entry : String) (path : Path) :
    Respects (Prod.map id (Session.withPast past)) (addEntry setup entry path) :=
  (counterpart_respecting blind same).addModule (composes_respecting _) (besides_respecting _) entry _ path

end Discover

namespace Bundler

theorem respects_discover (blind : hooks.Blind past) (same : setup.around.hooks = hooks.imports)
    (asked : List (String × Path)) (compilation : Compilation) :
    Respects (Session.withPast past) (discover setup asked compilation) := by
  induction asked generalizing compilation with
  | nil => exact .pure _
  | cons one asked ih =>
    refine .bind ?_ fun next => ih next
    unfold discoverEntry
    split
    · exact .throw _
    · rename_i file _
      have added : Respects (Session.withPast past) (addEntryModules setup one.1 file compilation) :=
        (Discover.respects_addEntry blind same one.1 file).within
          (fun session => (compilation.graph, session)) (fun _ final => final.2)
          (addEntryModules_eq setup one.1 file compilation) (fun _ => rfl) (fun _ _ => rfl)
          fun _ _ => rfl
      exact added.bind fun _ => .pure _

theorem respects_reviseWith (blind : hooks.Blind past) (compilation : Compilation) :
    Respects (Session.withPast past) (reviseWith hooks compilation) := by
  have revised : Respects (Prod.map id (Session.withPast past)) hooks.emit.revise :=
    .callTaps blind.emit
  exact revised.within (fun session => (compilation, session)) (fun _ final => final.2)
    (reviseWith_eq hooks compilation) (fun _ => rfl) (fun _ _ => rfl) fun _ _ => rfl

theorem respects_log (message : String) :
    Respects (Session.withPast past) (log message : EStateM BuildError (Session ω) Unit) :=
  Plugin.respects_write .info message

theorem respects_compile {bundler : Bundler ω} (blind : bundler.hooks.Blind past) (disk : FileSystem) :
    Respects (Session.withPast past) (bundler.compile disk) := by
  unfold compile
  refine (blind.run.show _).bind fun _ => (respects_log _).bind fun _ => ?_
  split
  · exact .throw _
  · refine (respects_discover blind rfl _ _).bind fun found => (respects_log _).bind fun _ => ?_
    exact (respects_reviseWith blind _).bind fun _ => (respects_log _).bind fun _ => .pure _

end Bundler

end Construction

namespace Persist

def Desk.withPast (past : List LogLine) (desk : Desk) : Desk :=
  { desk with log := past ++ desk.log }

variable {past : List LogLine}

theorem respects_onDisk (action : DiskAction α) : Respects (Desk.withPast past) (onDisk action) := by
  intro desk
  unfold onDisk
  dsimp only [Desk.withPast]
  cases action desk.disk <;> rfl

theorem orWarn_withPast (message : String) (action : DiskAction Unit) (desk : Desk) :
    orWarn message action (desk.withPast past) = (orWarn message action desk).withPast past := by
  unfold orWarn
  dsimp only [Desk.withPast]
  cases action desk.disk with
  | ok _ disk => rfl
  | error error disk => exact congrArg _ (List.append_assoc ..)

theorem orIgnore_withPast (action : DiskAction Unit) (desk : Desk) :
    orIgnore action (desk.withPast past) = (orIgnore action desk).withPast past := by
  unfold orIgnore
  dsimp only [Desk.withPast]
  cases action desk.disk <;> rfl

theorem discard_withPast (staged : List Staged) (desk : Desk) :
    discard staged (desk.withPast past) = (discard staged desk).withPast past :=
  List.foldl_hom _ fun _ _ => orWarn_withPast ..

theorem restore_withPast (backup target : Path) (desk : Desk) :
    restore backup target (desk.withPast past) = (restore backup target desk).withPast past :=
  orWarn_withPast ..

theorem rollBack_withPast (committed : List Committed) (desk : Desk) :
    rollBack committed (desk.withPast past) = (rollBack committed desk).withPast past := by
  refine List.foldl_hom _ fun desk entry => ?_
  dsimp only
  rw [orWarn_withPast]
  cases entry.backup with
  | none => rfl
  | some backup => exact restore_withPast ..

theorem dropBackups_withPast (committed : List Committed) (desk : Desk) :
    dropBackups committed (desk.withPast past) = (dropBackups committed desk).withPast past :=
  List.foldl_hom _ fun _ _ => orWarn_withPast ..

theorem respects_stage (staged : Staged) (asset : Asset) :
    Respects (Desk.withPast past) (stage staged asset) := by
  unfold stage
  cases staged.target.parent? with
  | none => exact (Respects.pure _).bind fun _ => respects_onDisk _
  | some directory => exact (respects_onDisk _).bind fun _ => respects_onDisk _

theorem respects_stageAll (directory : Path) (assets : List (String × Asset)) (done : List Staged) :
    Respects (Desk.withPast past) (stageAll directory done assets) := by
  induction assets generalizing done with
  | nil => exact .pure done
  | cons one assets ih =>
    intro desk
    unfold stageAll
    dsimp only
    rw [respects_stage]
    cases stage (Staged.of directory one.1) one.2 desk with
    | ok _ next => exact ih _ next
    | error error next =>
      dsimp only [mapOutcome]
      rw [discard_withPast, orIgnore_withPast]

theorem respects_keepAside (target : Path) : Respects (Desk.withPast past) (keepAside target) := by
  intro desk
  unfold keepAside
  dsimp only
  rw [show (desk.withPast past).disk = desk.disk from rfl, respects_onDisk]
  split
  · cases onDisk (FileSystem.rename target (sibling target backupSuffix)) desk <;> rfl
  · rfl

theorem respects_commit (staged : Staged) : Respects (Desk.withPast past) (commit staged) := by
  intro desk
  unfold commit
  rw [respects_keepAside]
  cases keepAside staged.target desk with
  | error error next => rfl
  | ok backup next =>
    dsimp only [mapOutcome]
    rw [respects_onDisk]
    cases onDisk (FileSystem.rename staged.staging staged.target) next with
    | ok _ last => rfl
    | error error last =>
      cases backup with
      | none => rfl
      | some kept =>
        dsimp only [mapOutcome]
        rw [restore_withPast]

theorem respects_commitAll (staged : List Staged) (done : List Committed) :
    Respects (Desk.withPast past) (commitAll done staged) := by
  induction staged generalizing done with
  | nil => exact .pure done
  | cons one rest ih =>
    intro desk
    unfold commitAll
    rw [respects_commit]
    cases commit one desk with
    | ok committed next => exact ih _ next
    | error error next =>
      dsimp only [mapOutcome]
      rw [rollBack_withPast, discard_withPast]

theorem respects_writeAssets (assets : Table Asset) (directory : Path) :
    Respects (Desk.withPast past) (writeAssets assets directory) := by
  unfold writeAssets
  split
  · exact .throw _
  · intro desk
    dsimp only
    rw [respects_onDisk]
    cases onDisk (FileSystem.makeDirectories directory) desk with
    | error error next => rfl
    | ok _ next =>
      have moved : Respects (Desk.withPast past) (do
          let staged ← stageAll directory [] assets.entries
          let committed ← commitAll [] staged
          modify (dropBackups committed)
          return assets.names : EStateM BuildError Desk (List String)) :=
        (respects_stageAll directory _ _).bind fun staged =>
          (respects_commitAll staged _).bind fun committed =>
            .bind (.modify (dropBackups_withPast committed)) fun _ => .pure _
      exact moved next

end Persist

namespace Bundler

def World.withPast (past : List LogLine) (world : World ω) : World ω :=
  { world with session := world.session.withPast past }

variable {past : List LogLine}

theorem respects_reading {action : FileSystem → EStateM BuildError (Session ω) α}
    (respects : ∀ disk, Respects (Session.withPast past) (action disk)) :
    Respects (World.withPast past) (reading action) := by
  intro world
  unfold reading
  dsimp only [World.withPast]
  rw [respects]
  cases action world.disk world.session <;> rfl

theorem respects_persist (bundler : Bundler ω) (compilation : Compilation) :
    Respects (World.withPast past) (bundler.persist compilation) := by
  have plainly (world : World ω) : bundler.persist compilation world =
      mapOutcome (fun files _ => files)
        (fun desk => ⟨{ world.session with log := desk.log }, desk.disk⟩)
        (Persist.writeAssets compilation.assets bundler.config.outputDirectory
          ⟨world.disk, world.session.log⟩) := by
    unfold persist
    cases Persist.writeAssets compilation.assets bundler.config.outputDirectory
      ⟨world.disk, world.session.log⟩ <;> rfl
  exact (Persist.respects_writeAssets _ _).within (fun world => ⟨world.disk, world.session.log⟩)
    (fun world desk => ⟨{ world.session with log := desk.log }, desk.disk⟩) plainly (fun _ => rfl)
    (fun _ _ => rfl) fun _ _ => rfl

theorem respects_produce {bundler : Bundler ω} (blind : bundler.hooks.Blind past) :
    Respects (World.withPast past) bundler.produce :=
  (respects_reading (respects_compile blind)).bind fun _ =>
    (bundler.respects_persist _).bind fun _ => .pure _

theorem respects_finish {bundler : Bundler ω} (blind : bundler.hooks.Blind past)
    (elapsed : Report.Duration) (compilation : Compilation) :
    Respects (World.withPast past) (bundler.finish elapsed compilation) :=
  (respects_reading fun _ => blind.done.show _).bind fun _ => .pure _

end Bundler

end ModuleBundler
