import ModuleBundler.Proofs.Build.Past
import ModuleBundler.Proofs.Config

/-!
How a command ends is a matter of the configuration that it means. The name of the configuration file is
logged, and nothing else comes of it.
-/

namespace ModuleBundler

def ConfigError.OfPlugin : ConfigError → Prop
  | unknownPlugin _ | invalidOptions _ => True
  | _ => False

theorem Plugin.ofPlugin_of_ofConfigs {ω : Type} {configs : List PluginConfig} {error : ConfigError}
    (refused : Plugin.ofConfigs (ω := ω) configs = .error error) : error.OfPlugin := by
  have single (one : PluginConfig) (fault : ConfigError)
      (asked : Plugin.ofConfig (ω := ω) one = .error fault) : fault.OfPlugin := by
    unfold Plugin.ofConfig at asked
    dsimp only at asked
    repeat' split at asked
    all_goals cases asked
    all_goals trivial
  unfold Plugin.ofConfigs at refused
  induction configs with
  | nil => cases refused
  | cons one configs ih =>
    rw [List.mapM_cons] at refused
    cases own : Plugin.ofConfig (ω := ω) one with
    | error fault =>
      rw [own] at refused
      cases refused
      exact single one _ own
    | ok plugin =>
      cases others : configs.mapM (Plugin.ofConfig (ω := ω)) with
      | error fault =>
        rw [own, others] at refused
        cases refused
        exact ih others
      | ok plugins =>
        rw [own, others] at refused
        cases refused

theorem Bundler.ofPlugin_of_ofConfig {ω : Type} {config : Config} {error : ConfigError}
    (refused : Bundler.ofConfig (ω := ω) config = .error error) : error.OfPlugin := by
  unfold ofConfig at refused
  cases asked : Plugin.ofConfigs (ω := ω) config.plugins with
  | ok plugins => simp [asked, Except.map] at refused
  | error fault =>
    rw [asked] at refused
    cases refused
    exact Plugin.ofPlugin_of_ofConfigs asked

namespace Command

section Past

variable {past : List LogLine}

def Console.withPast (past : List LogLine) (console : Console) : Console :=
  { console with world := console.world.withPast past }

theorem respects_tell (text : String) : Respects (Console.withPast past) (tell text) :=
  .modify fun _ => rfl

theorem respects_building {α : Type} {action : EStateM BuildError (Bundler.World Unit) α}
    (respects : Respects (Bundler.World.withPast past) action) :
    Respects (Console.withPast past) (building action) := by
  intro console
  unfold building
  dsimp only [Console.withPast]
  rw [respects]
  cases action console.world <;> rfl

theorem Request.respects_report (request : Request) (elapsed : Report.Duration) {product : Product}
    (blind : product.bundler.hooks.Blind past) :
    Respects (Console.withPast past) (request.report elapsed product) := by
  unfold report
  refine (respects_building (Bundler.respects_finish blind _ _)).bind fun stats => ?_
  split
  · exact .modify fun _ => rfl
  · exact respects_tell _

end Past

/-- Builds the project of a configuration that is sound. -/
def Request.construct (request : Request) (elapsed : Report.Duration) (config : Config) :
    Execution Unit :=
  match Bundler.ofConfig config with
  | .error error => throw (.config error)
  | .ok bundler => do
    let compilation ← building bundler.produce
    request.report elapsed ⟨bundler, compilation⟩

def Request.proceed (request : Request) (elapsed : Report.Duration) :
    Except ConfigError Config → Execution Unit
  | .error error => throw (.config error)
  | .ok config => do
    if !request.json then tell "→ Building project...\n"
    request.construct elapsed config

theorem Request.respects_construct (request : Request) (elapsed : Report.Duration) (config : Config)
    (past : List LogLine) : Respects (Console.withPast past) (request.construct elapsed config) := by
  unfold construct
  split
  · exact .throw _
  · rename_i bundler made
    have blind := Bundler.blind_of_ofConfig past made
    exact (respects_building (Bundler.respects_produce blind)).bind fun _ =>
      request.respects_report elapsed blind

theorem Request.respects_proceed (request : Request) (elapsed : Report.Duration)
    (found : Except ConfigError Config) (past : List LogLine) :
    Respects (Console.withPast past) (request.proceed elapsed found) := by
  cases found with
  | error error => exact .throw _
  | ok config =>
    have constructing := request.respects_construct elapsed config past
    unfold proceed
    dsimp only
    split
    · exact (respects_tell _).bind fun _ => constructing
    · exact constructing

/-- A console when nothing has been built yet: the program has said its name, unless JSON is wanted. -/
def Console.waiting (json : Bool) (disk : FileSystem) : Console :=
  { Console.new disk with messages := if json then "" else "\nmodpack v" ++ version ++ "\n\n" }

def Request.opening (request : Request) : LogLine :=
  ⟨.info, "Loading configuration from " ++ request.config⟩

theorem Request.produce_new (request : Request) (disk : FileSystem) :
    request.produce (.new disk) = (do
      let config ← orFail (request.configuration disk)
      if !request.json then tell "→ Building project...\n"
      let bundler ← orFail (Bundler.ofConfig config)
      return { bundler, compilation := ← building bundler.produce } : Execution Product)
      ((Console.waiting request.json disk).withPast [request.opening]) := by
  obtain ⟨config, verbose, outputDirectory, filename, context, json⟩ := request
  cases json with
  | true => rfl
  | false => rfl

theorem Request.execute_new (request : Request) (elapsed : Report.Duration) (disk : FileSystem) :
    request.execute elapsed (.new disk) = request.proceed elapsed (request.configuration disk)
      ((Console.waiting request.json disk).withPast [request.opening]) := by
  refine (bind_congr_start (request.produce_new disk) _).trans (congrFun ?_ _)
  cases request.configuration disk with
  | error error => rfl
  | ok config =>
    unfold proceed construct
    -- the plugins are known before the part that announces the build is taken apart
    cases made : Bundler.ofConfig (ω := Unit) config with
    | error error => cases request.json <;> simp only [orFail, pure_bind, made] <;> rfl
    | ok bundler =>
      cases request.json <;> simp [orFail, made, bind_assoc] <;> rfl

def Console.unnamed (console : Console) : Console :=
  { console with world :=
      { console.world with session := { console.world.session with log := console.log.tail } } }

/-- How a command ends on a disk: why it fails, if it does, and the console with everything that has been
printed and logged and with the disk, apart from the line that names the configuration file. -/
def Request.outcome (request : Request) (elapsed : Report.Duration) (disk : FileSystem) :
    EStateM.Result Failure Console Unit :=
  mapOutcome (fun found _ => found) Console.unnamed (request.execute elapsed (.new disk))

/-- How a command ends is a matter of the configuration that it means, of the disk, and of whether JSON is
wanted. -/
theorem Request.outcome_eq (request : Request) (elapsed : Report.Duration) (disk : FileSystem) :
    request.outcome elapsed disk = request.proceed elapsed (request.configuration disk)
      (.waiting request.json disk) := by
  unfold outcome
  rw [request.execute_new, request.respects_proceed]
  cases request.proceed elapsed (request.configuration disk) (.waiting request.json disk) <;> rfl

theorem spares_building {α : Type} (action : EStateM BuildError (Bundler.World Unit) α)
    (error : ConfigError) : Spares (building action) (.config error) := by
  intro start final failed
  unfold building at failed
  split at failed <;> cases failed

theorem Request.spares_report (request : Request) (elapsed : Report.Duration) (product : Product)
    (error : ConfigError) : Spares (request.report elapsed product) (.config error) := by
  unfold report
  refine (spares_building _ error).bind fun stats => ?_
  split
  · exact fun _ _ => nofun
  · exact fun _ _ => nofun

theorem Request.spares_construct (request : Request) (elapsed : Report.Duration) (config : Config)
    {error : ConfigError} (other : ¬ error.OfPlugin) :
    Spares (request.construct elapsed config) (.config error) := by
  unfold construct
  split
  · rename_i refused
    refine .throw fun same => other ?_
    cases same
    exact Bundler.ofPlugin_of_ofConfig refused
  · exact (spares_building _ error).bind fun _ => request.spares_report elapsed _ error

/-- A command fails at once where its configuration is wrong. -/
theorem Request.outcome_eq_refused_iff {request : Request} {elapsed : Report.Duration} {disk : FileSystem}
    {error : ConfigError} (other : ¬ error.OfPlugin) :
    request.outcome elapsed disk = .error (.config error) (.waiting request.json disk) ↔
      request.configuration disk = .error error := by
  rw [request.outcome_eq]
  constructor
  · intro ended
    cases known : request.configuration disk with
    | error found =>
      rw [known] at ended
      cases ended
      rfl
    | ok config =>
      rw [known] at ended
      have spares : Spares (request.proceed elapsed (.ok config)) (.config error) := by
        unfold proceed
        dsimp only
        split
        · exact Spares.bind (fun _ _ => nofun) fun _ => request.spares_construct elapsed config other
        · exact request.spares_construct elapsed config other
      exact absurd ended (spares _ _)
  · intro known
    rw [known]
    rfl

end Command

end ModuleBundler
