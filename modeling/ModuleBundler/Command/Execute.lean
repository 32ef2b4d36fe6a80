import ModuleBundler.Build.Bundler
import ModuleBundler.Command.Arguments

/-!
Carrying out a command line: a build with the configuration that it names, and what is printed.
-/

namespace ModuleBundler.Command

inductive Failure where
  | config (error : ConfigError)
  | build (error : BuildError)
  deriving Inhabited

def Failure.message : Failure → String
  | config error => error.message
  | build error => error.message

structure Console where
  output : String
  messages : String
  world : Bundler.World Unit

namespace Console

def new (disk : FileSystem) : Console :=
  { output := "", messages := "", world := ⟨.new (), disk⟩ }

def log (console : Console) : List LogLine :=
  console.world.session.log

def disk (console : Console) : FileSystem :=
  console.world.disk

end Console

abbrev Execution := EStateM Failure Console

def version : String := "0.1.0"

def print (text : String) : Execution Unit :=
  modify fun console => { console with output := console.output ++ text }

def tell (text : String) : Execution Unit :=
  modify fun console => { console with messages := console.messages ++ text }

def building (action : EStateM BuildError (Bundler.World Unit) α) : Execution α := fun console =>
  match action console.world with
  | .ok found world => .ok found { console with world }
  | .error error world => .error (.build error) { console with world }

def Request.override (request : Request) (config : Config) : Config :=
  { config with
    context := request.context.orElse fun _ => config.context
    output := {
      path := request.outputDirectory.getD config.output.path
      filename := request.filename.getD config.output.filename } }

def Request.configuration (request : Request) (disk : FileSystem) : Except ConfigError Config := do
  let config ← Config.load disk ⟨request.config⟩
  (request.override config).validate

def orFail (found : Except ConfigError α) : Execution α :=
  match found with
  | .ok value => pure value
  | .error error => throw (.config error)

def fileLine (stats : Stats) (name : String) : String :=
  let size := ((stats.compilation.assets.find? name).map Asset.size).getD 0
  "  • " ++ name ++ " " ++ Report.formatSize size ++ "\n"

def buildSummary (stats : Stats) : String :=
  "\n✓ Built " ++ toString stats.compilation.chunks.length ++ " chunk(s) from " ++
    toString stats.compilation.graph.size ++ " module(s) in " ++ stats.elapsed.format ++ "\n\n" ++
    String.join (stats.compilation.files.map (fileLine stats)) ++ "\n"

structure Product where
  bundler : Bundler Unit
  compilation : Compilation

def Request.produce (request : Request) : Execution Product := do
  if !request.json then tell ("\nmodpack v" ++ version ++ "\n\n")
  building (Bundler.reading fun _ =>
    Bundler.log ("Loading configuration from " ++ request.config))
  let config ← orFail (request.configuration (← get).disk)
  if !request.json then tell "→ Building project...\n"
  let bundler ← orFail (Bundler.ofConfig config)
  return { bundler, compilation := ← building bundler.produce }

def Request.report (request : Request) (elapsed : Report.Duration) (product : Product) :
    Execution Unit := do
  let stats ← building (product.bundler.finish elapsed product.compilation)
  if request.json then print (stats.toJson.pretty ++ "\n") else tell (buildSummary stats)

def Request.execute (request : Request) (elapsed : Report.Duration) : Execution Unit := do
  request.report elapsed (← request.produce)

end ModuleBundler.Command
