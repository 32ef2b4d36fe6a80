import ModuleBundler.Build.Discover
import ModuleBundler.Build.Persist
import ModuleBundler.Plugin.Effect

/-!
The bundler: a configuration with the hooks and transforms that plugins have registered, and a build with
it, from the entries to the files that are written.
-/

namespace ModuleBundler

structure Bundler (ω : Type) where
  config : Config
  hooks : Hooks ω
  transforms : TransformRegistry
  /-- How many externals plugins there are; each keeps what it has seen under a number of its own. -/
  externals : Nat

namespace Bundler

variable {ω : Type}

def tapRun (plugin : String) (observe : Observer (Session ω) Compilation) (hooks : Hooks ω) :
    Hooks ω :=
  { hooks with run := hooks.run.tap plugin observe }

def tapEmit (plugin : String) (revise : Reviser (Session ω) Compilation) (hooks : Hooks ω) :
    Hooks ω :=
  { hooks with emit := hooks.emit.tap plugin revise }

def tapDone (plugin : String) (observe : Observer (Session ω) Stats) (hooks : Hooks ω) : Hooks ω :=
  { hooks with done := hooks.done.tap plugin observe }

def tapFactorize (plugin : String) (decide : Decider (Session ω) ResolveData ExternalModule)
    (hooks : Hooks ω) : Hooks ω :=
  { hooks with imports :=
      { hooks.imports with factorize := hooks.imports.factorize.tap plugin decide } }

def tapRequireCall (plugin : String) (observe : Observer (Session ω) RequireCall)
    (hooks : Hooks ω) : Hooks ω :=
  { hooks with imports :=
      { hooks.imports with requireCall := hooks.imports.requireCall.tap plugin observe } }

def tapCustom (plugin : String) (hooks : Hooks ω) : CustomTap ω → Hooks ω
  | .run observe => tapRun plugin (Plugin.observing observe) hooks
  | .emit revise => tapEmit plugin (Plugin.revising revise) hooks
  | .done observe => tapDone plugin (Plugin.observing observe) hooks
  | .factorize decide => tapFactorize plugin (Plugin.deciding decide) hooks
  | .requireCall observe => tapRequireCall plugin (Plugin.observing observe) hooks

/-- The hooks with the taps of a plugin behind those that are there. `number` is what an externals
plugin keeps its requests under. -/
def tapPlugin (number : Nat) (plugin : Plugin ω) (hooks : Hooks ω) : Hooks ω :=
  match plugin with
  | .logger => tapDone plugin.name Plugin.logEnd (tapRun plugin.name Plugin.logStart hooks)
  | .define definitions => tapEmit plugin.name (Plugin.defineAssets definitions) hooks
  | .compress output => tapEmit plugin.name (Plugin.compressAssets output) hooks
  | .externals libraries =>
    tapEmit plugin.name (Plugin.emitManifest number libraries)
      (tapRequireCall plugin.name (Plugin.noteRequest number libraries)
        (tapFactorize plugin.name (Plugin.claim libraries)
          (tapRun plugin.name (Plugin.forgetRequests number) hooks)))
  | .transform _ _ => hooks
  | .custom name taps => taps.foldl (tapCustom name) hooks

def apply (bundler : Bundler ω) (plugin : Plugin ω) : Bundler ω :=
  { bundler with
    hooks := tapPlugin bundler.externals plugin bundler.hooks
    transforms :=
      match plugin with
      | .transform name transform => bundler.transforms.insert name transform
      | _ => bundler.transforms
    externals :=
      match plugin with
      | .externals _ => bundler.externals + 1
      | _ => bundler.externals }

def withPlugins (config : Config) (plugins : List (Plugin ω)) : Bundler ω :=
  plugins.foldl apply
    { config, hooks := .new, transforms := TransformRegistry.builtins, externals := 0 }

def ofConfig (config : Config) : Except ConfigError (Bundler ω) :=
  (Plugin.ofConfigs config.plugins).map (withPlugins config)

def setup (bundler : Bundler ω) (disk : FileSystem) (root : Path) (pipeline : TransformPipeline) :
    Discover.Setup (Session ω) where
  around := {
    disk, resolver := .new root bundler.config.extensions, hooks := bundler.hooks.imports }
  pipeline
  transforms := bundler.transforms

def addEntryModules (setup : Discover.Setup (Session ω)) (name : String) (path : Path)
    (compilation : Compilation) : EStateM BuildError (Session ω) (String × ModuleGraph) :=
  fun session =>
    match Discover.addEntry setup name path (compilation.graph, session) with
    | .ok id (graph, session) => .ok (id, graph) session
    | .error error (_, session) => .error error session

def discoverEntry (setup : Discover.Setup (Session ω)) (name : String) (path : Path)
    (compilation : Compilation) : EStateM BuildError (Session ω) Compilation := do
  match setup.around.resolver.resolve setup.around.disk path.text compilation.root with
  | .error failure => throw failure
  | .ok file =>
    let (id, graph) ← addEntryModules setup name file compilation
    return { compilation with
      graph
      entries := compilation.entries ++ [⟨name, file, id⟩]
      chunks := compilation.chunks ++ [.assemble name id graph] }

def discover (setup : Discover.Setup (Session ω)) :
    List (String × Path) → Compilation → EStateM BuildError (Session ω) Compilation
  | [], compilation => return compilation
  | (name, path) :: entries, compilation => do
    discover setup entries (← discoverEntry setup name path compilation)

def emitChunk (filename : String) (compilation : Compilation) (chunk : Chunk) : Compilation :=
  let code := Bundle.render chunk compilation.graph
  compilation.emitAsset (chunk.filename filename code) (.text code)

def emitChunks (filename : String) (compilation : Compilation) : Compilation :=
  compilation.chunks.foldl (emitChunk filename) compilation

def log (message : String) : EStateM BuildError (Session ω) Unit :=
  modify (Session.write .info message)

def reviseWith (hooks : Hooks ω) (compilation : Compilation) :
    EStateM BuildError (Session ω) Compilation := fun session =>
  match hooks.emit.revise (compilation, session) with
  | .ok _ (compilation, session) => .ok compilation session
  | .error error (_, session) => .error error session

def compile (bundler : Bundler ω) (disk : FileSystem) :
    EStateM BuildError (Session ω) Compilation := do
  let compilation := Compilation.new bundler.config
  bundler.hooks.run.show compilation
  log "Building module graph..."
  match TransformPipeline.ofRules bundler.config.rules with
  | .error error => throw error
  | .ok pipeline =>
    let setup := bundler.setup disk compilation.root pipeline
    let compilation ← discover setup bundler.config.entries.entries compilation
    log ("Rendering " ++ toString compilation.chunks.length ++ " chunks...")
    let compilation ←
      reviseWith bundler.hooks (emitChunks bundler.config.output.filename compilation)
    log ("Writing " ++ toString compilation.assets.size ++ " assets...")
    return compilation

structure World (ω : Type) where
  session : Session ω
  disk : FileSystem

def reading (action : FileSystem → EStateM BuildError (Session ω) α) :
    EStateM BuildError (World ω) α := fun world =>
  match action world.disk world.session with
  | .ok found session => .ok found { world with session }
  | .error error session => .error error { world with session }

def persist (bundler : Bundler ω) (compilation : Compilation) :
    EStateM BuildError (World ω) (List String) := fun world =>
  match Persist.writeAssets compilation.assets bundler.config.outputDirectory
      ⟨world.disk, world.session.log⟩ with
  | .ok files desk => .ok files ⟨{ world.session with log := desk.log }, desk.disk⟩
  | .error error desk => .error error ⟨{ world.session with log := desk.log }, desk.disk⟩

def produce (bundler : Bundler ω) : EStateM BuildError (World ω) Compilation := do
  let compilation ← reading bundler.compile
  return { compilation with files := ← bundler.persist compilation }

def finish (bundler : Bundler ω) (elapsed : Report.Duration) (compilation : Compilation) :
    EStateM BuildError (World ω) Stats := do
  let stats : Stats := { compilation, elapsed }
  reading fun _ => bundler.hooks.done.show stats
  return stats

def build (bundler : Bundler ω) (elapsed : Report.Duration) :
    EStateM BuildError (World ω) Stats := do
  bundler.finish elapsed (← bundler.produce)

end Bundler

end ModuleBundler
