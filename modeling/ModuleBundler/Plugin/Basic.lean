import ModuleBundler.Archive.Zip
import ModuleBundler.Build.Session
import ModuleBundler.Config.Decode
import ModuleBundler.Transform.Basic

/-!
Plugins: the built-in ones with their options, and those that bring callbacks of their own.
-/

namespace ModuleBundler

structure ExternalLibrary where
  /-- The global variable that holds it. -/
  global : String
  /-- The address that it is loaded from. -/
  src : Option String
  deriving DecidableEq, Repr, Inhabited

inductive CustomTap (ω : Type) where
  | run (observe : Observer ω Compilation)
  | emit (revise : Reviser ω Compilation)
  | done (observe : Observer ω Stats)
  | factorize (decide : Decider ω ResolveData ExternalModule)
  | requireCall (observe : Observer ω RequireCall)

inductive Plugin (ω : Type) where
  /-- Logs the start and the end of a build. -/
  | logger
  /-- Replaces names by values in the text of assets. -/
  | define (definitions : Table String)
  /-- Adds an archive of all assets. -/
  | compress (output : String)
  /-- Leaves libraries out of the bundles, and lists those that are used. -/
  | externals (libraries : Table ExternalLibrary)
  | transform (name : String) (transform : Transform)
  | custom (name : String) (taps : List (CustomTap ω))

namespace Plugin

variable {ω : Type}

def name : Plugin ω → String
  | logger => "LoggerPlugin"
  | define _ => "DefinePlugin"
  | compress _ => "CompressAssetsPlugin"
  | externals _ => "ExternalsPlugin"
  | transform name _ => name
  | custom name _ => name

def textOption? : Toml → Option String
  | .text value => some value
  | .moment spelling => some spelling
  | _ => none

def definitionsOf? (options : List (String × Toml)) : Option (Table String) := do
  return .ofList (← options.mapM fun (name, value) => (textOption? value).map (name, ·))

def libraryOf? (value : Toml) : Option ExternalLibrary := do
  let setting ←
    match value with
    | .array elements =>
      if elements.length ≤ 2 then value.settings? ["variable", "src"] else none
    | .table _ => value.settings? ["variable", "src"]
    | _ => none
  return {
    global := ← textOption? (← setting "variable")
    src := ← Toml.optional (setting "src") textOption? }

def librariesOf? (options : List (String × Toml)) : Option (Table ExternalLibrary) := do
  return .ofList (← options.mapM fun (request, value) => (libraryOf? value).map (request, ·))

def ofConfig (config : PluginConfig) : Except ConfigError (Plugin ω) :=
  let options := config.options.getD []
  let orInvalid (plugin : Option (Plugin ω)) : Except ConfigError (Plugin ω) :=
    match plugin with
    | some plugin => .ok plugin
    | none => .error (.invalidOptions config.name)
  match config.name with
  | "logger" => .ok logger
  | "define" => orInvalid ((definitionsOf? options).map define)
  | "compress-assets" => orInvalid (((options.lookup "output").bind textOption?).map compress)
  | "externals" => orInvalid ((librariesOf? options).map externals)
  | unknown => .error (.unknownPlugin unknown)

def ofConfigs (configs : List PluginConfig) : Except ConfigError (List (Plugin ω)) :=
  configs.mapM ofConfig

end Plugin

end ModuleBundler
