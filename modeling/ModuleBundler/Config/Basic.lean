import ModuleBundler.FileSystem.Basic
import ModuleBundler.Pattern.Parser
import ModuleBundler.Table
import ModuleBundler.Text.Search
import ModuleBundler.Toml.Value

/-!
What a project is configured to build: its entries, where the output goes, how modules are resolved and
transformed, and the plugins that take part.
-/

namespace ModuleBundler

inductive EntryConfig where
  | single (path : String)
  | named (paths : Table String)
  deriving DecidableEq, Inhabited

namespace EntryConfig

def soleName : String := "main"

def paths : EntryConfig → Table String
  | single path => Table.empty.insert soleName path
  | named paths => paths

end EntryConfig

structure OutputConfig where
  path : String := "dist"
  /-- The pattern that the names of the bundles follow. -/
  filename : String := "[name].js"
  deriving DecidableEq, Repr, Inhabited

structure Rule where
  test : String
  transforms : List String := []
  deriving DecidableEq, Repr, Inhabited

structure PluginConfig where
  name : String
  options : Option (List (String × Toml)) := none
  deriving Inhabited

structure Config where
  /-- The directory that entries are relative to, as seen from the root. -/
  context : Option String := none
  entry : EntryConfig := .named {}
  output : OutputConfig := {}
  /-- What is tried behind the specifier of an import. -/
  extensions : List String := [".js", ".json"]
  rules : List Rule := []
  plugins : List PluginConfig := []
  /-- The directory of the configuration file. -/
  root : Path := ⟨""⟩
  deriving Inhabited

/-- What is wrong with a configuration. -/
inductive ConfigError where
  | unreadable (path : Path)
  | malformed
  | noEntries
  | sharedFilename (filename : String) (entries : Nat)
  | invalidTest (pattern : String)
  | unknownPlugin (name : String)
  | invalidOptions (plugin : String)
  deriving DecidableEq, Repr, Inhabited

namespace ConfigError

def message : ConfigError → String
  | unreadable path => "Failed to read config file: " ++ path.text
  | malformed => "Failed to parse modpack.toml"
  | noEntries => "At least one entry must be specified in modpack.toml"
  | sharedFilename filename entries =>
    "output.filename '" ++ filename ++ "' must contain [name] when there are " ++ toString entries ++
      " entries"
  | invalidTest pattern => "Invalid rule test pattern: " ++ pattern
  | unknownPlugin name => "Unknown plugin: " ++ name
  | invalidOptions plugin => "Invalid options for plugin '" ++ plugin ++ "'"

end ConfigError

namespace Config

def ofEntry (root : Path) (entry : String) : Config :=
  { entry := .single entry, root }

def namePlaceholder : String := "[name]"

def invalidRule? (rules : List Rule) : Option Rule :=
  rules.find? fun rule => (Pattern.ofText? rule.test).isNone

def fault? (config : Config) : Option ConfigError :=
  let count := config.entry.paths.size
  if count = 0 then some .noEntries
  else if 1 < count &&
      !Text.occurs namePlaceholder.toList config.output.filename.toList then
    some (.sharedFilename config.output.filename count)
  else (invalidRule? config.rules).map fun rule => .invalidTest rule.test

def validate (config : Config) : Except ConfigError Config :=
  match config.fault? with
  | some fault => .error fault
  | none => .ok config

def contextDirectory (config : Config) : Path :=
  match config.context with
  | some context => config.root.join ⟨context⟩
  | none => config.root

def outputDirectory (config : Config) : Path :=
  config.root.join ⟨config.output.path⟩

def entries (config : Config) : Table Path :=
  config.entry.paths.map fun path => config.contextDirectory.join ⟨path⟩

end Config

end ModuleBundler
