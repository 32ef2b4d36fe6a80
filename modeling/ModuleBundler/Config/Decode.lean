import ModuleBundler.Config.Basic
import ModuleBundler.Json.Value
import ModuleBundler.Toml.Parser

/-!
Configurations as documents: read from TOML, and shown as JSON. What a document holds besides the known
settings means nothing; settings that are missing have their defaults.
-/

namespace ModuleBundler

namespace Toml

def momentKey : String := "$__toml_private_datetime"

def text? : Toml → Option String
  | .text value => some value
  | _ => none

def elements? : Toml → Option (List Toml)
  | .array elements => some elements
  | _ => none

def members? : Toml → Option (List (String × Toml))
  | .table members => some members
  | .moment spelling => some [(momentKey, .text spelling)]
  | _ => none

def texts? (value : Toml) : Option (List String) := do
  (← value.elements?).mapM text?

def settings? (names : List String) : Toml → Option (String → Option Toml)
  | .array elements => some fun name => (names.zip elements).lookup name
  | value => value.members?.map fun members name => members.lookup name

def optional (setting : Option Toml) (read : Toml → Option α) : Option (Option α) :=
  match setting with
  | some value => (read value).map some
  | none => some none

mutual

def toJson : Toml → Json
  | .text value => .text value
  | .integer value => .integer value
  | .fraction (.decimal negative digits places) => .decimal negative digits places
  | .fraction _ => .null
  | .bool value => .bool value
  | .moment spelling => .object [(momentKey, .text spelling)]
  | .array elements => .array (elementsToJson elements)
  | .table members => .object (membersToJson members)

def elementsToJson : List Toml → List Json
  | [] => []
  | element :: elements => element.toJson :: elementsToJson elements

def membersToJson : List (String × Toml) → List (String × Json)
  | [] => []
  | (name, value) :: members => (name, value.toJson) :: membersToJson members

end

end Toml

open Toml (optional)

namespace EntryConfig

def ofToml? (value : Toml) : Option EntryConfig :=
  match value with
  | .text path => some (.single path)
  | _ => do
    let members ← value.members?
    let paths ← members.mapM fun (name, path) => path.text?.map (name, ·)
    return .named (.ofList paths)

def toJson : EntryConfig → Json
  | single path => .text path
  | named paths => .object (paths.entries.map fun (name, path) => (name, .text path))

end EntryConfig

def OutputConfig.ofToml? (value : Toml) : Option OutputConfig := do
  let setting ← value.settings? ["path", "filename"]
  let path ← optional (setting "path") Toml.text?
  let filename ← optional (setting "filename") Toml.text?
  let default : OutputConfig := {}
  return ⟨path.getD default.path, filename.getD default.filename⟩

def Rule.ofToml? (value : Toml) : Option Rule := do
  let setting ← value.settings? ["test", "use"]
  let transforms ← optional (setting "use") Toml.texts?
  return { test := ← (← setting "test").text?, transforms := transforms.getD [] }

def PluginConfig.ofToml? (value : Toml) : Option PluginConfig := do
  let setting ← value.settings? ["name", "options"]
  let options ← optional (setting "options") Toml.members?
  return { name := ← (← setting "name").text?, options }

namespace Config

def listIn? (name : String) (read : Toml → Option α) (value : Toml) : Option (Option (List α)) := do
  let setting ← value.settings? [name]
  optional (setting name) fun value => do (← value.elements?).mapM read

def ofMembers? (root : Path) (members : List (String × Toml)) : Option Config := do
  let setting (name : String) : Option Toml := members.lookup name
  let default : Config := {}
  let context ← optional (setting "context") Toml.text?
  let entry ← optional (setting "entry") EntryConfig.ofToml?
  let output ← optional (setting "output") OutputConfig.ofToml?
  let extensions ← optional (setting "resolve") (listIn? "extensions" Toml.text?)
  let rules ← optional (setting "module") (listIn? "rules" Rule.ofToml?)
  let plugins ← optional (setting "plugins") fun value => do
    (← value.elements?).mapM PluginConfig.ofToml?
  return {
    context, root
    entry := entry.getD default.entry
    output := output.getD default.output
    extensions := extensions.join.getD default.extensions
    rules := rules.join.getD default.rules
    plugins := plugins.getD default.plugins }

def pathOf (location : Location) : Path :=
  ⟨"/" ++ "/".intercalate location⟩

def load (disk : FileSystem) (path : Path) : Except ConfigError Config := do
  let path := if path.isAbsolute then path else (pathOf disk.workingDirectory).join path
  match disk.readText path with
  | .error _ => throw (.unreadable path)
  | .ok text =>
    match (Toml.ofText? text).bind (ofMembers? (path.parent?.getD ⟨"."⟩)) with
    | some config => config.validate
    | none => throw .malformed

def toJson (config : Config) : Json :=
  .object [
    ("context", (config.context.map Json.text).getD .null),
    ("entry", config.entry.toJson),
    ("output", .object [
      ("path", .text config.output.path), ("filename", .text config.output.filename)]),
    ("resolve", .object [("extensions", .array (config.extensions.map .text))]),
    ("module", .object [("rules", .array (config.rules.map fun rule => .object [
      ("test", .text rule.test), ("use", .array (rule.transforms.map .text))]))]),
    ("plugins", .array (config.plugins.map fun plugin => .object (
      ("name", .text plugin.name) ::
        (plugin.options.map fun options => ("options", Json.object (Toml.membersToJson options))).toList)))]

end Config

end ModuleBundler
