import ModuleBundler.Bundle.Script
import ModuleBundler.Config.Basic
import ModuleBundler.Json.Value
import ModuleBundler.Report.Amount
import ModuleBundler.Text.Lossy

/-!
What one build produces, while it goes on and when it is done.
-/

namespace ModuleBundler

inductive Asset where
  | text (content : String)
  | binary (content : ByteArray)
  deriving Inhabited

instance : DecidableEq Asset
  | .text left, .text right =>
    match String.decEq left right with
    | .isTrue same => .isTrue (congrArg Asset.text same)
    | .isFalse differ => .isFalse fun same => differ (Asset.text.inj same)
  | .text _, .binary _ | .binary _, .text _ => .isFalse nofun
  | .binary left, .binary right =>
    match ByteArray.decEq left right with
    | .isTrue same => .isTrue (congrArg Asset.binary same)
    | .isFalse differ => .isFalse fun same => differ (Asset.binary.inj same)

namespace Asset

def bytes : Asset → ByteArray
  | text content => content.toUTF8
  | binary content => content

def source : Asset → String
  | text content => content
  | binary content => Text.lossy content

def size (asset : Asset) : Nat :=
  asset.bytes.size

end Asset

structure EntryPoint where
  name : String
  path : Path
  module : String
  deriving DecidableEq, Repr, Inhabited

/-- A build so far. -/
structure Compilation where
  /-- The directory that module ids are relative to. -/
  root : Path
  config : Config
  entries : List EntryPoint
  graph : ModuleGraph
  chunks : List Chunk
  /-- What is going to be written, by filename. -/
  assets : Table Asset
  /-- The filenames that have been written. -/
  files : List String
  deriving Inhabited

namespace Compilation

def new (config : Config) : Compilation :=
  { root := config.contextDirectory, config, entries := [], graph := .empty, chunks := [],
    assets := {}, files := [] }

def emitAsset (compilation : Compilation) (name : String) (asset : Asset) : Compilation :=
  { compilation with assets := compilation.assets.insert name asset }

end Compilation

structure Stats where
  compilation : Compilation
  elapsed : Report.Duration
  deriving Inhabited

def ModuleKind.toJson : ModuleKind → Json
  | .normal path => .object [("type", .text "normal"), ("path", .text path.text)]
  | .external global => .object [("type", .text "external"), ("variable", .text global)]

def Module.toJson (module : Module) : Json :=
  .object [
    ("id", .text module.id), ("kind", module.kind.toJson), ("source", .text module.source),
    ("dependencies", .array (module.dependencies.map .text)),
    ("owningEntries", .array (module.owners.map .text))]

def Chunk.toJson (chunk : Chunk) : Json :=
  .object [
    ("name", .text chunk.name), ("entryModule", .text chunk.entryModule),
    ("modules", .array (chunk.modules.map .text))]

def EntryPoint.toJson (entry : EntryPoint) : Json :=
  .object [
    ("name", .text entry.name), ("path", .text entry.path.text), ("module", .text entry.module)]

namespace Stats

def chunk? (stats : Stats) (name : String) : Option Chunk :=
  stats.compilation.chunks.find? (·.name == name)

def module? (stats : Stats) (id : String) : Option Module :=
  stats.compilation.graph.find? id

def summary (stats : Stats) : List (String × Json) :=
  let compilation := stats.compilation
  [("entries", .array (compilation.entries.map EntryPoint.toJson)),
    ("modules", .array (compilation.graph.modules.toList.map Module.toJson)),
    ("chunks", .array (compilation.chunks.map Chunk.toJson)),
    ("files", .array (compilation.files.map .text))]

def toJson (stats : Stats) : Json :=
  let asset (entry : String × Asset) : Json :=
    .object [("name", .text entry.1), ("size", .integer entry.2.size)]
  let assets := stats.compilation.assets.entries.map asset
  .object (stats.summary.take 3 ++ [("assets", .array assets)] ++ stats.summary.drop 3 ++
    [("elapsedMs", .integer stats.elapsed.milliseconds)])

end Stats

end ModuleBundler
