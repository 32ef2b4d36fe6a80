import ModuleBundler.Path.Basic
import Std.Data.TreeMap

/-!
The modules of a build in the order in which they were discovered, each once, and which entries need
them.
-/

namespace ModuleBundler

inductive ModuleKind where
  | normal (path : Path)
  /-- Provided at run time by a global variable. -/
  | external (global : String)
  deriving DecidableEq, Repr, Inhabited

structure Module where
  id : String
  kind : ModuleKind
  /-- What is put into the bundle. -/
  source : String
  /-- The ids of the modules that this one requires, in the order of their first use. -/
  dependencies : List String
  /-- The entries whose bundle holds this module. -/
  owners : List String
  deriving DecidableEq, Repr, Inhabited

namespace Module

def new (id : String) (kind : ModuleKind) (source : String) (dependencies : List String)
    (entry : String) : Module :=
  { id, kind, source, dependencies, owners := [entry] }

def isOwnedBy (module : Module) (entry : String) : Bool :=
  module.owners.contains entry

def isExternal (module : Module) : Bool :=
  match module.kind with
  | .external _ => true
  | .normal _ => false

def addOwner (entry : String) (module : Module) : Module :=
  { module with owners := module.owners ++ [entry] }

end Module

structure ModuleGraph where
  modules : Array Module
  index : Std.TreeMap String Nat
  deriving Inhabited

namespace ModuleGraph

def empty : ModuleGraph := ⟨#[], {}⟩

def size (graph : ModuleGraph) : Nat :=
  graph.modules.size

def isEmpty (graph : ModuleGraph) : Bool :=
  graph.modules.isEmpty

def contains (graph : ModuleGraph) (id : String) : Bool :=
  graph.index.contains id

def find? (graph : ModuleGraph) (id : String) : Option Module := do
  graph.modules[← graph.index[id]?]?

def insert (graph : ModuleGraph) (module : Module) : Bool × ModuleGraph :=
  if graph.contains module.id then (false, graph)
  else (true, {
    modules := graph.modules.push module
    index := graph.index.insert module.id graph.modules.size })

def update (graph : ModuleGraph) (id : String) (change : Module → Module) : ModuleGraph :=
  match graph.index[id]? with
  | some place => { graph with modules := graph.modules.modify place change }
  | none => graph

def dependencyCount (graph : ModuleGraph) : Nat :=
  (graph.modules.toList.flatMap Module.dependencies).length

end ModuleGraph

end ModuleBundler
