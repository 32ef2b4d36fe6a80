import ModuleBundler.Graph.Reach
import ModuleBundler.Import.Extract
import ModuleBundler.Transform.Pipeline

/-!
Finding the modules of an entry: its own, and all that are required from there. A module is put into the
graph before what it requires is looked at, so that modules may require each other in a circle.
-/

namespace ModuleBundler.Discover

structure Setup (σ : Type) where
  around : Import.Surroundings σ
  pipeline : TransformPipeline
  transforms : TransformRegistry

variable {σ : Type}

abbrev Discovery (σ : Type) := EStateM BuildError (ModuleGraph × σ)

def changeGraph (change : ModuleGraph → ModuleGraph) : Discovery σ Unit :=
  modify fun (graph, state) => (change graph, state)

def graph : Discovery σ ModuleGraph :=
  return (← get).1

def load (setup : Setup σ) (path : Path) : EStateM BuildError σ Import.Extracted := do
  match setup.around.disk.readText path with
  | .error cause => throw (.io path cause)
  | .ok raw =>
    match setup.pipeline.apply setup.transforms path raw with
    | .error error => throw error
    | .ok source => Import.extract setup.around source path

def aside (action : EStateM BuildError σ α) : Discovery σ α := fun (graph, state) =>
  match action state with
  | .ok found state => .ok found (graph, state)
  | .error error state => .error error (graph, state)

def addExternal (entry id : String) (provided : ExternalModule) : Discovery σ Unit := do
  if (← graph).contains id then changeGraph fun graph => graph.addOwner id entry
  else
    let source := Bundle.externalSource provided.global
    changeGraph fun graph =>
      (graph.insert (.new id (.external provided.global) source [] entry)).2

/-- Adds the module of a file and all that it requires, `depth` calls deep at most. The id of the module
is answered. A module that is in the graph is not read again. -/
def addModule (setup : Setup σ) (entry : String) : Nat → Path → Discovery σ String
  | 0, path => throw (.tooDeep path)
  | depth + 1, path => do
    let id := setup.around.resolver.moduleId path
    if (← graph).contains id then
      changeGraph fun graph => graph.addOwner id entry
      return id
    else
      let extracted ← aside (load setup path)
      let ids := extracted.dependencies.map Dependency.id
      changeGraph fun graph =>
        (graph.insert (.new id (.normal path) extracted.source ids entry)).2
      extracted.dependencies.forM fun dependency =>
        match dependency.target with
        | .file path => discard (addModule setup entry depth path)
        | .external provided => addExternal entry dependency.id provided
      return id

def addEntry (setup : Setup σ) (entry : String) (path : Path) : Discovery σ String :=
  addModule setup entry (FileSystem.pathCount + 1) path

end ModuleBundler.Discover
