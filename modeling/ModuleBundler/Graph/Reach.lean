import ModuleBundler.Graph.Basic

/-!
What can be reached from a module. An entry owns all that its module requires, directly or not.
-/

namespace ModuleBundler.ModuleGraph

/-- Makes an entry the owner of pending modules and of what they require, in at most `count` steps. The
walk does not go on behind a module that the entry owns already. -/
def ownPending (entry : String) : Nat → List String → ModuleGraph → ModuleGraph
  | count + 1, id :: pending, graph =>
    match graph.find? id with
    | none => ownPending entry count pending graph
    | some module =>
      if module.isOwnedBy entry then ownPending entry count pending graph
      else
        ownPending entry count (module.dependencies ++ pending)
          (graph.update id (Module.addOwner entry))
  | _, _, graph => graph

def addOwner (graph : ModuleGraph) (id entry : String) : ModuleGraph :=
  graph.ownPending entry (graph.dependencyCount + 1) [id]

def ownedBy (graph : ModuleGraph) (entry : String) : List Module :=
  graph.modules.toList.filter (·.isOwnedBy entry)

def unseen (seen : List String) : List String → List String
  | [] => []
  | id :: ids => if seen.contains id then unseen seen ids else id :: unseen (id :: seen) ids

def dependenciesOf (graph : ModuleGraph) (id : String) : List String :=
  match graph.find? id with
  | some module => module.dependencies
  | none => []

/-- The ids in a queue and those that are reached from them and have not been seen, in at most `count`
steps. -/
def reachQueue (graph : ModuleGraph) : Nat → List String → List String → List String
  | count + 1, id :: queue, seen =>
    let found := unseen seen (graph.dependenciesOf id)
    id :: reachQueue graph count (queue ++ found) (found ++ seen)
  | _, _, _ => []

def reachable (graph : ModuleGraph) (start : String) : List String :=
  graph.reachQueue (graph.dependencyCount + 1) [start] [start]

end ModuleBundler.ModuleGraph
