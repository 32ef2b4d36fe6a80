import ModuleBundler.Path.Basic

/-!
Normal forms of paths, and the way from one path to another. Both are lexical: a step up undoes the
step down before it.
-/

namespace ModuleBundler

/-- Takes one more component onto the components of a normal path, which are listed from the last one
on. A step up takes a name away; at the root it stays there, and elsewhere it is kept. -/
def Component.onto (taken : List Component) : Component → List Component
  | .current => taken
  | .parent =>
    match taken with
    | .normal _ :: rest => rest
    | .root :: rest => .root :: rest
    | _ => .parent :: taken
  | component => component :: taken

namespace Path

def normalComponents (path : Path) : List Component :=
  (path.components.foldl Component.onto []).reverse

def normalize (path : Path) : Path :=
  ofComponents path.normalComponents

/-- The way from a base to some components: up from what they do not share, and down again. There is
none if the base starts with steps up that the components do not share. -/
def way? : List Component → List Component → Option (List Component)
  | components, [] => some components
  | [], base => some (base.map fun _ => .parent)
  | component :: components, first :: base =>
    if component = first then way? components base
    else if first = .parent then none
    else some ((first :: base).map (fun _ => .parent) ++ component :: components)

/-- A path as seen from a base. If one of them is absolute and the other is not, an absolute path
stays as it is. -/
def relativeTo? (path base : Path) : Option Path :=
  if path.isAbsolute = base.isAbsolute then
    (way? path.components base.components).map ofComponents
  else if path.isAbsolute then some path
  else none

end Path

end ModuleBundler
