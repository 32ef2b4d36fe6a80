import ModuleBundler.Toml.Value

/-!
Tables while a document is read. Later lines may add to a table that only came about because something
below it was named, but not to one that has been written down.
-/

namespace ModuleBundler.Toml

inductive Item where
  | value (value : Toml)
  /-- A table. It is `implied` while nothing but its parts have been named, and `dotted` if that was
  done by keys with points. -/
  | table (implied dotted : Bool) (members : List (String × Item))
  /-- Tables of one name, the last one of which is being written. -/
  | tables (elements : List (List (String × Item)))
  deriving Inhabited

abbrev Members := List (String × Item)

namespace Members

def replace (members : Members) (name : String) (item : Item) : Members :=
  members.map fun member => if member.1 = name then (name, item) else member

/-- Changes what is below a name, where a table is implied if there is none. `dotted` keys may not
enter a table that has been written down. -/
def enter (dotted : Bool) (name : String) (change : Bool → Members → Option Members)
    (members : Members) : Option Members :=
  match members.lookup name with
  | none => (change dotted []).map fun inner => members ++ [(name, .table true dotted inner)]
  | some (.table implied wasDotted inner) =>
    if dotted && !implied then none
    else (change wasDotted inner).map fun inner =>
      replace members name (.table implied wasDotted inner)
  | some (.tables elements) =>
    match elements.getLast? with
    | some last => (change false last).map fun inner =>
        replace members name (.tables (elements.dropLast ++ [inner]))
    | none => none
  | some (.value _) => none

def enterAll (dotted : Bool) :
    List String → (Bool → Members → Option Members) → Bool → Members → Option Members
  | [], change, wasDotted, members => change wasDotted members
  | name :: names, change, _, members => enter dotted name (enterAll dotted names change) members

def assign (path : List String) (value : Item) (members : Members) : Option Members :=
  match path.getLast? with
  | none => none
  | some name =>
    enterAll true path.dropLast (fun wasDotted inner =>
      if wasDotted = path.dropLast.isEmpty || (inner.lookup name).isSome then none
      else some (inner ++ [(name, value)])) false members

def openTable (path : List String) (members : Members) : Option Members :=
  match path.getLast? with
  | none => none
  | some name =>
    enterAll false path.dropLast (fun _ inner =>
      match inner.lookup name with
      | none => some (inner ++ [(name, .table false false [])])
      | some (.table true false found) => some (replace inner name (.table false false found))
      | some _ => none) false members

def openElement (path : List String) (members : Members) : Option Members :=
  match path.getLast? with
  | none => none
  | some name =>
    enterAll false path.dropLast (fun _ inner =>
      match inner.lookup name with
      | none => some (inner ++ [(name, .tables [[]])])
      | some (.tables elements) => some (replace inner name (.tables (elements ++ [[]])))
      | some _ => none) false members

end Members

mutual

def Item.toToml : Item → Toml
  | .value value => value
  | .table _ _ members => .table (membersToToml members)
  | .tables elements => .array (elementsToToml elements)

def membersToToml : List (String × Item) → List (String × Toml)
  | [] => []
  | (name, item) :: members => (name, item.toToml) :: membersToToml members

def elementsToToml : List (List (String × Item)) → List Toml
  | [] => []
  | element :: elements => .table (membersToToml element) :: elementsToToml elements

end

end ModuleBundler.Toml
