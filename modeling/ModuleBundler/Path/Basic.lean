/-!
Paths, as they are written. A path is a text; its components are what its slashes separate, apart from
empty names and dots that change nothing. Nothing here looks at a file system.
-/

namespace ModuleBundler

structure Path where
  text : String
  deriving DecidableEq, Repr, Inhabited

inductive Component where
  | root
  /-- A dot at the start of a relative path. -/
  | current
  | parent
  | normal (name : String)
  deriving DecidableEq, Repr, Inhabited

namespace Component

def text : Component → String
  | root => "/"
  | current => "."
  | parent => ".."
  | normal name => name

end Component

def splitSlashes : List Char → List (List Char)
  | [] => [[]]
  | c :: rest =>
    if c = '/' then [] :: splitSlashes rest
    else
      match splitSlashes rest with
      | [] => [[c]]
      | piece :: pieces => (c :: piece) :: pieces

def joinSlashes : List (List Char) → List Char
  | [] => []
  | [piece] => piece
  | piece :: pieces => piece ++ '/' :: joinSlashes pieces

def isIdle (piece : List Char) : Bool :=
  piece == [] || piece == ['.']

def componentOf? (piece : List Char) : Option Component :=
  if isIdle piece then none
  else if piece = ['.', '.'] then some .parent
  else some (.normal (String.ofList piece))

def trimIdle (pieces : List (List Char)) : List (List Char) :=
  (pieces.reverse.dropWhile isIdle).reverse

namespace Path

def characters (path : Path) : List Char :=
  path.text.toList

def ofCharacters (characters : List Char) : Path :=
  ⟨String.ofList characters⟩

def isAbsolute (path : Path) : Bool :=
  path.characters.head? == some '/'

def parts (path : Path) : List Char × List (List Char) :=
  match path.characters with
  | '/' :: rest => (['/'], splitSlashes rest)
  | '.' :: '/' :: rest => (['.'], splitSlashes ('/' :: rest))
  | ['.'] => (['.'], [])
  | characters => ([], splitSlashes characters)

def components (path : Path) : List Component :=
  let (start, pieces) := path.parts
  let first : List Component :=
    match start with
    | '/' :: _ => [.root]
    | '.' :: _ => [.current]
    | _ => []
  first ++ pieces.filterMap componentOf?

/-- A path below another one. An absolute path stays as it is; a separator is written unless the
first path has none before it or ends with one. -/
def join (path below : Path) : Path :=
  if below.isAbsolute then below
  else if path.characters = [] ∨ path.characters.getLast? = some '/' then
    ⟨path.text ++ below.text⟩
  else ⟨path.text ++ "/" ++ below.text⟩

def parent? (path : Path) : Option Path :=
  let (start, pieces) := path.parts
  match (trimIdle pieces).reverse, start with
  | _ :: earlier, _ =>
    some (ofCharacters (start ++ joinSlashes (trimIdle earlier.reverse)))
  | [], ['.'] => some ⟨""⟩
  | [], _ => none

def fileName? (path : Path) : Option String :=
  match path.components.getLast? with
  | some (.normal name) => some name
  | _ => none

def withFileName (path : Path) (name : String) : Path :=
  match path.fileName?, path.parent? with
  | some _, some parent => parent.join ⟨name⟩
  | _, _ => path.join ⟨name⟩

def append (path : Path) (suffix : String) : Path :=
  ⟨path.text ++ suffix⟩

def ancestorsUpTo : Nat → Path → List Path
  | 0, _ => []
  | count + 1, path =>
    match path.parent? with
    | some parent => parent :: ancestorsUpTo count parent
    | none => []

def ancestors (path : Path) : List Path :=
  ancestorsUpTo (path.characters.length + 1) path

def ofComponents : List Component → Path
  | .root :: components => ofCharacters ('/' :: joinSlashes (components.map (·.text.toList)))
  | components => ofCharacters (joinSlashes (components.map (·.text.toList)))

def unixText (path : Path) : String :=
  String.ofList (path.characters.map fun c => if c = '\\' then '/' else c)

end Path

end ModuleBundler
