import ModuleBundler.Text.Quoted

/-!
JSON values and how they are written. Members keep the order in which they are listed.
-/

namespace ModuleBundler

/-- A JSON value. A decimal is `digits` with its last `places` digits behind the point, of which there
is at least one. -/
inductive Json where
  | null
  | bool (value : Bool)
  | integer (value : Int)
  | decimal (negative : Bool) (digits places : Nat)
  | text (value : String)
  | array (elements : List Json)
  | object (members : List (String × Json))
  deriving Repr, Inhabited

namespace Json

def decimalText (negative : Bool) (digits places : Nat) : String :=
  let all := (toString digits).toList
  let padded := List.replicate (places + 1 - all.length) '0' ++ all
  let whole := padded.take (padded.length - places)
  let fraction := padded.drop (padded.length - places)
  String.ofList ((if negative then ['-'] else []) ++ whole ++ '.' ::
    if fraction.isEmpty then ['0'] else fraction)

def leafText : Json → String
  | null => "null"
  | bool true => "true"
  | bool false => "false"
  | integer value => toString value
  | decimal negative digits places => decimalText negative digits places
  | text value => Text.quoted value
  | array _ => "[]"
  | object _ => "\x7b\x7d"

/-- How the parts of a value are laid out: whether each stands on a line of its own, and how far to
the right. -/
structure Layout where
  spread : Bool
  depth : Nat
  deriving DecidableEq, Repr

namespace Layout

def deeper (layout : Layout) : Layout :=
  { layout with depth := layout.depth + 1 }

def lineStart (layout : Layout) : String :=
  if layout.spread then "\n" ++ String.ofList (List.replicate (2 * layout.depth) ' ') else ""

def colon (layout : Layout) : String :=
  if layout.spread then ": " else ":"

end Layout

mutual

def render (layout : Layout) : Json → String
  | array (element :: elements) =>
    "[" ++ layout.deeper.lineStart ++ element.render layout.deeper ++
      renderElements layout.deeper elements ++ layout.lineStart ++ "]"
  | object ((name, value) :: members) =>
    "\x7b" ++ layout.deeper.lineStart ++ Text.quoted name ++ layout.colon ++
      value.render layout.deeper ++ renderMembers layout.deeper members ++ layout.lineStart ++
      "\x7d"
  | value => value.leafText

def renderElements (layout : Layout) : List Json → String
  | [] => ""
  | element :: elements =>
    "," ++ layout.lineStart ++ element.render layout ++ renderElements layout elements

def renderMembers (layout : Layout) : List (String × Json) → String
  | [] => ""
  | (name, value) :: members =>
    "," ++ layout.lineStart ++ Text.quoted name ++ layout.colon ++ value.render layout ++
      renderMembers layout members

end

def compact (value : Json) : String :=
  value.render ⟨false, 0⟩

def pretty (value : Json) : String :=
  value.render ⟨true, 0⟩

end Json

end ModuleBundler
