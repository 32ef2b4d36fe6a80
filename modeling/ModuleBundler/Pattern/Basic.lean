import ModuleBundler.Pattern.Class

/-!
Patterns of texts. A pattern is matched on sets of places: from every place at which its first part may
start to every place at which its last part may stop. A set is kept as a number whose bits are the
places, so that no text takes longer because of the ways in which a pattern can divide it.
-/

namespace ModuleBundler

namespace Pattern

/-- A condition on a place that takes up no text. -/
inductive Anchor where
  | textStart
  | textEnd
  /-- The start of a line; where `returns`, carriage returns end lines too. -/
  | lineStart (returns : Bool)
  | lineEnd (returns : Bool)
  | wordBoundary (wide : Bool)
  | noWordBoundary (wide : Bool)
  | wordStart (wide : Bool)
  | wordEnd (wide : Bool)
  /-- A place that no part of a word stands before. -/
  | wordStartHalf (wide : Bool)
  | wordEndHalf (wide : Bool)
  deriving DecidableEq, Repr, Inhabited

end Pattern

inductive Pattern where
  | empty
  | one (characters : Pattern.CharClass)
  | anchor (anchor : Pattern.Anchor)
  | sequence (first second : Pattern)
  | choice (first second : Pattern)
  /-- A pattern at least `least` times, and at most `further` times more, if there is a limit. -/
  | repeated (inner : Pattern) (least : Nat) (further : Option Nat)
  deriving DecidableEq, Repr, Inhabited

namespace Pattern

abbrev Places := Nat

def placesWhere (text : List Char) (condition : Option Char → Option Char → Bool) : Places :=
  let before := none :: text.map some
  let after := text.map some ++ [none]
  ((before.zip after).zipIdx).foldl (fun places ((previous, next), place) =>
    if condition previous next then places ||| 1 <<< place else places) 0

def isWordPart (wide : Bool) (c : Option Char) : Bool :=
  match c with
  | none => false
  | some c =>
    if wide then Unicode.isWordPart c
    else ('a' ≤ c && c ≤ 'z') || ('A' ≤ c && c ≤ 'Z') || ('0' ≤ c && c ≤ '9') || c == '_'

/-- Whether an anchor holds between two characters, either of which is missing at an end of the
text. -/
def Anchor.holds (anchor : Anchor) (previous next : Option Char) : Bool :=
  match anchor with
  | textStart => previous.isNone
  | textEnd => next.isNone
  | lineStart false => previous.isNone || previous == some '\n'
  | lineStart true =>
    previous.isNone || previous == some '\n' || (previous == some '\r' && next != some '\n')
  | lineEnd false => next.isNone || next == some '\n'
  | lineEnd true => next.isNone || next == some '\r' || (next == some '\n' && previous != some '\r')
  | wordBoundary wide => isWordPart wide previous != isWordPart wide next
  | noWordBoundary wide => isWordPart wide previous == isWordPart wide next
  | wordStart wide => !isWordPart wide previous && isWordPart wide next
  | wordEnd wide => isWordPart wide previous && !isWordPart wide next
  | wordStartHalf wide => !isWordPart wide previous
  | wordEndHalf wide => !isWordPart wide next

def settle (step : Places → Places) : Nat → Places → Places
  | 0, places => places
  | count + 1, places =>
    let next := step places
    if next = places then places else settle step count next

def spread (step : Places → Places) (count : Nat) (places : Places) : Places :=
  settle (fun places => places ||| step places) count places

def stops (text : List Char) : Pattern → Places → Places
  | empty, places => places
  | one characters, places =>
    (places &&& placesWhere text fun _ next => next.any characters.holds) <<< 1
  | anchor condition, places => places &&& placesWhere text condition.holds
  | sequence first second, places => second.stops text (first.stops text places)
  | choice first second, places => first.stops text places ||| second.stops text places
  | repeated inner least further, places =>
    let least := settle (inner.stops text) least places
    let limit := further.getD (text.length + 1)
    spread (inner.stops text) (min limit (text.length + 1)) least

def occursIn (pattern : Pattern) (text : String) : Bool :=
  let characters := text.toList
  pattern.stops characters (1 <<< (characters.length + 1) - 1) != 0

end Pattern

end ModuleBundler
