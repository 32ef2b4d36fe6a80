import ModuleBundler.Script.Grammar.Function

/-!
Classes, their elements and their decorators.
-/

namespace ModuleBundler.Script

def decorator (grammar : Grammar) (setting : Setting) : Reading Node := do
  let start := (← current).start
  expectSign "@"
  let operand ← grammar (.operand { setting with decorating := true } true)
  close .decorator start [operand]

def decorators (grammar : Grammar) (setting : Setting) : Reading (List Node) := do
  let found ← repeatUntil (fun found => do
    if ← atSign "@" then return (found.push (← decorator grammar setting), false)
    else return (found, true)) #[]
  return found.toList

structure Modifiers where
  isStatic : Bool
  isAsync : Bool
  isGenerator : Bool
  isAccessor : Bool
  deriving DecidableEq, Repr

def eatModifier (name : String) (sameLine : Bool) (modifiable : Token → Bool) : Reading Bool := do
  if ← atKeyword name then
    let next ← upcoming
    if modifiable next && !(sameLine && next.opensLine) then
      advance
      return true
    else return false
  else return false

def eatAccessor : Reading Bool := do
  if ← eatModifier "get" false Token.startsKey then return true
  else eatModifier "set" false Token.startsKey

def modifiers : Reading Modifiers := do
  let keyOrStar (token : Token) : Bool := token.startsKey || token.isSign "*"
  let isStatic ← eatModifier "static" false keyOrStar
  let isAsync ← eatModifier "async" true keyOrStar
  let isGenerator ← eatSign "*"
  let plain := !isAsync && !isGenerator
  let isAccessor ← if plain then eatAccessor else pure false
  if plain && !isAccessor then
    let _ ← eatModifier "accessor" true Token.startsKey
  return { isStatic, isAsync, isGenerator, isAccessor }

/-- Whether a key may name an element: only a plain method can be a constructor, and nothing static
is called `prototype`. -/
def Modifiers.allow (modifiers : Modifiers) (isMethod : Bool) (key : Node) : Bool :=
  match key.shape with
  | .text "constructor" =>
    modifiers.isStatic ||
      (isMethod && !modifiers.isAsync && !modifiers.isGenerator && !modifiers.isAccessor)
  | .text "prototype" => !modifiers.isStatic
  | .privateName name => name != "constructor"
  | _ => true

def classElement (grammar : Grammar) (setting : Setting) : Reading Node := do
  let start := (← current).start
  if ← eatSign ";" then return .absent
  let decorators ← decorators grammar setting
  if (← atKeyword "static") && (← upcoming).isSign "\x7b" then
    advance
    let body ← block grammar { Setting.body with awaits := true, returns := false } .block
    close .staticBlock start [body]
  else
    let modifiers ← modifiers
    let key ← elementKey grammar setting.enclosed
    let isMethod ← atSign "("
    if !modifiers.allow isMethod key then fail "a class element of that name cannot stand here"
    if isMethod then
      let inside ← functionRest grammar modifiers.isAsync modifiers.isGenerator
      close .method start (decorators ++ key :: inside)
    else
      if modifiers.isAsync || modifiers.isGenerator || modifiers.isAccessor then
        fail "expected parameters"
      let inner := { setting.enclosed with yields := false, awaits := false }
      let value ← if ← eatSign "=" then pure [← grammar (.assignment inner)] else pure []
      endStatement
      close .field start (decorators ++ key :: value)

def classDefinition (grammar : Grammar) (setting : Setting) (start : Nat) (decorators : List Node) :
    Reading Node := do
  expectKeyword "class"
  let name ← if (← current).plainName?.isSome then binding setting else pure .absent
  let heritage ←
    if ← eatKeyword "extends" then pure [← grammar (.operand setting true)] else pure []
  expectSign "\x7b"
  let elements ← repeatUntil (fun elements => do
    if ← eatSign "\x7d" then return (elements, true)
    else return (elements.push (← classElement grammar setting.enclosed), false)) #[]
  close .classDefinition start (name :: decorators ++ heritage ++ elements.toList)

end ModuleBundler.Script
