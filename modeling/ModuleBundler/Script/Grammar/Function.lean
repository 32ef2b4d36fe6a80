import ModuleBundler.Script.Grammar.Pattern

/-!
Functions in all their forms: declarations, expressions, methods and arrows.
-/

namespace ModuleBundler.Script

def block (grammar : Grammar) (setting : Setting) (position : Position) : Reading Node := do
  let start := (← current).start
  expectSign "\x7b"
  let statements ← repeatUntil (fun statements => do
    if ← eatSign "\x7d" then return (statements, true)
    else return (statements.push (← grammar (.statement setting position)), false)) #[]
  close .block start statements.toList

def functionRest (grammar : Grammar) (isAsync isGenerator : Bool) : Reading (List Node) := do
  let inner := Setting.function isAsync isGenerator
  let parameters ← parameters grammar inner
  let body ← block grammar inner .body
  return parameters ++ [body]

def methodRest (grammar : Grammar) (isAsync isGenerator : Bool) (start : Nat) (key : Node) :
    Reading Node := do
  let inside ← functionRest grammar isAsync isGenerator
  close .method start (key :: inside)

def atAsyncFunction : Reading Bool := do
  if ← atKeyword "async" then
    let next ← upcoming
    return next.isKeyword "function" && !next.opensLine
  else return false

/-- A function from its first keyword on. The name of a declaration belongs to the surroundings,
that of an expression to the function; `named` tells whether there has to be one. -/
def function (grammar : Grammar) (surroundings : Option Setting) (named : Bool) :
    Reading Node := do
  let start := (← current).start
  let isAsync ← eatKeyword "async"
  expectKeyword "function"
  let isGenerator ← eatSign "*"
  let nameSetting := surroundings.getD (Setting.function isAsync isGenerator)
  let name ←
    if (← atSign "(") && !named then pure .absent
    else binding nameSetting
  let inside ← functionRest grammar isAsync isGenerator
  close .function start (name :: inside)

def mayHoldParameters (opening : Token) : Reading Bool := do
  let first ← opening.next
  match first.lexeme with
  | .sign sign => return [")", "...", "[", "\x7b"].contains sign
  | .word _ _ =>
    if first.plainName?.isNone then return false
    else
      let second ← first.next
      return second.isSign "," || second.isSign "=" || second.isSign ")"
  | _ => return false

def expectArrow : Reading Unit := do
  if (← current).opensLine then fail "an arrow must follow its parameters on the same line"
  else expectSign "=>"

def arrowBody (grammar : Grammar) (setting : Setting) (isAsync : Bool) (start : Nat)
    (parameters : List Node) : Reading Node := do
  let inner := { setting with yields := false, awaits := isAsync, returns := true }
  let body ←
    if ← atSign "\x7b" then block grammar inner.enclosed .body
    else grammar (.assignment inner)
  close .arrow start (parameters ++ [body])

def arrowHead (grammar : Grammar) (setting : Setting) (isAsync : Bool) : Reading (List Node) := do
  let found ← parameters grammar { setting.enclosed with awaits := setting.awaits || isAsync }
  expectArrow
  return found

/-- An arrow with parameters in parentheses, or an asynchronous one, if one stands here. What looks
like parameters is an expression in parentheses where no arrow sign follows. -/
def arrow? (grammar : Grammar) (setting : Setting) : Reading (Option Node) := do
  let token ← current
  if token.isSign "(" then
    if !(← mayHoldParameters token) then return none
    match ← attempt (arrowHead grammar setting false) with
    | some parameters => return some (← arrowBody grammar setting false token.start parameters)
    | none => return none
  else if token.isKeyword "async" then
    let next ← token.next
    if next.opensLine then return none
    else if next.isSign "(" then
      if !(← mayHoldParameters next) then return none
      match ← attempt (do advance; arrowHead grammar setting true) with
      | some parameters => return some (← arrowBody grammar setting true token.start parameters)
      | none => return none
    else if next.plainName?.isNone then return none
    else if (← next.next).isSign "=>" then
      advance
      let parameter ← binding { setting with awaits := true }
      expectArrow
      return some (← arrowBody grammar setting true token.start [parameter])
    else return none
  else return none

end ModuleBundler.Script
