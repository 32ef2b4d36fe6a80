import ModuleBundler.Script.Grammar.Basic

/-!
Keys of properties, and the patterns that declarations and parameters bind names with.
-/

namespace ModuleBundler.Script

def Token.startsKey (token : Token) : Bool :=
  match token.lexeme with
  | .word _ _ | .privateName _ | .text _ | .number | .bigInteger => true
  | .sign text => text == "["
  | _ => false

def propertyKey (grammar : Grammar) (setting : Setting) : Reading Node := do
  let token ← current
  match token.lexeme with
  | .word name _ =>
    advance
    return .mk (.text name) token.span []
  | .text _ => textLiteral
  | .number | .bigInteger =>
    advance
    return .mk .literal token.span []
  | _ =>
    expectSign "["
    let key ← grammar (.assignment setting.enclosed)
    expectSign "]"
    close .parenthesized token.start [key]

def elementKey (grammar : Grammar) (setting : Setting) : Reading Node := do
  let token ← current
  match token.lexeme with
  | .privateName name =>
    advance
    return .mk (.privateName name) token.span []
  | _ => propertyKey grammar setting

def defaultable (grammar : Grammar) (setting : Setting) : Reading Node := do
  let start := (← current).start
  let pattern ← grammar (.pattern setting)
  if ← eatSign "=" then
    let value ← grammar (.assignment setting.enclosed)
    close .defaulted start [pattern, value]
  else return pattern

def restPattern (grammar : Grammar) (setting : Setting) (closing : String) : Reading Node := do
  let start := (← current).start
  expectSign "..."
  let pattern ← grammar (.pattern setting)
  if ← atSign closing then close .rest start [pattern]
  else fail "nothing may follow the rest of a list"

def patternProperty (grammar : Grammar) (setting : Setting) : Reading Node := do
  let token ← current
  if token.isSign "..." then
    let rest ← restPattern grammar setting "\x7d"
    match rest.parts with
    | [.mk (.binding _) _ _] => return rest
    | _ => fail "the rest of an object must be a name"
  else if token.plainName?.isSome && !(← upcoming).isSign ":" then
    let name ← binding setting
    if ← eatSign "=" then
      let value ← grammar (.assignment setting.enclosed)
      let defaulted ← close .defaulted token.start [name, value]
      close .patternProperty token.start [defaulted]
    else return .mk .patternProperty token.span [name]
  else
    let key ← propertyKey grammar setting
    expectSign ":"
    let value ← defaultable grammar setting
    close .patternProperty token.start [key, value]

def patternElement (grammar : Grammar) (setting : Setting) : Reading Node := do
  if ← atSign "," then return .absent
  else if ← atSign "..." then restPattern grammar setting "]"
  else defaultable grammar setting

def pattern (grammar : Grammar) (setting : Setting) : Reading Node := do
  let start := (← current).start
  if ← eatSign "[" then
    let (elements, _) ← commaSeparated "]" (patternElement grammar setting)
    close .arrayPattern start elements
  else if ← eatSign "\x7b" then
    let (properties, _) ← commaSeparated "\x7d" (patternProperty grammar setting)
    close .objectPattern start properties
  else binding setting

def parameters (grammar : Grammar) (setting : Setting) : Reading (List Node) := do
  expectSign "("
  let (found, _) ← commaSeparated ")" (do
    if ← atSign "..." then restPattern grammar setting ")"
    else defaultable grammar setting)
  return found

end ModuleBundler.Script
