import ModuleBundler.Script.Grammar.Statement

/-!
Declarations of what a module imports and exports.
-/

namespace ModuleBundler.Script

def moduleName : Reading String := do
  let token ← current
  match token.lexeme with
  | .word name _ | .text name =>
    advance
    return name
  | _ => fail "expected a name"

def importAttribute : Reading Node := do
  let _ ← moduleName
  expectSign ":"
  textLiteral

def importAttributes : Reading Unit := do
  let token ← current
  if token.isKeyword "with" || (token.isKeyword "assert" && !token.opensLine) then
    advance
    expectSign "\x7b"
    let _ ← commaSeparated "\x7d" importAttribute

def importSource : Reading Node := do
  expectKeyword "from"
  let source ← textLiteral
  importAttributes
  endStatement
  return source

def importSpecifier (setting : Setting) : Reading Node := do
  if (← upcoming).isKeyword "as" then
    let _ ← moduleName
    expectKeyword "as"
    binding setting
  else binding setting

def importedNames (setting : Setting) : Reading (List Node) := do
  if ← eatSign "*" then
    expectKeyword "as"
    return [← binding setting]
  else
    expectSign "\x7b"
    let (specifiers, _) ← commaSeparated "\x7d" (importSpecifier setting)
    return specifiers

def importDeclaration (setting : Setting) : Reading Node := do
  let start := (← current).start
  expectKeyword "import"
  match (← current).lexeme with
  | .text _ =>
    let source ← textLiteral
    importAttributes
    endStatement
    close .importDeclaration start [source]
  | .word _ _ =>
    let next ← upcoming
    if ((← atKeyword "source") || (← atKeyword "defer")) && !next.isKeyword "from" &&
        !next.isSign "," then
      advance
    let bound ←
      if ← atSign "*" then importedNames setting
      else do
        let first ← binding setting
        if ← eatSign "," then pure (first :: (← importedNames setting)) else pure [first]
    let source ← importSource
    close .importDeclaration start (bound ++ [source])
  | _ =>
    let bound ← importedNames setting
    let source ← importSource
    close .importDeclaration start (bound ++ [source])

/-- An exported name as it was written: whether it is a string or a word that names nothing, which
only something exported from elsewhere may be called. -/
structure ExportSpecifier where
  node : Node
  foreign : Bool
  deriving Repr

def exportSpecifier : Reading ExportSpecifier := do
  let token ← current
  let name ← moduleName
  let exported ← if ← eatKeyword "as" then moduleName else pure name
  return ⟨← close (.exportSpecifier exported) token.start [], token.plainName?.isNone⟩

def exportSpecifiers : Reading (List ExportSpecifier) := do
  expectSign "\x7b"
  repeatUntil (fun (specifiers : List ExportSpecifier) => do
    if ← eatSign "\x7d" then return (specifiers, true)
    else
      let specifiers := specifiers ++ [← exportSpecifier]
      if ← eatSign "," then return (specifiers, false)
      else
        expectSign "\x7d"
        return (specifiers, true)) []

def exportDefault (grammar : Grammar) (setting : Setting) (start : Nat)
    (decorators : List Node) : Reading Node := do
  expectKeyword "default"
  let isFunction := (← atKeyword "function") || (← atAsyncFunction)
  let exported ←
    if isFunction then function grammar (some setting) false
    else if (← atKeyword "class") || (← atSign "@") then do
      let classStart := (← current).start
      let own ← Script.decorators grammar setting
      classDefinition grammar setting classStart own
    else do
      let node ← grammar (.assignment setting)
      endStatement
      pure node
  close .exportDefault start (decorators ++ [exported])

def exportDeclaration (grammar : Grammar) (setting : Setting) : Reading Node := do
  let start := (← current).start
  expectKeyword "export"
  let decorators ← decorators grammar setting
  let token ← current
  match token.lexeme with
  | .sign "\x7b" =>
    let specifiers ← exportSpecifiers
    let nodes := specifiers.map ExportSpecifier.node
    if ← atKeyword "from" then
      let source ← importSource
      close .exportDeclaration start (nodes ++ [source])
    else
      if specifiers.any ExportSpecifier.foreign then fail "expected a declared name"
      endStatement
      close .exportDeclaration start nodes
  | .sign "*" =>
    advance
    let nodes ←
      if ← eatKeyword "as" then do
        let nameStart := (← current).start
        let name ← moduleName
        pure [← close (.exportSpecifier name) nameStart []]
      else pure []
    let source ← importSource
    close .exportDeclaration start (nodes ++ [source])
  | .word "default" false => exportDefault grammar setting start decorators
  | .word word false =>
    let isAsync ← atAsyncFunction
    if ["var", "let", "const", "function", "class"].contains word || isAsync then
      let declared ← wordStatement grammar setting .body word
      close .exportDeclaration start (decorators ++ [declared])
    else fail "expected a declaration"
  | _ => fail "expected a declaration"

/-- Any statement. A module may declare its imports and exports only directly in a program or in the
body of a function. -/
def statement (grammar : Grammar) (setting : Setting) (position : Position) : Reading Node := do
  let token ← current
  if position = .body && token.isKeyword "import" then
    let next ← token.next
    if next.isSign "." || next.isSign "(" then plainStatement grammar setting position
    else importDeclaration setting
  else if position = .body && token.isKeyword "export" then exportDeclaration grammar setting
  else plainStatement grammar setting position

end ModuleBundler.Script
