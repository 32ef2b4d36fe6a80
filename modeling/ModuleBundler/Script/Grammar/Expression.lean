import ModuleBundler.Script.Grammar.Class

/-!
Expressions. Operators are not grouped by their precedence: a chain of operands keeps them in the
order of the text, which is all that a walk over the tree looks at.
-/

namespace ModuleBundler.Script

def spreadable (grammar : Grammar) (setting : Setting) : Reading Node := do
  let start := (← current).start
  if ← eatSign "..." then
    let inner ← grammar (.assignment setting.enclosed)
    close .spread start [inner]
  else grammar (.assignment setting.enclosed)

def arguments (grammar : Grammar) (setting : Setting) : Reading (List Node) := do
  expectSign "("
  let (found, _) ← commaSeparated ")" (spreadable grammar setting)
  return found

def arrayDisplay (grammar : Grammar) (setting : Setting) : Reading Node := do
  let start := (← current).start
  expectSign "["
  let (elements, trailing) ← commaSeparated "]" (do
    if ← atSign "," then return .absent else spreadable grammar setting)
  close (.array trailing) start elements

def atShorthand : Reading Bool := do
  if (← current).plainName?.isNone then return false
  else
    let next ← upcoming
    return next.isSign "," || next.isSign "\x7d" || next.isSign "="

def objectProperty (grammar : Grammar) (setting : Setting) : Reading Node := do
  let start := (← current).start
  let keyOrStar (token : Token) : Bool := token.startsKey || token.isSign "*"
  if ← atSign "..." then spreadable grammar setting
  else if ← eatModifier "get" false Token.startsKey then
    methodRest grammar false false start (← propertyKey grammar setting)
  else if ← eatModifier "set" false Token.startsKey then
    methodRest grammar false false start (← propertyKey grammar setting)
  else if ← eatModifier "async" true keyOrStar then
    let isGenerator ← eatSign "*"
    methodRest grammar true isGenerator start (← propertyKey grammar setting)
  else if ← eatSign "*" then methodRest grammar false true start (← propertyKey grammar setting)
  else if ← atShorthand then
    let name ← identifier setting
    if ← eatSign "=" then
      let value ← grammar (.assignment setting.enclosed)
      close .shorthandDefault start [name, value]
    else close .shorthand start [name]
  else
    let key ← propertyKey grammar setting
    if ← atSign "(" then methodRest grammar false false start key
    else
      expectSign ":"
      let value ← grammar (.assignment setting.enclosed)
      close .property start [key, value]

def objectDisplay (grammar : Grammar) (setting : Setting) : Reading Node := do
  let start := (← current).start
  expectSign "\x7b"
  let (properties, trailing) ← commaSeparated "\x7d" (objectProperty grammar setting)
  close (.object trailing) start properties

/-- Reads a stretch of a template and tells whether it was the last one. Only a tag may see a
stretch whose escapes stand for nothing. -/
def templateStretch (tagged : Bool) : Reading Bool := do
  match (← current).lexeme with
  | .template closes sound =>
    if !sound && !tagged then fail "invalid escape in a template"
    advance
    return closes
  | _ => fail "expected a template"

/-- The expressions of a template. What stands between two of its stretches is read as expressions
until a closing brace comes. -/
def templateExpressions (grammar : Grammar) (setting : Setting) (tagged : Bool) :
    Reading (List Node) := do
  if ← templateStretch tagged then return []
  let found ← repeatUntil (fun found => do
    let found := found.push (← grammar (.expression setting.enclosed))
    if ← atSign "\x7d" then
      reread (← current).asTemplate
      return (found, ← templateStretch tagged)
    else return (found, false)) #[]
  return found.toList

def importExpression (grammar : Grammar) (setting : Setting) (calls : Bool) : Reading Node := do
  let start := (← current).start
  expectKeyword "import"
  let phase ← eatSign "."
  if phase && (← atKeyword "meta") then
    advance
    close .metaProperty start []
  else
    if phase then
      if !(← eatKeyword "source") then expectKeyword "defer"
    if !calls then fail "an import call cannot be constructed"
    expectSign "("
    let source ← grammar (.assignment setting.enclosed)
    let options ←
      if (← eatSign ",") && !(← atSign ")") then
        let options ← grammar (.assignment setting.enclosed)
        let _ ← eatSign ","
        pure [options]
      else pure []
    expectSign ")"
    close .importCall start (source :: options)

def construction (grammar : Grammar) (setting : Setting) : Reading Node := do
  let start := (← current).start
  expectKeyword "new"
  if ← eatSign "." then
    expectKeyword "target"
    close .metaProperty start []
  else
    let callee ← grammar (.operand setting false)
    let arguments ← if ← atSign "(" then arguments grammar setting else pure []
    close .construct start (callee :: arguments)

def parenthesized (grammar : Grammar) (setting : Setting) : Reading Node := do
  let start := (← current).start
  expectSign "("
  let inner ← grammar (.expression setting.enclosed)
  expectSign ")"
  close .parenthesized start [inner]

def leaf (shape : Shape) : Reading Node := do
  let token ← current
  advance
  return .mk shape token.span []

def wordExpression (grammar : Grammar) (setting : Setting) (calls : Bool) (word : String) :
    Reading Node := do
  match word with
  | "this" => leaf .this
  | "null" | "true" | "false" => leaf .literal
  | "function" => function grammar none false
  | "class" => classDefinition grammar setting (← current).start []
  | "new" => construction grammar setting
  | "import" => importExpression grammar setting calls
  | "super" =>
    let node ← leaf .superclass
    if (← atSign ".") || (← atSign "[") || (← atSign "(") then return node
    else fail "nothing but a member or a call can be asked of a superclass"
  | _ =>
    if ← atAsyncFunction then function grammar none false
    else identifier setting

def primary (grammar : Grammar) (setting : Setting) (calls : Bool) : Reading Node := do
  let token ← current
  match token.lexeme with
  | .word name false => wordExpression grammar setting calls name
  | .word _ true => identifier setting
  | .text _ => textLiteral
  | .number | .bigInteger => leaf .literal
  | .template _ _ =>
    let expressions ← templateExpressions grammar setting false
    close .template token.start expressions
  | .sign sign =>
    match sign with
    | "(" => parenthesized grammar setting
    | "[" => arrayDisplay grammar setting
    | "\x7b" => objectDisplay grammar setting
    | "/" | "/=" =>
      reread token.asRegex
      leaf .literal
    | "@" =>
      let decorators ← decorators grammar setting
      classDefinition grammar setting token.start decorators
    | _ => fail "expected an expression"
  | _ => fail "expected an expression"

def memberName : Reading Node := do
  match (← current).lexeme with
  | .word name _ => leaf (.text name)
  | .privateName name => leaf (.privateName name)
  | _ => fail "expected the name of a member"

structure Linked where
  node : Node
  optional : Bool
  deriving Repr

def link (grammar : Grammar) (setting : Setting) (calls : Bool) (start : Nat) (linked : Linked) :
    Reading (Linked × Bool) := do
  let call (optional : Bool) : Reading (Linked × Bool) := do
    let arguments ← arguments grammar setting
    return (⟨← close .call start (linked.node :: arguments), optional⟩, false)
  let named (optional : Bool) : Reading (Linked × Bool) := do
    let name ← memberName
    return (⟨← close .member start [linked.node, name], optional⟩, false)
  let indexed (optional : Bool) : Reading (Linked × Bool) := do
    expectSign "["
    let index ← grammar (.expression setting.enclosed)
    expectSign "]"
    return (⟨← close .member start [linked.node, index], optional⟩, false)
  match (← current).lexeme with
  | .sign "." =>
    advance
    named linked.optional
  | .sign "?." =>
    if !calls then fail "an optional chain cannot be constructed"
    advance
    if ← atSign "(" then call true
    else if (← atSign "[") && !setting.decorating then indexed true
    else named true
  | .sign "[" => if setting.decorating then return (linked, true) else indexed linked.optional
  | .sign "(" => if calls then call linked.optional else return (linked, true)
  | .template _ _ =>
    if linked.optional then fail "an optional chain cannot be a tag"
    let expressions ← templateExpressions grammar setting true
    return (⟨← close .taggedTemplate start (linked.node :: expressions), false⟩, false)
  | _ => return (linked, true)

def operand (grammar : Grammar) (setting : Setting) (calls : Bool) : Reading Node := do
  let start := (← current).start
  let first ← primary grammar setting calls
  let linked ← repeatUntil (link grammar setting calls start) ⟨first, false⟩
  if linked.optional then close .chain start [linked.node] else return linked.node

def Token.isOneOf (token : Token) (signs : List String) : Bool :=
  match token.lexeme with
  | .sign sign => signs.contains sign
  | _ => false

def unary (grammar : Grammar) (setting : Setting) : Reading Node := do
  let token ← current
  if token.isOneOf ["+", "-", "~", "!"] || token.isKeyword "delete" || token.isKeyword "void" ||
      token.isKeyword "typeof" then
    advance
    let inner ← grammar (.unary setting)
    close .unary token.start [inner]
  else if token.isOneOf ["++", "--"] then
    advance
    let target ← grammar (.unary setting)
    if !target.isSimpleTarget then fail "expected a place to assign to"
    close .update token.start [target]
  else if setting.awaits && token.isKeyword "await" then
    advance
    let inner ← grammar (.unary setting)
    close .awaiting token.start [inner]
  else
    let node ← grammar (.operand setting true)
    let behind ← current
    if behind.isOneOf ["++", "--"] && !behind.opensLine then
      if !node.isSimpleTarget then fail "expected a place to assign to"
      advance
      close .update token.start [node]
    else return node

def Token.isBinary (token : Token) (setting : Setting) : Bool :=
  token.isOneOf ["+", "-", "*", "/", "%", "**", "<<", ">>", ">>>", "<", ">", "<=", ">=", "==", "!=",
    "===", "!==", "&", "|", "^", "&&", "||", "??"] || token.isKeyword "instanceof" ||
    (setting.inOperator && token.isKeyword "in")

def term (grammar : Grammar) (setting : Setting) : Reading Node := do
  match (← current).lexeme with
  | .privateName name =>
    let node ← leaf (.privateName name)
    if setting.inOperator && (← atKeyword "in") then return node
    else fail "a private name can only be looked for in an object"
  | _ => grammar (.unary setting)

def operation (grammar : Grammar) (setting : Setting) : Reading Node := do
  let start := (← current).start
  let terms ← repeatUntil (fun terms => do
    let terms := terms.push (← term grammar setting)
    if (← current).isBinary setting then
      advance
      return (terms, false)
    else return (terms, true)) #[]
  match terms.toList with
  | [node] => return node
  | nodes => close .binary start nodes

def yielding (grammar : Grammar) (setting : Setting) : Reading Node := do
  let start := (← current).start
  advance
  let token ← current
  if token.opensLine then close .yielding start []
  else
    let delegates ← eatSign "*"
    let token ← current
    let ends := token.isOneOf [";", "\x7d", ")", "]", ":", ","] || token.isKeyword "in" ||
      token.lexeme == .endOfText
    if ends && !delegates then close .yielding start []
    else
      let value ← grammar (.assignment setting)
      close .yielding start [value]

def updatingAssignments : List String :=
  ["+=", "-=", "*=", "/=", "%=", "**=", "<<=", ">>=", ">>>=", "&=", "|=", "^=", "&&=", "||=", "??="]

def assignmentRest (grammar : Grammar) (setting : Setting) (start : Nat) (first : Node) :
    Reading Node := do
  let token ← current
  match first.shape, token.lexeme with
  | .identifier name, .sign "=>" =>
    expectArrow
    arrowBody grammar setting false start [.mk (.binding name) first.span []]
  | _, .sign "=" =>
    match first.target? with
    | none => fail "expected a place to assign to"
    | some target =>
      advance
      let value ← grammar (.assignment setting)
      close (.assignment true) start [target, value]
  | _, .sign "?" =>
    advance
    let positive ← grammar (.assignment setting.enclosed)
    expectSign ":"
    let negative ← grammar (.assignment setting)
    close .conditional start [first, positive, negative]
  | _, _ =>
    if token.isOneOf updatingAssignments then
      if !first.isSimpleTarget then fail "expected a place to assign to"
      advance
      let value ← grammar (.assignment setting)
      close (.assignment false) start [first, value]
    else return first

def assignment (grammar : Grammar) (setting : Setting) : Reading Node := do
  let token ← current
  if setting.yields && token.isKeyword "yield" then yielding grammar setting
  else
    match ← arrow? grammar setting with
    | some node => return node
    | none => assignmentRest grammar setting token.start (← operation grammar setting)

def expression (grammar : Grammar) (setting : Setting) : Reading Node := do
  let start := (← current).start
  let parts ← repeatUntil (fun parts => do
    let parts := parts.push (← grammar (.assignment setting))
    return (parts, !(← eatSign ","))) #[]
  match parts.toList with
  | [node] => return node
  | nodes => close .sequence start nodes

end ModuleBundler.Script
