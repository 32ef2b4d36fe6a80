import ModuleBundler.Script.Grammar.Expression

/-!
Statements and declarations. Where a semicolon may be left out is decided by `endStatement`.
-/

namespace ModuleBundler.Script

inductive Introduction where
  | variable
  | lexical
  | constant
  | resource
  deriving DecidableEq, Repr

/-- Whether a declared pattern needs a value: a constant does, a resource does, and so does
everything that is taken apart. -/
def needsValue (introduction : Introduction) (pattern : Node) : Bool :=
  match introduction, pattern.shape with
  | .constant, _ | .resource, _ => true
  | _, .binding _ => false
  | _, _ => true

def declarator (grammar : Grammar) (setting : Setting) (introduction : Introduction)
    (inLoopHead : Bool) : Reading Node := do
  let start := (← current).start
  let pattern ←
    if introduction = .resource then binding setting else grammar (.pattern setting)
  if ← eatSign "=" then
    let value ← grammar (.assignment setting)
    close .declarator start [pattern, value]
  else if needsValue introduction pattern && !inLoopHead then fail "expected a value"
  else close .declarator start [pattern]

def declaration (grammar : Grammar) (setting : Setting) (introduction : Introduction)
    (inLoopHead : Bool) : Reading Node := do
  let start := (← current).start
  let declarators ← repeatUntil (fun declarators => do
    let declarators := declarators.push (← declarator grammar setting introduction inLoopHead)
    return (declarators, !(← eatSign ","))) #[]
  close .declaration start declarators.toList

def variableStatement (grammar : Grammar) (setting : Setting) (introduction : Introduction) :
    Reading Node := do
  advance
  let node ← declaration grammar setting introduction false
  endStatement
  return node

def atResource : Reading Bool := do
  if ← atKeyword "using" then
    let next ← upcoming
    return next.plainName?.isSome && !next.opensLine
  else return false

def expressionStatement (grammar : Grammar) (setting : Setting) (position : Position) :
    Reading Node := do
  let start := (← current).start
  let node ← grammar (.expression setting)
  match node.shape, ← atSign ":" with
  | .identifier _, true =>
    advance
    let labelled ← grammar (.statement setting (if position = .body then .block else position))
    close .labelled start [labelled]
  | _, _ =>
    endStatement
    close .expression start [node]

def letStatement (grammar : Grammar) (setting : Setting) (position : Position) : Reading Node := do
  let start := (← current).start
  let next ← upcoming
  if next.isBinary { setting with inOperator := true } || next.isOneOf ("=" :: updatingAssignments)
  then
    let node ← grammar (.assignment setting)
    endStatement
    close .expression start [node]
  else if next.isSign "." || next.isSign "(" then
    let node ← grammar (.expression setting)
    close .expression start [node]
  else if (position = .alone && !next.isSign "[") || next.isSign ";" then
    let node ← identifier setting
    endStatement
    close .expression start [node]
  else variableStatement grammar setting .lexical

def counterLoop (grammar : Grammar) (setting : Setting) (start : Nat) (first : List Node) :
    Reading Node := do
  expectSign ";"
  let condition ← if ← atSign ";" then pure [] else pure [← grammar (.expression setting)]
  expectSign ";"
  let step ← if ← atSign ")" then pure [] else pure [← grammar (.expression setting)]
  expectSign ")"
  let body ← grammar (.statement setting .alone)
  close .loop start (first ++ condition ++ step ++ [body])

def elementLoop (grammar : Grammar) (setting : Setting) (start : Nat) (first : Node) :
    Reading Node := do
  let subject ←
    if ← eatKeyword "in" then grammar (.expression setting)
    else do
      expectKeyword "of"
      grammar (.assignment setting)
  expectSign ")"
  let body ← grammar (.statement setting .alone)
  close .loop start [first, subject, body]

/-- The word in the head of a loop that introduces variables, if one does. `let` may also be a
name there. -/
def loopIntroduction? (setting : Setting) : Reading (Option Introduction) := do
  let token ← current
  if token.isKeyword "var" then return some .variable
  else if token.isKeyword "const" then return some .constant
  else if token.isKeyword "let" then
    let next ← token.next
    let declares := next.isSign "[" || next.isSign "\x7b" || (next.isWord && !next.isKeyword "in")
    return if declares then some .lexical else none
  else if ← atResource then
    let next ← token.next
    return if next.isKeyword "of" then none else some .resource
  else if setting.awaits && token.isKeyword "await" then
    let next ← token.next
    return if next.isKeyword "using" && !next.opensLine then some .resource else none
  else return none

def atMisleadingName (awaits : Bool) : Reading Bool := do
  if (← atKeyword "let") || (!awaits && (← atKeyword "async")) then
    return (← upcoming).isKeyword "of"
  else return false

/-- The rest of a loop whose head starts with something that was read. `awaits` tells whether the
loop waits for its elements, which only a loop over elements can. -/
def loopRest (grammar : Grammar) (setting : Setting) (start : Nat) (awaits : Bool) (first : Node)
    (asTarget : Node → Option Node) : Reading Node := do
  if (← atKeyword "of") || (!awaits && (← atKeyword "in")) then
    match asTarget first with
    | some target => elementLoop grammar setting start target
    | none => fail "expected a place to assign to"
  else if awaits then fail "expected elements to wait for"
  else counterLoop grammar setting start [first]

def forStatement (grammar : Grammar) (setting : Setting) : Reading Node := do
  let start := (← current).start
  expectKeyword "for"
  let awaits ← if setting.awaits then eatKeyword "await" else pure false
  expectSign "("
  let head := { setting with inOperator := false }
  match ← loopIntroduction? setting with
  | some introduction =>
    let _ ← eatKeyword "await"
    advance
    let declared ← declaration grammar head introduction true
    loopRest grammar setting start awaits declared some
  | none =>
    if !awaits && (← atSign ";") then counterLoop grammar setting start []
    else
      let misleads ← atMisleadingName awaits
      let first ← grammar (.expression head)
      if misleads && (← atKeyword "of") then fail "the name would read as a keyword"
      loopRest grammar setting start awaits first Node.target?

def whileStatement (grammar : Grammar) (setting : Setting) : Reading Node := do
  let start := (← current).start
  expectKeyword "while"
  let condition ← parenthesized grammar setting
  let body ← grammar (.statement setting .alone)
  close .loop start [condition, body]

def doStatement (grammar : Grammar) (setting : Setting) : Reading Node := do
  let start := (← current).start
  expectKeyword "do"
  let body ← grammar (.statement setting .alone)
  expectKeyword "while"
  let condition ← parenthesized grammar setting
  let _ ← eatSign ";"
  close .loop start [body, condition]

def ifStatement (grammar : Grammar) (setting : Setting) : Reading Node := do
  let start := (← current).start
  expectKeyword "if"
  let condition ← parenthesized grammar setting
  let positive ← grammar (.statement setting .alone)
  let negative ←
    if ← eatKeyword "else" then pure [← grammar (.statement setting .alone)] else pure []
  close .branch start (condition :: positive :: negative)

def jumpStatement : Reading Node := do
  let start := (← current).start
  advance
  if !(← mayEndStatement) then
    match (← current).plainName? with
    | some _ => advance
    | none => fail "expected a label"
  endStatement
  close .jump start []

def returnStatement (grammar : Grammar) (setting : Setting) : Reading Node := do
  let start := (← current).start
  if !setting.returns then fail "nothing can be returned here"
  advance
  let value ← if ← mayEndStatement then pure [] else pure [← grammar (.expression setting)]
  endStatement
  close .jump start value

def throwStatement (grammar : Grammar) (setting : Setting) : Reading Node := do
  let start := (← current).start
  advance
  if (← current).opensLine then fail "expected what is thrown"
  let value ← grammar (.expression setting)
  endStatement
  close .throwing start [value]

def withStatement (grammar : Grammar) (setting : Setting) : Reading Node := do
  let start := (← current).start
  advance
  let subject ← parenthesized grammar setting
  let body ← grammar (.statement setting .alone)
  close .withScope start [subject, body]

def alternative (grammar : Grammar) (setting : Setting) : Reading Node := do
  let start := (← current).start
  let test ←
    if ← eatKeyword "case" then pure [← grammar (.expression setting)]
    else do
      expectKeyword "default"
      pure []
  expectSign ":"
  let statements ← repeatUntil (fun statements => do
    if (← atSign "\x7d") || (← atKeyword "case") || (← atKeyword "default") then
      return (statements, true)
    else return (statements.push (← grammar (.statement setting .block)), false)) #[]
  close .alternative start (test ++ statements.toList)

def switchStatement (grammar : Grammar) (setting : Setting) : Reading Node := do
  let start := (← current).start
  advance
  let subject ← parenthesized grammar setting
  expectSign "\x7b"
  let alternatives ← repeatUntil (fun alternatives => do
    if ← eatSign "\x7d" then return (alternatives, true)
    else return (alternatives.push (← alternative grammar setting), false)) #[]
  close .choice start (subject :: alternatives.toList)

def handler (grammar : Grammar) (setting : Setting) : Reading Node := do
  let start := (← current).start
  let pattern ←
    if ← eatSign "(" then do
      let pattern ← grammar (.pattern setting)
      expectSign ")"
      pure [pattern]
    else pure []
  let body ← block grammar setting .block
  close .handler start (pattern ++ [body])

def tryStatement (grammar : Grammar) (setting : Setting) : Reading Node := do
  let start := (← current).start
  advance
  let body ← block grammar setting .block
  let caught ← if ← eatKeyword "catch" then pure [← handler grammar setting] else pure []
  let finally? ← if ← eatKeyword "finally" then pure [← block grammar setting .block] else pure []
  if caught.isEmpty && finally?.isEmpty then fail "expected a handler"
  close .attempt start (body :: caught ++ finally?)

def functionStatement (grammar : Grammar) (setting : Setting) (position : Position) :
    Reading Node := do
  if position = .alone && ((← atKeyword "async") || (← upcoming).isSign "*") then
    fail "expected a statement"
  function grammar (some setting) true

def listed (position : Position) (reading : Reading Node) : Reading Node := do
  if position = .alone then fail "a declaration cannot stand alone" else reading

def wordStatement (grammar : Grammar) (setting : Setting) (position : Position) (word : String) :
    Reading Node := do
  match word with
  | "var" => variableStatement grammar setting .variable
  | "const" => listed position (variableStatement grammar setting .constant)
  | "let" => letStatement grammar setting position
  | "function" => functionStatement grammar setting position
  | "class" => listed position (do classDefinition grammar setting (← current).start [])
  | "if" => ifStatement grammar setting
  | "for" => forStatement grammar setting
  | "while" => whileStatement grammar setting
  | "do" => doStatement grammar setting
  | "break" | "continue" => jumpStatement
  | "return" => returnStatement grammar setting
  | "throw" => throwStatement grammar setting
  | "with" => withStatement grammar setting
  | "switch" => switchStatement grammar setting
  | "try" => tryStatement grammar setting
  | "debugger" =>
    advance
    endStatement
    return .absent
  | _ =>
    if ← atAsyncFunction then functionStatement grammar setting position
    else if ← atResource then listed position (variableStatement grammar setting .resource)
    else expressionStatement grammar setting position

def plainStatement (grammar : Grammar) (setting : Setting) (position : Position) :
    Reading Node := do
  let token ← current
  match token.lexeme with
  | .sign "\x7b" => block grammar setting .block
  | .sign ";" => leaf .absent
  | .sign "@" =>
    let decorators ← decorators grammar setting
    let decorated ← grammar (.statement setting position)
    close .block token.start (decorators ++ [decorated])
  | .word name false => wordStatement grammar setting position name
  | _ => expressionStatement grammar setting position

end ModuleBundler.Script
