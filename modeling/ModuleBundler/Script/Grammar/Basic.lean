import ModuleBundler.Script.Tree

/-!
Reading a script from its tokens. A `Reading` walks a cursor over the text and fails at the first
token the grammar does not allow. The productions of the grammar are ordinary functions that are
handed the grammar itself for the phrases inside theirs, so none of them is recursive; the knot is
tied once, in `ModuleBundler.Script.Program`, where each level of nesting uses up one unit of a
budget that no text can exhaust.
-/

namespace ModuleBundler.Script

structure Cursor where
  token : Token
  lastStop : Nat
  size : Nat
  deriving Repr, Inhabited

abbrev Reading := StateT Cursor (Except Fault)

/-- What the surroundings of a phrase decide about it. -/
structure Setting where
  /-- Whether `in` is an operator; it is not in the head of a `for`. -/
  inOperator : Bool
  /-- Whether `yield` is an operator, as in a generator. -/
  yields : Bool
  /-- Whether `await` is an operator, as in an asynchronous function. -/
  awaits : Bool
  /-- Whether a `return` may stand here. -/
  returns : Bool
  /-- Whether an expression is a decorator, where a bracket opens the next class element. -/
  decorating : Bool
  deriving DecidableEq, Repr, Inhabited

def Setting.body : Setting :=
  { inOperator := true, yields := false, awaits := false, returns := true, decorating := false }

def Setting.enclosed (setting : Setting) : Setting :=
  { setting with inOperator := true, decorating := false }

def Setting.function (isAsync isGenerator : Bool) : Setting :=
  { Setting.body with yields := isGenerator, awaits := isAsync }

inductive Position where
  /-- Directly in a program or in the body of a function, where a module may declare its imports. -/
  | body
  /-- In a block. -/
  | block
  /-- Alone, as the body of a loop is; nothing but a function may be declared there. -/
  | alone
  deriving DecidableEq, Repr

/-- The phrases that contain each other. -/
inductive Goal where
  | expression (setting : Setting)
  | assignment (setting : Setting)
  | unary (setting : Setting)
  /-- A primary expression with the members, and where `calls` the calls, behind it. -/
  | operand (setting : Setting) (calls : Bool)
  | pattern (setting : Setting)
  | statement (setting : Setting) (position : Position)
  deriving DecidableEq, Repr

abbrev Grammar := Goal → Reading Node

def current : Reading Token := do
  return (← get).token

def fail (reason : String) : Reading α := do
  throw ⟨(← current).start, reason⟩

def upcoming : Reading Token := do
  (← current).next

def advance : Reading Unit := do
  let cursor ← get
  set { cursor with token := ← cursor.token.next, lastStop := cursor.token.stop }

def reread (token : Except Fault Token) : Reading Unit := do
  let token ← token
  modify fun cursor => { cursor with token }

def spanFrom (start : Nat) : Reading Span := do
  return ⟨start, (← get).lastStop⟩

def close (shape : Shape) (start : Nat) (parts : List Node) : Reading Node := do
  return .mk shape (← spanFrom start) parts

def attempt (reading : Reading α) : Reading (Option α) := fun cursor =>
  match reading cursor with
  | .ok (found, after) => .ok (some found, after)
  | .error _ => .ok (none, cursor)

def repeatFor (step : α → Reading (α × Bool)) : Nat → α → Reading α
  | 0, _ => fail "too many phrases"
  | budget + 1, state => do
    let (state, done) ← step state
    if done then return state else repeatFor step budget state

def repeatUntil (step : α → Reading (α × Bool)) (state : α) : Reading α := do
  repeatFor step ((← get).size + 1) state

def Token.isSign (token : Token) (sign : String) : Bool :=
  match token.lexeme with
  | .sign text => text == sign
  | _ => false

def Token.isKeyword (token : Token) (name : String) : Bool :=
  match token.lexeme with
  | .word text false => text == name
  | _ => false

def Token.isWord (token : Token) : Bool :=
  match token.lexeme with
  | .word _ _ => true
  | _ => false

def atSign (sign : String) : Reading Bool := do
  return (← current).isSign sign

def atKeyword (name : String) : Reading Bool := do
  return (← current).isKeyword name

def eatSign (sign : String) : Reading Bool := do
  if ← atSign sign then advance; return true else return false

def eatKeyword (name : String) : Reading Bool := do
  if ← atKeyword name then advance; return true else return false

def expectSign (sign : String) : Reading Unit := do
  if !(← eatSign sign) then fail ("expected " ++ sign)

def expectKeyword (name : String) : Reading Unit := do
  if !(← eatKeyword name) then fail ("expected " ++ name)

/-- The words that name nothing. `yield` and `await` are not among them: they do outside of
generators and asynchronous functions. -/
def reservedWords : List String :=
  ["break", "case", "catch", "class", "const", "continue", "debugger", "default", "delete", "do",
   "else", "enum", "export", "extends", "false", "finally", "for", "function", "if", "import", "in",
   "instanceof", "new", "null", "return", "super", "switch", "this", "throw", "true", "try", "typeof",
   "var", "void", "while", "with"]

def Token.plainName? (token : Token) : Option String :=
  match token.lexeme with
  | .word name _ => if reservedWords.contains name then none else some name
  | _ => none

def Setting.admits (setting : Setting) (name : String) : Bool :=
  !(setting.yields && name == "yield") && !(setting.awaits && name == "await")

def readName (shape : String → Shape) (setting : Setting) : Reading Node := do
  let token ← current
  match token.plainName? with
  | some name =>
    if setting.admits name then
      advance
      return .mk (shape name) token.span []
    else fail (name ++ " cannot be a name here")
  | none => fail "expected a name"

def identifier : Setting → Reading Node :=
  readName .identifier

def binding : Setting → Reading Node :=
  readName .binding

def textLiteral : Reading Node := do
  let token ← current
  match token.lexeme with
  | .text value =>
    advance
    return .mk (.text value) token.span []
  | _ => fail "expected a string"

/-- Ends a statement: by a semicolon, or without one before a closing brace, at the end of a line
and at the end of the text. -/
def endStatement : Reading Unit := do
  let token ← current
  if token.isSign ";" then advance
  else if token.isSign "\x7d" || token.lexeme == .endOfText || token.opensLine then return ()
  else fail "expected a semicolon"

def mayEndStatement : Reading Bool := do
  let token ← current
  return token.isSign ";" || token.isSign "\x7d" || token.lexeme == .endOfText || token.opensLine

/-- Phrases separated by commas up to a closing sign, a comma behind the last one allowed. The flag
tells whether there was one. -/
def commaSeparated (closing : String) (phrase : Reading Node) : Reading (List Node × Bool) := do
  let (phrases, trailing) ← repeatUntil (fun (phrases, trailing) => do
    if ← eatSign closing then return ((phrases, trailing), true)
    else
      let phrases := phrases.push (← phrase)
      if ← eatSign "," then return ((phrases, true), false)
      else
        expectSign closing
        return ((phrases, false), true)) (#[], false)
  return (phrases.toList, trailing)

end ModuleBundler.Script
