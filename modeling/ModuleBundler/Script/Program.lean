import ModuleBundler.Script.Grammar.Module

/-!
Reading a whole script. `Node.ofText?` answers the tree of a text, or the place where it stops
being a script.
-/

namespace ModuleBundler.Script

def grammarUpTo : Nat → Grammar
  | 0, _ => fail "phrases are nested too deeply"
  | depth + 1, goal =>
    let grammar := grammarUpTo depth
    match goal with
    | .expression setting => expression grammar setting
    | .assignment setting => assignment grammar setting
    | .unary setting => unary grammar setting
    | .operand setting calls => operand grammar setting calls
    | .pattern setting => pattern grammar setting
    | .statement setting position => statement grammar setting position

/-- The statements up to the end of the text, behind the line that names an interpreter, if the text
starts with one. -/
def program (grammar : Grammar) : Reading Node := do
  let token ← current
  let interpreterLine :=
    match token.lexeme with
    | .interpreterLine => some token.span
    | _ => none
  if interpreterLine.isSome then advance
  let statements ← repeatUntil (fun statements => do
    if (← current).lexeme == .endOfText then return (statements, true)
    else return (statements.push (← grammar (.statement .body .body)), false)) #[]
  close (.program interpreterLine) token.start statements.toList

def misuse? (program : Node) : Option String :=
  if program.holdsStrayDefault then some "a default outside of a pattern"
  else if !program.exportedNames.Nodup then some "a name is exported twice"
  else none

/-- The tree of a text, as the body of a function that is neither asynchronous nor a generator. No
phrase is nested more deeply than eight levels for each character of the text. -/
def Node.ofText? (text : String) : Except Fault Node := do
  let characters := text.toList
  let size := characters.length
  let token ← scanToken true ⟨0, characters⟩
  let (tree, _) ← program (grammarUpTo (8 * (size + 2))) |>.run { token, lastStop := 0, size }
  match misuse? tree with
  | some reason => throw ⟨0, reason⟩
  | none => return tree

end ModuleBundler.Script
