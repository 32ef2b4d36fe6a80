import ModuleBundler.Script.Token

/-!
Trees of scripts. A node has a shape, the range of bytes it covers, and its parts in the order in
which they stand in the text; a part that was left out where the grammar allows it is `absent`.

`Node.target?` reads an expression as the target of an assignment, which is how destructuring is
recognised once the equals sign behind it has been seen.
-/

namespace ModuleBundler.Script

/-- What a node of the tree is. -/
inductive Shape where
  -- Leaves.
  | absent
  | identifier (name : String)
  | binding (name : String)
  | privateName (name : String)
  | text (value : String)
  | literal
  | this
  | superclass
  | metaProperty
  -- Expressions.
  | template
  | taggedTemplate
  | array (trailingComma : Bool)
  | object (trailingComma : Bool)
  | property
  | shorthand
  /-- `{ name = value }`, which only a pattern may hold. -/
  | shorthandDefault
  | method
  | spread
  | function
  | arrow
  | classDefinition
  | field
  | staticBlock
  | unary
  | update
  | binary
  | conditional
  | assignment (plain : Bool)
  | sequence
  | parenthesized
  | member
  | chain
  | call
  | construct
  | importCall
  | yielding
  | awaiting
  | decorator
  -- Patterns.
  | arrayPattern
  | objectPattern
  | patternProperty
  | defaulted
  | rest
  -- Statements.
  | block
  | expression
  | declaration
  | declarator
  | branch
  | loop
  | jump
  | withScope
  | choice
  | alternative
  | throwing
  | attempt
  | handler
  | labelled
  -- Module declarations.
  | importDeclaration
  | exportDeclaration
  | exportDefault
  | exportSpecifier (exported : String)
  | program (interpreterLine : Option Span)
  deriving DecidableEq, Repr, Inhabited

inductive Node where
  | mk (shape : Shape) (span : Span) (parts : List Node)
  deriving Repr, Inhabited

namespace Node

def shape : Node → Shape
  | mk shape _ _ => shape

def span : Node → Span
  | mk _ span _ => span

def parts : Node → List Node
  | mk _ _ parts => parts

def absent : Node :=
  mk .absent ⟨0, 0⟩ []

def isSimpleTarget : Node → Bool
  | mk (.identifier _) _ _ | mk .member _ _ => true
  | mk .parenthesized _ [inner] => inner.isSimpleTarget
  | _ => false

mutual

/-- Reads an expression as the target of an assignment: a place, or an array or object display whose
elements are targets again. -/
def target? : Node → Option Node
  | mk (.array trailingComma) span parts =>
    (elementTargets? trailingComma parts).map (mk .arrayPattern span)
  | mk (.object trailingComma) span parts =>
    (propertyTargets? trailingComma parts).map (mk .objectPattern span)
  | node => if node.isSimpleTarget then some node else none
termination_by structural node => node

/-- Reads the elements of an array display as targets with optional defaults. A spread may only
stand at the end, no comma behind it. -/
def elementTargets? (trailingComma : Bool) : List Node → Option (List Node)
  | [] => some []
  | mk .spread span [inner] :: others => do
    if trailingComma || !others.isEmpty then none else return [mk .rest span [← inner.target?]]
  | mk .absent span parts :: others => do
    return mk .absent span parts :: (← elementTargets? trailingComma others)
  | mk (.assignment true) span parts :: others => do
    return mk .defaulted span parts :: (← elementTargets? trailingComma others)
  | element :: others => do
    return (← element.target?) :: (← elementTargets? trailingComma others)
termination_by structural elements => elements

def propertyTargets? (trailingComma : Bool) : List Node → Option (List Node)
  | [] => some []
  | mk .spread span [inner] :: others => do
    if trailingComma || !others.isEmpty then none else return [mk .rest span [← inner.target?]]
  | mk .property span [key, mk (.assignment true) valueSpan parts] :: others => do
    return mk .patternProperty span [key, mk .defaulted valueSpan parts] ::
      (← propertyTargets? trailingComma others)
  | mk .property span [key, value] :: others => do
    return mk .patternProperty span [key, ← value.target?] ::
      (← propertyTargets? trailingComma others)
  | mk .shorthand span [name] :: others => do
    return mk .patternProperty span [name] :: (← propertyTargets? trailingComma others)
  | mk .shorthandDefault span [name, value] :: others => do
    return mk .patternProperty span [mk .defaulted span [name, value]] ::
      (← propertyTargets? trailingComma others)
  | _ => none
termination_by structural properties => properties

end

mutual

def holdsStrayDefault : Node → Bool
  | mk shape _ parts => shape == .shorthandDefault || anyStrayDefault parts

def anyStrayDefault : List Node → Bool
  | [] => false
  | part :: others => part.holdsStrayDefault || anyStrayDefault others

end

mutual

def boundNames : Node → List String
  | mk (.binding name) _ _ => [name]
  | mk .patternProperty _ parts => lastBoundNames parts
  | mk .function _ (name :: _) | mk .classDefinition _ (name :: _) | mk .defaulted _ (name :: _)
  | mk .declarator _ (name :: _) => name.boundNames
  | mk .arrayPattern _ parts | mk .objectPattern _ parts | mk .rest _ parts
  | mk .declaration _ parts => allBoundNames parts
  | _ => []

def allBoundNames : List Node → List String
  | [] => []
  | part :: others => part.boundNames ++ allBoundNames others

def lastBoundNames : List Node → List String
  | [] => []
  | [part] => part.boundNames
  | _ :: others => lastBoundNames others

end

mutual

def exportedNames : Node → List String
  | mk .exportDefault _ parts => "default" :: allExportedNames parts
  | mk (.exportSpecifier name) _ parts => name :: allExportedNames parts
  | mk .exportDeclaration _ parts => allBoundNames parts ++ allExportedNames parts
  | mk _ _ parts => allExportedNames parts

def allExportedNames : List Node → List String
  | [] => []
  | part :: others => part.exportedNames ++ allExportedNames others

end

end Node

end ModuleBundler.Script
