import ModuleBundler.Script.Program

/-!
The places where a script asks for another module: calls of the plain name `require`.
-/

namespace ModuleBundler.Script

inductive Argument where
  | missing
  /-- A single string, with the bytes it is written with. -/
  | text (value : String) (span : Span)
  /-- A single argument that is no string. -/
  | other
  | several
  deriving DecidableEq, Repr

structure CallSite where
  /-- The bytes of the name that is called. -/
  callee : Span
  /-- The bytes of the whole call. -/
  call : Span
  argument : Argument
  deriving DecidableEq, Repr

def importingName : String := "require"

def Argument.ofParts : List Node → Argument
  | [] => .missing
  | [.mk (.text value) span _] => .text value span
  | [_] => .other
  | _ => .several

namespace Node

def ownCallSite? : Node → Option CallSite
  | mk .call span (mk (.identifier name) callee _ :: arguments) =>
    if name = importingName then some ⟨callee, span, .ofParts arguments⟩ else none
  | _ => none

mutual

def callSites : Node → List CallSite
  | mk shape span parts => (ownCallSite? (mk shape span parts)).toList ++ allCallSites parts

def allCallSites : List Node → List CallSite
  | [] => []
  | part :: others => part.callSites ++ allCallSites others

end

end Node

end ModuleBundler.Script
