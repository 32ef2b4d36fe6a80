import ModuleBundler.Config.Basic
import ModuleBundler.Error
import ModuleBundler.Transform.Basic

/-!
Which transforms a module goes through. The rules whose pattern matches its path name them from left to
right; they are applied from right to left.
-/

namespace ModuleBundler

structure CompiledRule where
  test : Pattern
  transforms : List String
  deriving DecidableEq, Repr, Inhabited

structure TransformPipeline where
  rules : List CompiledRule
  deriving DecidableEq, Repr, Inhabited

namespace TransformPipeline

def compile (rule : Rule) : Except BuildError CompiledRule :=
  match Pattern.ofText? rule.test with
  | some test => .ok ⟨test, rule.transforms⟩
  | none => .error (.invalidRule rule.test)

def ofRules (rules : List Rule) : Except BuildError TransformPipeline :=
  (rules.mapM compile).map TransformPipeline.mk

def matching (pipeline : TransformPipeline) (path : Path) : List String :=
  (pipeline.rules.filter fun rule => rule.test.occursIn path.unixText).flatMap (·.transforms)

def applyOne (registry : TransformRegistry) (path : Path) (name source : String) :
    Except BuildError String :=
  match registry.find? name with
  | none => .error (.transformLoad name path)
  | some transform =>
    match transform source with
    | .ok code => .ok code
    | .error cause => .error (.transform name path cause)

def applyAll (registry : TransformRegistry) (path : Path) (names : List String)
    (source : String) : Except BuildError String :=
  names.reverse.foldlM (fun code name => applyOne registry path name code) source

def apply (pipeline : TransformPipeline) (registry : TransformRegistry) (path : Path)
    (source : String) : Except BuildError String :=
  applyAll registry path (pipeline.matching path) source

end TransformPipeline

end ModuleBundler
