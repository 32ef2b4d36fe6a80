import ModuleBundler.Hook
import ModuleBundler.Text.Quoted

/-!
What plugins see of the imports of a module, and what an import turns out to mean.
-/

namespace ModuleBundler

structure RequireCall where
  request : String
  module : Path
  deriving DecidableEq, Repr, Inhabited

structure ResolveData where
  request : String
  context : Path
  deriving DecidableEq, Repr, Inhabited

structure ExternalModule where
  global : String
  deriving DecidableEq, Repr, Inhabited

structure ImportHooks (σ : Type) where
  /-- Sees every import call. -/
  requireCall : Hook (Observer σ RequireCall)
  /-- May claim an import as external. -/
  factorize : Hook (Decider σ ResolveData ExternalModule)

inductive Target where
  | file (path : Path)
  | external (provided : ExternalModule)
  deriving DecidableEq, Repr, Inhabited

structure Dependency where
  id : String
  request : String
  target : Target
  deriving DecidableEq, Repr, Inhabited

def externalId (request : String) : String :=
  "external " ++ Text.quoted request

end ModuleBundler
