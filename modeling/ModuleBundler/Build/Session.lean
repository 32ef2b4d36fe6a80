import ModuleBundler.Build.Compilation
import ModuleBundler.Import.Basic
import ModuleBundler.Text.Debug

/-!
What plugins keep and write down while builds go on, and the hooks that they tap. The memory `ω` is what
plugins that are not built in share; nothing else in a session is theirs.
-/

namespace ModuleBundler

inductive LogLevel where
  | info
  | warn
  deriving DecidableEq, Repr, Inhabited

structure LogLine where
  level : LogLevel
  message : String
  deriving DecidableEq, Repr, Inhabited

structure Session (ω : Type) where
  memory : ω
  /-- The requests that each externals plugin, by its number, has seen in the current build, each once
  and in ascending order. -/
  seen : Nat → List String
  log : List LogLine

namespace Session

variable {ω : Type}

def new (memory : ω) : Session ω :=
  { memory, seen := fun _ => [], log := [] }

def write (level : LogLevel) (message : String) (session : Session ω) : Session ω :=
  { session with log := session.log ++ [⟨level, message⟩] }

def placeName (name : String) : List String → List String
  | [] => [name]
  | first :: names =>
    if first < name then first :: placeName name names
    else if first = name then first :: names
    else name :: first :: names

def see (plugin : Nat) (request : String) (session : Session ω) : Session ω :=
  { session with seen := fun number =>
      if number = plugin then placeName request (session.seen number) else session.seen number }

def forget (plugin : Nat) (session : Session ω) : Session ω :=
  { session with seen := fun number => if number = plugin then [] else session.seen number }

end Session

structure Hooks (ω : Type) where
  /-- Before anything is read. -/
  run : Hook (Observer (Session ω) Compilation)
  /-- When all assets are there and none is written. -/
  emit : Hook (Reviser (Session ω) Compilation)
  /-- When all assets are written. -/
  done : Hook (Observer (Session ω) Stats)
  imports : ImportHooks (Session ω)

namespace Hooks

def new : Hooks ω where
  run := .new "run"
  emit := .new "emit"
  done := .new "done"
  imports := { factorize := .new "factorize", requireCall := .new "require_call" }

def debugText (hooks : Hooks ω) : String :=
  Text.debugRecord "Hooks" [
    ("run", hooks.run.tapNames), ("emit", hooks.emit.tapNames), ("done", hooks.done.tapNames),
    ("factorize", hooks.imports.factorize.tapNames),
    ("require_call", hooks.imports.requireCall.tapNames)]

end Hooks

end ModuleBundler
