import ModuleBundler.Path.Normal
import ModuleBundler.Error

/-!
From the specifier of an import to a file, and from a file to the name its module goes by.
-/

namespace ModuleBundler

structure Resolver where
  /-- The directory that module ids are relative to, in normal form. -/
  root : Path
  /-- What is tried behind a specifier that names no file, in order. -/
  extensions : List String
  deriving DecidableEq, Repr, Inhabited

namespace Resolver

def new (root : Path) (extensions : List String) : Resolver :=
  ⟨root.normalize, extensions⟩

def candidates (resolver : Resolver) (specifier : String) (context : Path) : List Path :=
  let exact := (context.join ⟨specifier⟩).normalize
  exact :: resolver.extensions.map exact.append

def resolve? (resolver : Resolver) (disk : FileSystem) (specifier : String) (context : Path) :
    Option Path :=
  (resolver.candidates specifier context).find? disk.isFile

def resolve (resolver : Resolver) (disk : FileSystem) (specifier : String) (context : Path) :
    Except BuildError Path :=
  match resolver.resolve? disk specifier context with
  | some path => .ok path
  | none => .error (.moduleNotFound specifier context)

theorem resolve_of_some {resolver : Resolver} {disk : FileSystem} {specifier : String}
    {context path : Path} (found : resolver.resolve? disk specifier context = some path) :
    resolver.resolve disk specifier context = .ok path := by
  unfold resolve
  generalize resolver.resolve? disk specifier context = answer at found ⊢
  rw [found]

theorem resolve_of_none {resolver : Resolver} {disk : FileSystem} {specifier : String}
    {context : Path} (lost : resolver.resolve? disk specifier context = none) :
    resolver.resolve disk specifier context = .error (.moduleNotFound specifier context) := by
  unfold resolve
  generalize resolver.resolve? disk specifier context = answer at lost ⊢
  rw [lost]

def idStart : String := "./"

def moduleId (resolver : Resolver) (path : Path) : String :=
  let normal := path.normalize
  idStart ++ ((normal.relativeTo? resolver.root).getD normal).unixText

end Resolver

end ModuleBundler
