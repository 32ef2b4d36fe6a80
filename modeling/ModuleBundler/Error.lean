import ModuleBundler.FileSystem.Basic

/-!
Why a build fails.
-/

namespace ModuleBundler

/-- A failure of a build. `cause` is what a transform or a plugin said. -/
inductive BuildError where
  | moduleNotFound (specifier : String) (context : Path)
  /-- A rule names a transform that nobody has registered. -/
  | transformLoad (name : String) (module : Path)
  | transform (name : String) (module : Path) (cause : String)
  /-- An import call that is not given a single string. -/
  | staticImportRequired (module : Path) (line column : Nat) (reason : String)
  | parse (module : Path) (reason : String)
  | invalidRule (pattern : String)
  | hookFailure (hook plugin cause : String)
  | asyncHookFailure (hook plugin cause : String)
  /-- An asset that would be written outside of the output directory. -/
  | invalidAssetName (name : String)
  | io (path : Path) (cause : AccessError)
  /-- Modules require each other more deeply than there are paths. -/
  | tooDeep (path : Path)
  deriving DecidableEq, Repr, Inhabited

namespace BuildError

def message : BuildError → String
  | moduleNotFound specifier context =>
    "Module not found: Can't resolve '" ++ specifier ++ "' in '" ++ context.text ++ "'"
  | transformLoad name module =>
    "Transform '" ++ name ++ "' could not be loaded (used by " ++ module.text ++ ")"
  | transform name module _ => "Transform '" ++ name ++ "' failed on " ++ module.text
  | staticImportRequired module line column reason =>
    module.text ++ ":" ++ toString line ++ ":" ++ toString column ++
      ": require() needs a single static string argument (" ++ reason ++ ")"
  | parse module reason => "Failed to parse " ++ module.text ++ ": " ++ reason
  | invalidRule pattern => "Invalid rule pattern '" ++ pattern ++ "'"
  | hookFailure hook plugin _ => "Plugin '" ++ plugin ++ "' failed in hook '" ++ hook ++ "'"
  | asyncHookFailure hook plugin _ =>
    "Plugin '" ++ plugin ++ "' failed in async hook '" ++ hook ++ "'"
  | invalidAssetName name =>
    "Asset name '" ++ name ++ "' must be a relative path inside the output directory"
  | io path _ => "I/O error on " ++ path.text
  | tooDeep path => "Modules are nested too deeply at " ++ path.text

end BuildError

end ModuleBundler
