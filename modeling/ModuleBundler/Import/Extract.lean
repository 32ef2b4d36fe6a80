import ModuleBundler.Bundle.Script
import ModuleBundler.Import.Basic
import ModuleBundler.Resolver
import ModuleBundler.Script.CallSite
import ModuleBundler.Text.Edit

/-!
Finding the imports of a module. Every import call of its source is resolved, in order, and turned into a
call of the loader with the id of the module it means.
-/

namespace ModuleBundler.Import

open Script (CallSite Span)

structure Surroundings (σ : Type) where
  disk : FileSystem
  resolver : Resolver
  hooks : ImportHooks σ

structure Extracted where
  source : String
  dependencies : List Dependency
  deriving DecidableEq, Repr, Inhabited

variable {σ : Type}

structure Resolved where
  site : CallSite
  argument : Span
  dependency : Dependency
  deriving DecidableEq, Repr

/-- What a request means in the directory of a module. A hook that claims it goes before the file
system. -/
def resolve (around : Surroundings σ) (module : Path) (request : String) :
    EStateM BuildError σ Dependency := do
  around.hooks.requireCall.show { request, module }
  let context := module.parent?.getD ⟨"."⟩
  match ← fun state =>
    let (answer, state) := around.hooks.factorize.ask { request, context } state
    .ok answer state with
  | some provided => return ⟨externalId request, request, .external provided⟩
  | none =>
    match around.resolver.resolve around.disk request context with
    | .ok path => return ⟨around.resolver.moduleId path, request, .file path⟩
    | .error failure => throw failure

def dynamicReason : Script.Argument → String
  | .missing => "missing argument"
  | .several => "more than one argument"
  | _ => "argument is not a string literal"

def resolveSite (around : Surroundings σ) (module : Path) (source : List Char) (site : CallSite) :
    EStateM BuildError σ Resolved :=
  match site.argument with
  | .text request argument => do
    return ⟨site, argument, ← resolve around module request⟩
  | given =>
    let (line, column) := Text.lineColumn source site.call.start
    throw (.staticImportRequired module line column (dynamicReason given))

def resolveSites (around : Surroundings σ) (module : Path) (source : List Char) :
    List CallSite → EStateM BuildError σ (List Resolved)
  | [] => pure []
  | site :: sites => do
    let first ← resolveSite around module source site
    let others ← resolveSites around module source sites
    return first :: others

def edit (span : Span) (replacement : String) : Text.Edit :=
  ⟨span.start, span.stop, replacement.toList⟩

def Resolved.edits (resolved : Resolved) : List Text.Edit :=
  [edit resolved.site.callee Bundle.loaderName,
    edit resolved.argument (Text.quoted resolved.dependency.id)]

def interpreterEdits (program : Script.Node) : List Text.Edit :=
  match program.shape with
  | .program (some line) => [edit ⟨line.start, line.start + 2⟩ "//"]
  | _ => []

def distinct : List String → List Dependency → List Dependency
  | _, [] => []
  | seen, dependency :: dependencies =>
    if seen.contains dependency.id then distinct seen dependencies
    else dependency :: distinct (dependency.id :: seen) dependencies

def extract (around : Surroundings σ) (source : String) (module : Path) :
    EStateM BuildError σ Extracted := do
  match Script.Node.ofText? source with
  | .error fault => throw (.parse module fault.reason)
  | .ok program =>
    let text := source.toList
    let resolved ← resolveSites around module text program.callSites
    let edits := interpreterEdits program ++ resolved.flatMap Resolved.edits
    match Text.Edit.applyAll? edits text with
    | some text =>
      return ⟨String.ofList text, distinct [] (resolved.map Resolved.dependency)⟩
    | none => throw (.parse module "imports overlap")

end ModuleBundler.Import
