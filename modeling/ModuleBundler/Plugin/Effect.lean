import ModuleBundler.Plugin.Basic

/-!
What the built-in plugins do at the hooks that they tap.
-/

namespace ModuleBundler.Plugin

variable {ω : Type}

def logStart : Observer (Session ω) Compilation := fun compilation =>
  modify (Session.write .info
    ("Build started for " ++ toString compilation.config.entry.paths.size ++ " entries in " ++
      compilation.root.text))

def logEnd : Observer (Session ω) Stats := fun stats =>
  modify (Session.write .info
    ("Build finished: " ++ toString stats.compilation.graph.size ++ " modules, " ++
      toString stats.compilation.files.length ++ " files in " ++ stats.elapsed.format))

def substitute (definitions : Table String) (text : List Char) : List Char :=
  definitions.entries.foldl (fun text (name, value) =>
    Text.replaceAll name.toList value.toList text) text

def defineIn (definitions : Table String) : Asset → Asset
  | .text content => .text (String.ofList (substitute definitions content.toList))
  | .binary content => .binary content

def revise (change : Compilation → Compilation) : Reviser (Session ω) Compilation :=
  modify fun (compilation, session) => (change compilation, session)

def defineAssets (definitions : Table String) : Reviser (Session ω) Compilation :=
  revise fun compilation =>
    { compilation with assets := compilation.assets.map (defineIn definitions) }

def archive (assets : Table Asset) : Asset :=
  .binary (Archive.encode (assets.entries.map fun (name, asset) => ⟨name, asset.bytes⟩))

def compressAssets (output : String) : Reviser (Session ω) Compilation :=
  revise fun compilation => compilation.emitAsset output (archive compilation.assets)

def manifestName : String := "externals.json"

def claim (libraries : Table ExternalLibrary) :
    Decider (Session ω) ResolveData ExternalModule := fun data =>
  return (libraries.find? data.request).map fun library => ⟨library.global⟩

def noteRequest (number : Nat) (libraries : Table ExternalLibrary) :
    Observer (Session ω) RequireCall := fun call =>
  if libraries.contains call.request then modify (Session.see number call.request) else pure ()

def forgetRequests (number : Nat) : Observer (Session ω) Compilation := fun _ =>
  modify (Session.forget number)

def usedLibrary (libraries : Table ExternalLibrary) (request : String) : Option Json :=
  (libraries.find? request).map fun library =>
    .object ([("request", .text request), ("variable", .text library.global)] ++
      (library.src.map fun src => ("src", Json.text src)).toList)

def withManifest (libraries : Table ExternalLibrary) (requests : List String)
    (compilation : Compilation) : Compilation :=
  match requests with
  | [] => compilation
  | requests =>
    let manifest := Json.array (requests.filterMap (usedLibrary libraries))
    compilation.emitAsset manifestName (.text manifest.pretty)

def emitManifest (number : Nat) (libraries : Table ExternalLibrary) :
    Reviser (Session ω) Compilation :=
  modify fun (compilation, session) =>
    (withManifest libraries (session.seen number) compilation, session)

def observing (observe : Observer ω α) : Observer (Session ω) α := fun value session =>
  match observe value session.memory with
  | .ok _ memory => .ok () { session with memory }
  | .error cause memory => .error cause { session with memory }

def deciding (decide : Decider ω α β) : Decider (Session ω) α β := fun value session =>
  let (answer, memory) := decide value session.memory
  (answer, { session with memory })

def revising (revise : Reviser ω α) : Reviser (Session ω) α := fun (value, session) =>
  match revise (value, session.memory) with
  | .ok _ (value, memory) => .ok () (value, { session with memory })
  | .error cause (value, memory) => .error cause (value, { session with memory })

end ModuleBundler.Plugin
