import ModuleBundler.Proofs.Build.Manifest

/-!
What becomes of the assets that a build emits: those of the chunks first, and then those of its plugins. An
asset stays under its name, and is rewritten by definitions at most, until another one is emitted under it.
-/

namespace ModuleBundler

variable {ω : Type}

inductive AssetStep where
  | emit (name : String) (asset : Asset)
  | define (definitions : Table String)

namespace AssetStep

def perform (assets : Table Asset) : AssetStep → Table Asset
  | emit name asset => assets.insert name asset
  | define definitions => assets.map (Plugin.defineIn definitions)

/-- The assets that some steps lead to. -/
def result (steps : List AssetStep) : Table Asset :=
  steps.foldl perform {}

def rewrite (asset : Asset) : AssetStep → Asset
  | emit _ _ => asset
  | define definitions => Plugin.defineIn definitions asset

theorem result_append (steps more : List AssetStep) :
    result (steps ++ more) = more.foldl perform (result steps) :=
  List.foldl_append

variable {name : String}

theorem find?_foldl {steps : List AssetStep} (alone : ∀ asset, emit name asset ∉ steps)
    (assets : Table Asset) : (steps.foldl perform assets).find? name =
      (assets.find? name).map fun asset => steps.foldl rewrite asset := by
  induction steps generalizing assets with
  | nil => simp
  | cons step steps ih =>
    rw [List.foldl_cons, ih fun asset member => alone asset (List.mem_cons_of_mem _ member)]
    cases step with
    | emit other asset =>
      have different : name ≠ other := by
        rintro rfl
        exact alone asset List.mem_cons_self
      rw [perform, Table.find?_insert, if_neg different]
      rfl
    | define definitions =>
      rw [perform, Table.find?_map, Option.map_map]
      rfl

theorem find?_result {front back : List AssetStep} (asset : Asset)
    (alone : ∀ other, emit name other ∉ back) :
    (result (front ++ emit name asset :: back)).find? name = some (back.foldl rewrite asset) := by
  rw [result, List.foldl_append, List.foldl_cons, find?_foldl alone, perform, Table.find?_insert,
    if_pos rfl, Option.map_some]

end AssetStep

namespace Plugin

def steps (requests : List String) (assets : Table Asset) : Plugin ω → List AssetStep
  | .define definitions => [.define definitions]
  | .compress output => [.emit output (archive assets)]
  | .externals libraries =>
    if usedLibraries libraries requests = [] then []
    else [.emit manifestName (.text (manifestText (usedLibraries libraries requests)))]
  | .logger | .transform _ _ | .custom _ _ => []

def rewritten (asset : Asset) : Plugin ω → Asset
  | .define definitions => defineIn definitions asset
  | .compress _ | .externals _ | .logger | .transform _ _ | .custom _ _ => asset

theorem foldl_rewrite_steps (requests : List String) (assets : Table Asset) (plugin : Plugin ω)
    (asset : Asset) :
    (plugin.steps requests assets).foldl AssetStep.rewrite asset = plugin.rewritten asset := by
  cases plugin with
  | define | compress | logger | transform | custom => rfl
  | externals libraries =>
    rw [steps]
    split <;> rfl

end Plugin

def AssetStep.history (requests : List String) (plugins : List (Plugin ω)) (begun : List AssetStep) :
    List AssetStep :=
  plugins.foldl (fun steps plugin => steps ++ plugin.steps requests (result steps)) begun

theorem AssetStep.history_concat (requests : List String) (plugins : List (Plugin ω)) (plugin : Plugin ω)
    (begun : List AssetStep) : history requests (plugins ++ [plugin]) begun =
      history requests plugins begun ++
        plugin.steps requests (result (history requests plugins begun)) :=
  List.foldl_concat _ _ _ _

theorem AssetStep.exists_history (requests : List String) (plugins : List (Plugin ω))
    (begun : List AssetStep) : ∃ later, history requests plugins begun = begun ++ later ∧
      ∀ asset, later.foldl rewrite asset = plugins.foldl Plugin.rewritten asset := by
  induction plugins using List.reverseRecOn with
  | nil => exact ⟨[], (List.append_nil _).symm, fun _ => rfl⟩
  | append_singleton plugins plugin ih =>
    obtain ⟨later, same, rewrites⟩ := ih
    refine ⟨later ++ plugin.steps requests (result (history requests plugins begun)), ?_, fun asset => ?_⟩
    · rw [history_concat, same, List.append_assoc]
    · rw [List.foldl_append, List.foldl_concat, rewrites, Plugin.foldl_rewrite_steps]

namespace Bundler

open AssetStep (history result)

/-- A plugin that brings no callbacks of its own does its own steps behind those of others. -/
theorem assets_of_apply {bundler : Bundler ω} {plugin : Plugin ω}
    (builtin : ∀ name taps, plugin ≠ .custom name taps) {fault : String → String → BuildError}
    {start final : Compilation × Session ω}
    (revised : callTaps id fault (bundler.apply plugin).hooks.emit.taps start = .ok () final) :
    ∃ middle, callTaps id fault bundler.hooks.emit.taps start = .ok () middle ∧ final.2 = middle.2 ∧
      ∀ requests, (∀ libraries, plugin = .externals libraries → middle.2.seen bundler.externals =
          Session.noted libraries.contains requests []) →
        final.1.assets = (plugin.steps requests middle.1.assets).foldl AssetStep.perform middle.1.assets := by
  cases plugin with
  | logger | transform => exact ⟨final, revised, rfl, fun _ _ => rfl⟩
  | define definitions =>
    obtain ⟨middle, others, last⟩ := callTaps_concat_eq_ok.1 revised
    cases last
    exact ⟨middle, others, rfl, fun _ _ => rfl⟩
  | compress output =>
    obtain ⟨middle, others, last⟩ := callTaps_concat_eq_ok.1 revised
    cases last
    exact ⟨middle, others, rfl, fun _ _ => rfl⟩
  | externals libraries =>
    obtain ⟨middle, others, last⟩ := callTaps_concat_eq_ok.1 revised
    cases last
    refine ⟨middle, others, rfl, fun requests noted => ?_⟩
    show (Plugin.withManifest libraries (middle.2.seen bundler.externals) middle.1).assets = _
    rw [noted libraries rfl, Plugin.withManifest_noted, Plugin.steps]
    split <;> rfl
  | custom name taps => exact absurd rfl (builtin name taps)

/-- The taps of plugins without callbacks of their own do the steps of one plugin after another. -/
theorem assets_of_callTaps (config : Config) {plugins : List (Plugin ω)}
    (builtin : ∀ plugin ∈ plugins, ∀ name taps, plugin ≠ .custom name taps)
    {fault : String → String → BuildError} {start final : Compilation × Session ω}
    (revised : callTaps id fault (withPlugins config plugins).hooks.emit.taps start = .ok () final)
    {requests : List String} (noted : ∀ front libraries back, plugins = front ++ .externals libraries :: back →
      start.2.seen (numberBehind config front) = Session.noted libraries.contains requests [])
    {steps : List AssetStep} (begun : start.1.assets = result steps) :
    final.2 = start.2 ∧ final.1.assets = result (history requests plugins steps) := by
  induction plugins using List.reverseRecOn generalizing final with
  | nil =>
    cases revised
    exact ⟨rfl, begun⟩
  | append_singleton plugins plugin ih =>
    rw [withPlugins, List.foldl_concat, ← withPlugins] at revised
    obtain ⟨middle, others, same, own⟩ :=
      assets_of_apply (builtin plugin List.mem_concat_self) revised
    obtain ⟨kept, made⟩ := ih (fun one member => builtin one (List.mem_append_left _ member)) others
      fun front libraries back split => noted front libraries (back ++ [plugin]) (by simp [split])
    refine ⟨same.trans kept, ?_⟩
    have ready (libraries : Table ExternalLibrary) (externals : plugin = .externals libraries) :
        middle.2.seen (numberBehind config plugins) =
          Session.noted libraries.contains requests [] := by
      rw [kept]
      exact noted plugins libraries [] (by rw [externals])
    rw [own requests ready, made, AssetStep.history_concat, AssetStep.result_append]

def chunkSteps (filename : String) (found : Compilation) : List AssetStep :=
  (found.chunks.map (chunkAsset filename found.graph)).map fun asset => .emit asset.1 asset.2

theorem assets_emitChunks (filename : String) {found : Compilation} (fresh : found.assets = {}) :
    (emitChunks filename found).assets = result (chunkSteps filename found) := by
  rw [result, chunkSteps, List.foldl_map, emitChunks_eq, fresh]
  rfl

/-- The assets of a compilation by plugins without callbacks of their own are those that its steps lead to. -/
theorem assets_of_compile (config : Config) {plugins : List (Plugin ω)}
    (builtin : ∀ plugin ∈ plugins, ∀ name taps, plugin ≠ .custom name taps) {disk : FileSystem}
    {session last : Session ω} {compilation : Compilation}
    (compiled : (withPlugins config plugins).compile disk session = .ok compilation last) :
    ∃ pipeline found final, (withPlugins config plugins).Reaches disk session
        (withPlugins config plugins).hooks.emit.taps pipeline found (compilation, final) ∧
      compilation.assets = result (history
        (((withPlugins config plugins).setup disk config.contextDirectory pipeline).graphRequests
          found.graph)
        plugins (chunkSteps config.output.filename found)) := by
  obtain ⟨pipeline, found, state, final, reaches, ended⟩ :=
    exists_reaches compiled (List.append_nil _).symm
  cases ended
  refine ⟨pipeline, found, final, reaches, ?_⟩
  obtain ⟨middle, ⟨shown, showing, -, constructed⟩, revised⟩ := reaches
  rw [config_withPlugins] at revised
  refine (assets_of_callTaps config builtin revised (fun front libraries back split => ?_) ?_).2
  · have noted := seen_of_construct (split ▸ watch_withPlugins config front libraries back) showing _
      constructed
    rwa [config_withPlugins] at noted
  · refine assets_emitChunks _ ?_
    rw [discover_shape constructed]
    rfl

/-- Every asset that a build with built-in plugins emits, for a chunk, as a manifest or as an archive, is there
under its name when the assets are to be written, and has been rewritten by definitions at most, unless another
one is emitted under this name after it. Those of two chunks never meet. An external module is listed in the
manifest that is emitted by the plugin that provides its library, and this manifest, with the definitions behind
the plugin made in it, is the one that is there, unless another asset is emitted under its name after it. -/
theorem emitted_assets_kept {config : Config} (valid : config.validate = .ok config)
    {plugins : List (Plugin ω)} (made : Plugin.ofConfigs config.plugins = .ok plugins)
    {disk : FileSystem} {session last : Session ω} {compilation : Compilation}
    (compiled : (withPlugins config plugins).compile disk session = .ok compilation last) :
    ∃ pipeline found final,
      (withPlugins config plugins).Reaches disk session (withPlugins config plugins).hooks.emit.taps
          pipeline found (compilation, final) ∧
        let setup := (withPlugins config plugins).setup disk config.contextDirectory pipeline
        let requests := setup.graphRequests found.graph
        let chunks := found.chunks.map (chunkAsset config.output.filename found.graph)
        let begun := chunks.map fun asset => AssetStep.emit asset.1 asset.2
        let steps := history requests plugins begun
        (chunks.map Prod.fst).Nodup ∧
          (∀ front name asset back, steps = front ++ .emit name asset :: back →
            (∀ other, .emit name other ∉ back) →
              compilation.assets.find? name = some (back.foldl AssetStep.rewrite asset)) ∧
          ∀ module ∈ found.graph.contents, ∀ global, module.kind = .external global →
            ∀ request, module.id = externalId request →
              ∀ front libraries back, plugins = front ++ .externals libraries :: back →
                ∀ library, libraries.find? request = some library →
                  let used := Plugin.usedLibraries libraries requests
                  (request, library) ∈ used ∧ ∃ text behind,
                    Json.read? text = some (.array (used.map Plugin.manifestEntry)) ∧
                    steps = history requests front begun ++ .emit "externals.json" (.text text) :: behind ∧
                    ((∀ other, .emit "externals.json" other ∉ behind) →
                      compilation.assets.find? "externals.json" =
                        some (back.foldl Plugin.rewritten (.text text))) := by
  obtain ⟨pipeline, found, final, reaches, assets⟩ :=
    assets_of_compile config (builtin_of_ofConfigs made) compiled
  refine ⟨pipeline, found, final, reaches, ?_⟩
  obtain ⟨middle, ⟨shown, -, -, constructed⟩, -⟩ := reaches
  intro setup requests chunks begun steps
  rw [construct, config_withPlugins] at constructed
  have kept (front : List AssetStep) (name : String) (asset : Asset) (back : List AssetStep)
      (split : steps = front ++ .emit name asset :: back) (alone : ∀ other, .emit name other ∉ back) :
      compilation.assets.find? name = some (back.foldl AssetStep.rewrite asset) := by
    rw [assets, show history _ plugins (chunkSteps config.output.filename found) = _ from split]
    exact AssetStep.find?_result asset alone
  refine ⟨nodup_chunkAssets valid constructed, kept, ?_⟩
  intro module member global kind request named front libraries back split library looked used
  obtain ⟨other, asked, same⟩ := exists_request_of_discover constructed member kind
  obtain rfl : other = request := externalId_injective (same.symm.trans named)
  have listed : (other, library) ∈ used :=
    Plugin.mem_usedLibraries.2 ⟨Table.find?_eq_some.1 looked, asked⟩
  let before := history requests front begun
  let emission : AssetStep := .emit "externals.json" (.text (Plugin.manifestText used))
  obtain ⟨behind, made, rewrites⟩ := AssetStep.exists_history requests back (before ++ [emission])
  have placed : steps = before ++ emission :: behind := by
    have own : (Plugin.externals libraries : Plugin ω).steps requests (result before) = [emission] :=
      if_neg (List.ne_nil_of_mem listed)
    rw [List.append_cons, ← made, ← own, ← AssetStep.history_concat]
    show history requests plugins _ = _
    rw [split, List.append_cons]
    exact List.foldl_append
  refine ⟨listed, _, behind, Plugin.read?_manifestText _, placed, fun alone => ?_⟩
  rw [kept before _ _ behind placed alone, rewrites]

/-- A project whose assets are archived under some name when a definition has been replaced in them. -/
def archiving (output : String) : Config :=
  { Config.ofEntry ⟨"/"⟩ "main.js" with
    plugins := [⟨"define", some [("DEBUG", .text "false")]⟩,
      ⟨"compress-assets", some [("output", .text output)]⟩] }

def archivingPlugins (output : String) : List (Plugin Unit) :=
  [.define (.ofList [("DEBUG", "false")]), .compress output]

def archivedDisk : FileSystem where
  nodes := [(["main.js"], .file "var x = DEBUG;".toUTF8)]
  workingDirectory := []

theorem filename_of_name {chunk : Chunk} (named : chunk.name = "main") (code : String) :
    chunk.filename "[name].js" code = "main.js" := by
  rw [Chunk.filename, named]
  rfl

def script? : EStateM.Result BuildError (Session Unit) Compilation → Option (List String × Bool)
  | .ok compilation _ => (compilation.assets.find? "main.js").map fun asset =>
      (compilation.chunks.map (·.name), match asset with | .text _ => true | .binary _ => false)
  | .error _ _ => none

/-- The code of the chunk is there, with the definition in it, when it has been archived. -/
theorem archived_code_kept : ∃ compilation last code,
    (withPlugins (archiving "bundle.zip") (archivingPlugins "bundle.zip")).compile archivedDisk (.new ()) =
        .ok compilation last ∧
      compilation.assets.find? "main.js" =
        some (Plugin.defineIn (.ofList [("DEBUG", "false")]) (.text code)) := by
  have succeeds : script? ((withPlugins (archiving "bundle.zip")
      (archivingPlugins "bundle.zip")).compile archivedDisk (.new ())) = some (["main"], true) := by
    decide +kernel
  have valid : (archiving "bundle.zip").validate = .ok (archiving "bundle.zip") := rfl
  have made : Plugin.ofConfigs (archiving "bundle.zip").plugins =
      .ok (archivingPlugins "bundle.zip") := rfl
  cases compiled : (withPlugins (archiving "bundle.zip") (archivingPlugins "bundle.zip")).compile
      archivedDisk (.new ()) with
  | error error last =>
    rw [compiled] at succeeds
    cases succeeds
  | ok compilation last =>
    obtain ⟨pipeline, found, final, reaches, -, kept, -⟩ := emitted_assets_kept valid made compiled
    obtain ⟨middle, ⟨shown, -, -, constructed⟩, -⟩ := reaches
    have names : found.chunks.map (·.name) = ["main"] := chunk_names constructed
    obtain ⟨chunk, chunks, named⟩ := List.map_eq_singleton_iff.1 names
    refine ⟨compilation, last, Bundle.render chunk found.graph, rfl, ?_⟩
    rw [chunks] at kept
    let emission : AssetStep := .emit "main.js" (.text (Bundle.render chunk found.graph))
    let definition : AssetStep := .define (.ofList [("DEBUG", "false")])
    let archive : AssetStep := .emit "bundle.zip" (Plugin.archive (result [emission, definition]))
    refine kept [] "main.js" (.text (Bundle.render chunk found.graph)) [definition, archive] ?_ ?_
    · have own := filename_of_name named (Bundle.render chunk found.graph)
      unfold archive emission
      rw [← own]
      rfl
    · simp [definition, archive]

/-- An archive that goes by the name of the code takes its place. -/
theorem archive_for_code : (archiving "main.js").validate = .ok (archiving "main.js") ∧
    Plugin.ofConfigs (archiving "main.js").plugins = .ok (archivingPlugins "main.js") ∧
    ∃ compilation last chunk,
      (withPlugins (archiving "main.js") (archivingPlugins "main.js")).compile archivedDisk (.new ()) =
          .ok compilation last ∧
        chunk ∈ compilation.chunks ∧
        chunk.filename (archiving "main.js").output.filename (Bundle.render chunk compilation.graph) =
          "main.js" ∧
        ∀ code, compilation.assets.find? "main.js" ≠ some (.text code) := by
  have answer : script? ((withPlugins (archiving "main.js")
      (archivingPlugins "main.js")).compile archivedDisk (.new ())) = some (["main"], false) := by
    decide +kernel
  refine ⟨rfl, rfl, ?_⟩
  cases compiled : (withPlugins (archiving "main.js") (archivingPlugins "main.js")).compile
      archivedDisk (.new ()) with
  | error error last =>
    rw [compiled] at answer
    cases answer
  | ok compilation last =>
    rw [compiled] at answer
    obtain ⟨asset, held, same⟩ := Option.map_eq_some_iff.1 answer
    obtain ⟨names, binary⟩ := Prod.ext_iff.1 same
    obtain ⟨chunk, chunks, named⟩ := List.map_eq_singleton_iff.1 names
    refine ⟨compilation, last, chunk, rfl, chunks ▸ List.mem_cons_self, filename_of_name named _, ?_⟩
    intro code text
    rw [text] at held
    cases held
    cases binary

end Bundler

end ModuleBundler
