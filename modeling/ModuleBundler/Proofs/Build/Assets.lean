import ModuleBundler.Proofs.Build.Entries
import ModuleBundler.Proofs.Bundle.Filename
import ModuleBundler.Proofs.Config
import ModuleBundler.Proofs.Table

/-!
The assets that chunks become. Each chunk goes to a file of its own, so that none is written over another.
-/

namespace ModuleBundler

namespace Bundler

variable {ω : Type}

theorem chunk_names {setup : Discover.Setup (Session ω)} {config : Config} {compilation : Compilation}
    {session last : Session ω}
    (found : discover setup config.entries.entries (.new config) session = .ok compilation last) :
    compilation.chunks.map (·.name) = config.entries.names := by
  obtain ⟨settled, -⟩ := settled_discover config.entries.entries (settled_new config)
    config.entries.ascending (by simp [Compilation.new]) found
  obtain ⟨entries, listed, enters⟩ := enters_of_discover found
  obtain rfl : compilation.entries = entries := listed
  rw [settled.assembled, List.map_map]
  exact enters.names

/-- The file that a chunk goes to, with its code. -/
def chunkAsset (filename : String) (graph : ModuleGraph) (chunk : Chunk) : String × Asset :=
  (chunk.filename filename (Bundle.render chunk graph), .text (Bundle.render chunk graph))

theorem emitChunks_eq (filename : String) (compilation : Compilation) :
    emitChunks filename compilation = { compilation with
      assets := (compilation.chunks.map (chunkAsset filename compilation.graph)).foldl
        (fun table entry => table.insert entry.1 entry.2) compilation.assets } := by
  have folded : ∀ (chunks : List Chunk) (compilation : Compilation),
      chunks.foldl (emitChunk filename) compilation = { compilation with
        assets := (chunks.map (chunkAsset filename compilation.graph)).foldl
          (fun table entry => table.insert entry.1 entry.2) compilation.assets } := by
    intro chunks
    induction chunks with
    | nil => exact fun _ => rfl
    | cons chunk chunks ih => exact fun compilation => ih (emitChunk filename compilation chunk)
  exact folded compilation.chunks compilation

section Apart

variable {config : Config} (valid : config.validate = .ok config)
include valid

theorem filename_apart (chunk other : Chunk) (listed : chunk.name ∈ config.entries.names)
    (among : other.name ∈ config.entries.names) (different : chunk.name ≠ other.name)
    (code otherCode : String) :
    chunk.filename config.output.filename code ≠ other.filename config.output.filename otherCode := by
  obtain ⟨checked, -⟩ := Config.validate_eq_ok.1 valid
  exact Chunk.filename_ne (Config.asks_for_name checked listed among different) different code otherCode

theorem nodup_chunkAssets {setup : Discover.Setup (Session ω)} {compilation : Compilation}
    {session last : Session ω}
    (found : discover setup config.entries.entries (.new config) session = .ok compilation last) :
    ((compilation.chunks.map (chunkAsset config.output.filename compilation.graph)).map
      Prod.fst).Nodup := by
  have names := chunk_names found
  have distinct : (compilation.chunks.map (·.name)).Nodup := by
    rw [names]
    exact config.entries.nodup_names
  rw [List.map_map]
  refine List.pairwise_map.2 (List.Pairwise.imp_of_mem ?_ (List.pairwise_map.1 distinct))
  intro chunk other listed among different
  refine filename_apart valid chunk other ?_ ?_ different _ _
  · exact names ▸ List.mem_map_of_mem listed
  · exact names ▸ List.mem_map_of_mem among

end Apart

/-- With a configuration that has been checked, chunks of different entries go to different files,
whatever their codes are. So there is just one asset for each chunk when all have been rendered, and it
holds the code of this chunk. -/
theorem chunk_assets_apart {config : Config} (valid : config.validate = .ok config) :
    (∀ chunk other : Chunk, chunk.name ∈ config.entries.names → other.name ∈ config.entries.names →
      chunk.name ≠ other.name → ∀ code otherCode,
        chunk.filename config.output.filename code ≠ other.filename config.output.filename otherCode) ∧
      ∀ (setup : Discover.Setup (Session ω)) (compilation : Compilation) (session last : Session ω),
        discover setup config.entries.entries (.new config) session = .ok compilation last →
        let rendered := emitChunks config.output.filename compilation
        compilation.chunks.map (·.name) = config.entries.names ∧
          rendered.assets.entries.Perm
            (compilation.chunks.map (chunkAsset config.output.filename compilation.graph)) ∧
          ∀ chunk ∈ compilation.chunks,
            rendered.assets.find? (chunk.filename config.output.filename
                (Bundle.render chunk compilation.graph)) =
              some (.text (Bundle.render chunk compilation.graph)) := by
  refine ⟨filename_apart valid, fun setup compilation session last found => ?_⟩
  have all : (emitChunks config.output.filename compilation).assets.entries.Perm
      (compilation.chunks.map (chunkAsset config.output.filename compilation.graph)) := by
    have fresh : compilation.assets = {} := by
      rw [discover_shape found]
      rfl
    rw [emitChunks_eq, fresh]
    exact Table.ofList_perm (nodup_chunkAssets valid found)
  refine ⟨chunk_names found, all, fun chunk listed => ?_⟩
  exact Table.find?_eq_some.2 (all.mem_iff.2 (List.mem_map_of_mem listed))

def placeholderConfig : Config where
  entry := .named (.ofList [("[name]", "left"), ("[contenthash]", "right")])
  output := { filename := "[[name]-[contenthash]].js" }
  root := ⟨"/"⟩

/-- Names that look like placeholders are not read as such. -/
theorem placeholderNames_apart :
    placeholderConfig.validate = .ok placeholderConfig ∧
      (∀ code otherCode,
        (Chunk.mk "[name]" "./left" []).filename "[[name]-[contenthash]].js" code ≠
          (Chunk.mk "[contenthash]" "./right" []).filename "[[name]-[contenthash]].js" otherCode) ∧
      ∃ compilation last,
        discover circleSetup placeholderConfig.entries.entries (.new placeholderConfig) (.new ()) =
            .ok compilation last ∧
          compilation.chunks.map (·.name) = ["[contenthash]", "[name]"] ∧
          (emitChunks "[[name]-[contenthash]].js" compilation).assets.entries.Perm
            (compilation.chunks.map
              (chunkAsset "[[name]-[contenthash]].js" compilation.graph)) := by
  have valid : placeholderConfig.validate = .ok placeholderConfig :=
    Config.validate_eq_ok.2 ⟨by decide, rfl⟩
  have outcome : chunkModules (discover circleSetup placeholderConfig.entries.entries
      (.new placeholderConfig) (.new ())) =
        [["./right", "./shared"], ["./right", "./shared", "./left"]] := by decide +kernel
  have names : placeholderConfig.entries.names = ["[contenthash]", "[name]"] := by decide
  refine ⟨valid, fun code otherCode => ?_, ?_⟩
  · exact (chunk_assets_apart (ω := Unit) valid).1 _ _ (by rw [names]; simp) (by rw [names]; simp)
      (by decide) code otherCode
  · cases found : discover circleSetup placeholderConfig.entries.entries (.new placeholderConfig)
        (.new ()) with
    | error error last =>
      rw [found] at outcome
      cases outcome
    | ok compilation last =>
      obtain ⟨named, all, -⟩ := (chunk_assets_apart valid).2 _ _ _ _ found
      exact ⟨compilation, last, rfl, named.trans names, all⟩

end Bundler

end ModuleBundler
