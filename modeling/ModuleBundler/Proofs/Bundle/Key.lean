import ModuleBundler.Proofs.Bundle.Loader
import ModuleBundler.Proofs.Graph.History
import ModuleBundler.Proofs.Resolver
import ModuleBundler.Proofs.Text.Literal

/-!
Names in quotes. Whatever a name holds, it is quoted so that it can be read back; so the ids of external
modules differ from each other and from those of files, and so do the keys under which a script registers its
modules.
-/

namespace ModuleBundler.Bundle

open ModuleGraph (edited)
open Text (quoted)
open Text.Quoted (Body)

variable {graph : ModuleGraph} {ids : List String}

theorem exists_renderModule_eq (id : String) (module : Module) : ∃ function,
    renderModule id module = "\n/***/ " ++ quoted id ++ ": (function (module, exports, " ++ function := by
  refine ⟨loaderName ++ ") \x7b // " ++ id ++ (if module.isExternal then " (external)" else "") ++ "\n" ++
    module.source ++ "\n/***/ \x7d),\n", ?_⟩
  simp only [renderModule, moduleHeader, String.append_assoc]

theorem eq_of_quoted_eq {one other : String × Module} (first : one ∈ registered graph ids)
    (second : other ∈ registered graph ids) (same : quoted one.1 = quoted other.1) : one = other := by
  obtain ⟨id, -, found⟩ := List.mem_filterMap.1 first
  obtain ⟨otherId, -, met⟩ := List.mem_filterMap.1 second
  obtain ⟨module, looked, rfl⟩ := Option.map_eq_some_iff.1 found
  obtain ⟨otherModule, seen, rfl⟩ := Option.map_eq_some_iff.1 met
  obtain rfl : id = otherId := Text.quoted_injective same
  rw [looked] at seen
  rw [Option.some.inj seen]

theorem assemble_present (indexed : graph.Indexed) (name entryModule : String) :
    (∀ id ∈ (Chunk.assemble name entryModule graph).modules, ∃ module, graph.find? id = some module) ∧
      (Chunk.assemble name entryModule graph).modules.Nodup := by
  refine ⟨fun id listed => ?_, ?_⟩
  · obtain ⟨module, owned, rfl⟩ := List.mem_map.1 listed
    exact ⟨module, (indexed.find?_iff _ _).2 ⟨List.mem_of_mem_filter owned, rfl⟩⟩
  · exact indexed.nodup_ids.sublist (List.filter_sublist.map _)

/-- What is quoted is read back, so that names in quotes are kept apart. An external module has its request in
its id and is neither another one nor a file, and a script registers every module under a key of its own: in
each script the modules that are not the same have different keys, and in the script of a chunk of any graph
that was built the keys are those of its modules and no two of them agree. -/
theorem quoted_names_apart :
    (∀ text : String, ∃ body,
        (quoted text).toList = '\x22' :: (body ++ ['\x22']) ∧ Body text.toList body) ∧
      Function.Injective externalId ∧
      (∀ (resolver : Resolver) (path : Path) (request : String),
        resolver.moduleId path ≠ externalId request) ∧
      (∀ (graph : ModuleGraph) (ids : List String),
        renderModules graph ids =
            String.join ((registered graph ids).map fun entry => renderModule entry.1 entry.2) ∧
          (∀ entry ∈ registered graph ids, ∃ function, renderModule entry.1 entry.2 =
            "\n/***/ " ++ quoted entry.1 ++ ": (function (module, exports, " ++ function) ∧
          ∀ one ∈ registered graph ids, ∀ other ∈ registered graph ids,
            quoted one.1 = quoted other.1 → one = other) ∧
      ∀ (edits : List ModuleGraph.Edit) (name entryModule : String),
        let chunk := Chunk.assemble name entryModule (edited edits)
        (registered (edited edits) chunk.modules).map Prod.fst = chunk.modules ∧
          (chunk.modules.map quoted).Nodup := by
  refine ⟨fun text => ⟨_, Text.toList_quoted text, Text.Quoted.body_encode _⟩, externalId_injective,
    moduleId_ne_externalId, fun graph ids => ⟨renderModules_eq graph ids,
      fun entry _ => exists_renderModule_eq entry.1 entry.2, fun one first other second =>
        eq_of_quoted_eq first second⟩, fun edits name entryModule => ?_⟩
  obtain ⟨present, distinct⟩ := assemble_present (ModuleGraph.indexed_edited edits) name entryModule
  exact ⟨registered_ids present, distinct.map Text.quoted_injective⟩

end ModuleBundler.Bundle
