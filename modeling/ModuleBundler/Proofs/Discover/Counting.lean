import ModuleBundler.Proofs.Discover.Nesting
import Mathlib.Data.Fintype.BigOperators
import Mathlib.Data.Fintype.Option

/-!
How many calls and modules there can be. Calls that wait for each other are for different files, so that
they are bounded by the paths that can be looked up, and, where paths are absolute, by the files that there
are.
-/

namespace ModuleBundler

def bytesWithin (limit : Nat) (text : String) (place : Fin limit) : Option (Fin 256) :=
  text.toUTF8.data.toList[place.val]?.map UInt8.toFin

theorem eq_of_bytesWithin_eq {limit : Nat} {text other : String} (short : text.utf8ByteSize ≤ limit)
    (brief : other.utf8ByteSize ≤ limit) (same : bytesWithin limit text = bytesWithin limit other) :
    text = other := by
  have bytes : text.toUTF8.data.toList = other.toUTF8.data.toList := by
    apply List.ext_getElem?
    intro place
    by_cases within : place < limit
    · have here := congrFun same ⟨place, within⟩
      exact Option.map_injective (fun _ _ equal => UInt8.toFin_inj.1 equal) here
    · rw [Nat.not_lt] at within
      rw [List.getElem?_eq_none, List.getElem?_eq_none]
      · exact Nat.le_trans brief within
      · exact Nat.le_trans short within
  exact String.toByteArray_inj.1 (ByteArray.ext (Array.toList_inj.1 bytes))

theorem length_le_of_nodup {limit : Nat} {texts : List String} (distinct : texts.Nodup)
    (short : ∀ text ∈ texts, text.utf8ByteSize ≤ limit) : texts.length ≤ Nat.pow 257 limit := by
  have images : (texts.map (bytesWithin limit)).Nodup :=
    distinct.map_on fun text member other listed same =>
      eq_of_bytesWithin_eq (short text member) (short other listed) same
  calc texts.length
    _ = (texts.map (bytesWithin limit)).length := (List.length_map _).symm
    _ ≤ Fintype.card (Fin limit → Option (Fin 256)) := images.length_le_card
    _ = 257 ^ limit := by
      rw [Fintype.card_fun, Fintype.card_option, Fintype.card_fin, Fintype.card_fin]
    _ = Nat.pow 257 limit := Nat.pow_eq.symm

namespace FileSystem

theorem utf8ByteSize_le_of_isFile {disk : FileSystem} {path : Path}
    (isFile : disk.isFile path = true) : path.text.utf8ByteSize ≤ pathLimit := by
  obtain ⟨located, -⟩ := isFile_iff.1 isFile
  have legal := (locate_eq_ok.1 located).1
  unfold Path.fault? at legal
  by_contra long
  rw [Nat.not_le] at long
  split at legal
  · cases legal
  · split at legal <;> cases legal

theorem length_le_pathCount {disk : FileSystem} {paths : List Path} (distinct : paths.Nodup)
    (files : ∀ path ∈ paths, disk.isFile path = true) : paths.length ≤ pathCount := by
  have texts : (paths.map Path.text).Nodup :=
    distinct.map fun _ _ same => congrArg Path.mk same
  have short : ∀ text ∈ paths.map Path.text, text.utf8ByteSize ≤ pathLimit := by
    intro text member
    obtain ⟨path, listed, rfl⟩ := List.mem_map.1 member
    exact utf8ByteSize_le_of_isFile (files path listed)
  rw [← List.length_map Path.text]
  unfold pathCount
  -- with the number itself in place the power would be worked out
  generalize pathLimit = limit at short ⊢
  exact length_le_of_nodup texts short

end FileSystem

namespace Discover

variable {σ : Type} {setup : Setup σ} {entry : String}

/-- Calls are nested less deeply than there are paths, whatever modules require. -/
theorem addEntry_spares_tooDeep {deep path : Path} {graph : ModuleGraph} (indexed : graph.Indexed)
    (state : σ) (final : ModuleGraph × σ) :
    addEntry setup entry path (graph, state) ≠ .error (.tooDeep deep) final := by
  intro failed
  obtain ⟨call, calls, stack, length⟩ := exists_stack_of_tooDeep _ failed
  have piled := stack.piled indexed
  have distinct : (calls.map Call.path).Nodup := by
    apply List.Nodup.of_map setup.around.resolver.moduleId
    rw [List.map_map]
    exact piled.distinct
  have bound := FileSystem.length_le_pathCount distinct fun path member => by
    obtain ⟨one, listed, rfl⟩ := List.mem_map.1 member
    exact piled.files one listed
  rw [List.length_map, length] at bound
  generalize FileSystem.pathCount = count at bound
  omega

def Setup.fileIds (setup : Setup σ) : Finset String :=
  setup.around.disk.files.image setup.around.resolver.fileId

theorem card_fileIds_le (setup : Setup σ) : setup.fileIds.card ≤ setup.around.disk.files.card :=
  Finset.card_image_le

theorem Setup.Rooted.id_mem {path : Path} (rooted : setup.Rooted path) :
    setup.around.resolver.moduleId path ∈ setup.fileIds := by
  rw [setup.around.resolver.moduleId_of_isAbsolute setup.around.disk rooted.1]
  exact Finset.mem_image_of_mem _ (FileSystem.placeOf_mem_files rooted.2)

def Setup.Sourced (setup : Setup σ) (graph : ModuleGraph) : Prop :=
  ∀ module ∈ graph.normalContents, module.id ∈ setup.fileIds

/-- The files whose ids are not in a graph. -/
def Setup.unread (setup : Setup σ) (graph : ModuleGraph) : Finset Location :=
  {place ∈ setup.around.disk.files | graph.contains (setup.around.resolver.fileId place) = false}

theorem length_le_of_mem_fileIds {ids : List String} (distinct : ids.Nodup)
    (known : ∀ id ∈ ids, id ∈ setup.fileIds) : ids.length ≤ setup.around.disk.files.card :=
  calc ids.length
    _ = ids.toFinset.card := (List.toFinset_card_of_nodup distinct).symm
    _ ≤ setup.fileIds.card := Finset.card_le_card fun id member => known id (List.mem_toFinset.1 member)
    _ ≤ setup.around.disk.files.card := card_fileIds_le setup

theorem Setup.Sourced.length_le {graph : ModuleGraph} (sourced : setup.Sourced graph)
    (indexed : graph.Indexed) : graph.normalContents.length ≤ setup.around.disk.files.card := by
  have all : (graph.contents.map Module.id).Nodup := by
    rw [ModuleGraph.map_id_contents]
    exact indexed.nodup_ids
  have distinct : (graph.normalContents.map Module.id).Nodup :=
    all.sublist (List.filter_sublist.map Module.id)
  rw [← List.length_map Module.id]
  refine length_le_of_mem_fileIds distinct fun id member => ?_
  obtain ⟨module, listed, rfl⟩ := List.mem_map.1 member
  exact sourced module listed

theorem Visits.sourced {needs : List Dependency} {graph final : ModuleGraph} {state last : σ}
    (visits : Visits setup entry needs graph state final last) (indexed : graph.Indexed)
    (sourced : setup.Sourced graph)
    (starts : ∀ need ∈ needs, ∀ path, need.target = .file path → setup.Rooted path) :
    setup.Sourced final := by
  obtain ⟨readings, -, explores, rooted⟩ := visits.explores indexed setup.keeps_rooted starts
  intro module member
  rw [explores.normal] at member
  rcases List.mem_append.1 member with old | new
  · exact sourced module old
  · obtain ⟨reading, listed, rfl⟩ := List.mem_map.1 new
    exact (rooted reading listed).id_mem

/-- In a call for a file at an absolute path there are no modules but those of files. -/
theorem Call.Inside.sourced {call : Call σ} {behind : List Dependency} {graph : ModuleGraph}
    {state : σ} (inside : call.Inside setup entry behind graph state) (indexed : call.graph.Indexed)
    (sourced : setup.Sourced call.graph) (rooted : setup.Rooted call.path) :
    setup.Sourced graph := by
  cases inside with
  | @following depth path before graph start read state extracted front behind absent source cut followed =>
    refine (visits_of_forM followed).sourced (indexed.insert _) ?_ ?_
    · intro module member
      have inserted : (before.insert (setup.normalModule entry path extracted)).2.contents = _ :=
        ModuleGraph.contents_insert absent
      rw [ModuleGraph.normalContents, inserted, List.filter_append] at member
      rcases List.mem_append.1 member with old | new
      · exact sourced module old
      · obtain rfl := List.mem_singleton.1 (List.mem_filter.1 new).1
        exact rooted.id_mem
    · intro need member path file
      refine sound_of_load setup.keeps_rooted source rooted ?_ file
      rw [cut]
      exact List.mem_append_left _ member

theorem Stack.sourced {outermost call : Call σ} {calls : List (Call σ)}
    (stack : Stack setup entry outermost call calls) (indexed : outermost.graph.Indexed)
    (sourced : setup.Sourced outermost.graph) (rooted : setup.Rooted outermost.path) :
    setup.Sourced call.graph := by
  induction stack with
  | entered => exact sourced
  | nested under nests ih =>
    obtain ⟨-, need, behind, -, inside⟩ := nests
    exact inside.sourced (under.piled indexed).indexed ih
      (under.sound setup.keeps_rooted rooted _ List.mem_cons_self)

/-- A call that another one makes finds fewer files that have not been read. -/
theorem Call.Inside.unread_ssubset {call : Call σ} {behind : List Dependency} {graph : ModuleGraph}
    {state : σ} (inside : call.Inside setup entry behind graph state) (indexed : call.graph.Indexed)
    (rooted : setup.Rooted call.path) : setup.unread graph ⊂ setup.unread call.graph := by
  have known : setup.around.resolver.fileId (setup.around.disk.placeOf call.path) = call.id setup :=
    (setup.around.resolver.moduleId_of_isAbsolute setup.around.disk rooted.1).symm
  rw [Finset.ssubset_iff_of_subset]
  · refine ⟨setup.around.disk.placeOf call.path, ?_, ?_⟩
    · refine Finset.mem_filter.2 ⟨FileSystem.placeOf_mem_files rooted.2, ?_⟩
      rw [known]
      exact inside.absent
    · intro still
      have missing := (Finset.mem_filter.1 still).2
      rw [known, inside.contains_id indexed] at missing
      cases missing
  · intro place member
    obtain ⟨held, missing⟩ := Finset.mem_filter.1 member
    exact Finset.mem_filter.2 ⟨held, inside.lacks_of_lacks indexed missing⟩

end Discover

end ModuleBundler
