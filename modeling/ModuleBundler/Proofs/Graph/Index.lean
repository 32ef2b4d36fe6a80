import ModuleBundler.Graph.Reach
import Mathlib.Data.List.Basic
import Mathlib.Data.List.Nodup
import Mathlib.Logic.Relation

/-!
The index of a module graph against its list of modules. A graph is read through `modules.toList`: what is
looked up is found there, an insertion goes behind it, and a change is made in its place.
-/

namespace ModuleBundler.ModuleGraph

/-- The index holds the place of every module under its id, and nothing else. -/
structure Indexed (graph : ModuleGraph) : Prop where
  lookup : ∀ id place, graph.index[id]? = some place ↔
    ∃ module : Module, graph.modules.toList[place]? = some module ∧ module.id = id

theorem indexed_empty : Indexed .empty where
  lookup id place := by simp [ModuleGraph.empty]

namespace Indexed

variable {graph : ModuleGraph}

theorem find?_iff (indexed : graph.Indexed) (id : String) (module : Module) :
    graph.find? id = some module ↔ module ∈ graph.modules.toList ∧ module.id = id := by
  constructor
  · intro found
    simp only [find?, bind, Option.bind_eq_some_iff] at found
    obtain ⟨place, position, here⟩ := found
    obtain ⟨other, there, named⟩ := (indexed.lookup id place).1 position
    rw [← Array.getElem?_toList, there] at here
    cases here
    exact ⟨List.mem_of_getElem? there, named⟩
  · rintro ⟨member, named⟩
    obtain ⟨place, here⟩ := List.getElem?_of_mem member
    have position := (indexed.lookup id place).2 ⟨module, here, named⟩
    simp only [find?, bind, position, Option.bind_some]
    rw [← Array.getElem?_toList, here]

theorem contains_iff (indexed : graph.Indexed) (id : String) :
    graph.contains id = true ↔ ∃ module ∈ graph.modules.toList, module.id = id := by
  rw [contains, Std.TreeMap.contains_eq_isSome_getElem?, Option.isSome_iff_exists]
  constructor
  · rintro ⟨place, position⟩
    obtain ⟨module, here, named⟩ := (indexed.lookup id place).1 position
    exact ⟨module, List.mem_of_getElem? here, named⟩
  · rintro ⟨module, member, named⟩
    obtain ⟨place, here⟩ := List.getElem?_of_mem member
    exact ⟨place, (indexed.lookup id place).2 ⟨module, here, named⟩⟩

theorem find?_eq_none_iff (indexed : graph.Indexed) (id : String) :
    graph.find? id = none ↔ graph.contains id = false := by
  rw [← Bool.not_eq_true, indexed.contains_iff, Option.eq_none_iff_forall_ne_some]
  constructor
  · rintro missing ⟨module, member, named⟩
    exact missing module ((indexed.find?_iff id module).2 ⟨member, named⟩)
  · intro missing module found
    obtain ⟨member, named⟩ := (indexed.find?_iff id module).1 found
    exact missing ⟨module, member, named⟩

theorem nodup_ids (indexed : graph.Indexed) : (graph.modules.toList.map Module.id).Nodup := by
  rw [List.nodup_iff_injective_getElem]
  rintro ⟨first, firstBound⟩ ⟨second, secondBound⟩ same
  simp only [List.length_map] at firstBound secondBound
  simp only [List.getElem_map] at same
  have left := (indexed.lookup _ first).2
    ⟨_, List.getElem?_eq_getElem firstBound, rfl⟩
  have right := (indexed.lookup _ second).2
    ⟨_, List.getElem?_eq_getElem secondBound, same.symm⟩
  rw [left] at right
  simpa using right

theorem eq_of_id_eq (indexed : graph.Indexed) {first second : Module}
    (left : first ∈ graph.modules.toList) (right : second ∈ graph.modules.toList)
    (same : first.id = second.id) : first = second :=
  List.inj_on_of_nodup_map indexed.nodup_ids left right same

end Indexed

section Insertion

variable {graph : ModuleGraph} {module : Module}

theorem insert_of_contains (taken : graph.contains module.id = true) :
    graph.insert module = (false, graph) := by
  simp [insert, taken]

theorem toList_insert (fresh : graph.contains module.id = false) :
    (graph.insert module).2.modules.toList = graph.modules.toList ++ [module] := by
  simp [insert, fresh]

theorem Indexed.insert (indexed : graph.Indexed) (module : Module) :
    (graph.insert module).2.Indexed := by
  cases fresh : graph.contains module.id with
  | true => rwa [insert_of_contains fresh]
  | false =>
    refine ⟨fun id place => ?_⟩
    rw [toList_insert fresh]
    simp only [ModuleGraph.insert, fresh, Bool.false_eq_true, if_false, Std.TreeMap.getElem?_insert,
      Std.LawfulEqCmp.compare_eq_iff_eq]
    by_cases named : module.id = id
    · subst named
      rw [if_pos rfl, Option.some.injEq]
      constructor
      · rintro rfl
        exact ⟨module, by simp, rfl⟩
      · rintro ⟨other, here, same⟩
        by_contra elsewhere
        rw [List.getElem?_append] at here
        split at here
        · have taken := (indexed.contains_iff _).2 ⟨other, List.mem_of_getElem? here, same⟩
          rw [fresh] at taken
          cases taken
        · rename_i beyond
          rw [List.getElem?_eq_some_iff] at here
          obtain ⟨bound, -⟩ := here
          simp only [Array.length_toList, List.length_singleton] at beyond bound elsewhere
          omega
    · rw [if_neg named, indexed.lookup]
      constructor
      · rintro ⟨other, here, same⟩
        exact ⟨other, by rw [List.getElem?_append_left (List.getElem?_eq_some_iff.1 here).1, here], same⟩
      · rintro ⟨other, here, same⟩
        rw [List.getElem?_append] at here
        split at here
        · exact ⟨other, here, same⟩
        · rw [List.getElem?_singleton] at here
          split at here
          · cases here
            exact absurd same named
          · cases here

end Insertion

section Change

variable {graph : ModuleGraph} {id : String} {change : Module → Module}

/-- A change is made to the module of its id and to no other one. -/
theorem toList_update (indexed : graph.Indexed) :
    (graph.update id change).modules.toList =
      graph.modules.toList.map fun module => if module.id = id then change module else module := by
  unfold update
  split
  · rename_i place position
    obtain ⟨module, here, named⟩ := (indexed.lookup id place).1 position
    apply List.ext_getElem?
    intro other
    rw [Array.toList_modify, List.getElem?_modify, List.getElem?_map]
    by_cases same : place = other
    · subst same
      simp [here, named]
    · cases found : graph.modules.toList[other]? with
      | none => simp
      | some neighbour =>
        have different : neighbour.id ≠ id := fun equal => same (by
          have again := (indexed.lookup id other).2 ⟨neighbour, found, equal⟩
          rw [position] at again
          exact Option.some.inj again)
        simp [same, different]
  · rename_i missing
    symm
    calc graph.modules.toList.map (fun module => if module.id = id then change module else module)
      _ = graph.modules.toList.map fun module => module := by
        refine List.map_congr_left fun module member => if_neg fun named => ?_
        obtain ⟨place, here⟩ := List.getElem?_of_mem member
        have found := (indexed.lookup id place).2 ⟨module, here, named⟩
        rw [missing] at found
        cases found
      _ = graph.modules.toList := List.map_id' _

theorem index_update : (graph.update id change).index = graph.index := by
  unfold update
  split <;> rfl

theorem Indexed.update (indexed : graph.Indexed)
    (keeps : ∀ module, (change module).id = module.id) : (graph.update id change).Indexed := by
  refine ⟨fun key place => ?_⟩
  rw [index_update, indexed.lookup, toList_update indexed, List.getElem?_map]
  cases found : graph.modules.toList[place]? with
  | none => simp
  | some module =>
    by_cases named : module.id = id <;> simp [named, keeps]

theorem find?_update (indexed : graph.Indexed) (keeps : ∀ module, (change module).id = module.id)
    (key : String) :
    (graph.update id change).find? key =
      (graph.find? key).map fun module => if key = id then change module else module := by
  apply Option.ext
  intro module
  rw [(indexed.update keeps).find?_iff, toList_update indexed]
  simp only [List.mem_map, Option.map_eq_some_iff, indexed.find?_iff]
  constructor
  · rintro ⟨⟨before, member, rfl⟩, named⟩
    have same : before.id = key := by
      rw [← named]
      split <;> simp only [keeps]
    exact ⟨before, ⟨member, same⟩, by rw [same]⟩
  · rintro ⟨before, ⟨member, rfl⟩, rfl⟩
    refine ⟨⟨before, member, rfl⟩, ?_⟩
    split <;> simp only [keeps]

end Change

end ModuleBundler.ModuleGraph
