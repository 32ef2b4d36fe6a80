import ModuleBundler.Proofs.Graph.Walk
import Mathlib.Data.List.Induction

/-!
What is left of a history of edits in a graph that was empty at first. A module is what was first inserted
under its id, with the source that was set last and with the owners that came behind its first one.
-/

namespace ModuleBundler

def Module.setSource (source : String) (module : Module) : Module :=
  { module with source }

@[simp] theorem Module.setSource_id (source : String) (module : Module) :
    (module.setSource source).id = module.id :=
  rfl

namespace ModuleGraph

structure Insertion where
  id : String
  kind : ModuleKind
  source : String
  dependencies : List String
  entry : String
  deriving DecidableEq, Repr, Inhabited

def Insertion.module (new : Insertion) : Module :=
  .new new.id new.kind new.source new.dependencies new.entry

/-- A change that a graph may be asked for. -/
inductive Edit where
  | insert (new : Insertion)
  | own (id entry : String)
  | setSource (id source : String)
  deriving DecidableEq, Repr, Inhabited

/-- The graph after an edit. -/
def edit (graph : ModuleGraph) : Edit → ModuleGraph
  | .insert new => (graph.insert new.module).2
  | .own id entry => graph.addOwner id entry
  | .setSource id source => graph.update id (Module.setSource source)

/-- The graph after a history of edits. -/
def edited (edits : List Edit) : ModuleGraph :=
  edits.foldl edit .empty

/-- The ids of a history's insertions, whether or not they were taken. -/
def insertedIds (edits : List Edit) : List String :=
  edits.filterMap fun
    | .insert new => some new.id
    | _ => none

/-- The sources that a history sets for an id. -/
def sourcesSet (id : String) (edits : List Edit) : List String :=
  edits.filterMap fun
    | .setSource other source => if other = id then some source else none
    | _ => none

/-- A module that an insertion has become. -/
structure Stems (new : Insertion) (source : String) (module : Module) : Prop where
  id_eq : module.id = new.id
  kind_eq : module.kind = new.kind
  dependencies_eq : module.dependencies = new.dependencies
  source_eq : module.source = source
  owners_nodup : module.owners.Nodup
  first_owner : module.owners.head? = some new.entry

theorem Stems.tagIf {new : Insertion} {source entry : String} {module : Module} {condition : Prop}
    (stems : Stems new source module) (lacks : condition → entry ∉ module.owners) :
    Stems new source (tagIf entry condition module) := by
  by_cases holds : condition
  · rw [tagIf_true entry holds]
    refine ⟨stems.id_eq, stems.kind_eq, stems.dependencies_eq, stems.source_eq, ?_, ?_⟩
    · exact List.nodup_append.2 ⟨stems.owners_nodup, List.nodup_singleton entry,
        fun owner member other same => by
          obtain rfl := List.mem_singleton.1 same
          exact fun equal => lacks holds (equal ▸ member)⟩
    · show (module.owners ++ [entry]).head? = _
      rw [List.head?_append, stems.first_owner, Option.some_or]
  · rwa [tagIf_false entry holds]

section Edit

variable {graph : ModuleGraph}

theorem find?_insert (indexed : graph.Indexed) (module : Module) (key : String) :
    (graph.insert module).2.find? key =
      (graph.find? key).or (if module.id = key then some module else none) := by
  apply Option.ext
  intro found
  rw [(indexed.insert module).find?_iff, Option.or_eq_some_iff, indexed.find?_iff,
    indexed.find?_eq_none_iff]
  cases taken : graph.contains module.id with
  | true =>
    rw [insert_of_contains taken]
    refine ⟨.inl, fun cases => cases.resolve_right ?_⟩
    rintro ⟨absent, here⟩
    split at here
    · rename_i named
      rw [named, absent] at taken
      cases taken
    · cases here
  | false =>
    rw [toList_insert taken, List.mem_append, List.mem_singleton]
    constructor
    · rintro ⟨old | rfl, named⟩
      · exact .inl ⟨old, named⟩
      · exact .inr ⟨named ▸ taken, by rw [if_pos named]⟩
    · rintro (⟨old, named⟩ | ⟨-, here⟩)
      · exact ⟨.inl old, named⟩
      · split at here
        · cases here
          exact ⟨.inr rfl, by assumption⟩
        · cases here

theorem Indexed.edit (indexed : graph.Indexed) (one : Edit) : (graph.edit one).Indexed := by
  cases one with
  | insert new => exact indexed.insert new.module
  | own id entry => exact indexed.addOwner id entry
  | setSource id source => exact indexed.update (Module.setSource_id source)

theorem ids_edit (indexed : graph.Indexed) (one : Edit) :
    (graph.edit one).modules.toList.map Module.id =
      graph.modules.toList.map Module.id ++
        (insertedIds [one]).filter fun id => !graph.contains id := by
  cases one with
  | insert new =>
    show ((graph.insert new.module).2.modules.toList.map Module.id) = _
    have named : new.module.id = new.id := rfl
    cases taken : graph.contains new.id with
    | true => simp [insert_of_contains (named ▸ taken), insertedIds, taken]
    | false => simp [toList_insert (named ▸ taken), insertedIds, taken, named]
  | own id entry =>
    show (graph.addOwner id entry).modules.toList.map Module.id = _
    rw [toList_addOwner indexed, List.map_map]
    simp [insertedIds, Function.comp_def]
  | setSource id source =>
    show (graph.update id _).modules.toList.map Module.id = _
    rw [toList_update indexed, List.map_map]
    simp [insertedIds, Function.comp_def, apply_ite Module.id]

/-- An edit leaves of a module what it was inserted with, and sets its source if it is meant to. -/
theorem Stems.edit {new : Insertion} {source : String} {module : Module} (indexed : graph.Indexed)
    (found : graph.find? new.id = some module) (stems : Stems new source module) (one : Edit) :
    ∃ later, (graph.edit one).find? new.id = some later ∧
      Stems new ((sourcesSet new.id [one]).getLast?.getD source) later := by
  cases one with
  | insert other =>
    refine ⟨module, ?_, stems⟩
    show (graph.insert other.module).2.find? new.id = _
    rw [find?_insert indexed, found, Option.some_or]
  | own id entry =>
    refine ⟨_, (find?_addOwner indexed id entry new.id).trans (by rw [found]; rfl), ?_⟩
    refine stems.tagIf fun way => ?_
    obtain ⟨other, looked, free⟩ := way.lacks
    rw [found] at looked
    cases looked
    exact free
  | setSource id text =>
    have looked : (graph.edit (.setSource id text)).find? new.id =
        some (if new.id = id then module.setSource text else module) := by
      show (graph.update id (Module.setSource text)).find? new.id = _
      rw [find?_update indexed (Module.setSource_id text), found]
      rfl
    refine ⟨_, looked, ?_⟩
    by_cases named : id = new.id
    · rw [if_pos named.symm]
      have set : sourcesSet new.id [.setSource id text] = [text] := by simp [sourcesSet, named]
      rw [set]
      exact ⟨stems.id_eq, stems.kind_eq, stems.dependencies_eq, rfl, stems.owners_nodup,
        stems.first_owner⟩
    · rw [if_neg (Ne.symm named)]
      have unset : sourcesSet new.id [.setSource id text] = [] := by simp [sourcesSet, named]
      rw [unset]
      exact stems

end Edit

theorem edited_append (edits later : List Edit) :
    edited (edits ++ later) = later.foldl edit (edited edits) :=
  List.foldl_append

theorem edited_concat (edits : List Edit) (one : Edit) :
    edited (edits ++ [one]) = (edited edits).edit one :=
  edited_append edits [one]

theorem Indexed.foldl_edit {graph : ModuleGraph} (indexed : graph.Indexed) (edits : List Edit) :
    (edits.foldl ModuleGraph.edit graph).Indexed := by
  induction edits generalizing graph with
  | nil => exact indexed
  | cons one edits ih => exact ih (indexed.edit one)

theorem indexed_edited (edits : List Edit) : (edited edits).Indexed :=
  indexed_empty.foldl_edit edits

theorem insertedIds_append (edits later : List Edit) :
    insertedIds (edits ++ later) = insertedIds edits ++ insertedIds later :=
  List.filterMap_append

/-- The modules stand in the order in which their ids were first inserted. -/
theorem ids_edited (edits : List Edit) :
    (edited edits).modules.toList.map Module.id = (insertedIds edits).eraseDups := by
  -- from the end: the last edit is made to what the others have left
  induction edits using List.reverseRecOn with
  | nil => rfl
  | append_singleton edits one ih =>
    have present (id : String) : (edited edits).contains id = (insertedIds edits).contains id := by
      rw [Bool.eq_iff_iff, (indexed_edited edits).contains_iff, ← List.mem_map, ih,
        List.contains_iff_mem, List.mem_eraseDups]
    have single (ids : List String) (few : ids.length ≤ 1) : ids.eraseDups = ids := by
      match ids with
      | [] | [_] => rfl
    have few : (insertedIds [one]).length ≤ 1 := List.length_filterMap_le _ _
    rw [edited_concat, ids_edit (indexed_edited edits), ih, insertedIds_append,
      List.eraseDups_append, List.removeAll,
      single _ (Nat.le_trans (List.length_filter_le _ _) few)]
    simp only [present, List.contains_eq_mem]

theorem contains_edited_iff (edits : List Edit) (id : String) :
    (edited edits).contains id = true ↔ id ∈ insertedIds edits := by
  rw [(indexed_edited edits).contains_iff, ← List.mem_map, ids_edited, List.mem_eraseDups]

theorem Stems.foldl_edit {graph : ModuleGraph} {new : Insertion} {source : String} {module : Module}
    (indexed : graph.Indexed) (found : graph.find? new.id = some module)
    (stems : Stems new source module) (edits : List Edit) :
    ∃ later, (edits.foldl ModuleGraph.edit graph).find? new.id = some later ∧
      Stems new ((sourcesSet new.id edits).getLast?.getD source) later := by
  induction edits generalizing graph source module with
  | nil => exact ⟨module, found, stems⟩
  | cons one edits ih =>
    obtain ⟨next, looked, still⟩ := stems.edit indexed found one
    obtain ⟨last, ended, kept⟩ := ih (indexed.edit one) looked still
    have sources : sourcesSet new.id (one :: edits) =
        sourcesSet new.id [one] ++ sourcesSet new.id edits := List.filterMap_append (l := [one])
    rw [sources, List.getLast?_append]
    refine ⟨last, ended, ?_⟩
    cases later : (sourcesSet new.id edits).getLast? with
    | none => simpa [later] using kept
    | some text => simpa [later] using kept

/-- The first insertion under an id decides what is found there, whatever comes later. -/
theorem exists_stems {edits before after : List Edit} {new : Insertion}
    (history : edits = before ++ .insert new :: after) (first : new.id ∉ insertedIds before) :
    ∃ module, (edited edits).find? new.id = some module ∧
      Stems new ((sourcesSet new.id after).getLast?.getD new.source) module := by
  have indexed := indexed_edited before
  have absent : (edited before).find? new.id = none := by
    rw [indexed.find?_eq_none_iff, ← Bool.not_eq_true, contains_edited_iff]
    exact first
  have found : ((edited before).edit (.insert new)).find? new.id = some new.module := by
    show ((edited before).insert new.module).2.find? new.id = _
    rw [find?_insert indexed, absent, Option.none_or]
    exact if_pos rfl
  have stems : Stems new new.source new.module :=
    ⟨rfl, rfl, rfl, rfl, List.nodup_singleton new.entry, rfl⟩
  rw [history, edited_append, List.foldl_cons]
  exact stems.foldl_edit (indexed.edit _) found after

/-- After every history the index fits the modules, whose ids differ and stand in the order of the successful
insertions. An insertion succeeds if its id is new, and changes nothing otherwise. Under an id stands what
was first inserted there, with the source that was set last and with different owners, the first of which is
the one that it was inserted for. -/
theorem edited_history (edits : List Edit) :
    (edited edits).Indexed ∧
      ((edited edits).modules.toList.map Module.id).Nodup ∧
      (edited edits).modules.toList.map Module.id = (insertedIds edits).eraseDups ∧
      (∀ module : Module, module.id ∈ insertedIds edits →
        (edited edits).insert module = (false, edited edits)) ∧
      (∀ module : Module, module.id ∉ insertedIds edits → ((edited edits).insert module).1 = true) ∧
      (∀ id, (edited edits).find? id = none ↔ id ∉ insertedIds edits) ∧
      ∀ before new after, edits = before ++ .insert new :: after → new.id ∉ insertedIds before →
        ∃ module, (edited edits).find? new.id = some module ∧
          Stems new ((sourcesSet new.id after).getLast?.getD new.source) module := by
  have indexed := indexed_edited edits
  refine ⟨indexed, indexed.nodup_ids, ids_edited edits, fun module taken => ?_, fun module fresh => ?_,
    fun id => ?_, fun before new after history first => exists_stems history first⟩
  · exact insert_of_contains ((contains_edited_iff edits module.id).2 taken)
  · have absent : ¬(edited edits).contains module.id = true := fun present =>
      fresh ((contains_edited_iff edits module.id).1 present)
    rw [insert, if_neg absent]
  · rw [indexed.find?_eq_none_iff, ← Bool.not_eq_true, contains_edited_iff]

example : (edited [
      .insert ⟨"./a", .normal ⟨"/a"⟩, "1", [], "first"⟩, .own "./a" "second",
      .insert ⟨"./a", .normal ⟨"/b"⟩, "2", ["./c"], "third"⟩, .setSource "./a" "3"]).modules.toList =
    [⟨"./a", .normal ⟨"/a"⟩, "3", [], ["first", "second"]⟩] := by decide +kernel

end ModuleGraph

end ModuleBundler
