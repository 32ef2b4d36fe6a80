import ModuleBundler.Proofs.Path.Direct

/-!
Normal forms of all paths, absolute or not. A normal form has steps up at its start only, and none from the
root; it is its own normal form. What is left of a path in normal form acts on whatever is in front of it as
the path does, so that paths may be normalized before they are joined.
-/

namespace ModuleBundler

/-- What is left of components without a root acts on others as the components do. -/
theorem Component.foldl_onto_reverse {components : List Component} (relative : .root ∉ components)
    (named : ∀ name, .normal name ∈ components → Location.Plain [name]) (below : List Component) :
    (components.foldl onto []).reverse.foldl onto below = components.foldl onto below := by
  induction components using List.reverseRecOn with
  | nil => rfl
  | append_singleton front component ih =>
    rw [List.mem_append, not_or, List.mem_singleton] at relative
    have earlier : ∀ name, .normal name ∈ front → Location.Plain [name] :=
      fun name member => named name (List.mem_append_left _ member)
    obtain ⟨ups, place, -, folded⟩ := Location.exists_foldl_stackBelow relative.1 earlier 0
      (show Location.Plain [] by simp [Location.Plain])
    have before := ih relative.1 earlier
    rw [List.foldl_append, List.foldl_append, List.foldl_cons, List.foldl_nil, List.foldl_cons,
      List.foldl_nil, ← before, show front.foldl onto [] = Location.stackBelow ups place from folded]
    cases component with
    | root => exact absurd rfl relative.2
    | current => rfl
    | normal name => simp [onto]
    | parent =>
      -- a step up takes away the last name that is left, and stays where there is none
      rcases place.eq_nil_or_concat with rfl | ⟨high, last, rfl⟩
      · cases ups <;> simp [Location.stackBelow, onto, List.replicate_succ]
      · simp [Location.stackBelow, onto]

theorem Location.foldl_onto_names (place : Location) (below : List Component) :
    (place.map Component.normal).foldl Component.onto below =
      (place.map Component.normal).reverse ++ below := by
  induction place generalizing below with
  | nil => rfl
  | cons name place ih => simp [ih, Component.onto]

theorem Location.stack_injective : Function.Injective Location.stack := by
  intro place other same
  have names := List.reverse_injective (List.append_cancel_right same)
  exact List.map_injective_iff.2 (fun _ _ => Component.normal.inj) names

theorem Location.componentOf?_step {name : String}
    (clean : name ≠ "" ∧ name ≠ "." ∧ '/' ∉ name.toList) :
    componentOf? name.toList = some (stepOf name) := by
  by_cases up : name = ".."
  · rw [up]
    rfl
  · rw [componentOf?_toList ⟨clean.1, clean.2.1, up, clean.2.2⟩, stepOf, if_neg up]

namespace Path

theorem filterMap_namesOf (pieces : List (List Char)) :
    (namesOf pieces).filterMap (componentOf? ·.toList) = pieces.filterMap componentOf? := by
  rw [namesOf, List.filterMap_map, List.filterMap_filter]
  refine List.filterMap_congr fun piece _ => ?_
  by_cases empty : piece = []
  · simp [empty, componentOf?, isIdle]
  · simp [empty]

/-- The components of a path are taken onto others name by name. -/
theorem foldl_components (path : Path) (below : List Component) :
    path.components.foldl Component.onto below =
      (path.names.filterMap (componentOf? ·.toList)).foldl Component.onto
        (if path.isAbsolute then .root :: below else below) := by
  have dot : (namesOf (splitSlashes ['.'])).filterMap (componentOf? ·.toList) = [] := rfl
  rw [names_eq_parts, List.filterMap_append, filterMap_namesOf path.parts.2]
  unfold components isAbsolute
  rcases path.parts_cases with ⟨rest, whole, parts⟩ | ⟨rest, whole, parts⟩ | ⟨whole, parts⟩ |
    ⟨relative, parts⟩ <;> rw [parts]
  · rw [whole]
    rfl
  · rw [whole, dot]
    rfl
  · rw [whole, dot]
    rfl
  · rw [if_neg (by simpa using relative)]
    rfl

theorem foldl_components_join {path below : Path} (relative : below.isAbsolute = false)
    (stack : List Component) :
    (path.join below).components.foldl Component.onto stack =
      below.components.foldl Component.onto (path.components.foldl Component.onto stack) := by
  rw [foldl_components, foldl_components below, foldl_components path, names_join, isAbsolute_join,
    relative, if_neg Bool.false_ne_true, if_neg Bool.false_ne_true, Bool.false_or,
    List.filterMap_append, List.foldl_append]

theorem exists_normalComponents (path : Path) : ∃ ups place, Location.Plain place ∧
    path.normalComponents =
      (if path.isAbsolute then [.root] else List.replicate ups .parent) ++ place.map .normal := by
  cases start : path.isAbsolute with
  | true => exact ⟨0, path.place [], plain_place start [], normalComponents_of_isAbsolute start⟩
  | false =>
    obtain ⟨relative, named⟩ := components_of_relative start
    obtain ⟨ups, place, plain, folded⟩ := Location.exists_foldl_stackBelow relative named 0
      (show Location.Plain [] by simp [Location.Plain])
    refine ⟨ups, place, plain, ?_⟩
    rw [normalComponents, show path.components.foldl Component.onto [] =
      Location.stackBelow ups place from folded]
    simp [Location.stackBelow]

/-- A relative path that is written by names has the steps that these are. -/
theorem components_joinSlashes {names : List String}
    (clean : ∀ name ∈ names, name ≠ "" ∧ name ≠ "." ∧ '/' ∉ name.toList) :
    (ofCharacters (joinSlashes (names.map String.toList))).components = names.map Location.stepOf := by
  rcases names with _ | ⟨first, rest⟩
  · rfl
  have pieces : splitSlashes (joinSlashes ((first :: rest).map String.toList)) =
      (first :: rest).map String.toList := by
    refine splitSlashes_joinSlashes (by simp) fun piece member => ?_
    obtain ⟨name, listed, rfl⟩ := List.mem_map.1 member
    exact (clean name listed).2.2
  obtain ⟨filled, notDot, -⟩ := clean first List.mem_cons_self
  have notStart {start : List Char} {others : List (List Char)}
      (cut : (first :: rest).map String.toList = start :: others) : start ≠ [] ∧ start ≠ ['.'] := by
    obtain rfl : first.toList = start := (List.cons.inj cut).1
    exact ⟨fun empty => filled (String.toList_eq_nil_iff.1 empty),
      fun dot => notDot (String.toList_injective dot)⟩
  have steps : ((first :: rest).map String.toList).filterMap componentOf? =
      (first :: rest).map Location.stepOf := by
    rw [List.filterMap_map]
    refine List.filterMap_eq_map_iff_forall_eq_some.2 fun name member => ?_
    exact Location.componentOf?_step (clean name member)
  generalize (first :: rest).map String.toList = written at pieces notStart steps ⊢
  unfold components
  rcases (ofCharacters (joinSlashes written)).parts_cases with
    ⟨text, whole, -⟩ | ⟨text, whole, -⟩ | ⟨whole, -⟩ | ⟨-, parts⟩
  · rw [characters_ofCharacters] at whole
    rw [whole, splitSlashes_slash] at pieces
    exact absurd rfl (notStart pieces.symm).1
  · rw [characters_ofCharacters] at whole
    rw [whole, show '.' :: '/' :: text = ['.'] ++ '/' :: text from rfl, splitSlashes_append] at pieces
    exact absurd rfl (notStart pieces.symm).2
  · rw [characters_ofCharacters] at whole
    rw [whole] at pieces
    exact absurd rfl (notStart pieces.symm).2
  · rw [parts, characters_ofCharacters, pieces]
    exact steps

/-- The components of a normal form are those that it is made of. -/
theorem components_normalize (path : Path) : path.normalize.components = path.normalComponents := by
  obtain ⟨ups, place, plain, shape⟩ := path.exists_normalComponents
  cases start : path.isAbsolute with
  | true =>
    rw [normalize_of_isAbsolute start, Location.components_path (plain_place start []),
      normalComponents_of_isAbsolute start]
  | false =>
    have steps : path.normalComponents = (List.replicate ups ".." ++ place).map Location.stepOf := by
      rw [shape, start, if_neg Bool.false_ne_true, List.map_append, Location.map_stepOf plain,
        List.map_replicate]
      rfl
    rw [normalize, steps, Location.ofComponents_steps]
    refine components_joinSlashes fun name member => ?_
    rcases List.mem_append.1 member with up | below
    · rw [List.eq_of_mem_replicate up]
      decide
    · obtain ⟨filled, notDot, -, clean⟩ := plain name below
      exact ⟨filled, notDot, clean⟩

theorem isAbsolute_normalize_eq (path : Path) : path.normalize.isAbsolute = path.isAbsolute := by
  cases start : path.isAbsolute with
  | true => exact isAbsolute_normalize start
  | false =>
    rw [Bool.eq_false_iff]
    intro absolute
    obtain ⟨rest, whole⟩ := exists_rest absolute
    obtain ⟨ups, place, -, shape⟩ := path.exists_normalComponents
    have root : Component.root ∈ path.normalComponents := by
      rw [← components_normalize, components_of_characters whole]
      exact List.mem_cons_self
    rw [shape, start] at root
    simp at root

theorem foldl_normalize (path : Path) :
    path.normalize.components.foldl Component.onto [] = path.components.foldl Component.onto [] := by
  rw [components_normalize]
  cases start : path.isAbsolute with
  | true =>
    rw [← List.reverse_reverse (path.components.foldl Component.onto []), ← normalComponents,
      normalComponents_of_isAbsolute start, List.foldl_cons, Location.foldl_onto_names,
      List.reverse_cons]
    rfl
  | false =>
    obtain ⟨relative, named⟩ := components_of_relative start
    exact Component.foldl_onto_reverse relative named []

theorem foldl_normalize_of_relative {path : Path} (relative : path.isAbsolute = false)
    (below : List Component) :
    path.normalize.components.foldl Component.onto below =
      path.components.foldl Component.onto below := by
  obtain ⟨rootless, named⟩ := components_of_relative relative
  rw [components_normalize]
  exact Component.foldl_onto_reverse rootless named below

theorem normalize_congr {path other : Path} (same : path.components.foldl Component.onto [] =
    other.components.foldl Component.onto []) : path.normalize = other.normalize := by
  rw [normalize, normalize, normalComponents, normalComponents, same]

theorem normalize_normalize (path : Path) : path.normalize.normalize = path.normalize :=
  normalize_congr path.foldl_normalize

theorem normalize_join (path below : Path) :
    (path.join below).normalize = (path.normalize.join below.normalize).normalize := by
  cases start : below.isAbsolute with
  | true =>
    have absolute : below.normalize.isAbsolute = true := isAbsolute_normalize start
    rw [join, if_pos start, join, if_pos absolute, normalize_normalize]
  | false =>
    have relative : below.normalize.isAbsolute = false := by rw [isAbsolute_normalize_eq, start]
    refine normalize_congr ?_
    rw [foldl_components_join start, foldl_components_join relative,
      foldl_normalize_of_relative start, foldl_normalize]

theorem stack_place {path : Path} (relative : path.isAbsolute = false) (working : Location) :
    (path.place working).stack = path.components.foldl Component.onto working.stack := by
  rw [foldl_components, relative, if_neg Bool.false_ne_true, place, relative,
    if_neg Bool.false_ne_true, names_eq, filterMap_namesOf, foldl_onto]

theorem place_normalize (path : Path) (working : Location) :
    path.normalize.place working = path.place working := by
  cases start : path.isAbsolute with
  | true =>
    rw [normalize_of_isAbsolute start, Location.place_path (plain_place start []),
      place_of_isAbsolute start working]
  | false =>
    have relative : path.normalize.isAbsolute = false := by rw [isAbsolute_normalize_eq, start]
    apply Location.stack_injective
    rw [stack_place relative, stack_place start, foldl_normalize_of_relative start]

/-- Components in normal form: no dots, no steps up from the root, and elsewhere none behind a name. -/
structure IsNormal (path : Path) : Prop where
  no_dot : .current ∉ path.components
  no_parent : path.isAbsolute = true → .parent ∉ path.components
  parents_first : path.isAbsolute = false → ∃ ups below,
    path.components = List.replicate ups .parent ++ below ∧ .parent ∉ below

theorem isNormal_normalize (path : Path) : path.normalize.IsNormal := by
  obtain ⟨ups, place, -, shape⟩ := path.exists_normalComponents
  have steps := path.components_normalize.trans shape
  have start := path.isAbsolute_normalize_eq
  refine ⟨?_, fun absolute => ?_, fun relative => ⟨ups, place.map .normal, ?_, by simp⟩⟩
  · rw [steps]
    split <;> simp
  · rw [steps, if_pos (start.symm.trans absolute)]
    simp
  · rw [steps, if_neg (by rw [← start, relative]; exact Bool.false_ne_true)]

/-- Normalizing gives a normal form, which is its own and leads where the path does; and it makes no
difference whether paths are normalized before they are joined or only afterwards. -/
theorem normalize_canonical (path below : Path) :
    path.normalize.IsNormal ∧ path.normalize.isAbsolute = path.isAbsolute ∧
      path.normalize.normalize = path.normalize ∧
      (∀ working, path.normalize.place working = path.place working) ∧
      (path.join below).normalize = (path.normalize.join below.normalize).normalize :=
  ⟨path.isNormal_normalize, path.isAbsolute_normalize_eq, path.normalize_normalize,
    path.place_normalize, path.normalize_join below⟩

example : (Path.join ⟨"a/../.."⟩ ⟨"./b/../../c/"⟩).normalize = ⟨"../../c"⟩ := by decide

end Path

end ModuleBundler
