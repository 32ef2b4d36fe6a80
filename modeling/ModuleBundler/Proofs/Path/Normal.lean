import ModuleBundler.Path.Normal
import ModuleBundler.Proofs.FileSystem.Place

/-!
Absolute paths in normal form. Such a path is written by the names on the way to its place. A relative path
from one place to another says where it leads: whoever follows it from the first place comes to the second.
What is written behind the path of a place changes its last name alone.
-/

namespace ModuleBundler

theorem splitSlashes_joinSlashes {pieces : List (List Char)} (some : pieces ≠ [])
    (clean : ∀ piece ∈ pieces, '/' ∉ piece) : splitSlashes (joinSlashes pieces) = pieces := by
  induction pieces with
  | nil => exact absurd rfl some
  | cons piece pieces ih =>
    have single := splitSlashes_of_not_mem (clean piece List.mem_cons_self)
    cases pieces with
    | nil => exact single
    | cons next pieces =>
      rw [joinSlashes_cons_cons, splitSlashes_append, single,
        ih (List.cons_ne_nil _ _) fun other member => clean other (List.mem_cons_of_mem _ member),
        List.singleton_append]

theorem mem_joinSlashes {pieces : List (List Char)} {c : Char} (member : c ∈ joinSlashes pieces) :
    c = '/' ∨ ∃ piece ∈ pieces, c ∈ piece := by
  induction pieces with
  | nil => cases member
  | cons piece pieces ih =>
    cases pieces with
    | nil => exact .inr ⟨piece, List.mem_cons_self, member⟩
    | cons next pieces =>
      rw [joinSlashes_cons_cons, List.mem_append, List.mem_cons] at member
      rcases member with here | slash | later
      · exact .inr ⟨piece, List.mem_cons_self, here⟩
      · exact .inl slash
      · apply (ih later).imp_right
        intro ⟨other, listed, within⟩
        exact ⟨other, List.mem_cons_of_mem _ listed, within⟩

theorem namesOf_map_toList {names : List String} (named : ∀ name ∈ names, name ≠ "") :
    namesOf (names.map String.toList) = names := by
  have kept : (names.map String.toList).filter (· ≠ []) = names.map String.toList := by
    rw [List.filter_eq_self]
    intro piece member
    obtain ⟨name, listed, rfl⟩ := List.mem_map.1 member
    simpa using named name listed
  rw [namesOf, kept, List.map_map]
  simp

namespace Location

def Plain (place : Location) : Prop :=
  ∀ name ∈ place, name ≠ "" ∧ name ≠ "." ∧ name ≠ ".." ∧ '/' ∉ name.toList

theorem Plain.pieces {place : Location} (plain : place.Plain) :
    ∀ piece ∈ place.map String.toList, '/' ∉ piece := by
  intro piece member
  obtain ⟨name, listed, rfl⟩ := List.mem_map.1 member
  exact (plain name listed).2.2.2

theorem follow_of_plain {names : List String} (plain : Plain names) (here : Location) :
    here.follow names = here ++ names := by
  induction names generalizing here with
  | nil => simp [follow]
  | cons name names ih =>
    obtain ⟨-, notDot, notParent, -⟩ := plain name List.mem_cons_self
    have first : here.enter name = here ++ [name] := enter_of_ne notDot notParent
    rw [follow, List.foldl_cons, first, ← follow,
      ih fun other member => plain other (List.mem_cons_of_mem _ member), List.append_assoc,
      List.singleton_append]

theorem Plain.enter {here : Location} (plain : here.Plain) {name : String} (named : name ≠ "")
    (clean : '/' ∉ name.toList) : (here.enter name).Plain := by
  unfold Location.enter
  split
  · exact plain
  · split
    · exact fun other member => plain other (List.dropLast_subset _ member)
    · rename_i notDot notParent
      intro other member
      rcases List.mem_append.1 member with old | new
      · exact plain other old
      · obtain rfl := List.mem_singleton.1 new
        exact ⟨named, notDot, notParent, clean⟩

theorem Plain.follow {here : Location} (plain : here.Plain) {names : List String}
    (clean : ∀ name ∈ names, name ≠ "" ∧ '/' ∉ name.toList) : (here.follow names).Plain := by
  induction names generalizing here with
  | nil => exact plain
  | cons name names ih =>
    obtain ⟨named, slashless⟩ := clean name List.mem_cons_self
    exact ih (plain.enter named slashless) fun other member =>
      clean other (List.mem_cons_of_mem _ member)

end Location

namespace Path

theorem clean_names (path : Path) : ∀ name ∈ path.names, name ≠ "" ∧ '/' ∉ name.toList := by
  intro name member
  rw [names_eq, namesOf, List.mem_map] at member
  obtain ⟨piece, listed, rfl⟩ := member
  obtain ⟨cut, named⟩ := List.mem_filter.1 listed
  constructor
  · simpa using named
  · rw [String.toList_ofList]
    exact slash_not_mem_of_mem_splitSlashes cut

theorem plain_place {path : Path} (absolute : path.isAbsolute = true) (working : Location) :
    (path.place working).Plain := by
  rw [place, if_pos absolute]
  have root : Location.Plain [] := by simp [Location.Plain]
  exact root.follow path.clean_names

theorem mem_characters_of_mem_place {path : Path} (absolute : path.isAbsolute = true)
    {working : Location} {name : String} (member : name ∈ path.place working) {c : Char}
    (within : c ∈ name.toList) : c ∈ path.characters := by
  rw [place, if_pos absolute] at member
  have listed := (Location.mem_follow member).resolve_left nofun
  rw [names_eq, namesOf, List.mem_map] at listed
  obtain ⟨piece, cut, rfl⟩ := listed
  rw [String.toList_ofList] at within
  exact mem_of_mem_splitSlashes (List.mem_filter.1 cut).1 within

theorem place_of_isAbsolute {path : Path} (absolute : path.isAbsolute = true)
    (working : Location) : path.place working = path.place [] := by
  rw [place, place, if_pos absolute, if_pos absolute]

end Path

def Location.stack (place : Location) : List Component :=
  (place.map Component.normal).reverse ++ [.root]

/-- The path of a place from the root, in normal form. -/
def Location.path (place : Location) : Path :=
  .ofComponents (.root :: place.map .normal)

namespace Path

/-- Taking one piece of a path onto a stack is a step from the place that the stack writes. -/
theorem onto_stack (here : Location) {piece : List Char} (named : piece ≠ []) :
    ((componentOf? piece).toList.foldl Component.onto here.stack) =
      (here.enter (String.ofList piece)).stack := by
  unfold componentOf? Location.enter
  by_cases dot : piece = ['.']
  · simp [dot, isIdle]
  · have busy : isIdle piece = false := by simp [isIdle, named, dot]
    have notDot : String.ofList piece ≠ "." := fun same => dot (String.ofList_injective same)
    rw [busy, if_neg Bool.false_ne_true, if_neg notDot]
    by_cases parent : piece = ['.', '.']
    · subst parent
      rw [if_pos rfl, if_pos (by decide)]
      -- the root has nothing above it
      induction here using List.reverseRecOn with
      | nil => rfl
      | append_singleton front name _ => simp [Location.stack, Component.onto]
    · have notParent : String.ofList piece ≠ ".." := fun same =>
        parent (String.ofList_injective same)
      rw [if_neg parent, if_neg notParent]
      simp [Location.stack, Component.onto]

theorem foldl_onto (here : Location) (pieces : List (List Char)) :
    (pieces.filterMap componentOf?).foldl Component.onto here.stack =
      (here.follow (namesOf pieces)).stack := by
  induction pieces generalizing here with
  | nil => rfl
  | cons piece pieces ih =>
    by_cases named : piece = []
    · subst named
      rw [namesOf_nil_cons]
      exact ih here
    · have first := onto_stack here named
      rw [namesOf_cons _ named, Location.follow, List.foldl_cons, ← Location.follow, ← ih, ← first]
      cases component : componentOf? piece with
      | none => simp [component]
      | some found => simp [component]

theorem exists_rest {path : Path} (absolute : path.isAbsolute = true) :
    ∃ rest, path.characters = '/' :: rest := by
  obtain ⟨rest, whole⟩ := List.head?_eq_some_iff.1 (by simpa [isAbsolute] using absolute)
  exact ⟨rest, whole⟩

theorem components_of_characters {path : Path} {rest : List Char}
    (whole : path.characters = '/' :: rest) :
    path.components = .root :: (splitSlashes rest).filterMap componentOf? := by
  unfold components parts
  rw [whole]
  rfl

theorem normalComponents_of_isAbsolute {path : Path} (absolute : path.isAbsolute = true) :
    path.normalComponents = .root :: (path.place []).map .normal := by
  obtain ⟨rest, whole⟩ := exists_rest absolute
  have names : path.names = namesOf (splitSlashes rest) := by
    rw [names_eq, whole, splitSlashes_slash, namesOf_nil_cons]
  have start : Component.onto [] .root = Location.stack [] := rfl
  rw [normalComponents, components_of_characters whole, List.foldl_cons, start, foldl_onto, place,
    if_pos absolute, names]
  simp [Location.stack]

theorem normalize_of_isAbsolute {path : Path} (absolute : path.isAbsolute = true) :
    path.normalize = (path.place []).path := by
  rw [normalize, normalComponents_of_isAbsolute absolute, Location.path]

end Path

namespace Location

theorem characters_path (place : Location) :
    place.path.characters = '/' :: joinSlashes (place.map String.toList) := by
  have texts : (place.map Component.normal).map (fun component => component.text.toList) =
      place.map String.toList := by
    rw [List.map_map]
    rfl
  rw [path, Path.ofComponents, Path.characters_ofCharacters, texts]

theorem isAbsolute_path (place : Location) : place.path.isAbsolute = true := by
  rw [Path.isAbsolute, characters_path]
  rfl

theorem names_path {place : Location} (plain : place.Plain) : place.path.names = place := by
  rw [Path.names_eq, characters_path, splitSlashes_slash, namesOf_nil_cons,
    namesOf_joinSlashes plain.pieces, namesOf_map_toList fun name member => (plain name member).1]

theorem place_path {place : Location} (plain : place.Plain) (working : Location) :
    place.path.place working = place := by
  rw [Path.place, if_pos (isAbsolute_path place), names_path plain, follow_of_plain plain]
  rfl

theorem componentOf?_toList {name : String}
    (plain : name ≠ "" ∧ name ≠ "." ∧ name ≠ ".." ∧ '/' ∉ name.toList) :
    componentOf? name.toList = some (.normal name) := by
  obtain ⟨named, notDot, notParent, -⟩ := plain
  have busy : isIdle name.toList = false := by
    simp only [isIdle, Bool.or_eq_false_iff, beq_eq_false_iff_ne]
    exact ⟨fun none => named (String.toList_eq_nil_iff.1 none),
      fun dot => notDot (String.toList_injective dot)⟩
  have notUp : name.toList ≠ ['.', '.'] := fun up => notParent (String.toList_injective up)
  rw [componentOf?, busy, if_neg Bool.false_ne_true, if_neg notUp, String.ofList_toList]

theorem components_path {place : Location} (plain : place.Plain) :
    place.path.components = .root :: place.map .normal := by
  rw [Path.components_of_characters (characters_path place)]
  congr 1
  cases place with
  | nil => rfl
  | cons first place =>
    rw [splitSlashes_joinSlashes (by simp) plain.pieces, List.filterMap_map]
    apply List.filterMap_eq_map_iff_forall_eq_some.2
    intro name member
    exact componentOf?_toList (plain name member)

theorem normalize_path {place : Location} (plain : place.Plain) : place.path.normalize = place.path := by
  rw [Path.normalize_of_isAbsolute (isAbsolute_path place), place_path plain]

end Location

theorem Path.isAbsolute_normalize {path : Path} (absolute : path.isAbsolute = true) :
    path.normalize.isAbsolute = true := by
  rw [Path.normalize_of_isAbsolute absolute, Location.isAbsolute_path]

namespace Location

/-- The names that lead from a base to a place: up from what they do not share, and down again. -/
def way : Location → Location → List String
  | [], place => place
  | first :: base, [] => List.replicate (first :: base).length ".."
  | first :: base, name :: place =>
    if name = first then way base place
    else List.replicate (first :: base).length ".." ++ name :: place

theorem follow_up (front base : Location) :
    (front ++ base).follow (List.replicate base.length "..") = front := by
  induction base using List.reverseRecOn with
  | nil => simp [follow]
  | append_singleton base name ih =>
    have up : (front ++ (base ++ [name])).enter ".." = front ++ base := by
      rw [← List.append_assoc, enter, if_neg (by decide), if_pos rfl, List.dropLast_concat]
    rw [List.length_append, List.length_singleton, List.replicate_succ, follow, List.foldl_cons, up]
    exact ih

/-- Whoever follows the way from a base to a place comes to the place. -/
theorem follow_way (front base : Location) {place : Location} (plain : place.Plain) :
    (front ++ base).follow (way base place) = front ++ place := by
  induction base generalizing front place with
  | nil => rw [way, List.append_nil, follow_of_plain plain]
  | cons first base ih =>
    cases place with
    | nil => rw [way, follow_up, List.append_nil]
    | cons name place =>
      unfold way
      split
      · rename_i same
        subst same
        have deeper := ih (front ++ [name]) fun other member =>
          plain other (List.mem_cons_of_mem _ member)
        simpa using deeper
      · rw [follow_append, follow_up, follow_of_plain plain]

theorem way_injective {base place other : Location} (plain : place.Plain) (clear : other.Plain)
    (same : way base place = way base other) : place = other := by
  have first := follow_way [] base plain
  rw [same, follow_way [] base clear] at first
  exact first.symm

theorem mem_way {base place : Location} {name : String} (member : name ∈ way base place) :
    name = ".." ∨ name ∈ place := by
  induction base generalizing place with
  | nil => exact .inr member
  | cons first base ih =>
    cases place with
    | nil => exact .inl (List.eq_of_mem_replicate member)
    | cons next place =>
      unfold way at member
      split at member
      · exact (ih member).imp_right (List.mem_cons_of_mem _)
      · exact (List.mem_append.1 member).imp_left List.eq_of_mem_replicate

def stepOf (name : String) : Component :=
  if name = ".." then .parent else .normal name

theorem map_stepOf {place : Location} (plain : place.Plain) :
    place.map stepOf = place.map .normal := by
  apply List.map_congr_left
  intro name member
  exact if_neg (plain name member).2.2.1

theorem map_stepOf_up (base : Location) :
    (List.replicate base.length "..").map stepOf =
      (base.map Component.normal).map fun _ => Component.parent := by
  simp [stepOf, Function.comp_def]

theorem way?_eq (base : Location) {place : Location} (plain : place.Plain) :
    Path.way? (place.map .normal) (base.map .normal) = some ((way base place).map stepOf) := by
  induction base generalizing place with
  | nil => cases place <;> simp [Path.way?, way, ← map_stepOf plain]
  | cons first base ih =>
    cases place with
    | nil =>
      rw [way, map_stepOf_up]
      rfl
    | cons name place =>
      have rest := ih fun other member => plain other (List.mem_cons_of_mem _ member)
      simp only [List.map_cons, Path.way?, way, Component.normal.injEq]
      split
      · exact rest
      · rw [List.map_append, map_stepOf plain, map_stepOf_up]
        simp

theorem ofComponents_steps (names : List String) :
    Path.ofComponents (names.map stepOf) = .ofCharacters (joinSlashes (names.map String.toList)) := by
  have texts : (names.map stepOf).map (fun component => component.text.toList) =
      names.map String.toList := by
    rw [List.map_map]
    apply List.map_congr_left
    intro name _
    rw [Function.comp_apply, stepOf]
    split
    · rename_i up
      rw [up]
      rfl
    · rfl
  rw [← texts]
  cases names with
  | nil => rfl
  | cons name names =>
    have relative : stepOf name ≠ .root := by
      unfold stepOf
      split <;> simp
    rw [List.map_cons]
    cases step : stepOf name with
    | root => exact absurd step relative
    | current => rfl
    | parent => rfl
    | normal _ => rfl

/-- A place as seen from another one. -/
def relative (base place : Location) : Path :=
  .ofCharacters (joinSlashes ((way base place).map String.toList))

theorem relativeTo?_path {base place : Location} (rooted : base.Plain) (plain : place.Plain) :
    place.path.relativeTo? base.path = some (relative base place) := by
  have same : Path.way? (.root :: place.map .normal) (.root :: base.map .normal) =
      Path.way? (place.map .normal) (base.map .normal) := by
    simp [Path.way?]
  rw [Path.relativeTo?, isAbsolute_path, isAbsolute_path, if_pos rfl, components_path plain,
    components_path rooted, same, way?_eq base plain, Option.map_some, ofComponents_steps, relative]

theorem names_relative (base : Location) {place : Location} (plain : place.Plain) :
    (relative base place).names = way base place := by
  have clean : ∀ name ∈ way base place, name ≠ "" ∧ '/' ∉ name.toList := by
    intro name member
    rcases mem_way member with rfl | listed
    · decide
    · exact ⟨(plain name listed).1, (plain name listed).2.2.2⟩
  rw [Path.names_eq, relative, Path.characters_ofCharacters, namesOf_joinSlashes,
    namesOf_map_toList fun name member => (clean name member).1]
  intro piece member
  obtain ⟨name, listed, rfl⟩ := List.mem_map.1 member
  exact (clean name listed).2

theorem relative_injective {base place other : Location} (plain : place.Plain) (clear : other.Plain)
    (same : relative base place = relative base other) : place = other := by
  have names := congrArg Path.names same
  rw [names_relative base plain, names_relative base clear] at names
  exact way_injective plain clear names

end Location

namespace Path

theorem eq_of_characters {path other : Path} (same : path.characters = other.characters) :
    path = other :=
  congrArg Path.mk (String.toList_injective same)

theorem characters_append (path : Path) (suffix : String) :
    (path.append suffix).characters = path.characters ++ suffix.toList :=
  String.toList_append

theorem isAbsolute_append {path : Path} (absolute : path.isAbsolute = true) (suffix : String) :
    (path.append suffix).isAbsolute = true := by
  obtain ⟨rest, whole⟩ := exists_rest absolute
  rw [isAbsolute, characters_append, whole]
  rfl

end Path

theorem joinSlashes_concat_append (pieces : List (List Char)) (last suffix : List Char) :
    joinSlashes (pieces ++ [last]) ++ suffix = joinSlashes (pieces ++ [last ++ suffix]) := by
  induction pieces with
  | nil => rfl
  | cons piece pieces ih =>
    cases pieces with
    | nil => simp [joinSlashes]
    | cons next pieces =>
      calc joinSlashes (piece :: next :: pieces ++ [last]) ++ suffix
        _ = piece ++ '/' :: (joinSlashes (next :: pieces ++ [last]) ++ suffix) := by
          simp [joinSlashes_cons_cons]
        _ = joinSlashes (piece :: next :: pieces ++ [last ++ suffix]) := by
          rw [ih]
          simp [joinSlashes_cons_cons]

namespace Location

/-- The path of a place with something written behind it is the path of the place with another last
name. -/
theorem append_path_concat (front : Location) (last suffix : String) :
    (Location.path (front ++ [last])).append suffix = Location.path (front ++ [last ++ suffix]) := by
  apply Path.eq_of_characters
  rw [Path.characters_append, characters_path, characters_path, List.cons_append, List.map_append,
    List.map_singleton, joinSlashes_concat_append, List.map_append, List.map_singleton,
    String.toList_append]

theorem append_path_nil (suffix : String) :
    (Location.path []).append suffix = Location.path [suffix] := by
  apply Path.eq_of_characters
  rw [Path.characters_append, characters_path, characters_path]
  rfl

/-- A name stays one of a file when something without a slash is written behind it. -/
theorem Plain.append {front : Location} {last suffix : String} (plain : Plain (front ++ [last]))
    (clean : '/' ∉ suffix.toList) : Plain (front ++ [last ++ suffix]) := by
  intro name member
  rcases List.mem_append.1 member with old | new
  · exact plain name (List.mem_append_left _ old)
  · obtain rfl := List.mem_singleton.1 new
    obtain ⟨named, notDot, notParent, slashless⟩ :=
      plain last (List.mem_append_right _ (List.mem_singleton_self _))
    have filled : last.toList ≠ [] := fun none => named (String.toList_eq_nil_iff.1 none)
    obtain ⟨c, rest, whole⟩ := List.exists_cons_of_ne_nil filled
    have characters : (last ++ suffix).toList = c :: (rest ++ suffix.toList) := by
      rw [String.toList_append, whole, List.cons_append]
    refine ⟨?_, ?_, ?_, ?_⟩
    · intro none
      rw [none] at characters
      cases characters
    · intro dot
      have spelled : ['.'] = c :: (rest ++ suffix.toList) := by
        rw [← characters, dot]
        rfl
      obtain ⟨same, behind⟩ := List.cons.inj spelled
      obtain ⟨short, -⟩ := List.append_eq_nil_iff.1 behind.symm
      apply notDot
      rw [← String.toList_inj, whole, ← same, short]
      rfl
    · intro parent
      have spelled : ['.', '.'] = c :: (rest ++ suffix.toList) := by
        rw [← characters, parent]
        rfl
      obtain ⟨same, behind⟩ := List.cons.inj spelled
      rcases List.append_eq_singleton_iff.1 behind.symm with ⟨short, -⟩ | ⟨long, -⟩
      · apply notDot
        rw [← String.toList_inj, whole, ← same, short]
        rfl
      · apply notParent
        rw [← String.toList_inj, whole, ← same, long]
        rfl
    · rw [String.toList_append, List.mem_append, not_or]
      exact ⟨slashless, clean⟩

/-- A name of the root that is no name of a file leads back to the root. -/
theorem place_path_singleton {name : String} (clean : '/' ∉ name.toList) (weird : ¬Plain [name])
    (working : Location) : (Location.path [name]).place working = [] := by
  have names : (Location.path [name]).names = namesOf [name.toList] := by
    rw [Path.names_eq, characters_path, splitSlashes_slash, namesOf_nil_cons]
    exact namesOf_joinSlashes (by simpa using clean)
  rw [Path.place, if_pos (isAbsolute_path _), names]
  by_cases empty : name = ""
  · subst empty
    rfl
  · have named : ∀ other ∈ [name], other ≠ "" := by simpa using empty
    have listed : namesOf [name.toList] = [name] := namesOf_map_toList named
    rw [listed, follow, List.foldl_cons, List.foldl_nil, enter]
    by_cases dot : name = "."
    · rw [if_pos dot]
    · by_cases parent : name = ".."
      · rw [if_neg dot, if_pos parent]
        rfl
      · exact absurd (by simpa [Plain] using ⟨empty, dot, parent, clean⟩) weird

end Location

end ModuleBundler
