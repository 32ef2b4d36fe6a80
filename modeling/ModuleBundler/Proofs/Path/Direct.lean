import ModuleBundler.Proofs.Path.Normal

/-!
Paths that go straight down once they have gone up. A normal form is one, whether it is absolute or not, and
it stays one when something without a slash is written behind it.
-/

namespace ModuleBundler

def Path.WrittenBy (path : Path) (names : List String) : Prop :=
  ∃ start, (start = [] ∨ start = ['/']) ∧
    path.characters = start ++ joinSlashes (names.map String.toList)

namespace Path.WrittenBy

variable {path : Path} {names : List String}

theorem names_eq (written : path.WrittenBy names) (clean : ∀ name ∈ names, '/' ∉ name.toList) :
    path.names = names.filter (· ≠ "") := by
  have slashless : ∀ piece ∈ names.map String.toList, '/' ∉ piece := by
    intro piece member
    obtain ⟨name, listed, rfl⟩ := List.mem_map.1 member
    exact clean name listed
  have pieces : path.names = namesOf (names.map String.toList) := by
    obtain ⟨start, rfl | rfl, whole⟩ := written
    · rw [Path.names_eq, whole, List.nil_append, namesOf_joinSlashes slashless]
    · rw [Path.names_eq, whole, List.singleton_append, splitSlashes_slash, namesOf_nil_cons,
        namesOf_joinSlashes slashless]
  rw [pieces, namesOf, List.filter_map, List.map_map]
  simp [Function.comp_def]

theorem append {front : List String} {last : String} (written : path.WrittenBy (front ++ [last]))
    (suffix : String) : (path.append suffix).WrittenBy (front ++ [last ++ suffix]) := by
  obtain ⟨start, open', whole⟩ := written
  refine ⟨start, open', ?_⟩
  rw [characters_append, whole, List.append_assoc, List.map_append, List.map_singleton,
    joinSlashes_concat_append, List.map_append, List.map_singleton, String.toList_append]

theorem append_nil (written : path.WrittenBy []) (suffix : String) :
    (path.append suffix).WrittenBy [suffix] := by
  obtain ⟨start, open', whole⟩ := written
  refine ⟨start, open', ?_⟩
  rw [characters_append, whole]
  simp [joinSlashes]

end Path.WrittenBy

namespace Location

def stackBelow (ups : Nat) (place : Location) : List Component :=
  (place.map Component.normal).reverse ++ List.replicate ups .parent

theorem reverse_stackBelow (ups : Nat) {place : Location} (plain : place.Plain) :
    (stackBelow ups place).reverse = (List.replicate ups ".." ++ place).map stepOf := by
  rw [stackBelow, List.reverse_append, List.reverse_reverse, List.reverse_replicate, List.map_append,
    map_stepOf plain, List.map_replicate]
  rfl

theorem exists_onto_stackBelow (ups : Nat) {place : Location} (plain : place.Plain)
    {component : Component} (notRoot : component ≠ .root)
    (named : ∀ name, component = .normal name → Plain [name]) :
    ∃ more other, Plain other ∧
      Component.onto (stackBelow ups place) component = stackBelow more other := by
  cases component with
  | root => exact absurd rfl notRoot
  | current => exact ⟨ups, place, plain, rfl⟩
  | normal name =>
    refine ⟨ups, place ++ [name], ?_, by simp [stackBelow, Component.onto]⟩
    intro other member
    rcases List.mem_append.1 member with old | new
    · exact plain other old
    · exact named name rfl other new
  | parent =>
    rcases place.eq_nil_or_concat with rfl | ⟨front, last, rfl⟩
    · refine ⟨ups + 1, [], plain, ?_⟩
      cases ups <;> rfl
    · rw [List.concat_eq_append] at plain ⊢
      exact ⟨ups, front, fun other member => plain other (List.mem_append_left _ member),
        by simp [stackBelow, Component.onto]⟩

theorem exists_foldl_stackBelow {components : List Component} (relative : .root ∉ components)
    (named : ∀ name, .normal name ∈ components → Plain [name]) (ups : Nat) {place : Location}
    (plain : place.Plain) : ∃ more other, Plain other ∧
      components.foldl Component.onto (stackBelow ups place) = stackBelow more other := by
  induction components generalizing ups place with
  | nil => exact ⟨ups, place, plain, rfl⟩
  | cons component components ih =>
    rw [List.mem_cons, not_or] at relative
    obtain ⟨more, other, still, first⟩ := exists_onto_stackBelow ups plain (Ne.symm relative.1)
      fun name same => named name (same ▸ List.mem_cons_self)
    rw [List.foldl_cons, first]
    exact ih relative.2 (fun name member => named name (List.mem_cons_of_mem _ member)) more still

end Location

namespace Path

theorem componentOf?_cases {piece : List Char} {component : Component}
    (found : componentOf? piece = some component) (clean : '/' ∉ piece) :
    component ≠ .root ∧ ∀ name, component = .normal name → Location.Plain [name] := by
  unfold componentOf? at found
  split at found
  · cases found
  · rename_i busy
    split at found
    · cases found
      exact ⟨nofun, nofun⟩
    · rename_i notParent
      cases found
      refine ⟨nofun, ?_⟩
      rintro _ ⟨⟩ other member
      obtain rfl := List.mem_singleton.1 member
      rw [Bool.not_eq_true, isIdle, Bool.or_eq_false_iff, beq_eq_false_iff_ne,
        beq_eq_false_iff_ne] at busy
      rw [String.toList_ofList]
      have spelled (text : String) (same : String.ofList piece = text) : piece = text.toList := by
        rw [← same, String.toList_ofList]
      exact ⟨fun same => busy.1 (spelled "" same), fun same => busy.2 (spelled "." same),
        fun same => notParent (spelled ".." same), clean⟩

/-- A relative path is made of names and steps up. -/
theorem components_of_relative {path : Path} (relative : path.isAbsolute = false) :
    .root ∉ path.components ∧ ∀ name, .normal name ∈ path.components → Location.Plain [name] := by
  have pieces (text : List Char) {component : Component}
      (member : component ∈ (splitSlashes text).filterMap componentOf?) :
      component ≠ .root ∧ ∀ name, component = .normal name → Location.Plain [name] := by
    obtain ⟨piece, listed, found⟩ := List.mem_filterMap.1 member
    exact componentOf?_cases found (slash_not_mem_of_mem_splitSlashes listed)
  have all : ∀ component ∈ path.components,
      component ≠ .root ∧ ∀ name, component = .normal name → Location.Plain [name] := by
    unfold components
    rcases path.parts_cases with ⟨rest, whole, -⟩ | ⟨rest, -, parts⟩ | ⟨-, parts⟩ | ⟨-, parts⟩
    · simp [isAbsolute, whole] at relative
    · rw [parts, ← splitSlashes_slash]
      intro component member
      rcases List.mem_cons.1 member with rfl | listed
      · exact ⟨by simp, fun name same => by cases same⟩
      · exact pieces _ listed
    · rw [parts]
      intro component member
      obtain rfl := List.mem_singleton.1 member
      exact ⟨by simp, fun name same => by cases same⟩
    · rw [parts]
      exact fun component member => pieces _ member
  exact ⟨fun member => (all _ member).1 rfl, fun name member => (all _ member).2 name rfl⟩

/-- A normal form is written by steps up and plain names behind them. -/
theorem exists_writtenBy_normalize (path : Path) : ∃ ups place, Location.Plain place ∧
    path.normalize.WrittenBy (List.replicate ups ".." ++ place) := by
  cases start : path.isAbsolute with
  | true =>
    refine ⟨0, path.place [], plain_place start [], ['/'], .inr rfl, ?_⟩
    rw [normalize_of_isAbsolute start, Location.characters_path]
    rfl
  | false =>
    obtain ⟨relative, named⟩ := components_of_relative start
    have empty : Location.Plain [] := by simp [Location.Plain]
    obtain ⟨ups, place, plain, folded⟩ :=
      Location.exists_foldl_stackBelow relative named 0 empty
    refine ⟨ups, place, plain, [], .inl rfl, ?_⟩
    have components : path.normalComponents =
        (List.replicate ups ".." ++ place).map Location.stepOf := by
      rw [← Location.reverse_stackBelow ups plain, ← folded]
      rfl
    rw [normalize, components, Location.ofComponents_steps, characters_ofCharacters, List.nil_append]

def Direct (path : Path) : Prop :=
  ∃ dots place, path.names = dots ++ place ∧ (∀ dot ∈ dots, dot = "." ∨ dot = "..") ∧
    Location.Plain place

section Written

variable {path : Path} {dots : List String} (up : ∀ dot ∈ dots, dot = "." ∨ dot = "..")
include up

theorem clean_of_dots : ∀ dot ∈ dots, dot ≠ "" ∧ '/' ∉ dot.toList := by
  intro dot member
  rcases up dot member with rfl | rfl <;> decide

theorem direct_of_plain {place : Location} (written : path.WrittenBy (dots ++ place))
    (plain : place.Plain) : path.Direct := by
  have clean : ∀ name ∈ dots ++ place, name ≠ "" ∧ '/' ∉ name.toList := by
    intro name member
    rcases List.mem_append.1 member with high | low
    · exact clean_of_dots up name high
    · exact ⟨(plain name low).1, (plain name low).2.2.2⟩
  refine ⟨dots, place, ?_, up, plain⟩
  rw [written.names_eq fun name member => (clean name member).2, List.filter_eq_self]
  exact fun name member => by simpa using (clean name member).1

/-- Behind steps up a single name goes down, or up once more. -/
theorem direct_of_single {name : String} (written : path.WrittenBy (dots ++ [name]))
    (clean : '/' ∉ name.toList) : path.Direct := by
  by_cases plain : Location.Plain [name]
  · exact direct_of_plain up written plain
  · have dotted : name = "" ∨ name = "." ∨ name = ".." := by
      by_contra named
      rw [not_or, not_or] at named
      exact plain (by simpa [Location.Plain] using ⟨named.1, named.2.1, named.2.2, clean⟩)
    have idle : ∀ dot ∈ dots ++ [name], dot ≠ "" → dot = "." ∨ dot = ".." := by
      intro dot member filled
      rcases List.mem_append.1 member with high | last
      · exact up dot high
      · obtain rfl := List.mem_singleton.1 last
        exact dotted.resolve_left filled
    refine ⟨(dots ++ [name]).filter (· ≠ ""), [], ?_, ?_, by simp [Location.Plain]⟩
    · rw [List.append_nil, written.names_eq]
      intro other member
      rcases List.mem_append.1 member with high | last
      · exact (clean_of_dots up other high).2
      · rwa [List.mem_singleton.1 last]
    · intro dot member
      obtain ⟨listed, filled⟩ := List.mem_filter.1 member
      exact idle dot listed (by simpa using filled)

end Written

theorem direct_normalize (path : Path) : path.normalize.Direct := by
  obtain ⟨ups, place, plain, written⟩ := path.exists_writtenBy_normalize
  exact direct_of_plain (fun _ member => .inr (List.eq_of_mem_replicate member)) written plain

theorem direct_append_normalize (path : Path) {suffix : String} (clean : '/' ∉ suffix.toList) :
    (path.normalize.append suffix).Direct := by
  obtain ⟨ups, place, plain, written⟩ := path.exists_writtenBy_normalize
  have up (count : Nat) : ∀ dot ∈ List.replicate count "..", dot = "." ∨ dot = ".." :=
    fun _ member => .inr (List.eq_of_mem_replicate member)
  rcases place.eq_nil_or_concat with rfl | ⟨front, last, rfl⟩
  · rw [List.append_nil] at written
    cases ups with
    | zero => exact direct_of_single (up 0) (written.append_nil suffix) clean
    | succ ups =>
      rw [List.replicate_succ'] at written
      refine direct_of_single (up ups) (written.append suffix) ?_
      simpa using clean
  · rw [List.concat_eq_append] at plain written
    rw [← List.append_assoc] at written
    have extended := written.append suffix
    rw [List.append_assoc] at extended
    exact direct_of_plain (up ups) extended (plain.append clean)

end Path

end ModuleBundler
