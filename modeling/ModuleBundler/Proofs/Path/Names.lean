import ModuleBundler.FileSystem.Basic
import Mathlib.Data.List.DropRight

/-!
The names between the slashes of a path, and what becomes of them when paths are joined, when the last
component is cut off, and when a file is named beside another one.
-/

namespace ModuleBundler

theorem splitSlashes_slash (text : List Char) :
    splitSlashes ('/' :: text) = [] :: splitSlashes text := by
  simp [splitSlashes]

theorem splitSlashes_ne_nil (text : List Char) : splitSlashes text ≠ [] := by
  cases text with
  | nil => simp [splitSlashes]
  | cons c text =>
    unfold splitSlashes
    split
    · simp
    · split <;> simp

theorem splitSlashes_append (before behind : List Char) :
    splitSlashes (before ++ '/' :: behind) = splitSlashes before ++ splitSlashes behind := by
  induction before with
  | nil => simp [splitSlashes]
  | cons c before ih =>
    rw [List.cons_append]
    by_cases slash : c = '/'
    · subst slash
      rw [splitSlashes_slash, splitSlashes_slash, ih, List.cons_append]
    · obtain ⟨piece, pieces, found⟩ := List.exists_cons_of_ne_nil (splitSlashes_ne_nil before)
      simp only [splitSlashes, slash, if_false, ih, found, List.cons_append]

theorem splitSlashes_of_not_mem {text : List Char} (free : '/' ∉ text) : splitSlashes text = [text] := by
  induction text with
  | nil => rfl
  | cons c text ih =>
    rw [List.mem_cons, not_or] at free
    simp only [splitSlashes, Ne.symm free.1, if_false, ih free.2]

theorem slash_not_mem_of_mem_splitSlashes {text piece : List Char}
    (member : piece ∈ splitSlashes text) : '/' ∉ piece := by
  induction text generalizing piece with
  | nil => simp_all [splitSlashes]
  | cons c text ih =>
    by_cases slash : c = '/'
    · subst slash
      rw [splitSlashes_slash] at member
      rcases List.mem_cons.1 member with rfl | later
      · simp
      · exact ih later
    · obtain ⟨first, pieces, found⟩ := List.exists_cons_of_ne_nil (splitSlashes_ne_nil text)
      simp only [splitSlashes, slash, if_false, found] at member
      rcases List.mem_cons.1 member with rfl | later
      · rw [List.mem_cons, not_or]
        exact ⟨Ne.symm slash, ih (found ▸ List.mem_cons_self)⟩
      · exact ih (found ▸ List.mem_cons_of_mem _ later)

theorem mem_of_mem_splitSlashes {text piece : List Char} (member : piece ∈ splitSlashes text) {c : Char}
    (within : c ∈ piece) : c ∈ text := by
  induction text generalizing piece with
  | nil =>
    obtain rfl : piece = [] := by simpa [splitSlashes] using member
    cases within
  | cons first text ih =>
    by_cases slash : first = '/'
    · rw [slash, splitSlashes_slash] at member
      rcases List.mem_cons.1 member with rfl | later
      · cases within
      · exact List.mem_cons_of_mem _ (ih later within)
    · obtain ⟨start, pieces, found⟩ := List.exists_cons_of_ne_nil (splitSlashes_ne_nil text)
      simp only [splitSlashes, slash, if_false, found] at member
      rcases List.mem_cons.1 member with rfl | later
      · rcases List.mem_cons.1 within with rfl | behind
        · exact List.mem_cons_self
        · exact List.mem_cons_of_mem _ (ih (found ▸ List.mem_cons_self) behind)
      · exact List.mem_cons_of_mem _ (ih (found ▸ List.mem_cons_of_mem _ later) within)

theorem head_of_splitSlashes {text second : List Char} {pieces : List (List Char)}
    (split : splitSlashes text = [] :: second :: pieces) : text.head? = some '/' := by
  cases text with
  | nil => simp [splitSlashes] at split
  | cons c text =>
    by_cases slash : c = '/'
    · rw [slash, List.head?_cons]
    · obtain ⟨first, others, found⟩ := List.exists_cons_of_ne_nil (splitSlashes_ne_nil text)
      simp [splitSlashes, slash, found] at split

def namesOf (pieces : List (List Char)) : List String :=
  (pieces.filter (· ≠ [])).map String.ofList

theorem namesOf_append (front back : List (List Char)) :
    namesOf (front ++ back) = namesOf front ++ namesOf back := by
  simp [namesOf]

theorem namesOf_cons {piece : List Char} (pieces : List (List Char)) (named : piece ≠ []) :
    namesOf (piece :: pieces) = String.ofList piece :: namesOf pieces := by
  simp [namesOf, named]

theorem namesOf_nil_cons (pieces : List (List Char)) : namesOf ([] :: pieces) = namesOf pieces := by
  simp [namesOf]

theorem joinSlashes_cons_cons (piece next : List Char) (pieces : List (List Char)) :
    joinSlashes (piece :: next :: pieces) = piece ++ '/' :: joinSlashes (next :: pieces) :=
  rfl

theorem namesOf_joinSlashes {pieces : List (List Char)} (clean : ∀ piece ∈ pieces, '/' ∉ piece) :
    namesOf (splitSlashes (joinSlashes pieces)) = namesOf pieces := by
  induction pieces with
  | nil => rfl
  | cons piece pieces ih =>
    have single := splitSlashes_of_not_mem (clean piece List.mem_cons_self)
    cases pieces with
    | nil => rw [joinSlashes, single]
    | cons next pieces =>
      rw [joinSlashes_cons_cons, splitSlashes_append, single, namesOf_append,
        ih fun other member => clean other (List.mem_cons_of_mem _ member), ← namesOf_append,
        List.singleton_append]

theorem eq_dot_of_mem_namesOf {pieces : List (List Char)} (idle : ∀ piece ∈ pieces, isIdle piece = true)
    {name : String} (member : name ∈ namesOf pieces) : name = "." := by
  simp only [namesOf, List.mem_map, List.mem_filter, decide_eq_true_eq] at member
  obtain ⟨piece, ⟨listed, named⟩, rfl⟩ := member
  have dot : piece = ['.'] := by simpa [isIdle, named] using idle piece listed
  rw [dot]

theorem trimIdle_append (pieces : List (List Char)) :
    ∃ idles, pieces = trimIdle pieces ++ idles ∧ ∀ piece ∈ idles, isIdle piece = true := by
  refine ⟨(pieces.reverse.takeWhile isIdle).reverse, ?_, ?_⟩
  · rw [trimIdle, ← List.reverse_append, List.takeWhile_append_dropWhile, List.reverse_reverse]
  · intro piece member
    exact List.all_eq_true.1 List.all_takeWhile piece (List.mem_reverse.1 member)

theorem trimIdle_of_append {front idles : List (List Char)} {last : List Char}
    (idle : ∀ piece ∈ idles, isIdle piece = true) (named : isIdle last = false) :
    trimIdle (front ++ last :: idles) = front ++ [last] := by
  rw [trimIdle, List.reverse_append, List.reverse_cons, List.append_assoc,
    List.dropWhile_append_of_pos fun piece member => idle piece (List.mem_reverse.1 member)]
  simp [named]

theorem isIdle_eq_false_of_trimIdle {pieces front : List (List Char)} {last : List Char}
    (trimmed : trimIdle pieces = front ++ [last]) : isIdle last = false := by
  rw [trimIdle, List.reverse_eq_iff, List.reverse_append, List.reverse_singleton,
    List.singleton_append] at trimmed
  have head := List.head?_dropWhile_not isIdle pieces.reverse
  rw [trimmed] at head
  simpa using head

namespace Path

theorem names_eq (path : Path) : path.names = namesOf (splitSlashes path.characters) :=
  rfl

theorem names_ne_nil {path : Path} (relative : path.isAbsolute = false) (named : path.text ≠ "") :
    path.names ≠ [] := by
  cases whole : path.characters with
  | nil => exact absurd (String.toList_eq_nil_iff.1 whole) named
  | cons c rest =>
    have other : c ≠ '/' := by simpa [isAbsolute, whole] using relative
    obtain ⟨piece, pieces, split⟩ := List.exists_cons_of_ne_nil (splitSlashes_ne_nil rest)
    simp [names_eq, whole, splitSlashes, other, split, namesOf]

theorem characters_ofCharacters (characters : List Char) :
    (ofCharacters characters).characters = characters :=
  String.toList_ofList

theorem names_join (path below : Path) :
    (path.join below).names = (if below.isAbsolute then [] else path.names) ++ below.names := by
  unfold join
  split
  · rfl
  · split
    · rename_i bare
      rcases bare with none | open'
      · have empty : path.text = "" := String.toList_eq_nil_iff.1 none
        simp [names_eq, characters, empty, splitSlashes, namesOf]
      · obtain ⟨front, whole⟩ : ∃ front, path.characters = front ++ ['/'] := by
          rw [List.getLast?_eq_some_iff] at open'
          exact open'
        simp only [names_eq]
        have joined : (Path.mk (path.text ++ below.text)).characters =
            front ++ '/' :: below.characters := by
          simp only [characters, String.toList_append] at whole ⊢
          rw [whole, List.append_assoc, List.singleton_append]
        rw [joined, whole, splitSlashes_append, splitSlashes_append, namesOf_append, namesOf_append]
        simp [splitSlashes, namesOf]
    · have joined : (Path.mk (path.text ++ "/" ++ below.text)).characters =
          path.characters ++ '/' :: below.characters := by
        simp [characters]
      rw [names_eq, joined, splitSlashes_append, namesOf_append]
      rfl

theorem isAbsolute_join (path below : Path) :
    (path.join below).isAbsolute = (below.isAbsolute || path.isAbsolute) := by
  unfold join
  split
  · rename_i absolute
    rw [absolute, Bool.true_or]
  · rename_i relative
    rw [Bool.not_eq_true] at relative
    rw [relative, Bool.false_or]
    unfold isAbsolute at relative ⊢
    cases start : path.characters with
    | nil =>
      have empty : path.text = "" := String.toList_eq_nil_iff.1 start
      simpa [characters, empty] using relative
    | cons c rest =>
      unfold characters at start
      split <;> simp [characters, start]

theorem endsOpen_join {path below : Path} (named : below.characters ≠ []) :
    (path.join below).endsOpen = below.endsOpen := by
  have behind (front : List Char) :
      (front ++ below.characters).getLast? = below.characters.getLast? :=
    List.getLast?_append_of_ne_nil _ named
  unfold characters at behind
  unfold join endsOpen
  split
  · rfl
  · split
    · rw [characters, String.toList_append, behind]
      rfl
    · rw [characters, String.toList_append, behind]
      rfl

theorem parts_cases (path : Path) :
    (∃ rest, path.characters = '/' :: rest ∧ path.parts = (['/'], splitSlashes rest)) ∨
      (∃ rest, path.characters = '.' :: '/' :: rest ∧ path.parts = (['.'], [] :: splitSlashes rest)) ∨
      (path.characters = ['.'] ∧ path.parts = (['.'], [])) ∨
      (path.characters.head? ≠ some '/' ∧ path.parts = ([], splitSlashes path.characters)) := by
  unfold parts
  split
  · exact .inl ⟨_, by assumption, rfl⟩
  · exact .inr (.inl ⟨_, by assumption, by rw [splitSlashes_slash]⟩)
  · exact .inr (.inr (.inl ⟨by assumption, rfl⟩))
  · rename_i notRoot _ _
    refine .inr (.inr (.inr ⟨fun root => ?_, rfl⟩))
    obtain ⟨rest, whole⟩ := List.head?_eq_some_iff.1 root
    exact notRoot rest whole

theorem names_eq_parts (path : Path) :
    path.names = namesOf (splitSlashes path.parts.1) ++ namesOf path.parts.2 := by
  rw [names_eq]
  rcases path.parts_cases with ⟨rest, whole, parts⟩ | ⟨rest, whole, parts⟩ | ⟨whole, parts⟩ |
    ⟨-, parts⟩ <;> rw [parts]
  · rw [whole, splitSlashes_slash, namesOf_nil_cons]
    rfl
  · have cut : splitSlashes ('.' :: '/' :: rest) = splitSlashes ['.'] ++ splitSlashes rest :=
      splitSlashes_append ['.'] rest
    rw [whole, cut, namesOf_append, namesOf_nil_cons]
  · rw [whole, show namesOf [] = [] from rfl, List.append_nil]
  · rfl

/-- A path made of some of the pieces of another one, which do not end idly. -/
theorem rebuild (path : Path) {front : List (List Char)} (kept : front <+: path.parts.2)
    (trimmed : trimIdle front = front) :
    (ofCharacters (path.parts.1 ++ joinSlashes front)).names =
        namesOf (splitSlashes path.parts.1) ++ namesOf front ∧
      (ofCharacters (path.parts.1 ++ joinSlashes front)).isAbsolute = path.isAbsolute := by
  have clean (text : List Char) (within : front <+: splitSlashes text) :
      ∀ piece ∈ front, '/' ∉ piece :=
    fun piece member => slash_not_mem_of_mem_splitSlashes (within.subset member)
  rw [names_eq, characters_ofCharacters, isAbsolute, isAbsolute, characters_ofCharacters]
  rcases path.parts_cases with ⟨rest, whole, parts⟩ | ⟨rest, whole, parts⟩ | ⟨whole, parts⟩ |
    ⟨relative, parts⟩ <;> rw [parts] at kept ⊢ <;> dsimp only at kept ⊢
  · rw [List.singleton_append, splitSlashes_slash, namesOf_nil_cons,
      namesOf_joinSlashes (clean rest kept), whole]
    exact ⟨rfl, rfl⟩
  · rw [← splitSlashes_slash] at kept
    cases front with
    | nil => simp [joinSlashes, whole, namesOf]
    | cons first front =>
      obtain ⟨back, split⟩ := kept
      rw [splitSlashes_slash, List.cons_append, List.cons.injEq] at split
      obtain ⟨rfl, others⟩ := split
      cases front with
      | nil => cases trimmed
      | cons second front =>
        rw [joinSlashes_cons_cons, List.nil_append, splitSlashes_append, namesOf_append, namesOf_nil_cons,
          namesOf_joinSlashes fun piece member => ?_, whole]
        · exact ⟨rfl, rfl⟩
        · exact slash_not_mem_of_mem_splitSlashes (others ▸ List.mem_append_left back member)
  · rw [List.prefix_nil.1 kept, whole]
    exact ⟨by simp [joinSlashes, namesOf], rfl⟩
  · rw [List.nil_append, namesOf_joinSlashes (clean _ kept)]
    refine ⟨rfl, ?_⟩
    have closed : (path.characters.head? == some '/') = false := by simpa using relative
    rw [closed]
    cases front with
    | nil => rfl
    | cons first front =>
      obtain ⟨back, split⟩ := kept
      have free : '/' ∉ first := clean _ ⟨back, split⟩ first List.mem_cons_self
      cases first with
      | nil =>
        cases front with
        | nil => rfl
        | cons second front => exact absurd (head_of_splitSlashes split.symm) relative
      | cons c first =>
        have different : c ≠ '/' := fun same => free (same ▸ List.mem_cons_self)
        cases front <;> simpa [joinSlashes] using different

theorem parent?_cases {path parent : Path} (above : path.parent? = some parent) :
    (∃ front last idles, path.parts.2 = front ++ last :: idles ∧ isIdle last = false ∧
        (∀ piece ∈ idles, isIdle piece = true) ∧
        parent = ofCharacters (path.parts.1 ++ joinSlashes (trimIdle front))) ∨
      path.parts.1 = ['.'] ∧ parent = ⟨""⟩ := by
  obtain ⟨idles, whole, idle⟩ := trimIdle_append path.parts.2
  unfold parent? at above
  dsimp only at above
  split at above
  · rename_i last earlier reversed
    have trimmed : trimIdle path.parts.2 = earlier.reverse ++ [last] := by
      rw [List.reverse_eq_cons_iff] at reversed
      exact reversed
    cases above
    refine .inl ⟨earlier.reverse, last, idles, ?_, isIdle_eq_false_of_trimIdle trimmed, idle, rfl⟩
    rw [whole, trimmed, List.append_assoc, List.singleton_append]
  · rename_i start
    cases above
    exact .inr ⟨start, rfl⟩
  · cases above

theorem trimIdle_trimIdle (pieces : List (List Char)) :
    trimIdle (trimIdle pieces) = trimIdle pieces := by
  rw [trimIdle, trimIdle, List.reverse_reverse, List.dropWhile_idempotent]

/-- The path above another one has the first of its names, and starts at the same place. -/
theorem names_of_parent? {path parent : Path} (above : path.parent? = some parent) :
    ∃ rest, path.names = parent.names ++ rest ∧ parent.isAbsolute = path.isAbsolute := by
  rcases parent?_cases above with ⟨front, last, idles, whole, -, -, rfl⟩ | ⟨start, rfl⟩
  · obtain ⟨more, cut, -⟩ := trimIdle_append front
    obtain ⟨names, absolute⟩ := path.rebuild
      ⟨more ++ last :: idles, by rw [whole, ← List.append_assoc, ← cut]⟩ (trimIdle_trimIdle front)
    refine ⟨namesOf (more ++ last :: idles), ?_, absolute⟩
    rw [names, names_eq_parts, whole, List.append_assoc, ← namesOf_append (trimIdle front),
      ← List.append_assoc (trimIdle front), ← cut]
  · refine ⟨path.names, rfl, ?_⟩
    unfold isAbsolute
    rcases path.parts_cases with ⟨rest, whole, parts⟩ | ⟨rest, whole, parts⟩ | ⟨whole, parts⟩ |
      ⟨relative, parts⟩ <;> rw [parts] at start
    · cases start
    · rw [whole]
      rfl
    · rw [whole]
      rfl
    · cases start

/-- A path that ends with a name, perhaps with idle pieces behind it. -/
theorem fileName?_eq_some {path : Path} {name : String} (named : path.fileName? = some name) :
    ∃ front idles, path.parts.2 = front ++ name.toList :: idles ∧ isIdle name.toList = false ∧
      name ≠ ".." ∧ ∀ piece ∈ idles, isIdle piece = true := by
  have last : path.components.getLast? = some (.normal name) := by
    unfold fileName? at named
    split at named
    · cases named
      assumption
    · cases named
  have among : (path.parts.2.filterMap componentOf?).getLast? = some (.normal name) := by
    unfold components at last
    dsimp only at last
    rw [List.getLast?_append, Option.or_eq_some_iff] at last
    rcases last with found | ⟨-, first⟩
    · exact found
    · split at first <;> simp at first
  obtain ⟨front, split⟩ := List.getLast?_eq_some_iff.1 among
  obtain ⟨before, behind, whole, -, rest⟩ := List.filterMap_eq_append_iff.1 split
  obtain ⟨skipped, piece, idles, rfl, -, component, nothing⟩ := List.filterMap_eq_cons_iff.1 rest
  have named' : isIdle piece = false ∧ name ≠ ".." ∧ piece = name.toList := by
    unfold componentOf? at component
    split at component
    · cases component
    · rename_i notIdle
      split at component
      · cases component
      · rename_i notParent
        cases component
        exact ⟨by simpa using notIdle,
          fun parent => notParent (String.toList_ofList.symm.trans (congrArg String.toList parent)),
          String.toList_ofList.symm⟩
  obtain ⟨notIdle, notParent, rfl⟩ := named'
  refine ⟨before ++ skipped, idles, by rw [whole, List.append_assoc], notIdle, notParent, ?_⟩
  intro other member
  have none : componentOf? other = none := by
    by_contra some
    obtain ⟨found, here⟩ := Option.ne_none_iff_exists'.1 some
    have listed : found ∈ idles.filterMap componentOf? := List.mem_filterMap.2 ⟨other, member, here⟩
    rw [nothing] at listed
    cases listed
  unfold componentOf? at none
  split at none
  · assumption
  · split at none <;> cases none

/-- A path ends with a name that has nothing but dots behind it. -/
theorem fileName?_of_names {path : Path} {front behind : List String} {name : String}
    (whole : path.names = front ++ name :: behind) (idle : ∀ dot ∈ behind, dot = ".")
    (notDot : name ≠ ".") (notParent : name ≠ "..") : path.fileName? = some name := by
  rw [names_eq_parts] at whole
  obtain ⟨others, split⟩ : ∃ others, namesOf path.parts.2 = others ++ name :: behind := by
    rcases path.parts_cases with ⟨_, -, parts⟩ | ⟨_, -, parts⟩ | ⟨-, parts⟩ | ⟨-, parts⟩ <;>
      rw [parts] at whole ⊢
    · exact ⟨front, whole⟩
    -- a dot in front is not the name
    iterate 2
      rcases front with _ | ⟨first, front⟩
      · exact absurd (List.cons.inj whole).1.symm notDot
      · exact ⟨front, (List.cons.inj whole).2⟩
    · exact ⟨front, whole⟩
  obtain ⟨before, _, pieces, -, rest⟩ := List.map_eq_append_iff.1 split
  obtain ⟨piece, dots, rfl, rfl, rfl⟩ := List.map_eq_cons_iff.1 rest
  have filled : piece ≠ [] := by
    have member : piece ∈ path.parts.2.filter (· ≠ []) := by
      rw [pieces]
      simp
    simpa using (List.mem_filter.1 member).2
  have component : componentOf? piece = some (.normal (String.ofList piece)) := by
    have notIdle : isIdle piece = false := by
      rw [isIdle, Bool.or_eq_false_iff]
      exact ⟨by simpa using filled, by simpa using fun dot => notDot (by rw [dot])⟩
    rw [componentOf?, notIdle, if_neg Bool.false_ne_true, if_neg fun parent => notParent (by rw [parent])]
  have spare : dots.filterMap componentOf? = [] := by
    refine List.filterMap_eq_nil_iff.2 fun dot member => ?_
    have spelled : dot = ['.'] := by
      rw [← String.toList_ofList (l := dot), idle _ (List.mem_map_of_mem member)]
      rfl
    rw [spelled]
    rfl
  have kept : path.parts.2.filterMap componentOf? =
      (path.parts.2.filter (· ≠ [])).filterMap componentOf? := by
    rw [List.filterMap_filter]
    refine List.filterMap_congr fun other _ => ?_
    by_cases empty : other = []
    · simp [empty, componentOf?, isIdle]
    · simp [empty]
  unfold fileName? components
  dsimp only
  rw [kept, pieces, List.filterMap_append, List.filterMap_cons, component, spare,
    ← List.append_assoc, List.getLast?_concat]

def seat (path : Path) : Path :=
  match path.fileName?, path.parent? with
  | some _, some parent => parent
  | _, _ => path

theorem withFileName_eq (path : Path) (name : String) :
    path.withFileName name = path.seat.join ⟨name⟩ := by
  unfold withFileName seat
  cases path.fileName? <;> cases path.parent? <;> rfl

theorem isAbsolute_seat (path : Path) : path.seat.isAbsolute = path.isAbsolute := by
  unfold seat
  split
  · rename_i above
    obtain ⟨-, -, same⟩ := names_of_parent? above
    exact same
  · rfl

/-- A path that ends with a name has the names of its seat, and behind them nothing else but dots. -/
theorem names_of_fileName? {path : Path} {name : String} (named : path.fileName? = some name) :
    ∃ before behind, path.names = path.seat.names ++ before ++ name :: behind ∧
      (∀ dot ∈ before ++ behind, dot = ".") ∧ name ≠ "." ∧ name ≠ ".." ∧ '/' ∉ name.toList := by
  obtain ⟨front, idles, whole, notIdle, notParent, idle⟩ := fileName?_eq_some named
  obtain ⟨more, cut, spare⟩ := trimIdle_append front
  have above : path.parent? = some (ofCharacters (path.parts.1 ++ joinSlashes (trimIdle front))) := by
    unfold parent?
    dsimp only
    rw [whole, trimIdle_of_append idle notIdle, List.reverse_append, List.reverse_singleton,
      List.singleton_append]
    dsimp only
    rw [List.reverse_reverse]
  have seat : path.seat = ofCharacters (path.parts.1 ++ joinSlashes (trimIdle front)) := by
    unfold Path.seat
    rw [named, above]
  obtain ⟨names, -⟩ := path.rebuild
    ⟨more ++ name.toList :: idles, by rw [whole, ← List.append_assoc, ← cut]⟩
    (trimIdle_trimIdle front)
  have filled : name.toList ≠ [] := fun empty => by
    rw [empty] at notIdle
    cases notIdle
  refine ⟨namesOf more, namesOf idles, ?_, ?_, ?_, notParent, ?_⟩
  · rw [seat, names, names_eq_parts, whole, namesOf_append, namesOf_cons _ filled,
      String.ofList_toList, List.append_assoc (namesOf _) (namesOf (trimIdle front)), ← namesOf_append
        (trimIdle front), ← cut, List.append_assoc]
  · rw [← namesOf_append]
    exact fun dot member => eq_dot_of_mem_namesOf
      (fun piece listed => (List.mem_append.1 listed).elim (spare piece) (idle piece)) member
  · rintro rfl
    cases notIdle
  · have member : name.toList ∈ path.parts.2 := by
      rw [whole]
      simp
    rcases path.parts_cases with ⟨rest, -, parts⟩ | ⟨rest, -, parts⟩ | ⟨-, parts⟩ | ⟨-, parts⟩ <;>
      rw [parts] at member
    · exact slash_not_mem_of_mem_splitSlashes member
    · exact slash_not_mem_of_mem_splitSlashes ((splitSlashes_slash rest).symm ▸ member)
    · cases member
    · exact slash_not_mem_of_mem_splitSlashes member

end Path

end ModuleBundler
