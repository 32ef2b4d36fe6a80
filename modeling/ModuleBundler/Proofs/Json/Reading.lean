import ModuleBundler.Proofs.Text.Literal

/-!
Documents that are made of texts, arrays and objects alone. What is written for such a value is read as that
value again, whatever its layout.
-/

namespace ModuleBundler.Json

def readText (remaining : List Char) : Option (String × List Char) :=
  match skipBlanks remaining with
  | '\x22' :: rest => do
    let (inside, rest) ← splitQuoted rest
    let value ← Text.Quoted.decode inside
    return (String.ofList value, rest)
  | _ => none

mutual

def readValue : Nat → List Char → Option (Json × List Char)
  | 0, _ => none
  | count + 1, remaining =>
    match skipBlanks remaining with
    | '[' :: rest =>
      match skipBlanks rest with
      | ']' :: rest => some (.array [], rest)
      | _ => (readElements count rest).map fun found => (.array found.1, found.2)
    | '\x7b' :: rest =>
      match skipBlanks rest with
      | '\x7d' :: rest => some (.object [], rest)
      | _ => (readMembers count rest).map fun found => (.object found.1, found.2)
    | _ => (readText remaining).map fun found => (.text found.1, found.2)

def readElements : Nat → List Char → Option (List Json × List Char)
  | 0, _ => none
  | count + 1, remaining => do
    let (element, rest) ← readValue count remaining
    match skipBlanks rest with
    | ',' :: rest => (readElements count rest).map fun found => (element :: found.1, found.2)
    | ']' :: rest => some ([element], rest)
    | _ => none

def readMembers : Nat → List Char → Option (List (String × Json) × List Char)
  | 0, _ => none
  | count + 1, remaining => do
    let (name, rest) ← readText remaining
    match skipBlanks rest with
    | ':' :: rest => do
      let (value, rest) ← readValue count rest
      match skipBlanks rest with
      | ',' :: rest => (readMembers count rest).map fun found => ((name, value) :: found.1, found.2)
      | '\x7d' :: rest => some ([(name, value)], rest)
      | _ => none
    | _ => none

end

/-- The value that a document is, if it is made of texts, arrays and objects. -/
def read? (text : String) : Option Json := do
  let (value, rest) ← readValue text.toList.length text.toList
  if skipBlanks rest = [] then some value else none

inductive Textual : Json → Prop
  | text (value : String) : Textual (.text value)
  | array {elements : List Json} (parts : ∀ element ∈ elements, Textual element) : Textual (.array elements)
  | object {members : List (String × Json)} (parts : ∀ member ∈ members, Textual member.2) :
      Textual (.object members)

theorem skipBlanks_append {blanks : List Char} (blank : ∀ c ∈ blanks, isBlank c) (rest : List Char) :
    skipBlanks (blanks ++ rest) = skipBlanks rest :=
  List.dropWhile_append_of_pos blank

theorem skipBlanks_cons {c : Char} (solid : isBlank c = false) (rest : List Char) :
    skipBlanks (c :: rest) = c :: rest :=
  List.dropWhile_cons_of_neg (by simp [solid])

theorem blank_lineStart (layout : Layout) : ∀ c ∈ layout.lineStart.toList, isBlank c := by
  unfold Layout.lineStart
  split
  · rw [String.toList_append]
    refine List.forall_mem_append.2 ⟨List.forall_mem_singleton.2 rfl, ?_⟩
    rw [String.toList_ofList]
    intro c member
    obtain rfl := List.eq_of_mem_replicate member
    rfl
  · exact List.forall_mem_nil _

theorem readText_quoted {blanks : List Char} (blank : ∀ c ∈ blanks, isBlank c) (value : String)
    (rest : List Char) :
    readText (blanks ++ ((Text.quoted value).toList ++ rest)) = some (value, rest) := by
  have spells := (Text.Quoted.body_encode value.toList).spells value.toList
  have ends := (spells.2 rfl).splitQuoted_append rest
  unfold readText
  rw [skipBlanks_append blank, Text.toList_quoted]
  simp only [List.cons_append, List.append_assoc, List.nil_append, skipBlanks_cons (c := '\x22') rfl]
  simp only [ends, Option.bind_eq_bind, Option.bind_some, Text.Quoted.decode_encode, Option.pure_def,
    String.ofList_toList]

theorem readValue_append {blanks : List Char} (blank : ∀ c ∈ blanks, isBlank c) (count : Nat)
    (rest : List Char) : readValue count (blanks ++ rest) = readValue count rest := by
  cases count with
  | zero => rfl
  | succ count =>
    unfold readValue readText
    rw [skipBlanks_append blank]

theorem render_text (layout : Layout) (value : String) : Json.render layout (.text value) = Text.quoted value :=
  rfl

theorem render_array_nil (layout : Layout) : (Json.render layout (.array [])).toList = ['[', ']'] := by
  rw [show Json.render layout (.array []) = "[]" from rfl]
  rfl

theorem render_array_cons (layout : Layout) (element : Json) (elements : List Json) :
    (Json.render layout (.array (element :: elements))).toList =
      '[' :: (layout.deeper.lineStart.toList ++ ((element.render layout.deeper).toList ++
        ((renderElements layout.deeper elements).toList ++ (layout.lineStart.toList ++ [']'])))) := by
  rw [render]
  simp only [String.toList_append, List.append_assoc]
  rfl

theorem render_object_nil (layout : Layout) :
    (Json.render layout (.object [])).toList = ['\x7b', '\x7d'] := by
  rw [show Json.render layout (.object []) = "\x7b\x7d" from rfl]
  rfl

theorem render_object_cons (layout : Layout) (name : String) (value : Json)
    (members : List (String × Json)) :
    (Json.render layout (.object ((name, value) :: members))).toList =
      '\x7b' :: (layout.deeper.lineStart.toList ++ ((Text.quoted name).toList ++ (layout.deeper.colon.toList ++
        ((value.render layout.deeper).toList ++ ((renderMembers layout.deeper members).toList ++
          (layout.lineStart.toList ++ ['\x7d'])))))) := by
  rw [render]
  simp only [String.toList_append, List.append_assoc]
  rfl

/-- What is written for a value is read as this value, whatever follows, in at most as many steps as it has
characters. -/
def Readable (value : Json) : Prop :=
  ∀ layout count rest, (value.render layout).toList.length ≤ count →
    readValue count ((value.render layout).toList ++ rest) = some (value, rest)

variable {blanks : List Char}

theorem readElements_render (layout : Layout) (count : Nat) (rest : List Char) {element : Json} {elements : List Json}
    (parts : ∀ one ∈ element :: elements, Readable one) (blank : ∀ c ∈ blanks, isBlank c)
    (enough : (element.render layout).toList.length + (renderElements layout elements).toList.length < count) :
    readElements count (layout.lineStart.toList ++ ((element.render layout).toList ++
      ((renderElements layout elements).toList ++ (blanks ++ ']' :: rest)))) =
        some (element :: elements, rest) := by
  induction elements generalizing element count with
  | nil =>
    obtain ⟨count, rfl⟩ := Nat.exists_eq_add_one.2 (Nat.zero_lt_of_lt enough)
    have first := parts element List.mem_cons_self layout count (blanks ++ ']' :: rest) (by omega)
    unfold readElements
    rw [readValue_append (blank_lineStart layout), renderElements, String.toList_empty, List.nil_append, first]
    simp only [Option.bind_eq_bind, Option.bind_some, skipBlanks_append blank,
      skipBlanks_cons (c := ']') rfl]
  | cons next elements ih =>
    obtain ⟨count, rfl⟩ := Nat.exists_eq_add_one.2 (Nat.zero_lt_of_lt enough)
    simp only [renderElements, String.toList_append, List.length_append, List.append_assoc,
      show ",".toList = [','] from rfl, List.length_singleton] at enough ⊢
    have first := parts element List.mem_cons_self layout count
    have others := ih count fun one member => parts one (List.mem_cons_of_mem _ member)
    unfold readElements
    rw [readValue_append (blank_lineStart layout), first _ (by omega)]
    simp only [Option.bind_eq_bind, Option.bind_some, List.singleton_append, skipBlanks_cons (c := ',') rfl]
    rw [others (by omega), Option.map_some]

theorem blank_colon (layout : Layout) : ∃ blanks, layout.colon.toList = ':' :: blanks ∧
    ∀ c ∈ blanks, isBlank c := by
  unfold Layout.colon
  split
  · exact ⟨[' '], rfl, List.forall_mem_singleton.2 rfl⟩
  · exact ⟨[], rfl, List.forall_mem_nil _⟩

theorem readMembers_render (layout : Layout) (count : Nat) (rest : List Char) (name : String) {value : Json}
    {members : List (String × Json)}
    (first : Readable value) (parts : ∀ one ∈ members, Readable one.2) (blank : ∀ c ∈ blanks, isBlank c)
    (enough : (value.render layout).toList.length + (renderMembers layout members).toList.length < count) :
    readMembers count (layout.lineStart.toList ++ ((Text.quoted name).toList ++ (layout.colon.toList ++
      ((value.render layout).toList ++ ((renderMembers layout members).toList ++
        (blanks ++ '\x7d' :: rest)))))) = some ((name, value) :: members, rest) := by
  obtain ⟨between, colon, spaces⟩ := blank_colon layout
  induction members generalizing name value count with
  | nil =>
    obtain ⟨count, rfl⟩ := Nat.exists_eq_add_one.2 (Nat.zero_lt_of_lt enough)
    have read := first layout count (blanks ++ '\x7d' :: rest) (by omega)
    unfold readMembers
    rw [readText_quoted (blank_lineStart layout), colon, renderMembers, String.toList_empty, List.nil_append]
    simp only [Option.bind_eq_bind, Option.bind_some, List.cons_append, skipBlanks_cons (c := ':') rfl,
      readValue_append spaces, read, skipBlanks_append blank, skipBlanks_cons (c := '\x7d') rfl]
  | cons next members ih =>
    obtain ⟨count, rfl⟩ := Nat.exists_eq_add_one.2 (Nat.zero_lt_of_lt enough)
    simp only [renderMembers, String.toList_append, List.length_append, List.append_assoc,
      show ",".toList = [','] from rfl, List.length_singleton] at enough ⊢
    obtain ⟨second, others⟩ := List.forall_mem_cons.1 parts
    have read (behind : List Char) := first layout count behind (by omega)
    have remaining := ih count next.1 second others (by omega)
    rw [colon, List.cons_append] at remaining
    unfold readMembers
    rw [readText_quoted (blank_lineStart layout)]
    simp only [colon, Option.bind_eq_bind, Option.bind_some, List.cons_append, List.nil_append,
      skipBlanks_cons (c := ':') rfl, readValue_append spaces, read, skipBlanks_cons (c := ',') rfl,
      remaining, Option.map_some]

theorem readable_text (value : String) : Readable (.text value) := by
  intro layout count rest enough
  have read := readText_quoted (List.forall_mem_nil _) value rest
  rw [render_text, Text.toList_quoted] at *
  obtain ⟨count, rfl⟩ := Nat.exists_eq_add_one.2 (Nat.zero_lt_of_lt enough)
  rw [List.nil_append, List.cons_append] at read
  unfold readValue
  simp only [List.cons_append, skipBlanks_cons (c := '\x22') rfl, read, Option.map_some]
  rfl

theorem Textual.exists_cons {value : Json} (textual : Textual value) (layout : Layout) :
    ∃ c text, (value.render layout).toList = c :: text ∧ isBlank c = false ∧ c ≠ ']' := by
  cases textual with
  | text value => exact ⟨_, _, Text.toList_quoted value, rfl, by decide⟩
  | @array elements parts =>
    cases elements with
    | nil => exact ⟨_, _, render_array_nil layout, rfl, by decide⟩
    | cons element elements => exact ⟨_, _, render_array_cons layout element elements, rfl, by decide⟩
  | @object members parts =>
    cases members with
    | nil => exact ⟨_, _, render_object_nil layout, rfl, by decide⟩
    | cons member members => exact ⟨_, _, render_object_cons layout member.1 member.2 members, rfl, by decide⟩

theorem readable_array {elements : List Json} (textual : ∀ element ∈ elements, Textual element)
    (parts : ∀ element ∈ elements, Readable element) : Readable (.array elements) := by
  intro layout count rest enough
  obtain ⟨count, rfl⟩ : ∃ more, count = more + 1 := by
    obtain ⟨c, text, begins, -⟩ := (Textual.array textual).exists_cons layout
    rw [begins] at enough
    exact Nat.exists_eq_add_one.2 (Nat.zero_lt_of_lt enough)
  cases elements with
  | nil =>
    rw [render_array_nil]
    rfl
  | cons element elements =>
    rw [render_array_cons] at enough ⊢
    simp only [List.length_cons, List.length_append, List.append_assoc, List.cons_append,
      List.nil_append] at enough ⊢
    have read := readElements_render layout.deeper count rest parts (blank_lineStart layout) (by omega)
    obtain ⟨c, text, begins, solid, other⟩ := (textual element List.mem_cons_self).exists_cons layout.deeper
    unfold readValue
    simp only [skipBlanks_cons (c := '[') rfl, read, Option.map_some]
    rw [begins, skipBlanks_append (blank_lineStart _), List.cons_append, skipBlanks_cons solid]
    split
    · rename_i closed
      exact absurd (List.cons.inj closed).1 other
    · rfl

theorem readable_object {members : List (String × Json)}
    (parts : ∀ member ∈ members, Readable member.2) : Readable (.object members) := by
  intro layout count rest enough
  cases members with
  | nil =>
    rw [render_object_nil] at enough ⊢
    obtain ⟨count, rfl⟩ := Nat.exists_eq_add_one.2 (Nat.zero_lt_of_lt enough)
    rfl
  | cons member members =>
    rw [render_object_cons] at enough ⊢
    simp only [List.length_cons, List.length_append, List.append_assoc, List.cons_append,
      List.nil_append] at enough ⊢
    obtain ⟨count, rfl⟩ := Nat.exists_eq_add_one.2 (Nat.zero_lt_of_lt enough)
    obtain ⟨first, others⟩ := List.forall_mem_cons.1 parts
    have read := readMembers_render layout.deeper count rest member.1 first others (blank_lineStart layout)
      (by omega)
    unfold readValue
    simp only [skipBlanks_cons (c := '\x7b') rfl, read, Option.map_some]
    rw [skipBlanks_append (blank_lineStart _), Text.toList_quoted, List.cons_append, skipBlanks_cons rfl]
    rfl

theorem Textual.readable {value : Json} (textual : Textual value) : Readable value := by
  induction textual with
  | text value => exact readable_text value
  | array textual parts => exact readable_array textual parts
  | object textual parts => exact readable_object parts

theorem read?_render {value : Json} (textual : Textual value) (layout : Layout) :
    read? (value.render layout) = some value := by
  have read := textual.readable layout _ [] (Nat.le_refl _)
  rw [List.append_nil] at read
  simp only [read?, read, Option.bind_eq_bind, Option.bind_some]
  rfl

end ModuleBundler.Json
