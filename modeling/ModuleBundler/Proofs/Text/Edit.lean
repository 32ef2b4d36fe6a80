import ModuleBundler.Text.Edit

/-!
Edits of a text. The stretches that they replace are given by offsets into the text as it was. Made from the end
on, disjoint edits replace all of them at once, as long as none is made of an empty stretch that another one would
replace as well.
-/

namespace ModuleBundler.Text

theorem byteSize_append (front back : List Char) :
    byteSize (front ++ back) = byteSize front + byteSize back := by
  induction front with
  | nil => simp [byteSize]
  | cons c front ih => simp only [List.cons_append, byteSize, ih, Nat.add_assoc]

/-- A text is cut just where its front has the size asked for. -/
theorem cutAt?_eq_some {offset : Nat} {text front back : List Char} :
    cutAt? offset text = some (front, back) ↔ front ++ back = text ∧ byteSize front = offset := by
  induction text generalizing offset front with
  | nil =>
    cases offset with
    | zero => simp +contextual [cutAt?, byteSize, eq_comm]
    | succ offset =>
      simp only [cutAt?, List.append_eq_nil_iff, reduceCtorEq, false_iff]
      rintro ⟨⟨rfl, -⟩, size⟩
      cases size
  | cons c text ih =>
    have positive : 0 < c.utf8Size := c.utf8Size_pos
    cases offset with
    | zero =>
      cases front with
      | nil => simp [cutAt?, byteSize, eq_comm]
      | cons d front =>
        have bigger : 0 < d.utf8Size := d.utf8Size_pos
        simp only [cutAt?, byteSize, Option.some.injEq, Prod.mk.injEq, reduceCtorEq, false_and,
          false_iff]
        omega
    | succ offset =>
      simp only [cutAt?]
      split
      · rename_i fits
        simp only [Option.map_eq_some_iff, Prod.exists, Prod.mk.injEq]
        constructor
        · rintro ⟨before, behind, cut, rfl, rfl⟩
          obtain ⟨rfl, size⟩ := ih.1 cut
          refine ⟨rfl, ?_⟩
          rw [byteSize, size]
          omega
        · rintro ⟨whole, size⟩
          cases front with
          | nil => cases size
          | cons d front =>
            obtain ⟨rfl, rfl⟩ := List.cons.inj whole
            rw [byteSize] at size
            exact ⟨front, back, ih.2 ⟨rfl, by omega⟩, rfl, rfl⟩
      · simp only [reduceCtorEq, false_iff]
        rintro ⟨whole, size⟩
        cases front with
        | nil => cases size
        | cons d front =>
          obtain ⟨rfl, rfl⟩ := List.cons.inj whole
          rw [byteSize] at size
          omega

theorem exists_of_byteSize_le {front other back rest : List Char}
    (same : front ++ back = other ++ rest) (least : byteSize front ≤ byteSize other) :
    ∃ between, other = front ++ between ∧ back = between ++ rest := by
  rcases List.append_eq_append_iff.1 same with found | ⟨between, rfl, rfl⟩
  · exact found
  · rw [byteSize_append] at least
    cases between with
    | nil => exact ⟨[], by simp⟩
    | cons c between =>
      have positive : 0 < c.utf8Size := c.utf8Size_pos
      rw [byteSize] at least
      omega

namespace Edit

/-- The stretch of an edit lies in a text, and its ends lie between characters. -/
def Within (text : List Char) (edit : Edit) : Prop :=
  ∃ front replaced back, text = front ++ (replaced ++ back) ∧ edit.start = byteSize front ∧
    edit.stop = edit.start + byteSize replaced

/-- No byte lies in the stretches of both edits. -/
def Disjoint (one other : Edit) : Prop :=
  ∀ byte, ¬((one.start ≤ byte ∧ byte < one.stop) ∧ other.start ≤ byte ∧ byte < other.stop)

/-- Of two edits in the order of their list, none is made of an empty stretch inside of the other one's, nor
is the first one made of an empty stretch where that of the second one starts. -/
structure Clear (first second : Edit) : Prop where
  front : first.start = first.stop → ¬(second.start ≤ first.start ∧ first.start < second.stop)
  behind : second.start = second.stop → ¬(first.start < second.start ∧ second.start < first.stop)

theorem clear_of_filled {first second : Edit} (front : first.start < first.stop)
    (behind : second.start < second.stop) : Clear first second where
  front empty := absurd empty (Nat.ne_of_lt front)
  behind empty := absurd empty (Nat.ne_of_lt behind)

/-- From an offset on, a text with edits made of it: every stretch between two edits is kept, and every
edited one is replaced. -/
inductive Spliced : Nat → List Edit → List Char → List Char → Prop
  | rest (offset : Nat) (text : List Char) : Spliced offset [] text text
  | edit {offset : Nat} {edit : Edit} {edits : List Edit} {kept replaced text result : List Char}
      (starts : edit.start = offset + byteSize kept)
      (stops : edit.stop = edit.start + byteSize replaced)
      (others : Spliced edit.stop edits text result) :
      Spliced offset (edit :: edits) (kept ++ (replaced ++ text))
        (kept ++ (edit.replacement ++ result))

theorem Spliced.kept {offset : Nat} {edits : List Edit} {front back result : List Char}
    (spliced : Spliced offset edits (front ++ back) result)
    (behind : ∀ edit ∈ edits, offset + byteSize front ≤ edit.start) :
    ∃ rest, result = front ++ rest ∧ Spliced (offset + byteSize front) edits back rest := by
  generalize whole : front ++ back = text at spliced
  cases spliced with
  | rest => exact ⟨back, whole.symm, .rest _ _⟩
  | @edit _ edit edits kept replaced text result starts stops others =>
    have least := behind edit List.mem_cons_self
    obtain ⟨between, rfl, rfl⟩ := exists_of_byteSize_le whole (by omega)
    rw [byteSize_append, ← Nat.add_assoc] at starts
    exact ⟨between ++ (edit.replacement ++ result), List.append_assoc .., .edit starts stops others⟩

theorem Spliced.offset_le {offset : Nat} {edits : List Edit} {text result : List Char}
    (spliced : Spliced offset edits text result) : ∀ edit ∈ edits, offset ≤ edit.start := by
  induction spliced with
  | rest => nofun
  | edit starts stops others ih =>
    refine List.forall_mem_cons.2 ⟨by omega, fun other member => ?_⟩
    have behind := ih other member
    omega

/-- A stretch of a text stands in what edits make of the text: some of them are made in front of it, and the
others behind it. -/
def Keeps (edits : List Edit) (text result : List Char) (start : Nat) (kept : List Char) : Prop :=
  ∃ sooner later front back before behind, edits = sooner ++ later ∧
    text = front ++ (kept ++ back) ∧ start = byteSize front ∧ result = before ++ (kept ++ behind) ∧
    Spliced 0 sooner front before ∧ Spliced (start + byteSize kept) later back behind

/-- A stretch that no edit touches lies between some edits and the others. -/
theorem Spliced.split {offset : Nat} {edits : List Edit} {front kept back result : List Char}
    (spliced : Spliced offset edits (front ++ (kept ++ back)) result)
    (apart : ∀ edit ∈ edits, edit.stop ≤ offset + byteSize front ∨
      offset + byteSize front + byteSize kept ≤ edit.start) :
    ∃ sooner later before behind, edits = sooner ++ later ∧ result = before ++ (kept ++ behind) ∧
      Spliced offset sooner front before ∧
      Spliced (offset + byteSize front + byteSize kept) later back behind := by
  generalize whole : front ++ (kept ++ back) = text at spliced
  induction spliced generalizing front with
  | rest offset text =>
    exact ⟨[], [], front, back, rfl, whole.symm, .rest _ _, .rest _ _⟩
  | @edit offset edit edits passed replaced text result starts stops others ih =>
    obtain ⟨first, rest⟩ := List.forall_mem_cons.1 apart
    rcases first with before | after
    · -- the edit is made in front of the stretch, and so are perhaps more of them
      have same : (passed ++ replaced) ++ text = front ++ (kept ++ back) :=
        (List.append_assoc ..).trans whole.symm
      have least : byteSize (passed ++ replaced) ≤ byteSize front := by
        rw [byteSize_append]
        omega
      obtain ⟨between, rfl, rfl⟩ := exists_of_byteSize_le same least
      have size : offset + byteSize (passed ++ replaced ++ between) = edit.stop + byteSize between := by
        rw [byteSize_append, byteSize_append]
        omega
      rw [size] at rest ⊢
      obtain ⟨sooner, later, before, behind, rfl, rfl, front, back⟩ := ih rest rfl
      refine ⟨edit :: sooner, later, passed ++ (edit.replacement ++ before), behind, rfl, ?_, ?_, back⟩
      · simp only [List.append_assoc]
      · rw [List.append_assoc]
        exact .edit starts stops front
    · -- the edit is made behind the stretch, and so are all that follow
      have spliced : Spliced offset (edit :: edits) ((front ++ kept) ++ back)
          (passed ++ (edit.replacement ++ result)) :=
        (List.append_assoc front kept back).trans whole ▸ .edit starts stops others
      have least : ∀ other ∈ edit :: edits, offset + byteSize (front ++ kept) ≤ other.start := by
        rw [byteSize_append, ← Nat.add_assoc]
        refine List.forall_mem_cons.2 ⟨after, fun other member => ?_⟩
        have behind := others.offset_le other member
        omega
      obtain ⟨behind, same, later⟩ := spliced.kept least
      rw [byteSize_append, ← Nat.add_assoc] at later
      refine ⟨[], edit :: edits, front, behind, rfl, ?_, .rest _ _, later⟩
      rw [same, List.append_assoc]

theorem Spliced.keeps {edits : List Edit} {front kept back result : List Char}
    (spliced : Spliced 0 edits (front ++ (kept ++ back)) result)
    (apart : ∀ edit ∈ edits, edit.stop ≤ byteSize front ∨
      byteSize front + byteSize kept ≤ edit.start) :
    Keeps edits (front ++ (kept ++ back)) result (byteSize front) kept := by
  obtain ⟨sooner, later, before, behind, same, whole, first, last⟩ :=
    spliced.split (by simpa only [Nat.zero_add] using apart)
  rw [Nat.zero_add] at last
  exact ⟨sooner, later, front, back, before, behind, same, rfl, rfl, whole, first, last⟩

theorem insertLastFirst_perm (edit : Edit) (edits : List Edit) :
    (insertLastFirst edit edits).Perm (edit :: edits) := by
  induction edits with
  | nil => exact .refl _
  | cons first edits ih =>
    unfold insertLastFirst
    split
    · exact (ih.cons first).trans (.swap edit first edits)
    · exact .refl _

theorem lastFirst_perm (edits : List Edit) : (lastFirst edits).Perm edits := by
  induction edits with
  | nil => exact .refl _
  | cons edit edits ih => exact (insertLastFirst_perm edit _).trans (ih.cons edit)

/-- One of two edits is made after the other one: it starts sooner, or where the other one does, and then it was
listed behind it. What holds of two edits in the order of their list still does. -/
def Follows (Listed : Edit → Edit → Prop) (later sooner : Edit) : Prop :=
  (sooner.start < later.start ∧ (Listed later sooner ∨ Listed sooner later)) ∨
    (sooner.start = later.start ∧ Listed later sooner)

variable {Listed : Edit → Edit → Prop}

theorem pairwise_insertLastFirst {edit : Edit} {edits : List Edit} (front : ∀ other ∈ edits, Listed edit other)
    (ordered : edits.Pairwise (Follows Listed)) : (insertLastFirst edit edits).Pairwise (Follows Listed) := by
  induction edits with
  | nil => exact List.pairwise_singleton _ _
  | cons first edits ih =>
    obtain ⟨listed, others⟩ := List.forall_mem_cons.1 front
    obtain ⟨follow, back⟩ := List.pairwise_cons.1 ordered
    unfold insertLastFirst
    split
    · rename_i sooner
      refine List.pairwise_cons.2 ⟨fun other member => ?_, ih others back⟩
      rcases List.mem_cons.1 ((insertLastFirst_perm edit edits).mem_iff.1 member) with rfl | inside
      · exact .inl ⟨sooner, .inr listed⟩
      · exact follow other inside
    · rename_i later
      refine List.pairwise_cons.2 ⟨fun other member => ?_, ordered⟩
      have least : other.start ≤ edit.start := by
        rcases List.mem_cons.1 member with rfl | inside
        · exact Nat.le_of_not_lt later
        · rcases follow other inside with below | same
          · exact Nat.le_trans (Nat.le_of_lt below.1) (Nat.le_of_not_lt later)
          · exact Nat.le_trans (Nat.le_of_eq same.1) (Nat.le_of_not_lt later)
      rcases Nat.lt_or_eq_of_le least with below | same
      · exact .inl ⟨below, .inl (front other member)⟩
      · exact .inr ⟨same, front other member⟩

theorem pairwise_lastFirst {edits : List Edit} (listed : edits.Pairwise Listed) :
    (lastFirst edits).Pairwise (Follows Listed) := by
  induction edits with
  | nil => exact .nil
  | cons edit edits ih =>
    obtain ⟨front, others⟩ := List.pairwise_cons.1 listed
    refine pairwise_insertLastFirst (fun other member => ?_) (ih others)
    exact front other ((lastFirst_perm edits).mem_iff.1 member)

theorem stop_le_start_of_follows {later sooner : Edit}
    (follows : Follows (fun first second => first.Disjoint second ∧ Clear first second) later sooner)
    (first : later.start ≤ later.stop) (second : sooner.start ≤ sooner.stop) : sooner.stop ≤ later.start := by
  unfold Follows Disjoint at follows
  rcases follows with ⟨below, ⟨disjoint, front, behind⟩ | ⟨disjoint, front, behind⟩⟩ |
    ⟨same, disjoint, front, behind⟩
  all_goals
    have meeting := disjoint later.start
    omega

theorem inText?_eq_some {edit : Edit} {front replaced back : List Char}
    (starts : edit.start = byteSize front) (stops : edit.stop = edit.start + byteSize replaced) :
    edit.inText? (front ++ (replaced ++ back)) = some (front ++ (edit.replacement ++ back)) := by
  have first : cutAt? edit.start (front ++ (replaced ++ back)) = some (front, replaced ++ back) :=
    cutAt?_eq_some.2 ⟨rfl, starts.symm⟩
  have second : cutAt? (edit.stop - edit.start) (replaced ++ back) = some (replaced, back) :=
    cutAt?_eq_some.2 ⟨rfl, by omega⟩
  unfold inText?
  rw [if_neg (by omega)]
  simp only [first, second, Option.bind_eq_bind, Option.bind_some, Option.pure_def,
    List.append_assoc]

/-- Edits that follow each other in a text can be made from the last one on. What an edit has left alone
in front of its start is what the ones before it are about. -/
theorem foldlM_reverse {text : List Char} {edits : List Edit} (within : ∀ edit ∈ edits, edit.Within text)
    (ordered : edits.Pairwise fun sooner later => sooner.stop ≤ later.start) :
    ∃ result, edits.reverse.foldlM (fun text edit => edit.inText? text) text = some result ∧
      Spliced 0 edits text result := by
  induction edits with
  | nil => exact ⟨text, rfl, .rest 0 text⟩
  | cons edit edits ih =>
    obtain ⟨before, others⟩ := List.pairwise_cons.1 ordered
    obtain ⟨middle, made, spliced⟩ := ih (fun other member => within other (.tail _ member)) others
    obtain ⟨front, replaced, back, rfl, starts, stops⟩ := within edit List.mem_cons_self
    rw [← List.append_assoc] at spliced
    have size : 0 + byteSize (front ++ replaced) = edit.stop := by
      rw [byteSize_append]
      omega
    obtain ⟨rest, rfl, behind⟩ := spliced.kept fun other member => size ▸ before other member
    rw [size] at behind
    refine ⟨front ++ (edit.replacement ++ rest), ?_, .edit (by omega) stops behind⟩
    rw [List.reverse_cons, List.foldlM_append, made]
    simp only [Option.bind_eq_bind, Option.bind_some, List.foldlM_cons, List.foldlM_nil,
      List.append_assoc, inText?_eq_some starts stops, Option.pure_def]

/-- Disjoint edits within a text that are clear of each other can be made, in whatever order they are listed,
and replace their stretches all at once. -/
theorem exists_applyAll? {text : List Char} {edits : List Edit} (within : ∀ edit ∈ edits, edit.Within text)
    (disjoint : edits.Pairwise Disjoint) (clear : edits.Pairwise Clear) :
    ∃ result ordered, applyAll? edits text = some result ∧ ordered.Perm edits ∧
      Spliced 0 ordered text result := by
  have shuffled : (lastFirst edits).reverse.Perm edits :=
    (List.reverse_perm _).trans (lastFirst_perm edits)
  have forward (edit : Edit) (member : edit ∈ lastFirst edits) : edit.start ≤ edit.stop := by
    obtain ⟨_, _, _, -, -, stops⟩ := within edit ((lastFirst_perm edits).mem_iff.1 member)
    omega
  have ordered : (lastFirst edits).Pairwise fun later sooner => sooner.stop ≤ later.start :=
    (pairwise_lastFirst (disjoint.and clear)).imp_of_mem fun {later sooner} front back follows =>
      stop_le_start_of_follows follows (forward later front) (forward sooner back)
  obtain ⟨result, made, spliced⟩ := foldlM_reverse
    (fun edit member => within edit (shuffled.mem_iff.1 member)) (List.pairwise_reverse.2 ordered)
  rw [List.reverse_reverse] at made
  exact ⟨result, _, made, shuffled, spliced⟩

end Edit

end ModuleBundler.Text
