import ModuleBundler.Proofs.Text.Edit
import Mathlib.Data.List.Induction
import Mathlib.Data.Prod.Lex

/-!
Lines and columns of offsets. The line and the column of an offset tell how far it lies behind the start of
which line, so that they lead back to the offset, and they grow with it.
-/

namespace ModuleBundler.Text

def sizeOfLines : List (List Char) → Nat
  | [] => 0
  | line :: lines => byteSize line + 1 + sizeOfLines lines

def lineStart (text : List Char) (line : Nat) : Nat :=
  sizeOfLines ((text.splitOn '\n').take (line - 1))

def EndsLine (text : List Char) : Prop :=
  text = [] ∨ ∃ front, text = front ++ ['\n']

theorem exists_last_line (text : List Char) :
    ∃ front passed, text = front ++ passed ∧ EndsLine front ∧ '\n' ∉ passed := by
  induction text using List.reverseRecOn with
  | nil => exact ⟨[], [], rfl, .inl rfl, List.not_mem_nil⟩
  | append_singleton text c ih =>
    by_cases feed : c = '\n'
    · subst feed
      exact ⟨text ++ ['\n'], [], (List.append_nil _).symm, .inr ⟨text, rfl⟩, List.not_mem_nil⟩
    · obtain ⟨front, passed, rfl, ends, free⟩ := ih
      refine ⟨front, passed ++ [c], List.append_assoc .., ends, fun member => ?_⟩
      rcases List.mem_append.1 member with before | last
      · exact free before
      · exact feed (List.mem_singleton.1 last).symm

theorem length_splitOn (text : List Char) : (text.splitOn '\n').length = text.count '\n' + 1 := by
  induction text with
  | nil => rfl
  | cons c text ih =>
    rw [List.splitOn_cons_eq_if_modifyHead, List.count_cons]
    split
    · rw [List.length_cons, ih]
    · rw [List.length_modifyHead, ih, Nat.add_zero]

theorem sizeOfLines_modifyHead (c : Char) {lines : List (List Char)} (filled : lines ≠ []) :
    sizeOfLines (lines.modifyHead (c :: ·)) = c.utf8Size + sizeOfLines lines := by
  obtain ⟨line, lines, rfl⟩ := List.exists_cons_of_ne_nil filled
  simp only [sizeOfLines, List.modifyHead_cons, byteSize, Nat.add_assoc]

theorem sizeOfLines_splitOn (text : List Char) : sizeOfLines (text.splitOn '\n') = byteSize text + 1 := by
  induction text with
  | nil => rfl
  | cons c text ih =>
    rw [List.splitOn_cons_eq_if_modifyHead, byteSize, Nat.add_assoc, ← ih]
    split
    · rename_i feed
      rw [beq_iff_eq.1 feed]
      rw [sizeOfLines, byteSize, Nat.zero_add]
      rfl
    · exact sizeOfLines_modifyHead c (List.splitOn_ne_nil _ _)

theorem EndsLine.exists_lines {front : List Char} (ends : EndsLine front) :
    ∃ lines : List (List Char), lines.length = front.count '\n' ∧ sizeOfLines lines = byteSize front ∧
      ∀ back, (front ++ back).splitOn '\n' = lines ++ back.splitOn '\n' := by
  rcases ends with rfl | ⟨front, rfl⟩
  · exact ⟨[], rfl, rfl, fun _ => rfl⟩
  · refine ⟨front.splitOn '\n', ?_, ?_, fun back => ?_⟩
    · rw [length_splitOn, List.count_append]
      rfl
    · rw [sizeOfLines_splitOn, byteSize_append]
      rfl
    · rw [List.append_assoc]
      exact List.splitOn_append_cons_self _ _

theorem exists_endsLine {text : List Char} {count : Nat} (enough : count ≤ text.count '\n') :
    ∃ front back, text = front ++ back ∧ EndsLine front ∧ front.count '\n' = count := by
  induction count with
  | zero => exact ⟨[], text, rfl, .inl rfl, rfl⟩
  | succ count ih =>
    obtain ⟨front, back, rfl, -, counted⟩ := ih (Nat.le_of_succ_le enough)
    have more : '\n' ∈ back := List.count_pos_iff.1 (by rw [List.count_append] at enough; omega)
    obtain ⟨line, rest, rfl, free⟩ := List.eq_append_cons_of_mem more
    refine ⟨front ++ line ++ ['\n'], rest, by simp, .inr ⟨_, rfl⟩, ?_⟩
    rw [List.count_append, List.count_append, counted, List.count_eq_zero.2 free,
      List.count_singleton_self, Nat.add_zero]

theorem exists_splitOn_append {passed : List Char} (free : '\n' ∉ passed) (back : List Char) :
    ∃ ahead others, (passed ++ back).splitOn '\n' = (passed ++ ahead) :: others := by
  induction passed with
  | nil => exact List.exists_cons_of_ne_nil (List.splitOn_ne_nil _ _)
  | cons c passed ih =>
    rw [List.mem_cons, not_or] at free
    obtain ⟨ahead, others, split⟩ := ih free.2
    refine ⟨ahead, others, ?_⟩
    rw [List.cons_append, List.splitOn_cons_eq_if_modifyHead, if_neg (by simpa using Ne.symm free.1),
      split, List.modifyHead_cons, List.cons_append]

theorem front_eq_of_byteSize_eq {front back other rest : List Char} (same : front ++ back = other ++ rest)
    (size : byteSize front = byteSize other) : front = other := by
  have first := cutAt?_eq_some.2 ⟨same, size⟩
  have second : cutAt? (byteSize other) (other ++ rest) = some (other, rest) :=
    cutAt?_eq_some.2 ⟨rfl, rfl⟩
  rw [first] at second
  exact (Prod.mk.inj (Option.some.inj second)).1

theorem byteSize_reverse (text : List Char) : byteSize text.reverse = byteSize text := by
  induction text with
  | nil => rfl
  | cons c text ih =>
    rw [List.reverse_cons, byteSize_append, ih, byteSize, byteSize, byteSize, Nat.add_zero, Nat.add_comm]

theorem before_eq (front back : List Char) : before (front ++ back) (byteSize front) = front := by
  rw [before, cutAt?_eq_some.2 ⟨rfl, rfl⟩]

/-- Lines are counted up to the last one that starts before an offset, and columns from there. -/
theorem lineColumn_eq {front passed : List Char} (ends : EndsLine front) (free : '\n' ∉ passed)
    (back : List Char) :
    lineColumn (front ++ passed ++ back) (byteSize (front ++ passed)) =
      (front.count '\n' + 1, byteSize passed + 1) := by
  have feedless : passed.count '\n' = 0 := List.count_eq_zero.2 free
  have inside : ∀ c ∈ passed.reverse, (c != '\n') = true := by
    simp only [List.mem_reverse, bne_iff_ne]
    exact fun c member feed => free (feed ▸ member)
  have stops : front.reverse.takeWhile (· != '\n') = [] := by
    rcases ends with rfl | ⟨front, rfl⟩
    · rfl
    · rw [List.reverse_append]
      rfl
  rw [lineColumn, before_eq, List.count_append, feedless, List.reverse_append,
    List.takeWhile_append_of_pos inside, stops, List.append_nil, byteSize_reverse]

/-- An offset lies on a line, in a column, both counted from one: the line starts so many bytes before it,
and no line feed lies in between. -/
structure LiesAt (text : List Char) (offset : Nat) (position : Nat × Nat) : Prop where
  line_pos : 1 ≤ position.1
  column_pos : 1 ≤ position.2
  offset_eq : lineStart text position.1 + (position.2 - 1) = offset
  /-- From the start of the line to the offset there are just the first characters of the line. -/
  passes : ∃ front passed behind ahead, text = front ++ (passed ++ behind) ∧
    byteSize front = lineStart text position.1 ∧ byteSize passed = position.2 - 1 ∧ '\n' ∉ passed ∧
    (text.splitOn '\n')[position.1 - 1]? = some (passed ++ ahead)

theorem liesAt_lineColumn (front back : List Char) :
    LiesAt (front ++ back) (byteSize front) (lineColumn (front ++ back) (byteSize front)) := by
  obtain ⟨front, passed, rfl, ends, free⟩ := exists_last_line front
  obtain ⟨lines, count, size, splits⟩ := ends.exists_lines
  obtain ⟨ahead, others, line⟩ := exists_splitOn_append free back
  have start : lineStart (front ++ passed ++ back) (front.count '\n' + 1) = byteSize front := by
    rw [lineStart, List.append_assoc, splits, Nat.add_sub_cancel, ← count, List.take_left, size]
  rw [lineColumn_eq ends free]
  refine ⟨Nat.le_add_left 1 _, Nat.le_add_left 1 _, ?_, front, passed, back, ahead, List.append_assoc ..,
    start.symm, rfl, free, ?_⟩
  · rw [start, byteSize_append]
    rfl
  · simp only [List.append_assoc, splits, Nat.add_sub_cancel, ← count, line,
      List.getElem?_append_right (Nat.le_refl _), Nat.sub_self, List.getElem?_cons_zero]

/-- The position that an offset lies at is the one that is found for it. -/
theorem LiesAt.eq_lineColumn {text : List Char} {offset : Nat} {position : Nat × Nat}
    (lies : LiesAt text offset position) : lineColumn text offset = position := by
  obtain ⟨line, column⟩ := position
  obtain ⟨counted, placed, sum, front, passed, behind, ahead, rfl, starts, size, free, found⟩ := lies
  obtain ⟨bound, -⟩ := List.getElem?_eq_some_iff.1 found
  rw [length_splitOn] at bound
  obtain ⟨same, rest, whole, ends, count⟩ := exists_endsLine (Nat.le_of_lt_succ bound)
  obtain ⟨lines, length, total, splits⟩ := ends.exists_lines
  have start : byteSize front = byteSize same := by
    rw [starts, lineStart, whole, splits, ← total]
    exact congrArg sizeOfLines (by rw [← count, ← length, List.take_left])
  obtain rfl : front = same := front_eq_of_byteSize_eq whole start
  have here : offset = byteSize (front ++ passed) := by
    rw [byteSize_append, starts, size, ← sum]
  rw [here, ← List.append_assoc, lineColumn_eq ends free, size, count]
  simp only [Nat.sub_add_cancel counted, Nat.sub_add_cancel placed]

/-- A longer front of a text ends later: on a later line, or on the same one in a later column. -/
theorem lineColumn_lt (front back : List Char) {between : List Char} (filled : between ≠ []) :
    toLex (lineColumn (front ++ (between ++ back)) (byteSize front)) <
      toLex (lineColumn (front ++ (between ++ back)) (byteSize (front ++ between))) := by
  obtain ⟨front, passed, rfl, ends, free⟩ := exists_last_line front
  obtain ⟨skipped, last, rfl, stops, clean⟩ := exists_last_line between
  rw [lineColumn_eq ends free]
  rcases stops with rfl | ⟨skipped, rfl⟩
  · -- there is no line feed in between
    have whole : front ++ passed ++ ([] ++ last ++ back) = front ++ (passed ++ last) ++ back := by simp
    have part : front ++ passed ++ ([] ++ last) = front ++ (passed ++ last) := by simp
    have positive : 0 < byteSize last := by
      obtain ⟨c, rest, rfl⟩ := List.exists_cons_of_ne_nil filled
      rw [byteSize]
      have positive : 0 < c.utf8Size := c.utf8Size_pos
      omega
    rw [whole, part, lineColumn_eq ends (by simp [free, clean]), byteSize_append]
    exact Prod.Lex.right _ (by omega)
  · have whole : front ++ passed ++ (skipped ++ ['\n'] ++ last ++ back) =
        front ++ passed ++ skipped ++ ['\n'] ++ last ++ back := by simp
    have part : front ++ passed ++ (skipped ++ ['\n'] ++ last) =
        front ++ passed ++ skipped ++ ['\n'] ++ last := by simp
    rw [whole, part, lineColumn_eq (.inr ⟨_, rfl⟩) clean]
    refine Prod.Lex.left _ _ ?_
    simp only [List.count_append, List.count_singleton_self]
    omega

theorem utf8ByteSize_ofList_eq (text : List Char) : (String.ofList text).utf8ByteSize = byteSize text := by
  induction text with
  | nil => rfl
  | cons c text ih =>
    rw [String.ofList_cons, String.utf8ByteSize_append, String.utf8ByteSize_singleton, ih, byteSize]

theorem exists_front_of_isValid {source : String} {offset : String.Pos.Raw} (valid : offset.IsValid source) :
    ∃ front back, source.toList = front ++ back ∧ byteSize front = offset.byteIdx := by
  obtain ⟨front, back, rfl, rfl⟩ := String.Pos.Raw.isValid_iff_exists_append.1 valid
  refine ⟨front.toList, back.toList, String.toList_append, ?_⟩
  rw [← utf8ByteSize_ofList_eq, String.ofList_toList]
  rfl

theorem lineColumn_lt_of_lt {text front back other rest : List Char} (whole : text = front ++ back)
    (also : text = other ++ rest) (before : byteSize front < byteSize other) :
    toLex (lineColumn text (byteSize front)) < toLex (lineColumn text (byteSize other)) := by
  subst whole
  obtain ⟨between, rfl, rfl⟩ := exists_of_byteSize_le also (Nat.le_of_lt before)
  refine lineColumn_lt front rest ?_
  rintro rfl
  rw [List.append_nil] at before
  exact absurd before (Nat.lt_irrefl _)

/-- The line and the column of an offset are those that it lies at and no others: its line, as line feeds
divide the text, starts so many bytes before it, and no line feed lies in between. So offsets can be told
apart by their lines and columns, and come in the same order. -/
theorem lineColumn_exact {source : String} {offset other : String.Pos.Raw} (valid : offset.IsValid source)
    (also : other.IsValid source) :
    (∀ position, LiesAt source.toList offset.byteIdx position ↔
      lineColumn source.toList offset.byteIdx = position) ∧
    (lineColumn source.toList offset.byteIdx = lineColumn source.toList other.byteIdx ↔ offset = other) ∧
    (toLex (lineColumn source.toList offset.byteIdx) < toLex (lineColumn source.toList other.byteIdx) ↔
      offset < other) := by
  obtain ⟨front, back, whole, size⟩ := exists_front_of_isValid valid
  obtain ⟨longer, rest, again, length⟩ := exists_front_of_isValid also
  have lies : LiesAt source.toList offset.byteIdx (lineColumn source.toList offset.byteIdx) := by
    rw [whole, ← size]
    exact liesAt_lineColumn front back
  have grows : offset.byteIdx < other.byteIdx →
      toLex (lineColumn source.toList offset.byteIdx) < toLex (lineColumn source.toList other.byteIdx) := by
    rw [← size, ← length]
    exact lineColumn_lt_of_lt whole again
  have shrinks : other.byteIdx < offset.byteIdx →
      toLex (lineColumn source.toList other.byteIdx) < toLex (lineColumn source.toList offset.byteIdx) := by
    rw [← size, ← length]
    exact lineColumn_lt_of_lt again whole
  refine ⟨fun position => ⟨LiesAt.eq_lineColumn, fun same => same ▸ lies⟩, ?_, ?_⟩
  · refine ⟨fun same => ?_, fun same => same ▸ rfl⟩
    rcases Nat.lt_trichotomy offset.byteIdx other.byteIdx with less | equal | more
    · exact absurd (grows less) (same ▸ lt_irrefl _)
    · exact String.Pos.Raw.ext equal
    · exact absurd (shrinks more) (same ▸ lt_irrefl _)
  · refine ⟨fun less => ?_, fun less => grows less⟩
    rcases Nat.lt_trichotomy offset.byteIdx other.byteIdx with before | equal | more
    · exact before
    · rw [equal] at less
      exact absurd less (lt_irrefl _)
    · exact absurd (less.trans (shrinks more)) (lt_irrefl _)

/-- The offsets on both sides of a line feed, behind a carriage return and a character of two bytes. -/
theorem lineColumn_exact_at_feed :
    (String.Pos.Raw.mk 3).IsValid "é\r\nb" ∧ (String.Pos.Raw.mk 4).IsValid "é\r\nb" ∧
      (∀ position, LiesAt "é\r\nb".toList 3 position ↔ lineColumn "é\r\nb".toList 3 = position) ∧
      (lineColumn "é\r\nb".toList 3 = lineColumn "é\r\nb".toList 4 ↔
        String.Pos.Raw.mk 3 = String.Pos.Raw.mk 4) ∧
      (toLex (lineColumn "é\r\nb".toList 3) < toLex (lineColumn "é\r\nb".toList 4) ↔
        String.Pos.Raw.mk 3 < String.Pos.Raw.mk 4) := by
  have valid : (String.Pos.Raw.mk 3).IsValid "é\r\nb" :=
    String.Pos.Raw.isValid_iff_exists_append.2 ⟨"é\r", "\nb", rfl, rfl⟩
  have also : (String.Pos.Raw.mk 4).IsValid "é\r\nb" :=
    String.Pos.Raw.isValid_iff_exists_append.2 ⟨"é\r\n", "b", rfl, rfl⟩
  exact ⟨valid, also, lineColumn_exact valid also⟩

example : lineColumn "é\r\nb".toList 3 = (1, 4) ∧ lineColumn "é\r\nb".toList 4 = (2, 1) := by decide

end ModuleBundler.Text
