import Mathlib.Algebra.Order.BigOperators.Group.List
import Mathlib.Algebra.Order.Group.Nat
import Mathlib.Data.List.Basic
import ModuleBundler.Bundle.Chunk
import ModuleBundler.Config.Basic

/-!
The names of the files that chunks go to. A pattern is read once, as a sequence of placeholders and other
characters, so that what is put in for a placeholder is not read again; and wherever the placeholder of
the name stands in the text of a pattern, it is one of this sequence.
-/

namespace ModuleBundler

theorem Digest.length_sha256 (content : ByteArray) : (sha256 content).toList.length = 64 := by
  have digits (word : UInt32) : ((bytesOf 4 word.toNat).flatMap fun byte =>
      [Nat.digitChar (byte.toNat / 16), Nat.digitChar (byte.toNat % 16)]).length = 8 := by
    rw [List.length_flatMap, bytesOf, List.map_map]
    rfl
  rw [sha256, String.toList_ofList, List.length_flatMap]
  simp only [digits, State.words, List.map_cons, List.map_nil]
  rfl

namespace Placeholder

/-- The placeholders of a pattern and the characters between them, behind `skip` characters that are
left out. -/
def pieces : Nat → List Char → List (Placeholder ⊕ Char)
  | _, [] => []
  | skip + 1, _ :: rest => pieces skip rest
  | 0, c :: rest =>
    match at? (c :: rest) with
    | some (found, length) => .inl found :: pieces (length - 1) rest
    | none => .inr c :: pieces 0 rest

def pieceText (name code : String) : Placeholder ⊕ Char → List Char
  | .inl found => value name code found
  | .inr c => [c]

theorem fill_eq_flatMap (name code : String) (skip : Nat) (text : List Char) :
    fill (value name code) skip text = (pieces skip text).flatMap (pieceText name code) := by
  induction text generalizing skip with
  | nil => cases skip <;> rfl
  | cons c rest ih =>
    cases skip with
    | succ skip => exact ih skip
    | zero =>
      unfold fill pieces
      cases at? (c :: rest) with
      | none => simp [ih, pieceText]
      | some read => simp [ih, pieceText]

theorem not_isDigit_openBracket : isDigit '[' = false := by
  rw [isDigit, Unicode.category_openBracket]
  rfl

theorem not_mem_take_ending? {placeholder : Option Nat → Placeholder} {text : List Char}
    {found : Placeholder} {length : Nat} (read : ending? placeholder text = some (found, length)) :
    '[' ∉ text.take length := by
  unfold ending? at read
  split at read
  · cases read
    simp
  · rename_i rest
    dsimp only at read
    split at read
    · rename_i close nonempty behind
      cases read
      have whole : rest = rest.takeWhile isDigit ++ ']' :: close := by
        have front := List.takeWhile_prefix (p := isDigit) (l := rest)
        conv_lhs => rw [← List.prefix_iff_eq_append.1 front, behind]
      have digits : '[' ∉ rest.takeWhile isDigit := fun member =>
        Bool.false_ne_true (not_isDigit_openBracket.symm.trans
          (List.all_eq_true.1 List.all_takeWhile _ member))
      generalize rest.takeWhile isDigit = number at whole digits
      subst whole
      rw [List.take_succ_cons, List.take_length_add_append]
      simpa using digits
    · cases read
  · cases read

/-- Neither what a placeholder opens with, behind its first character, nor its end has an opening
bracket. -/
theorem not_mem_take_opening {c : Char} {rest : List Char} (start : List Char)
    {placeholder : Option Nat → Placeholder} {found : Placeholder} {length : Nat}
    (clean : '[' ∉ start) (begins : (c :: start).isPrefixOf (c :: rest) = true)
    (read : (ending? placeholder ((c :: rest).drop (c :: start).length)).map
      (fun (found, length) => (found, (c :: start).length + length)) = some (found, length)) :
    '[' ∉ rest.take (length - 1) := by
  obtain ⟨behind, same⟩ := List.isPrefixOf_iff_prefix.1 begins
  rw [List.cons_append, List.cons.injEq] at same
  obtain ⟨-, rfl⟩ := same
  obtain ⟨⟨other, count⟩, ending, answer⟩ := Option.map_eq_some_iff.1 read
  cases answer
  have tail := not_mem_take_ending? ending
  simp only [List.length_cons, List.drop_succ_cons, List.drop_left] at tail ⊢
  have shorter : start.length + 1 + count - 1 = start.length + count := by omega
  rw [shorter, List.take_length_add_append]
  exact List.not_mem_append clean tail

/-- Behind its first character, a placeholder has no opening bracket. -/
theorem not_mem_take_at? {c : Char} {rest : List Char} {found : Placeholder} {length : Nat}
    (read : at? (c :: rest) = some (found, length)) : '[' ∉ rest.take (length - 1) := by
  unfold at? at read
  dsimp only at read
  split at read
  · rename_i begins
    obtain rfl : '[' = c := by
      simp at begins
      exact begins.1
    exact not_mem_take_opening ['n', 'a', 'm', 'e'] (by decide) begins read
  · split at read
    · rename_i begins
      obtain rfl : '[' = c := by
        simp at begins
        exact begins.1
      exact not_mem_take_opening ['c', 'o', 'n', 't', 'e', 'n', 't', 'h', 'a', 's', 'h'] (by decide)
        begins read
    · cases read

theorem at?_of_name {text : List Char}
    (begins : Config.namePlaceholder.toList.isPrefixOf text = true) :
    ∃ length, at? text = some (.name, length) := by
  obtain ⟨rest, rfl⟩ := List.isPrefixOf_iff_prefix.1 begins
  exact ⟨6, by simp [at?, ending?, Config.namePlaceholder]⟩

/-- Wherever the name is asked for in the text of a pattern, it is a piece of the pattern: nothing that
begins before it goes on as far as that. -/
theorem name_mem_pieces {skip : Nat} {text : List Char} (clean : '[' ∉ text.take skip)
    (occurs : Text.occurs Config.namePlaceholder.toList text = true) :
    .inl .name ∈ pieces skip text := by
  induction text generalizing skip with
  | nil => simp [Text.occurs, Config.namePlaceholder] at occurs
  | cons c rest ih =>
    simp only [Text.occurs, Bool.or_eq_true] at occurs
    cases skip with
    | succ skip =>
      rw [List.take_succ_cons, List.mem_cons, not_or] at clean
      refine ih clean.2 (occurs.resolve_left fun begins => clean.1 ?_)
      simp [Config.namePlaceholder] at begins
      exact begins.1
    | zero =>
      unfold pieces
      rcases occurs with begins | later
      · obtain ⟨length, read⟩ := at?_of_name begins
        rw [read]
        exact List.mem_cons_self
      · split
        · rename_i found length read
          exact List.mem_cons_of_mem _ (ih (not_mem_take_at? read) later)
        · exact List.mem_cons_of_mem _ (ih (by simp) later)

theorem length_pieceText_le {name other : String} (code otherCode : String)
    (shorter : name.toList.length ≤ other.toList.length) (piece : Placeholder ⊕ Char) :
    (pieceText name code piece).length ≤ (pieceText other otherCode piece).length := by
  match piece with
  | .inr c => exact Nat.le_refl _
  | .inl .name => exact shorter
  | .inl (.contentHash count) => simp [pieceText, value, Digest.length_sha256]

theorem length_fill_lt {name other : String} (code otherCode : String) {text : List Char}
    (named : .inl .name ∈ pieces 0 text) (shorter : name.toList.length < other.toList.length) :
    (fill (value name code) 0 text).length < (fill (value other otherCode) 0 text).length := by
  rw [fill_eq_flatMap, fill_eq_flatMap, List.length_flatMap, List.length_flatMap]
  exact List.sum_lt_sum _ _ (fun piece _ => length_pieceText_le code otherCode shorter.le piece)
    ⟨.inl .name, named, shorter⟩

/-- A pattern that asks for the name tells names apart: names of different lengths give texts of
different lengths, and with names of one length every piece has its place in the text. -/
theorem name_eq_of_fill_eq {name other code otherCode : String} {text : List Char}
    (named : .inl .name ∈ pieces 0 text)
    (same : fill (value name code) 0 text = fill (value other otherCode) 0 text) :
    name = other := by
  have lengths : name.toList.length = other.toList.length := by
    rcases Nat.lt_trichotomy name.toList.length other.toList.length with shorter | equal | longer
    · have less := length_fill_lt code otherCode named shorter
      exact absurd (same ▸ less) (Nat.lt_irrefl _)
    · exact equal
    · have less := length_fill_lt otherCode code named longer
      exact absurd (same ▸ less) (Nat.lt_irrefl _)
  rw [fill_eq_flatMap, fill_eq_flatMap, List.flatMap_def, List.flatMap_def] at same
  have everywhere : (pieces 0 text).map (pieceText name code) =
      (pieces 0 text).map (pieceText other otherCode) := by
    refine List.eq_iff_flatten_eq.2 ⟨same, ?_⟩
    rw [List.map_map, List.map_map]
    refine List.map_congr_left fun piece _ => Nat.le_antisymm ?_ ?_
    · exact length_pieceText_le code otherCode lengths.le piece
    · exact length_pieceText_le otherCode code lengths.ge piece
  exact String.toList_inj.1 (List.map_inj_left.1 everywhere _ named)

end Placeholder

/-- Chunks with different names go to different files, whatever their codes are, if the pattern asks for
the name. -/
theorem Chunk.filename_ne {chunk other : Chunk} {pattern : String}
    (named : Text.occurs Config.namePlaceholder.toList pattern.toList = true)
    (different : chunk.name ≠ other.name) (code otherCode : String) :
    chunk.filename pattern code ≠ other.filename pattern otherCode := by
  intro same
  refine different (Placeholder.name_eq_of_fill_eq ?_ (String.ofList_injective same))
  exact Placeholder.name_mem_pieces (by simp) named

end ModuleBundler
