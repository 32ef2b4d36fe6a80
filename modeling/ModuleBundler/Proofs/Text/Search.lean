import ModuleBundler.Text.Search
import Mathlib.Data.List.Infix

/-!
Where one stretch of text can start inside of another one, and what replacing a stretch leaves alone: a text
in which the stretch cannot start.
-/

namespace ModuleBundler.Text

def StartsIn (inner outer : List Char) : Prop :=
  ∃ front ending rest, outer = front ++ ending ∧ ending ≠ [] ∧ inner <+: ending ++ rest

theorem startsIn_iff {inner outer : List Char} : StartsIn inner outer ↔
    ∃ ending ∈ outer.tails, ending ≠ [] ∧ (inner <+: ending ∨ ending <+: inner) := by
  constructor
  · rintro ⟨front, ending, rest, whole, some, starts⟩
    exact ⟨ending, (List.mem_tails _ _).2 ⟨front, whole.symm⟩, some,
      List.prefix_or_prefix_of_prefix starts (List.prefix_append _ _)⟩
  · rintro ⟨ending, member, some, before | ⟨rest, behind⟩⟩
    · obtain ⟨front, whole⟩ := (List.mem_tails _ _).1 member
      exact ⟨front, ending, [], whole.symm, some, by rwa [List.append_nil]⟩
    · obtain ⟨front, whole⟩ := (List.mem_tails _ _).1 member
      exact ⟨front, ending, rest, whole.symm, some, by rw [behind]⟩

instance (inner outer : List Char) : Decidable (StartsIn inner outer) :=
  decidable_of_iff _ startsIn_iff.symm

theorem StartsIn.cons {inner outer : List Char} (starts : StartsIn inner outer) (c : Char) :
    StartsIn inner (c :: outer) := by
  obtain ⟨front, ending, rest, rfl, some, here⟩ := starts
  exact ⟨c :: front, ending, rest, rfl, some, here⟩

theorem startsIn_of_prefixes {inner outer text : List Char} (some : outer ≠ []) (first : inner <+: text)
    (other : outer <+: text) : StartsIn inner outer := by
  obtain ⟨rest, rfl⟩ := other
  exact ⟨[], outer, rest, rfl, some, first⟩

theorem infix_of_infix_append {stretch front rest : List Char} (absent : ¬StartsIn stretch front)
    (found : stretch <:+: front ++ rest) : stretch <:+: rest := by
  induction front with
  | nil => exact found
  | cons c front ih =>
    rcases List.infix_cons_iff.1 found with here | later
    · exact absurd ⟨[], c :: front, rest, rfl, List.cons_ne_nil _ _, here⟩ absent
    · exact ih (fun starts => absent (starts.cons c)) later

variable {stretch : List Char} (value : List Char)

theorem replaceStretch_cons_of_not {c : Char} {rest : List Char} (absent : ¬stretch <+: c :: rest) :
    replaceStretch stretch value 0 (c :: rest) = c :: replaceStretch stretch value 0 rest := by
  rw [replaceStretch, if_neg (by simpa using absent)]

theorem replaceStretch_skip (skipped rest : List Char) :
    replaceStretch stretch value skipped.length (skipped ++ rest) =
      replaceStretch stretch value 0 rest := by
  induction skipped with
  | nil => rfl
  | cons c skipped ih => exact ih

theorem replaceStretch_append (some : stretch ≠ []) (rest : List Char) :
    replaceStretch stretch value 0 (stretch ++ rest) = value ++ replaceStretch stretch value 0 rest := by
  obtain ⟨c, more, rfl⟩ := List.exists_cons_of_ne_nil some
  have here : (c :: more).isPrefixOf (c :: (more ++ rest)) = true :=
    List.isPrefixOf_iff_prefix.2 ⟨rest, rfl⟩
  rw [List.cons_append, replaceStretch, if_pos here, List.length_cons, Nat.add_sub_cancel,
    replaceStretch_skip]

theorem replaceStretch_of_not_startsIn {front : List Char} (absent : ¬StartsIn stretch front)
    (rest : List Char) :
    replaceStretch stretch value 0 (front ++ rest) = front ++ replaceStretch stretch value 0 rest := by
  induction front with
  | nil => rfl
  | cons c front ih =>
    have here : ¬stretch <+: c :: (front ++ rest) := fun starts =>
      absent ⟨[], c :: front, rest, rfl, List.cons_ne_nil _ _, starts⟩
    rw [List.cons_append, replaceStretch_cons_of_not value here,
      ih fun starts => absent (starts.cons c), List.cons_append]

theorem replaceStretch_of_not_infix {text : List Char} (absent : ¬stretch <:+: text) :
    replaceStretch stretch value 0 text = text := by
  induction text with
  | nil => rfl
  | cons c text ih =>
    rw [List.infix_cons_iff, not_or] at absent
    rw [replaceStretch_cons_of_not value absent.1, ih absent.2]

theorem replaceAll_of_ne_nil (some : stretch ≠ []) (text : List Char) :
    replaceAll stretch value text = replaceStretch stretch value 0 text := by
  rw [replaceAll, if_neg (by simpa using some)]

end ModuleBundler.Text
