import ModuleBundler.Text.Quoted

/-!
Quoted text can be read back, so that different texts are quoted differently.
-/

namespace ModuleBundler.Text

namespace Quoted

theorem unit?_digits : ∀ value < 32,
    unit? '0' '0' (digit (value / 16)) (digit (value % 16)) = some value := by
  decide

/-- Reading goes on behind an escaped character. -/
theorem decode_escape_append (c : Char) (rest : List Char) :
    decode (escape c ++ rest) = (decode rest).map (c :: ·) := by
  unfold escape
  -- one case for each character that has a spelling of its own
  iterate 7
    split
    · rename_i spelled
      subst spelled
      cases decoded : decode rest <;> simp [decode, letter?, decoded]
  split
  · rename_i control
    have value := unit?_digits c.toNat control
    have single : ¬isHigh c.toNat = true ∧ ¬isLow c.toNat = true := by
      simp only [isHigh, isLow, Bool.and_eq_true, decide_eq_true_eq]
      omega
    cases decoded : decode rest <;>
      simp [decode, value, single.1, single.2, decoded, Char.ofNat_toNat]
  · rename_i noQuote noBackslash _ _ _ _ _ noControl
    cases decoded : decode rest <;> simp [decode, noQuote, noBackslash, noControl, decoded]

theorem decode_encode (text : List Char) : decode (encode text) = some text := by
  induction text with
  | nil => rfl
  | cons c text ih =>
    rw [encode, List.flatMap_cons, decode_escape_append, ← encode, ih, Option.map_some]

theorem encode_injective : Function.Injective encode := by
  intro first second same
  have read := decode_encode first
  rw [same, decode_encode, Option.some.injEq] at read
  exact read.symm

end Quoted

theorem quoted_injective : Function.Injective quoted := by
  intro first second same
  have pieces := String.ofList_injective same
  have inner := List.append_cancel_right (List.cons.inj pieces).2
  exact String.toList_injective (Quoted.encode_injective inner)

end ModuleBundler.Text
