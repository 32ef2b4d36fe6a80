import ModuleBundler.Json.Parser
import ModuleBundler.Proofs.Text.Quoted
import Mathlib.Algebra.Ring.Parity

/-!
What may stand between the quotes of a string, and which text it means. The reader accepts just that, and the
writer writes one spelling of every text, from which a string that is opened is closed by its own quote.
-/

namespace ModuleBundler.Text

namespace Quoted

/-- How a character may be spelled: as it is, unless it is a quote, a backslash or a control character; by a
letter behind a backslash; by the four digits of a unit that is not half of a pair; or by both halves of
its pair. -/
inductive Piece : List Char → Char → Prop
  | plain {c : Char} (noQuote : c ≠ '\x22') (noBackslash : c ≠ '\\') (noControl : 32 ≤ c.toNat) :
      Piece [c] c
  | letter {letter c : Char} (named : letter? letter = some c) : Piece ['\\', letter] c
  | unit {a b c d : Char} {value : Nat} (digits : unit? a b c d = some value) (notHigh : isHigh value = false)
      (notLow : isLow value = false) : Piece ['\\', 'u', a, b, c, d] (Char.ofNat value)
  | pair {a b c d e f g h : Char} {high low : Nat} (first : unit? a b c d = some high)
      (second : unit? e f g h = some low) (isHigh : isHigh high = true) (isLow : isLow low = true) :
      Piece ['\\', 'u', a, b, c, d, '\\', 'u', e, f, g, h]
        (Char.ofNat (0x10000 + (high - 0xd800) * 0x400 + (low - 0xdc00)))

inductive Spells : List Char → List Char → Prop
  | nil : Spells [] []
  | cons {piece body text : List Char} {c : Char} (first : Piece piece c) (others : Spells body text) :
      Spells (piece ++ body) (c :: text)

theorem Piece.decode_append {piece : List Char} {c : Char} (spelled : Piece piece c) (body : List Char) :
    decode (piece ++ body) = (decode body).map (c :: ·) := by
  cases spelled with
  | plain noQuote noBackslash noControl =>
    cases decoded : decode body <;> simp [decode, noQuote, noBackslash, noControl, decoded]
  | letter named =>
    rename_i letter
    have notUnit : letter ≠ 'u' := by
      rintro rfl
      cases named
    cases decoded : decode body <;> simp [decode, notUnit, named, decoded]
  | unit digits notHigh notLow =>
    cases decoded : decode body <;> simp [decode, digits, notHigh, notLow, decoded]
  | pair first second isHigh isLow =>
    cases decoded : decode body <;> simp [decode, first, second, isHigh, isLow, decoded]

theorem spells_of_decode {body text : List Char} (read : decode body = some text) : Spells body text := by
  -- by the cases of the reader; in the second one its answers for two different rests are at hand
  fun_induction decode body generalizing text with
  | case1 =>
    cases read
    exact .nil
  | case2 a b c d rest paired others =>
    obtain ⟨value, digits, read⟩ := Option.bind_eq_some_iff.1 read
    split at read
    · rename_i high
      split at read
      · obtain ⟨low, lowDigits, read⟩ := Option.bind_eq_some_iff.1 read
        split at read
        · rename_i isLow
          obtain ⟨more, decoded, read⟩ := Option.bind_eq_some_iff.1 read
          cases read
          exact .cons (.pair digits lowDigits high isLow) (paired decoded)
        · cases read
      · cases read
    · rename_i notHigh
      split at read
      · cases read
      · rename_i notLow
        obtain ⟨more, decoded, read⟩ := Option.bind_eq_some_iff.1 read
        cases read
        exact .cons (.unit digits (Bool.eq_false_iff.2 notHigh) (Bool.eq_false_iff.2 notLow))
          (others decoded)
  | case3 letter rest notUnit others =>
    obtain ⟨c, named, read⟩ := Option.bind_eq_some_iff.1 read
    obtain ⟨more, decoded, read⟩ := Option.bind_eq_some_iff.1 read
    cases read
    exact .cons (.letter named) (others decoded)
  | case4 => cases read
  | case5 c rest noUnit noLetter plain others =>
    obtain ⟨more, decoded, read⟩ := Option.bind_eq_some_iff.1 read
    cases read
    rw [not_or, not_or, Nat.not_lt] at plain
    exact .cons (.plain plain.1 plain.2.1 plain.2.2) (others decoded)

theorem decode_eq_some_iff {body text : List Char} : decode body = some text ↔ Spells body text := by
  refine ⟨spells_of_decode, fun spells => ?_⟩
  induction spells with
  | nil => rfl
  | cons first _ ih => rw [first.decode_append, ih, Option.map_some]

theorem spells_encode_iff (text read : List Char) : Spells (encode text) read ↔ read = text := by
  rw [← decode_eq_some_iff, decode_encode, Option.some.injEq, eq_comm]

def backslashes (text : List Char) : Nat :=
  (text.reverse.takeWhile (· == '\\')).length

theorem backslashes_append (front back : List Char) : backslashes (front ++ back) =
    if backslashes back = back.length then back.length + backslashes front else backslashes back := by
  unfold backslashes
  rw [List.reverse_append, List.takeWhile_append, List.length_reverse]
  split
  · rw [List.length_append, List.length_reverse]
  · rfl

theorem backslashes_concat_of_ne {c : Char} (other : c ≠ '\\') (front : List Char) :
    backslashes (front ++ [c]) = 0 := by
  rw [backslashes, List.reverse_append, List.reverse_singleton, List.singleton_append,
    List.takeWhile_cons_of_neg (by simpa using other), List.length_nil]

/-- A hexadecimal digit is neither a backslash nor a quote, nor a control character. -/
theorem digit_of_digitValue? {c : Char} {value : Nat} (digit : digitValue? c = some value) :
    48 ≤ c.toNat ∧ c ≠ '\\' := by
  unfold digitValue? at digit
  split at digit
  · rename_i range
    exact ⟨range.1, fun same => absurd (same ▸ range.2) (by decide)⟩
  · split at digit
    · rename_i range
      have low : 97 ≤ c.toNat := range.1
      exact ⟨by omega, fun same => absurd (same ▸ range.1) (by decide)⟩
    · split at digit
      · rename_i range
        have low : 65 ≤ c.toNat := range.1
        exact ⟨by omega, fun same => absurd (same ▸ range.2) (by decide)⟩
      · cases digit

theorem digits_of_unit? {a b c d : Char} {value : Nat} (digits : unit? a b c d = some value) :
    ∀ digit ∈ [a, b, c, d], 48 ≤ digit.toNat ∧ digit ≠ '\\' := by
  obtain ⟨_, first, digits⟩ := Option.bind_eq_some_iff.1 digits
  obtain ⟨_, second, digits⟩ := Option.bind_eq_some_iff.1 digits
  obtain ⟨_, third, digits⟩ := Option.bind_eq_some_iff.1 digits
  obtain ⟨_, fourth, -⟩ := Option.bind_eq_some_iff.1 digits
  simp only [List.forall_mem_cons]
  exact ⟨digit_of_digitValue? first, digit_of_digitValue? second, digit_of_digitValue? third,
    digit_of_digitValue? fourth, List.forall_mem_nil _⟩

/-- What can stand between quotes: no control character, no quote that is not escaped, as one is behind an
odd number of backslashes, and at the end no backslash that would escape the closing quote. -/
structure Closed (body : List Char) : Prop where
  no_control : ∀ c ∈ body, 32 ≤ c.toNat
  quotes_escaped : ∀ front back, body = front ++ '\x22' :: back → Odd (backslashes front)
  none_dangling : Even (backslashes body)

theorem even_backslashes_append {front : List Char} (even : Even (backslashes front)) (back : List Char) :
    Even (backslashes (front ++ back)) ↔ Even (backslashes back) := by
  rw [backslashes_append]
  split
  · rename_i all
    rw [all, Nat.even_add]
    exact iff_true_right even
  · exact Iff.rfl

theorem closed_nil : Closed [] where
  no_control := List.forall_mem_nil _
  quotes_escaped front back same := by
    cases front <;> cases same
  none_dangling := Even.zero

theorem Closed.append {front back : List Char} (first : Closed front) (second : Closed back) :
    Closed (front ++ back) where
  no_control := List.forall_mem_append.2 ⟨first.no_control, second.no_control⟩
  quotes_escaped before behind same := by
    rcases List.append_eq_append_iff.1 same with ⟨between, rfl, rest⟩ | ⟨between, rfl, rest⟩
    · rw [← Nat.not_even_iff_odd, even_backslashes_append first.none_dangling, Nat.not_even_iff_odd]
      exact second.quotes_escaped between behind rest
    · cases between with
      | nil =>
        -- the quote would be the first character behind the front
        have odd := second.quotes_escaped [] behind rest.symm
        exact absurd odd (by decide)
      | cons c between =>
        obtain ⟨rfl, -⟩ := List.cons.inj rest
        exact first.quotes_escaped before between rfl
  none_dangling := (even_backslashes_append first.none_dangling back).2 second.none_dangling

theorem closed_plain {c : Char} (noQuote : c ≠ '\x22') (noBackslash : c ≠ '\\') (noControl : 32 ≤ c.toNat) :
    Closed [c] where
  no_control := List.forall_mem_singleton.2 noControl
  quotes_escaped front back same := by
    have member : '\x22' ∈ [c] := by simp [same]
    exact absurd (List.mem_singleton.1 member).symm noQuote
  none_dangling := by
    rw [show backslashes [c] = 0 from backslashes_concat_of_ne noBackslash []]
    exact Even.zero

def letters : List Char := ['\x22', '\\', '/', 'b', 'f', 'n', 'r', 't']

theorem mem_letters_of_letter? {letter c : Char} (named : letter? letter = some c) : letter ∈ letters := by
  unfold letter? at named
  split at named
  case h_9 => cases named
  all_goals decide

theorem letters_spec : ∀ letter ∈ letters, 32 ≤ letter.toNat ∧ Even (backslashes ['\\', letter]) := by
  simp only [letters, List.forall_mem_cons, List.not_mem_nil, false_implies, implies_true, and_true]
  decide

theorem closed_letter {letter : Char} (known : letter ∈ letters) : Closed ['\\', letter] where
  no_control := List.forall_mem_cons.2 ⟨by decide, List.forall_mem_singleton.2 (letters_spec letter known).1⟩
  quotes_escaped front back same := by
    match front, same with
    | [_], same =>
      obtain ⟨rfl, -⟩ := List.cons.inj same
      decide
    | _ :: _ :: front, same => simp at same
  none_dangling := (letters_spec letter known).2

theorem closed_unit {a b c d : Char} {value : Nat} (digits : unit? a b c d = some value) :
    Closed ['\\', 'u', a, b, c, d] where
  no_control := by
    refine List.forall_mem_cons.2 ⟨by decide, List.forall_mem_cons.2 ⟨by decide, fun digit member => ?_⟩⟩
    exact Nat.le_trans (by decide) (digits_of_unit? digits digit member).1
  quotes_escaped front back same := by
    have member : '\x22' ∈ ['\\', 'u', a, b, c, d] := by simp [same]
    rcases List.mem_cons.1 member with equal | member
    · cases equal
    · rcases List.mem_cons.1 member with equal | member
      · cases equal
      · exact absurd (digits_of_unit? digits _ member).1 (by decide)
  none_dangling := by
    have last : d ≠ '\\' := (digits_of_unit? digits d (by simp)).2
    rw [show backslashes ['\\', 'u', a, b, c, d] = 0 from
      backslashes_concat_of_ne last ['\\', 'u', a, b, c]]
    exact Even.zero

theorem Piece.closed {piece : List Char} {c : Char} (spelled : Piece piece c) : Closed piece := by
  cases spelled with
  | plain noQuote noBackslash noControl => exact closed_plain noQuote noBackslash noControl
  | letter named => exact closed_letter (mem_letters_of_letter? named)
  | unit digits => exact closed_unit digits
  | pair first second => exact (closed_unit first).append (closed_unit second)

theorem Spells.closed {body text : List Char} (spells : Spells body text) : Closed body := by
  induction spells with
  | nil => exact closed_nil
  | cons first _ ih => exact first.closed.append ih

open Json (splitQuoted)

theorem splitQuoted_cons {c : Char} (noQuote : c ≠ '\x22') (noBackslash : c ≠ '\\') (rest : List Char) :
    splitQuoted (c :: rest) = (splitQuoted rest).map fun found => (c :: found.1, found.2) := by
  rw [splitQuoted]
  · cases splitQuoted rest <;> rfl
  · exact noQuote
  · exact fun _ _ escape _ => noBackslash escape

theorem splitQuoted_escape (c : Char) (rest : List Char) :
    splitQuoted ('\\' :: c :: rest) =
      (splitQuoted rest).map fun found => ('\\' :: c :: found.1, found.2) := by
  rw [splitQuoted]
  cases splitQuoted rest <;> rfl

theorem splitQuoted_unit {a b c d : Char} {value : Nat} (digits : unit? a b c d = some value)
    (rest : List Char) : splitQuoted ('\\' :: 'u' :: a :: b :: c :: d :: rest) =
      (splitQuoted rest).map fun found => ('\\' :: 'u' :: a :: b :: c :: d :: found.1, found.2) := by
  have other : ∀ digit ∈ [a, b, c, d], digit ≠ '\x22' ∧ digit ≠ '\\' := fun digit member => by
    obtain ⟨bound, noBackslash⟩ := digits_of_unit? digits digit member
    exact ⟨fun quote => absurd (quote ▸ bound) (by decide), noBackslash⟩
  simp only [List.forall_mem_cons] at other
  obtain ⟨first, second, third, fourth, -⟩ := other
  rw [splitQuoted_escape, splitQuoted_cons first.1 first.2, splitQuoted_cons second.1 second.2,
    splitQuoted_cons third.1 third.2, splitQuoted_cons fourth.1 fourth.2]
  simp only [Option.map_map, Function.comp_def]

theorem Piece.splitQuoted_append {piece : List Char} {c : Char} (spelled : Piece piece c)
    (rest : List Char) : splitQuoted (piece ++ rest) =
      (splitQuoted rest).map fun found => (piece ++ found.1, found.2) := by
  cases spelled with
  | plain noQuote noBackslash => exact splitQuoted_cons noQuote noBackslash rest
  | letter => exact splitQuoted_escape _ rest
  | unit digits => exact splitQuoted_unit digits rest
  | pair first second =>
    refine (splitQuoted_unit first ('\\' :: 'u' :: _ :: _ :: _ :: _ :: rest)).trans ?_
    rw [splitQuoted_unit second, Option.map_map]
    rfl

theorem Spells.splitQuoted_append {body text : List Char} (spells : Spells body text) (rest : List Char) :
    splitQuoted (body ++ '\x22' :: rest) = some (body, rest) := by
  induction spells with
  | nil => rfl
  | cons first _ ih => rw [List.append_assoc, first.splitQuoted_append, ih, Option.map_some]

end Quoted

theorem toList_quoted (text : String) :
    (quoted text).toList = '\x22' :: (Quoted.encode text.toList ++ ['\x22']) :=
  String.toList_ofList

/-- What a text in quotes has between them can stand there, and is read as the text and as no other one. A
reader that has passed the first quote stops behind the last one, whatever follows. -/
structure Quoted.Body (text body : List Char) : Prop where
  closed : Closed body
  spells : ∀ read, Spells body read ↔ read = text
  ends : ∀ rest, Json.skipText (body ++ '\x22' :: rest) = some rest

theorem Quoted.body_encode (text : List Char) : Body text (encode text) := by
  have spells : Spells (encode text) text := (spells_encode_iff text text).2 rfl
  refine ⟨spells.closed, spells_encode_iff text, fun rest => ?_⟩
  rw [Json.skipText, spells.splitQuoted_append rest]
  simp only [Option.bind_eq_bind, Option.bind_some, decode_encode, Option.pure_def]

example : (quoted "\x22\\\x01é").toList =
    ['\x22', '\\', '\x22', '\\', '\\', '\\', 'u', '0', '0', '0', '1', 'é', '\x22'] := by decide

end ModuleBundler.Text
