import ModuleBundler.Proofs.Outcome
import ModuleBundler.Proofs.Text.Edit
import ModuleBundler.Script.Token

/-!
Where tokens lie. Reading a token only ever moves on in the text, by whole characters, so that offsets and
what is left of the text belong together.
-/

namespace ModuleBundler.Script

open Text (byteSize byteSize_append)

namespace Place

def Ahead (place ahead : Place) : Prop :=
  ∃ passed, place.text = passed ++ ahead.text ∧ ahead.offset = place.offset + byteSize passed

namespace Ahead

theorem refl (place : Place) : place.Ahead place :=
  ⟨[], rfl, rfl⟩

theorem trans {place middle ahead : Place} (first : place.Ahead middle) (second : middle.Ahead ahead) :
    place.Ahead ahead := by
  obtain ⟨passed, text, offset⟩ := first
  obtain ⟨more, others, further⟩ := second
  refine ⟨passed ++ more, ?_, ?_⟩
  · rw [text, others, List.append_assoc]
  · rw [further, offset, byteSize_append, Nat.add_assoc]

theorem pass (passed : List Char) {offset size : Nat} {rest : List Char} {ahead : Place}
    (measured : byteSize passed = size) (further : Ahead ⟨offset + size, rest⟩ ahead) :
    Ahead ⟨offset, passed ++ rest⟩ ahead :=
  trans ⟨passed, rfl, by rw [measured]⟩ further

theorem offset_le {place ahead : Place} (moved : place.Ahead ahead) : place.offset ≤ ahead.offset := by
  obtain ⟨passed, -, offset⟩ := moved
  omega

end Ahead

theorem ahead_skip (place : Place) (count : Nat) : place.Ahead (place.skip count) := by
  induction count generalizing place with
  | zero => exact .refl _
  | succ count ih =>
    obtain ⟨offset, text⟩ := place
    cases text with
    | nil => exact .refl _
    | cons c rest => exact .pass [c] rfl (ih ⟨offset + c.utf8Size, rest⟩)

end Place

open Place (Ahead ahead_skip)

theorem utf8Size_of_le {c : Char} (small : c ≤ '\x7f') : c.utf8Size = 1 :=
  Char.utf8Size_eq_one_iff.2 small

theorem utf8Size_of_isDigit {c : Char} (digit : isDigit c = true) : c.utf8Size = 1 := by
  simp only [isDigit, Bool.and_eq_true, decide_eq_true_eq] at digit
  exact utf8Size_of_le (Char.le_trans digit.2 (by decide))

theorem utf8Size_of_isDigitOf {base : Nat} {c : Char} (digit : isDigitOf base c = true) :
    c.utf8Size = 1 := by
  unfold isDigitOf digitValue? at digit
  split at digit
  · rename_i value known
    split at known
    · rename_i decimal
      exact utf8Size_of_isDigit decimal
    · split at known
      · rename_i lower
        exact utf8Size_of_le (Char.le_trans lower.2 (by decide))
      · split at known
        · rename_i upper
          exact utf8Size_of_le (Char.le_trans upper.2 (by decide))
        · cases known
  · cases digit

theorem ahead_skipGap {gap : Gap} {offset : Nat} {opens line : Bool} {text : List Char} {place : Place}
    (skipped : skipGap gap offset opens text = .ok (line, place)) : Ahead ⟨offset, text⟩ place := by
  fun_induction skipGap gap offset opens text with
  | case1 => cases skipped
  | case2 =>
    cases skipped
    exact .refl _
  | case3 offset opens rest ih => exact .pass ['*', '/'] rfl (ih skipped)
  | case4 offset opens c rest _ ih => exact .pass [c] rfl (ih skipped)
  | case5 offset opens c rest _ ih => exact .pass [c] rfl (ih skipped)
  | case6 offset opens c rest _ ih => exact .pass [c] rfl (ih skipped)
  | case7 offset opens rest ih => exact .pass ['/', '/'] rfl (ih skipped)
  | case8 offset opens rest ih => exact .pass ['/', '*'] rfl (ih skipped)
  | case9 offset opens rest ih => exact .pass ['<', '!', '-', '-'] rfl (ih skipped)
  | case10 offset rest ih => exact .pass ['-', '-', '>'] rfl (ih skipped)
  | case11 offset opens c rest _ _ _ _ _ ih => exact .pass [c] rfl (ih skipped)
  | case12 offset opens c rest _ _ _ _ _ _ ih => exact .pass [c] rfl (ih skipped)
  | case13 =>
    cases skipped
    exact .refl _

theorem ahead_skipDigits {base : Nat} {after : Bool} {offset : Nat} {text : List Char} {place : Place}
    (skipped : skipDigits base after offset text = .ok place) : Ahead ⟨offset, text⟩ place := by
  fun_induction skipDigits base after offset text with
  | case3 after offset c rest _ digit ih =>
    exact .pass ['_', c] (by simp [byteSize, utf8Size_of_isDigitOf digit]; rfl) (ih skipped)
  | case7 after offset c rest _ _ digit ih =>
    exact .pass [c] (utf8Size_of_isDigitOf digit) (ih skipped)
  | case1 | case2 | case6 | case8 =>
    cases skipped
    exact .refl _
  | case4 | case5 => cases skipped

def Lexeme.isNumber : Lexeme → Bool
  | .number | .bigInteger => true
  | _ => false

theorem endNumber_eq_ok {lexeme found : Lexeme} {place after : Place}
    (ended : endNumber lexeme place = .ok (found, after)) : found = lexeme ∧ after = place := by
  unfold endNumber at ended
  split at ended
  · cases ended
    exact ⟨rfl, rfl⟩
  · split at ended <;> cases ended
    exact ⟨rfl, rfl⟩

theorem ahead_skipExponent {place after : Place} (skipped : skipExponent place = .ok after) :
    place.Ahead after := by
  unfold skipExponent at skipped
  extract_lets digits at skipped
  have signed : place.Ahead digits := by
    unfold digits
    split
    · exact ahead_skip _ _
    · exact ahead_skip _ _
    · exact .refl _
  split at skipped
  · split at skipped
    · exact signed.trans (ahead_skipDigits skipped)
    · cases skipped
  · cases skipped

theorem ahead_skipExponent? {place after : Place} (skipped : skipExponent? place = .ok after) :
    place.Ahead after := by
  unfold skipExponent? at skipped
  split at skipped
  · exact (ahead_skip place 1).trans (ahead_skipExponent skipped)
  · exact (ahead_skip place 1).trans (ahead_skipExponent skipped)
  · cases skipped
    exact .refl _

theorem ahead_endFraction {place after : Place} {lexeme : Lexeme}
    (ended : endFraction place = .ok (lexeme, after)) :
    place.Ahead after ∧ lexeme.isNumber = true := by
  obtain ⟨digits, first, rest⟩ := except_bind_eq_ok.1 ended
  obtain ⟨exponent, second, last⟩ := except_bind_eq_ok.1 rest
  obtain ⟨rfl, rfl⟩ := endNumber_eq_ok last
  exact ⟨(ahead_skipDigits first).trans (ahead_skipExponent? second), rfl⟩

theorem ahead_endDecimal {place after : Place} {lexeme : Lexeme}
    (ended : endDecimal place = .ok (lexeme, after)) :
    place.Ahead after ∧ lexeme.isNumber = true := by
  unfold endDecimal at ended
  split at ended
  · exact (ahead_endFraction ended).imp_left (ahead_skip place 1).trans
  · obtain ⟨rfl, rfl⟩ := endNumber_eq_ok ended
    exact ⟨ahead_skip place 1, rfl⟩
  · obtain ⟨exponent, first, last⟩ := except_bind_eq_ok.1 ended
    obtain ⟨rfl, rfl⟩ := endNumber_eq_ok last
    exact ⟨ahead_skipExponent? first, rfl⟩

theorem ahead_scanBased {base : Nat} {place after : Place} {lexeme : Lexeme}
    (scanned : scanBased base place = .ok (lexeme, after)) :
    place.Ahead after ∧ lexeme.isNumber = true := by
  unfold scanBased at scanned
  split at scanned
  · cases scanned
  · split at scanned
    · cases scanned
    · obtain ⟨digits, first, rest⟩ := except_bind_eq_ok.1 scanned
      split at rest
      · obtain ⟨rfl, rfl⟩ := endNumber_eq_ok rest
        exact ⟨(ahead_skipDigits first).trans (ahead_skip digits 1), rfl⟩
      · obtain ⟨rfl, rfl⟩ := endNumber_eq_ok rest
        exact ⟨ahead_skipDigits first, rfl⟩

theorem ahead_scanLegacyNumber {place after : Place} {lexeme : Lexeme}
    (scanned : scanLegacyNumber place = .ok (lexeme, after)) :
    place.Ahead after ∧ lexeme.isNumber = true := by
  unfold scanLegacyNumber at scanned
  dsimp only at scanned
  refine And.imp_left (ahead_skip place (place.text.takeWhile isDigit).length).trans ?_
  split at scanned
  · split at scanned
    · exact (ahead_endFraction scanned).imp_left (ahead_skip _ 1).trans
    · obtain ⟨exponent, first, last⟩ := except_bind_eq_ok.1 scanned
      obtain ⟨rfl, rfl⟩ := endNumber_eq_ok last
      exact ⟨(ahead_skip _ 1).trans (ahead_skipExponent first), rfl⟩
    · obtain ⟨rfl, rfl⟩ := endNumber_eq_ok scanned
      exact ⟨.refl _, rfl⟩
  · obtain ⟨rfl, rfl⟩ := endNumber_eq_ok scanned
    exact ⟨.refl _, rfl⟩

theorem ahead_scanNumber {place after : Place} {lexeme : Lexeme}
    (scanned : scanNumber place = .ok (lexeme, after)) :
    place.Ahead after ∧ lexeme.isNumber = true := by
  unfold scanNumber at scanned
  split at scanned
  iterate 6 exact (ahead_scanBased scanned).imp_left (ahead_skip place 2).trans
  iterate 2
    · obtain ⟨exponent, first, rest⟩ := except_bind_eq_ok.1 scanned
      cases rest
      exact ⟨(ahead_skip place 2).trans (ahead_skipExponent first), rfl⟩
  · exact (ahead_endFraction scanned).imp_left (ahead_skip place 2).trans
  · obtain ⟨rfl, rfl⟩ := endNumber_eq_ok scanned
    exact ⟨ahead_skip place 2, rfl⟩
  · split at scanned
    · exact ahead_scanLegacyNumber scanned
    · obtain ⟨rfl, rfl⟩ := endNumber_eq_ok scanned
      exact ⟨ahead_skip place 1, rfl⟩
  · exact (ahead_endFraction scanned).imp_left (ahead_skip place 1).trans
  · obtain ⟨digits, first, rest⟩ := except_bind_eq_ok.1 scanned
    exact (ahead_endDecimal rest).imp_left (ahead_skipDigits first).trans

theorem ahead_scanText {quote : Char} (single : quote.utf8Size = 1) {skip offset : Nat}
    {value text : List Char} {read : String} {after : Place}
    (scanned : scanText quote skip value offset text = .ok (read, after)) :
    Ahead ⟨offset, text⟩ after := by
  fun_induction scanText quote skip value offset text with
  | case1 => cases scanned
  | case2 skip value offset c rest ih => exact .pass [c] rfl (ih scanned)
  | case3 value offset c rest backslash escape _ ih =>
    obtain rfl := beq_iff_eq.1 backslash
    exact .pass ['\\'] rfl (ih scanned)
  | case4 => cases scanned
  | case5 value offset c rest _ closes =>
    obtain rfl := beq_iff_eq.1 closes
    cases scanned
    exact .pass [c] single (.refl _)
  | case6 => cases scanned
  | case7 value offset c rest _ _ _ ih => exact .pass [c] rfl (ih scanned)

def Lexeme.isTemplate : Lexeme → Bool
  | .template _ _ => true
  | _ => false

theorem ahead_scanTemplate {skip offset : Nat} {sound : Bool} {text : List Char} {lexeme : Lexeme}
    {after : Place} (scanned : scanTemplate skip sound offset text = .ok (lexeme, after)) :
    Ahead ⟨offset, text⟩ after ∧ lexeme.isTemplate = true := by
  fun_induction scanTemplate skip sound offset text with
  | case1 => cases scanned
  | case2 skip sound offset c rest ih => exact (ih scanned).imp_left (.pass [c] rfl)
  | case3 sound offset c rest closes =>
    obtain rfl := beq_iff_eq.1 closes
    cases scanned
    exact ⟨.pass ['\x60'] rfl (.refl _), rfl⟩
  | case4 sound offset c rest _ opens =>
    obtain ⟨dollar, brace⟩ := Bool.and_eq_true_iff.1 opens
    obtain rfl := beq_iff_eq.1 dollar
    obtain ⟨others, rfl⟩ := List.head?_eq_some_iff.1 (beq_iff_eq.1 brace)
    cases scanned
    exact ⟨.pass ['$', '\x7b'] rfl (.refl _), rfl⟩
  | case5 sound offset c rest _ _ backslash escape _ ih =>
    obtain rfl := beq_iff_eq.1 backslash
    exact (ih scanned).imp_left (.pass ['\\'] rfl)
  | case6 sound offset c rest _ _ backslash _ ih =>
    obtain rfl := beq_iff_eq.1 backslash
    exact (ih scanned).imp_left (.pass ['\\'] rfl)
  | case7 sound offset c rest _ _ _ ih => exact (ih scanned).imp_left (.pass [c] rfl)

theorem ahead_skipRegexBody {inClass : Bool} {offset : Nat} {text : List Char} {after : Place}
    (skipped : skipRegexBody inClass offset text = .ok after) : Ahead ⟨offset, text⟩ after := by
  fun_induction skipRegexBody inClass offset text with
  | case1 => cases skipped
  | case2 => cases skipped
  | case3 inClass offset c rest _ ih =>
    have moved := ih skipped
    rw [Nat.add_assoc] at moved
    exact .pass ['\\', c] rfl moved
  | case4 => cases skipped
  | case5 inClass offset c rest _ _ closes =>
    obtain rfl := beq_iff_eq.1 (Bool.and_eq_true_iff.1 closes).1
    cases skipped
    exact .pass ['/'] rfl (.refl _)
  | case6 inClass offset c rest _ _ _ ih => exact .pass [c] rfl (ih skipped)

theorem utf8Size_of_flag {c : Char} (flag : "dgimsuvy".toList.contains c = true) : c.utf8Size = 1 := by
  have small : ("dgimsuvy".toList.all fun d => d.utf8Size == 1) = true := by decide
  exact eq_of_beq (List.all_eq_true.1 small c (List.contains_iff_mem.1 flag))

theorem ahead_skipRegexFlags {seen : List Char} {offset : Nat} {text : List Char} {after : Place}
    (skipped : skipRegexFlags seen offset text = .ok after) : Ahead ⟨offset, text⟩ after := by
  fun_induction skipRegexFlags seen offset text with
  | case1 | case2 =>
    cases skipped
    exact .refl _
  | case3 seen offset c rest _ flag ih =>
    exact .pass [c] (utf8Size_of_flag (Bool.and_eq_true_iff.1 flag).1) (ih skipped)
  | case4 => cases skipped

theorem ahead_scanName {skip offset : Nat} {name text : List Char} {escaped : Bool} {read : NameRead}
    (scanned : scanName skip name escaped offset text = .ok read) :
    Ahead ⟨offset, text⟩ read.after := by
  fun_induction scanName skip name escaped offset text with
  | case1 =>
    cases scanned
    exact .refl _
  | case2 skip name escaped offset c rest ih => exact .pass [c] rfl (ih scanned)
  | case3 name escaped offset c rest _ backslash meant length _ _ ih =>
    obtain rfl := beq_iff_eq.1 backslash
    exact .pass ['\\'] rfl (ih scanned)
  | case4 | case5 => cases scanned
  | case6 name escaped offset c rest _ _ _ ih => exact .pass [c] rfl (ih scanned)
  | case7 =>
    cases scanned
    exact .refl _

/-- A name without an escape is spelled as it reads. -/
theorem spelled_of_scanName {skip offset : Nat} {name text : List Char} {escaped : Bool}
    {read : NameRead} (scanned : scanName skip name escaped offset text = .ok read)
    (plain : read.escaped = false) :
    escaped = false ∧ (skip = 0 → ∃ spelled, read.name.toList = name.reverse ++ spelled ∧
      spelled <+: text ∧ read.after.offset = offset + byteSize spelled) := by
  fun_induction scanName skip name escaped offset text with
  | case1 =>
    cases scanned
    exact ⟨plain, fun _ => ⟨[], by simp, List.nil_prefix, rfl⟩⟩
  | case2 skip name escaped offset c rest ih => exact ⟨(ih scanned).1, nofun⟩
  | case3 name escaped offset c rest _ _ meant length _ _ ih => cases (ih scanned).1
  | case4 | case5 => cases scanned
  | case6 name escaped offset c rest _ _ _ ih =>
    obtain ⟨unescaped, behind⟩ := ih scanned
    obtain ⟨spelled, reads, begins, stop⟩ := behind rfl
    refine ⟨unescaped, fun _ => ⟨c :: spelled, by simpa using reads, (List.prefix_cons_inj c).2 begins, ?_⟩⟩
    rw [stop, byteSize, Nat.add_assoc]
  | case7 =>
    cases scanned
    exact ⟨plain, fun _ => ⟨[], by simp, List.nil_prefix, rfl⟩⟩

/-- A name that starts somewhere has a character. -/
theorem lt_of_scanName {offset : Nat} {c : Char} {rest : List Char} {escaped : Bool} {read : NameRead}
    (opens : c = '\\' ∨ startsName c = true)
    (scanned : scanName 0 [] escaped offset (c :: rest) = .ok read) : offset < read.after.offset := by
  have positive : 0 < c.utf8Size := c.utf8Size_pos
  simp only [scanName, List.isEmpty_nil, if_true] at scanned
  split at scanned
  · split at scanned
    · split at scanned
      · have moved := (ahead_scanName scanned).offset_le
        dsimp only at moved
        omega
      · cases scanned
    · cases scanned
  · rename_i noBackslash
    split at scanned
    · have moved := (ahead_scanName scanned).offset_le
      dsimp only at moved
      omega
    · rename_i refused
      simp_all

/-- What the text says between the ends of a token. -/
def Lexeme.Reads (place after : Place) : Lexeme → Prop
  | .word name escaped => place.offset < after.offset ∧ (escaped = false →
      name.toList <+: place.text ∧ after.offset = place.offset + byteSize name.toList)
  | .text _ => place.offset < after.offset
  | .sign mark => mark.toList <+: place.text
  | .interpreterLine => place.offset = 0 ∧ ['#', '!'] <+: place.text ∧ 2 ≤ after.offset
  | _ => True

theorem reads_signAt? {text : List Char} {length : Nat} {sign : String}
    (found : signAt? text = some (length, sign)) : sign.toList <+: text := by
  unfold signAt? at found
  split at found
  · split at found <;> cases found
    · exact ⟨_, rfl⟩
    · exact ⟨_, rfl⟩
  · cases found
    exact ⟨_, rfl⟩
  · obtain ⟨⟨spelling, listed⟩, first, same⟩ := Option.map_eq_some_iff.1 found
    cases same
    have spelled := List.mem_of_find?_eq_some first
    obtain ⟨known, -, same⟩ := List.mem_map.1 spelled
    cases same
    have begins := List.find?_some first
    exact List.isPrefixOf_iff_prefix.1 begins

theorem Lexeme.reads_of_isNumber {lexeme : Lexeme} (number : lexeme.isNumber = true)
    (place after : Place) : lexeme.Reads place after := by
  cases lexeme <;> trivial

theorem Lexeme.reads_of_isTemplate {lexeme : Lexeme} (template : lexeme.isTemplate = true)
    (place after : Place) : lexeme.Reads place after := by
  cases lexeme <;> trivial

theorem reads_scanLexeme {place after : Place} {lexeme : Lexeme}
    (scanned : scanLexeme place = .ok (lexeme, after)) :
    place.Ahead after ∧ lexeme.Reads place after := by
  obtain ⟨offset, text⟩ := place
  unfold scanLexeme at scanned
  dsimp only at scanned
  split at scanned
  · cases scanned
    exact ⟨.refl _, trivial⟩
  rename_i c rest
  -- a template, a string, a line that names an interpreter or a private name, a number, a word, a sign
  split at scanned
  · obtain ⟨moved, template⟩ := ahead_scanTemplate scanned
    exact ⟨.pass [c] rfl moved, Lexeme.reads_of_isTemplate template _ _⟩
  split at scanned
  · rename_i quote
    obtain ⟨⟨value, place⟩, read, ended⟩ := except_bind_eq_ok.1 scanned
    cases ended
    have single : c.utf8Size = 1 := by
      simp only [Bool.or_eq_true, beq_iff_eq] at quote
      rcases quote with rfl | rfl <;> rfl
    have moved := ahead_scanText single read
    have further := moved.offset_le
    have positive : 0 < c.utf8Size := c.utf8Size_pos
    dsimp only at further
    exact ⟨.pass [c] rfl moved, by change offset < place.offset; omega⟩
  split at scanned
  · rename_i hash
    obtain rfl := beq_iff_eq.1 hash
    split at scanned
    · rename_i first
      obtain ⟨rfl, mark⟩ := first
      obtain ⟨others, rfl⟩ := List.head?_eq_some_iff.1 mark
      cases scanned
      refine ⟨ahead_skip _ _, rfl, ⟨others, rfl⟩, ?_⟩
      have line : ('#' :: '!' :: others).takeWhile (fun c => !isLineTerminator c) =
          '#' :: '!' :: others.takeWhile fun c => !isLineTerminator c := rfl
      rw [line]
      exact (ahead_skip ⟨2, others⟩ _).offset_le
    · obtain ⟨read, scan, ended⟩ := except_bind_eq_ok.1 scanned
      split at ended
      · cases ended
      · cases ended
        exact ⟨.pass ['#'] rfl (ahead_scanName scan), trivial⟩
  split at scanned
  · obtain ⟨moved, number⟩ := ahead_scanNumber scanned
    exact ⟨moved, Lexeme.reads_of_isNumber number _ _⟩
  split at scanned
  · rename_i opens
    obtain ⟨read, scan, ended⟩ := except_bind_eq_ok.1 scanned
    cases ended
    have named : c = '\\' ∨ startsName c = true := by simpa using opens
    refine ⟨ahead_scanName scan, lt_of_scanName named scan, fun plain => ?_⟩
    obtain ⟨spelled, reads, begins, stop⟩ := (spelled_of_scanName scan plain).2 rfl
    obtain rfl : read.name.toList = spelled := reads
    exact ⟨begins, stop⟩
  split at scanned
  · rename_i length sign found
    cases scanned
    exact ⟨ahead_skip _ _, reads_signAt? found⟩
  · cases scanned

structure Token.Sound (source : List Char) (token : Token) : Prop where
  opens : Ahead ⟨0, source⟩ ⟨token.start, token.text⟩
  closes : Ahead ⟨token.start, token.text⟩ ⟨token.stop, token.rest⟩
  reads : token.lexeme.Reads ⟨token.start, token.text⟩ ⟨token.stop, token.rest⟩

namespace Token.Sound

variable {source : List Char} {token : Token}

theorem ends (sound : token.Sound source) : Ahead ⟨0, source⟩ ⟨token.stop, token.rest⟩ :=
  sound.opens.trans sound.closes

theorem start_le (sound : token.Sound source) : token.start ≤ token.stop :=
  sound.closes.offset_le

end Token.Sound

theorem sound_scanToken {source : List Char} {place : Place} {opensLine : Bool} {token : Token}
    (known : Ahead ⟨0, source⟩ place) (scanned : scanToken opensLine place = .ok token) :
    token.Sound source ∧ place.offset ≤ token.start := by
  obtain ⟨⟨line, first⟩, skipped, rest⟩ := except_bind_eq_ok.1 scanned
  obtain ⟨⟨lexeme, after⟩, read, ended⟩ := except_bind_eq_ok.1 rest
  cases ended
  have moved : place.Ahead first := ahead_skipGap skipped
  obtain ⟨further, reads⟩ := reads_scanLexeme read
  exact ⟨⟨known.trans moved, further, reads⟩, moved.offset_le⟩

theorem Token.Sound.next {source : List Char} {token following : Token} (sound : token.Sound source)
    (scanned : token.next = .ok following) :
    following.Sound source ∧ token.stop ≤ following.start :=
  sound_scanToken sound.ends scanned

theorem Token.ahead_drop {token : Token} {c : Char} (starts : [c] <+: token.text) :
    Ahead ⟨token.start, token.text⟩ ⟨token.start + c.utf8Size, token.text.drop 1⟩ := by
  obtain ⟨rest, same⟩ := starts
  rw [← same]
  exact .pass [c] rfl (.refl _)

theorem Token.Sound.asRegex {source : List Char} {token again : Token} (sound : token.Sound source)
    (starts : ['/'] <+: token.text) (read : token.asRegex = .ok again) :
    again.Sound source ∧ again.start = token.start := by
  obtain ⟨body, first, rest⟩ := except_bind_eq_ok.1 read
  obtain ⟨flags, second, ended⟩ := except_bind_eq_ok.1 rest
  cases ended
  exact ⟨⟨sound.opens, (ahead_drop starts).trans
    ((ahead_skipRegexBody first).trans (ahead_skipRegexFlags second)), trivial⟩, rfl⟩

theorem Token.Sound.asTemplate {source : List Char} {token again : Token} (sound : token.Sound source)
    (starts : ['\x7d'] <+: token.text) (read : token.asTemplate = .ok again) :
    again.Sound source ∧ again.start = token.start := by
  obtain ⟨⟨lexeme, place⟩, first, ended⟩ := except_bind_eq_ok.1 read
  cases ended
  obtain ⟨moved, template⟩ := ahead_scanTemplate first
  exact ⟨⟨sound.opens, (ahead_drop starts).trans moved, Lexeme.reads_of_isTemplate template _ _⟩, rfl⟩

end ModuleBundler.Script
