import ModuleBundler.Plugin.Effect
import ModuleBundler.Proofs.Table
import ModuleBundler.Proofs.Text.Search
import Mathlib.Data.List.Perm.Basic

/-!
Replacing defined names by their values. The names are replaced one after the other, each in what has become
of the text so far. This is the same as replacing all of them at once, in any order in which no name is
disturbed by those before it. A name with another one in it that comes first has no effect.
-/

namespace ModuleBundler.Plugin

open Text

abbrev Definition := String × String

/-- Replaces defined names one after another. -/
def substituteInOrder (order : List Definition) (text : List Char) : List Char :=
  order.foldl (fun text (name, value) => replaceAll name.toList value.toList text) text

theorem substitute_eq (definitions : Table String) (text : List Char) :
    substitute definitions text = substituteInOrder definitions.entries text :=
  rfl

theorem substituteInOrder_cons (first : Definition) (order : List Definition) (text : List Char) :
    substituteInOrder (first :: order) text =
      substituteInOrder order (replaceAll first.1.toList first.2.toList text) :=
  rfl

theorem substituteInOrder_append (front back : List Definition) (text : List Char) :
    substituteInOrder (front ++ back) text = substituteInOrder back (substituteInOrder front text) :=
  List.foldl_append

/-- One text is another one in which, from the left, each defined name is replaced by its own value, the
longest one where several start, and all else is kept. -/
inductive Substituted (definitions : List Definition) : List Char → List Char → Prop
  | done : Substituted definitions [] []
  | keep {c : Char} {rest result : List Char}
      (free : ∀ one ∈ definitions, ¬one.1.toList <+: c :: rest)
      (later : Substituted definitions rest result) : Substituted definitions (c :: rest) (c :: result)
  | put {name value : String} {rest result : List Char} (defined : (name, value) ∈ definitions)
      (longest : ∀ one ∈ definitions, one.1.toList <+: name.toList ++ rest →
        one.1.toList.length ≤ name.toList.length)
      (later : Substituted definitions rest result) :
      Substituted definitions (name.toList ++ rest) (value.toList ++ result)

/-- Replacing one name does not get in the way of another one behind it: the other name does not begin with it,
it cannot start further on in the other name, its value cannot start in the other name, and the other name
cannot start in the value. -/
structure Undisturbed (earlier later : Definition) : Prop where
  first : ¬earlier.1.toList <+: later.1.toList
  further : ¬StartsIn earlier.1.toList later.1.toList.tail
  value : ¬StartsIn earlier.2.toList later.1.toList
  within : ¬StartsIn later.1.toList earlier.2.toList

instance (earlier later : Definition) : Decidable (Undisturbed earlier later) :=
  decidable_of_iff (_ ∧ _ ∧ _ ∧ _) ⟨fun ⟨first, further, value, within⟩ => ⟨first, further, value, within⟩,
    fun ⟨first, further, value, within⟩ => ⟨first, further, value, within⟩⟩

namespace Substituted

variable {definitions : List Definition} {text result : List Char}

theorem inversion (substituted : Substituted definitions text result) :
    text = [] ∧ result = [] ∨
      (∃ c rest behind, text = c :: rest ∧ result = c :: behind ∧
        (∀ one ∈ definitions, ¬one.1.toList <+: text) ∧ Substituted definitions rest behind) ∨
      ∃ name value rest behind, text = name.toList ++ rest ∧ result = value.toList ++ behind ∧
        (name, value) ∈ definitions ∧ (∀ one ∈ definitions, one.1.toList <+: text →
          one.1.toList.length ≤ name.toList.length) ∧ Substituted definitions rest behind := by
  cases substituted with
  | done => exact .inl ⟨rfl, rfl⟩
  | keep free later => exact .inr (.inl ⟨_, _, _, rfl, rfl, free, later⟩)
  | put defined longest later =>
    exact .inr (.inr ⟨_, _, _, _, rfl, rfl, defined, longest, later⟩)

theorem congr {others : List Definition} (same : ∀ one, one ∈ definitions ↔ one ∈ others)
    (substituted : Substituted definitions text result) : Substituted others text result := by
  induction substituted with
  | done => exact .done
  | keep free _ ih => exact .keep (fun one member => free one ((same one).2 member)) ih
  | put defined longest _ ih =>
    exact .put ((same _).1 defined) (fun one member => longest one ((same one).2 member)) ih

theorem nothing (text : List Char) : Substituted [] text text := by
  induction text with
  | nil => exact .done
  | cons c text ih => exact .keep (by simp) ih

/-- Where every name has one value, and none is empty, there is one result. -/
theorem unique (distinct : (definitions.map Prod.fst).Nodup)
    (filled : ∀ one ∈ definitions, one.1 ≠ "") {other : List Char}
    (substituted : Substituted definitions text result) (also : Substituted definitions text other) :
    result = other := by
  induction substituted generalizing other with
  | done =>
    rcases also.inversion with ⟨-, rfl⟩ | ⟨_, _, _, split, -⟩ | ⟨name, _, _, _, split, -, defined, -⟩
    · rfl
    · cases split
    · exact absurd (String.toList_eq_nil_iff.1 (List.append_eq_nil_iff.1 split.symm).1)
        (filled _ defined)
  | keep free later ih =>
    rcases also.inversion with ⟨split, -⟩ | ⟨_, _, _, split, rfl, -, behind⟩ |
      ⟨name, _, rest, _, split, -, defined, -⟩
    · cases split
    · cases split
      rw [ih behind]
    · exact absurd ⟨rest, split.symm⟩ (free _ defined)
  | @put name value rest result defined longest later ih =>
    rcases also.inversion with ⟨split, -⟩ | ⟨_, _, _, split, -, free, -⟩ |
      ⟨next, held, behind, _, split, rfl, member, most, final⟩
    · exact absurd (String.toList_eq_nil_iff.1 (List.append_eq_nil_iff.1 split).1) (filled _ defined)
    · exact absurd (List.prefix_append _ _) (free _ defined)
    · have long := longest _ member (split ▸ List.prefix_append _ _)
      have most := most _ defined (List.prefix_append _ _)
      obtain ⟨same, rfl⟩ := List.append_inj split (Nat.le_antisymm most long)
      obtain rfl := String.toList_injective same
      obtain rfl : value = held := by
        have alike := List.inj_on_of_nodup_map distinct defined member rfl
        exact congrArg Prod.snd alike
      rw [ih final]

/-- What no defined name can start in is kept. -/
theorem exists_behind {front rest : List Char}
    (absent : ∀ one ∈ definitions, ¬StartsIn one.1.toList front)
    (substituted : Substituted definitions (front ++ rest) result) :
    ∃ behind, result = front ++ behind ∧ Substituted definitions rest behind := by
  induction front generalizing result with
  | nil => exact ⟨result, rfl, substituted⟩
  | cons c front ih =>
    rcases substituted.inversion with ⟨split, -⟩ | ⟨_, _, later, split, rfl, -, substituted⟩ |
      ⟨name, _, behind, _, split, -, defined, -⟩
    · cases split
    · cases split
      obtain ⟨behind, rfl, final⟩ :=
        ih (fun one member starts => absent one member (starts.cons c)) substituted
      exact ⟨behind, rfl, final⟩
    · exact absurd (startsIn_of_prefixes (List.cons_ne_nil _ _) ⟨behind, split.symm⟩
        (List.prefix_append (c :: front) rest)) (absent _ defined)

/-- A stretch in which no value can start is not made by replacing names: it has been kept, and has no defined
name in it. -/
theorem kept_of_prefix {stretch : List Char}
    (absent : ∀ one ∈ definitions, ¬StartsIn one.2.toList stretch)
    (substituted : Substituted definitions text result) (starts : stretch <+: result) :
    stretch <+: text ∧ ∀ one ∈ definitions, one.1.toList <:+: stretch → one.1 = "" := by
  induction stretch generalizing text result with
  | nil =>
    exact ⟨List.nil_prefix, fun _ _ inside => String.toList_eq_nil_iff.1 (List.infix_nil.1 inside)⟩
  | cons c stretch ih =>
    rcases substituted.inversion with ⟨-, rfl⟩ | ⟨_, rest, _, rfl, rfl, free, behind⟩ |
      ⟨_, _, _, _, -, rfl, defined, -⟩
    · cases List.prefix_nil.1 starts
    · obtain ⟨rfl, further⟩ := List.cons_prefix_cons.1 starts
      obtain ⟨before, clear⟩ :=
        ih (fun one member starts => absent one member (starts.cons c)) behind further
      have here : c :: stretch <+: c :: rest := List.cons_prefix_cons.2 ⟨rfl, before⟩
      refine ⟨here, fun one member inside => ?_⟩
      rcases List.infix_cons_iff.1 inside with first | later
      · exact absurd (first.trans here) (free one member)
      · exact clear one member later
    · exact absurd (startsIn_of_prefixes (List.cons_ne_nil _ _) (List.prefix_append _ _) starts)
        (absent _ defined)

theorem kept_of_infix {stretch : List Char}
    (absent : ∀ one ∈ definitions, ¬StartsIn one.2.toList stretch ∧ ¬StartsIn stretch one.2.toList)
    (substituted : Substituted definitions text result) (found : stretch <:+: result) :
    stretch <:+: text ∧ ∀ one ∈ definitions, one.1.toList <:+: stretch → one.1 = "" := by
  induction substituted with
  | done =>
    obtain rfl := List.infix_nil.1 found
    exact ⟨found, fun one _ inside => String.toList_eq_nil_iff.1 (List.infix_nil.1 inside)⟩
  | keep free later ih =>
    rcases List.infix_cons_iff.1 found with here | behind
    · obtain ⟨before, clear⟩ :=
        kept_of_prefix (fun one member => (absent one member).1) (.keep free later) here
      exact ⟨before.isInfix, clear⟩
    · obtain ⟨before, clear⟩ := ih behind
      exact ⟨List.infix_cons before, clear⟩
  | put defined _ _ ih =>
    obtain ⟨before, clear⟩ := ih (infix_of_infix_append (absent _ defined).2 found)
    exact ⟨before.trans (List.suffix_append _ _).isInfix, clear⟩

/-- Replacing one more name behind others is replacing it with them at once, if they do not disturb it. -/
theorem replaceStretch {name value : String} (filled : name ≠ "")
    (undisturbed : ∀ one ∈ definitions, Undisturbed one (name, value))
    (substituted : Substituted definitions text result) :
    Substituted (definitions ++ [(name, value)]) text
      (replaceStretch name.toList value.toList 0 result) := by
  have some : name.toList ≠ [] := fun none => filled (String.toList_eq_nil_iff.1 none)
  induction long : text.length using Nat.strong_induction_on generalizing text result with
  | _ size ih =>
  rcases substituted.inversion with ⟨rfl, rfl⟩ | ⟨c, rest, later, rfl, rfl, free, behind⟩ |
    ⟨other, held, rest, later, rfl, rfl, defined, longest, behind⟩
  · exact .done
  · by_cases here : name.toList <+: c :: rest
    · -- the name stands here, and is still there when its turn comes
      obtain ⟨more, letters, rest', rfl⟩ := (List.prefix_cons_iff.1 here).resolve_left some
      obtain ⟨later', rfl, final⟩ := behind.exists_behind fun one member => by
        have further := (undisturbed one member).further
        rwa [letters] at further
      have shorter : rest'.length < size := by
        rw [← long, List.length_cons, List.length_append]
        omega
      have whole (ending : List Char) : c :: (more ++ ending) = name.toList ++ ending := by
        rw [letters, List.cons_append]
      rw [whole, whole, replaceStretch_append _ some]
      refine .put (by simp) (fun one member starts => ?_) (ih _ shorter final rfl)
      rcases List.mem_append.1 member with old | new
      · exact absurd (whole rest' ▸ starts) (free one old)
      · rw [List.mem_singleton.1 new]
    · -- no value brings the name in
      have absent : ¬name.toList <+: c :: later := fun starts =>
        here (substituted.kept_of_prefix (fun one member => (undisturbed one member).value) starts).1
      have shorter : rest.length < size := by
        rw [← long, List.length_cons]
        omega
      rw [replaceStretch_cons_of_not _ absent]
      refine .keep (fun one member => ?_) (ih _ shorter behind rfl)
      rcases List.mem_append.1 member with old | new
      · exact free one old
      · rw [List.mem_singleton.1 new]
        exact here
  · -- another name stands here, whose value is left alone
    have positive : 0 < other.toList.length := List.length_pos_iff.2 fun empty =>
      (undisturbed _ defined).first (empty ▸ List.nil_prefix)
    have shorter : rest.length < size := by
      rw [← long, List.length_append]
      omega
    rw [replaceStretch_of_not_startsIn _ (undisturbed _ defined).within]
    refine .put (List.mem_append_left _ defined) (fun one member starts => ?_)
      (ih _ shorter behind rfl)
    rcases List.mem_append.1 member with old | new
    · exact longest one old starts
    · obtain rfl := List.mem_singleton.1 new
      by_contra longer
      have within := List.prefix_of_prefix_length_le (List.prefix_append other.toList rest) starts
        (Nat.le_of_not_le longer)
      exact (undisturbed _ defined).first within

end Substituted

/-- In an order in which no name is disturbed by those before it, replacing one name after another is
replacing all of them at once. -/
theorem substituted_inOrder {order : List Definition} (named : ∀ one ∈ order, one.1 ≠ "")
    (undisturbed : order.Pairwise Undisturbed) (text : List Char) :
    Substituted order text (substituteInOrder order text) := by
  induction order using List.reverseRecOn with
  | nil => exact .nothing text
  | append_singleton front last ih =>
    obtain ⟨early, -, across⟩ := List.pairwise_append.1 undisturbed
    have before := ih (fun one member => named one (List.mem_append_left _ member)) early
    obtain ⟨name, value⟩ := last
    have filled : name ≠ "" := named (name, value) (by simp)
    have some : name.toList ≠ [] := fun none => filled (String.toList_eq_nil_iff.1 none)
    rw [substituteInOrder_append, substituteInOrder_cons, replaceAll_of_ne_nil _ some]
    exact before.replaceStretch filled fun one member => across one member _ (by simp)

/-- A stretch that has a name in it is gone once that name has been replaced, if no value brings it in. -/
theorem not_infix_inOrder {order : List Definition} (named : ∀ one ∈ order, one.1 ≠ "")
    {stretch : List Char} (within : ∃ one ∈ order, one.1.toList <:+: stretch)
    (absent : ∀ one ∈ order, ¬StartsIn one.2.toList stretch ∧ ¬StartsIn stretch one.2.toList)
    (text : List Char) : ¬stretch <:+: substituteInOrder order text := by
  induction order using List.reverseRecOn with
  | nil =>
    obtain ⟨one, member, -⟩ := within
    cases member
  | append_singleton front last ih =>
    have once : Substituted [last] (substituteInOrder front text)
        (substituteInOrder [last] (substituteInOrder front text)) :=
      substituted_inOrder (fun one member => named one (List.mem_append_right _ member))
        (List.pairwise_singleton _ _) _
    intro found
    rw [substituteInOrder_append] at found
    obtain ⟨before, clear⟩ :=
      once.kept_of_infix (fun one member => absent one (List.mem_append_right _ member)) found
    obtain ⟨one, member, inside⟩ := within
    rcases List.mem_append.1 member with early | own
    · exact ih (fun one member => named one (List.mem_append_left _ member)) ⟨one, early, inside⟩
        (fun one member => absent one (List.mem_append_left _ member)) before
    · exact named one member (clear one own inside)

/-- A name has one in it that comes before it, and no value that comes before it brings the name in. -/
structure Shadowed (definitions : Table String) (name : String) : Prop where
  within : ∃ one ∈ definitions.entries, one.1 < name ∧ one.1.toList <:+: name.toList
  absent : ∀ one ∈ definitions.entries, one.1 < name →
    ¬StartsIn one.2.toList name.toList ∧ ¬StartsIn name.toList one.2.toList

/-- Defining such a name has no effect. -/
theorem substitute_erase {definitions : Table String} (named : ∀ one ∈ definitions.entries, one.1 ≠ "")
    {name : String} (shadowed : Shadowed definitions name) (text : List Char) :
    substitute (definitions.erase name) text = substitute definitions text := by
  rcases definitions.erase_split name with same | ⟨front, value, back, whole, rest, early⟩
  · rw [substitute_eq, same, ← substitute_eq]
  · have some : name.toList ≠ [] := by
      intro none
      have filled := named (name, value) (by rw [whole]; simp)
      exact filled (String.toList_eq_nil_iff.1 none)
    have gone : ¬name.toList <:+: substituteInOrder front text := by
      obtain ⟨⟨one, member, below, inside⟩, absent⟩ := shadowed
      refine not_infix_inOrder (fun one member => named one ((early one).1 member).1)
        ⟨one, (early one).2 ⟨member, below⟩, inside⟩ (fun one member => ?_) text
      exact absent one ((early one).1 member).1 ((early one).1 member).2
    have idle : replaceAll name.toList value.toList (substituteInOrder front text) =
        substituteInOrder front text := by
      rw [replaceAll_of_ne_nil _ some, replaceStretch_of_not_infix _ gone]
    rw [substitute_eq, substitute_eq, whole, rest, substituteInOrder_append,
      substituteInOrder_append, substituteInOrder_cons, idle]

/-- In whatever order definitions of a table are processed: if no name is disturbed by those before it, every
defined name in a text is replaced by its own value, and nothing else is. -/
theorem substituted_iff_of_perm {definitions : Table String}
    (named : ∀ one ∈ definitions.entries, one.1 ≠ "") {order : List Definition}
    (listed : order.Perm definitions.entries) (undisturbed : order.Pairwise Undisturbed)
    (text result : List Char) :
    Substituted definitions.entries text result ↔ result = substituteInOrder order text := by
  have own : Substituted definitions.entries text (substituteInOrder order text) :=
    (substituted_inOrder (fun one member => named one (listed.mem_iff.1 member)) undisturbed text).congr
      fun one => listed.mem_iff
  exact ⟨fun substituted => substituted.unique definitions.nodup_names named own, fun same => same ▸ own⟩

/-- In every order in which no name is disturbed by those before it, names are replaced as if all at once. The
ascending order, which is the one that is used, may or may not be one of these: a name with another one in it
that comes before it is not replaced at all. -/
theorem substitute_at_once {definitions : Table String}
    (named : ∀ one ∈ definitions.entries, one.1 ≠ "") (text : List Char) :
    (∀ order, order.Perm definitions.entries → order.Pairwise Undisturbed →
        ∀ result, Substituted definitions.entries text result ↔ result = substituteInOrder order text) ∧
      (definitions.entries.Pairwise Undisturbed →
        ∀ result, Substituted definitions.entries text result ↔ result = substitute definitions text) ∧
      ∀ name, Shadowed definitions name →
        substitute (definitions.erase name) text = substitute definitions text :=
  ⟨fun _ listed undisturbed => substituted_iff_of_perm named listed undisturbed text,
    fun undisturbed => substituted_iff_of_perm named (.refl _) undisturbed text,
    fun _ shadowed => substitute_erase named shadowed text⟩

def environment : Table String :=
  .ofList [("__WEB_ENV__", "\'env!\'"), ("$VERSION", "\"1.0\"")]

/-- The first name is in the second one. -/
def versions : Table String :=
  .ofList [("VERSION", "1"), ("VERSION_NAME", "one")]

theorem shadowed_versions : Shadowed versions "VERSION_NAME" :=
  ⟨by decide +kernel, by decide +kernel⟩

theorem undisturbed_versions_reverse : versions.entries.reverse.Pairwise Undisturbed := by
  decide +kernel

theorem environment_at_once :
    (∀ one ∈ environment.entries, one.1 ≠ "") ∧ environment.entries.Pairwise Undisturbed ∧
      (∀ result, Substituted environment.entries "log(__WEB_ENV__, $VERSION)".toList result ↔
        result = "log(\'env!\', \"1.0\")".toList) ∧
      (∀ one ∈ versions.entries, one.1 ≠ "") ∧ versions.entries.reverse.Perm versions.entries ∧
      versions.entries.reverse.Pairwise Undisturbed ∧
      (∀ result, Substituted versions.entries "log(VERSION_NAME)".toList result ↔
        result = substituteInOrder versions.entries.reverse "log(VERSION_NAME)".toList) ∧
      Shadowed versions "VERSION_NAME" ∧
      substitute (versions.erase "VERSION_NAME") "log(VERSION_NAME)".toList =
        substitute versions "log(VERSION_NAME)".toList := by
  have named : ∀ one ∈ environment.entries, one.1 ≠ "" := by decide +kernel
  have undisturbed : environment.entries.Pairwise Undisturbed := by decide +kernel
  have filled : ∀ one ∈ versions.entries, one.1 ≠ "" := by decide +kernel
  have replaced : substitute environment "log(__WEB_ENV__, $VERSION)".toList =
      "log(\'env!\', \"1.0\")".toList := by decide +kernel
  refine ⟨named, undisturbed, fun result => ?_, filled, List.reverse_perm _,
    undisturbed_versions_reverse, ?_, shadowed_versions, ?_⟩
  · rw [← replaced]
    exact (substitute_at_once named _).2.1 undisturbed result
  · exact (substitute_at_once filled _).1 _ (List.reverse_perm _) undisturbed_versions_reverse
  · exact (substitute_at_once filled _).2.2 _ shadowed_versions

/-- The name that is in the other one comes first. The other way round, each one would be replaced by its own
value. -/
theorem version_name_lost :
    substitute versions "log(VERSION_NAME)".toList = "log(1_NAME)".toList ∧
      versions.entries.reverse.Perm versions.entries ∧
      substituteInOrder versions.entries.reverse "log(VERSION_NAME)".toList = "log(one)".toList ∧
      Substituted versions.entries "log(VERSION_NAME)".toList "log(one)".toList := by
  have reversed : substituteInOrder versions.entries.reverse "log(VERSION_NAME)".toList =
      "log(one)".toList := by decide +kernel
  refine ⟨by decide +kernel, List.reverse_perm _, reversed, ?_⟩
  rw [← reversed]
  exact (substituted_inOrder (by decide +kernel) undisturbed_versions_reverse _).congr
    fun _ => List.mem_reverse

end ModuleBundler.Plugin
