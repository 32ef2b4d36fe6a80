import Mathlib.Data.List.Nodup
import ModuleBundler.Table

/-!
What a table holds under a name, and what a table that is made of a list holds.
-/

namespace ModuleBundler.Table

variable {α : Type}

theorem nodup_names (table : Table α) : table.names.Nodup :=
  List.pairwise_map.2 (table.ascending.imp fun below => String.ne_of_lt below)

/-- Each name is there once, so that the value that is found is the one that was put in. -/
theorem find?_eq_some {table : Table α} {name : String} {value : α} :
    table.find? name = some value ↔ (name, value) ∈ table.entries := by
  obtain ⟨entries, ascending⟩ := table
  unfold find?
  induction entries with
  | nil => simp
  | cons first entries ih =>
    obtain ⟨above, later⟩ := List.pairwise_cons.1 ascending
    obtain ⟨key, held⟩ := first
    by_cases same : key = name
    · subst same
      have absent : (key, value) ∉ entries := fun member => String.lt_irrefl key (above (key, value) member)
      simp [absent, eq_comm]
    · have other : ¬ name = key := fun equal => same equal.symm
      simpa [same, other] using ih later

theorem mem_place {name : String} {value : α} {entries : List (String × α)}
    (ascending : entries.Pairwise fun earlier later => earlier.1 < later.1) {entry : String × α} :
    entry ∈ place name value entries ↔ entry = (name, value) ∨ entry.1 ≠ name ∧ entry ∈ entries := by
  induction entries with
  | nil => simp [place]
  | cons first entries ih =>
    obtain ⟨above, later⟩ := List.pairwise_cons.1 ascending
    unfold place
    split
    · rename_i below
      have other : first.1 ≠ name := String.ne_of_lt below
      rw [List.mem_cons, ih later, List.mem_cons]
      constructor
      · rintro (rfl | new | ⟨different, old⟩)
        · exact .inr ⟨other, .inl rfl⟩
        · exact .inl new
        · exact .inr ⟨different, .inr old⟩
      · rintro (new | ⟨different, rfl | old⟩)
        · exact .inr (.inl new)
        · exact .inl rfl
        · exact .inr (.inr ⟨different, old⟩)
    · split
      · rename_i same
        rw [List.mem_cons, List.mem_cons]
        refine or_congr_right ⟨fun old => ⟨fun own => ?_, .inr old⟩, fun old => ?_⟩
        · have behind : first.1 < entry.1 := above entry old
          rw [own, same] at behind
          exact String.lt_irrefl name behind
        · exact old.2.resolve_left fun head => old.1 (by rw [head, same])
      · rename_i notBelow different
        have least : name < first.1 := String.not_le.1 fun notAbove =>
          different (String.le_antisymm notAbove (String.not_lt.1 notBelow))
        rw [List.mem_cons]
        refine or_congr_right ⟨fun old => ⟨fun own => ?_, old⟩, And.right⟩
        rcases List.mem_cons.1 old with rfl | behind
        · exact different own
        · have further : name < entry.1 := String.lt_trans least (above entry behind)
          rw [own] at further
          exact String.lt_irrefl name further

theorem find?_insert (table : Table α) (name : String) (value : α) (other : String) :
    (table.insert name value).find? other = if other = name then some value else table.find? other := by
  refine Option.ext fun held => ?_
  rw [find?_eq_some, insert, mem_place table.ascending]
  split
  · rename_i same
    simp [same, eq_comm]
  · rename_i different
    simp [different, find?_eq_some]

theorem find?_map {β : Type} (change : α → β) (table : Table α) (name : String) :
    (table.map change).find? name = (table.find? name).map change := by
  rw [find?, map, List.find?_map, Option.map_map, find?, Option.map_map]
  rfl

theorem place_perm {name : String} {value : α} {entries : List (String × α)}
    (fresh : name ∉ entries.map Prod.fst) :
    (place name value entries).Perm ((name, value) :: entries) := by
  induction entries with
  | nil => exact .refl _
  | cons first entries ih =>
    rw [List.map_cons, List.mem_cons, not_or] at fresh
    unfold place
    split
    · exact ((ih fresh.2).cons first).trans (.swap _ _ _)
    · rw [if_neg (Ne.symm fresh.1)]

theorem foldl_insert_perm {entries : List (String × α)} {table : Table α}
    (distinct : (table.names ++ entries.map Prod.fst).Nodup) :
    (entries.foldl (fun table entry => table.insert entry.1 entry.2) table).entries.Perm
      (table.entries ++ entries) := by
  induction entries generalizing table with
  | nil => simp
  | cons first entries ih =>
    have fresh : first.1 ∉ table.names := fun old =>
      (List.nodup_append.1 distinct).2.2 _ old _ List.mem_cons_self rfl
    have placed : (table.insert first.1 first.2).entries.Perm (first :: table.entries) :=
      place_perm fresh
    have moved : ((table.insert first.1 first.2).entries ++ entries).Perm
        (table.entries ++ first :: entries) :=
      (placed.append_right _).trans List.perm_middle.symm
    refine (ih ((List.Perm.nodup_iff ?_).1 distinct)).trans moved
    rw [names, names, ← List.map_append, ← List.map_append]
    exact moved.symm.map _

theorem ofList_perm {entries : List (String × α)} (distinct : (entries.map Prod.fst).Nodup) :
    (ofList entries).entries.Perm entries :=
  foldl_insert_perm distinct

theorem entries_erase (table : Table α) (name : String) :
    (table.erase name).entries = table.entries.filter (·.1 != name) :=
  rfl

/-- A name to leave out is not there, or it stands between the smaller ones and the greater ones. -/
theorem erase_split (table : Table α) (name : String) :
    (table.erase name).entries = table.entries ∨
      ∃ front value back, table.entries = front ++ (name, value) :: back ∧
        (table.erase name).entries = front ++ back ∧
        ∀ entry, entry ∈ front ↔ entry ∈ table.entries ∧ entry.1 < name := by
  by_cases there : ∃ value, (name, value) ∈ table.entries
  · obtain ⟨value, there⟩ := there
    obtain ⟨front, back, split⟩ := List.append_of_mem there
    have ascending := table.ascending
    rw [split, List.pairwise_append, List.pairwise_cons] at ascending
    obtain ⟨-, ⟨above, -⟩, across⟩ := ascending
    have below (entry) (member : entry ∈ front) : entry.1 < name :=
      across entry member _ List.mem_cons_self
    refine .inr ⟨front, value, back, split, ?_, fun entry => ?_⟩
    · have early : front.filter (·.1 != name) = front :=
        List.filter_eq_self.2 fun entry member => bne_iff_ne.2 (String.ne_of_lt (below entry member))
      have late : back.filter (·.1 != name) = back :=
        List.filter_eq_self.2 fun entry member =>
          bne_iff_ne.2 (String.ne_of_lt (above entry member)).symm
      rw [entries_erase, split, List.filter_append, early, List.filter_cons_of_neg (by simp), late]
    · refine ⟨fun member => ⟨split ▸ List.mem_append_left _ member, below entry member⟩,
        fun ⟨member, least⟩ => ?_⟩
      rw [split] at member
      rcases List.mem_append.1 member with early | late
      · exact early
      · rcases List.mem_cons.1 late with rfl | late
        · exact absurd least (String.lt_irrefl _)
        · exact absurd least (String.lt_asymm (above entry late))
  · refine .inl (List.filter_eq_self.2 fun entry member => bne_iff_ne.2 ?_)
    rintro rfl
    exact there ⟨entry.2, member⟩

end ModuleBundler.Table
