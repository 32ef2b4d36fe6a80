/-!
Finite maps from names to values, listed in ascending order of the names.
-/

namespace ModuleBundler

structure Table (α : Type) where
  entries : List (String × α)
  ascending : entries.Pairwise (fun earlier later => earlier.1 < later.1)

namespace Table

variable {α β : Type}

def empty : Table α := ⟨[], .nil⟩

instance : EmptyCollection (Table α) := ⟨empty⟩
instance : Inhabited (Table α) := ⟨empty⟩
instance [DecidableEq α] : DecidableEq (Table α) := fun left right =>
  if same : left.entries = right.entries then
    isTrue (by cases left; cases right; simp_all)
  else isFalse (fun equal => same (by rw [equal]))

def names (table : Table α) : List String :=
  table.entries.map Prod.fst

def size (table : Table α) : Nat :=
  table.entries.length

def place (name : String) (value : α) : List (String × α) → List (String × α)
  | [] => [(name, value)]
  | entry :: entries =>
    if entry.1 < name then entry :: place name value entries
    else if entry.1 = name then (name, value) :: entries
    else (name, value) :: entry :: entries

theorem fst_of_mem_place {name : String} {value : α} {entries : List (String × α)}
    {entry : String × α} (found : entry ∈ place name value entries) :
    entry.1 = name ∨ entry ∈ entries := by
  induction entries with
  | nil => simp_all [place]
  | cons first entries ih =>
    unfold place at found
    split at found
    · rcases List.mem_cons.1 found with same | later
      · exact .inr (same ▸ List.mem_cons_self)
      · exact (ih later).imp_right (List.mem_cons_of_mem _)
    · split at found
      · rcases List.mem_cons.1 found with same | later
        · exact .inl (same ▸ rfl)
        · exact .inr (List.mem_cons_of_mem _ later)
      · rcases List.mem_cons.1 found with same | later
        · exact .inl (same ▸ rfl)
        · exact .inr later

theorem ascending_place {entries : List (String × α)}
    (ascending : entries.Pairwise (fun earlier later => earlier.1 < later.1)) (name : String)
    (value : α) :
    (place name value entries).Pairwise (fun earlier later => earlier.1 < later.1) := by
  induction entries with
  | nil => simp [place]
  | cons first entries ih =>
    rw [List.pairwise_cons] at ascending
    unfold place
    split
    · rename_i below
      refine List.pairwise_cons.2 ⟨fun entry found => ?_, ih ascending.2⟩
      rcases fst_of_mem_place found with same | old
      · exact same ▸ below
      · exact ascending.1 entry old
    · rename_i notBelow
      split
      · rename_i same
        exact List.pairwise_cons.2 ⟨fun entry found => same ▸ ascending.1 entry found, ascending.2⟩
      · rename_i different
        have above : name < first.1 := String.not_le.1 fun notAbove =>
          different (String.le_antisymm notAbove (String.not_lt.1 notBelow))
        refine List.pairwise_cons.2 ⟨fun entry found => ?_, List.pairwise_cons.2 ascending⟩
        rcases List.mem_cons.1 found with same | old
        · exact same ▸ above
        · exact String.lt_trans above (ascending.1 entry old)

def insert (table : Table α) (name : String) (value : α) : Table α :=
  ⟨place name value table.entries, ascending_place table.ascending name value⟩

def ofList (entries : List (String × α)) : Table α :=
  entries.foldl (fun table entry => table.insert entry.1 entry.2) empty

def find? (table : Table α) (name : String) : Option α :=
  (table.entries.find? (·.1 == name)).map Prod.snd

def contains (table : Table α) (name : String) : Bool :=
  table.entries.any (·.1 == name)

def map (change : α → β) (table : Table α) : Table β :=
  ⟨table.entries.map fun entry => (entry.1, change entry.2), by
    rw [List.pairwise_map]; exact table.ascending⟩

def erase (table : Table α) (name : String) : Table α :=
  ⟨table.entries.filter (·.1 != name), table.ascending.filter _⟩

end Table

end ModuleBundler
