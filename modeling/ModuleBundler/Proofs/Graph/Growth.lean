import ModuleBundler.Proofs.Graph.Ownership
import Mathlib.Data.List.Forall2

/-!
How a graph may change while the modules of one entry are added: modules come behind those that are there,
and the entry comes behind the owners that a module has. Nothing else is lost or altered.
-/

namespace ModuleBundler.ModuleGraph

def Tagged (entry : String) (before after : Module) : Prop :=
  after = before ∨ entry ∉ before.owners ∧ after = before.addOwner entry

namespace Tagged

variable {entry : String} {before between after : Module}

theorem id_eq (tagged : Tagged entry before after) : after.id = before.id := by
  rcases tagged with rfl | ⟨-, rfl⟩ <;> rfl

theorem dependencies_eq (tagged : Tagged entry before after) :
    after.dependencies = before.dependencies := by
  rcases tagged with rfl | ⟨-, rfl⟩ <;> rfl

theorem mem_owners (tagged : Tagged entry before after) {owner : String}
    (owned : owner ∈ before.owners) : owner ∈ after.owners := by
  rcases tagged with rfl | ⟨-, rfl⟩
  · exact owned
  · exact List.mem_append_left _ owned

theorem of_mem_owners (tagged : Tagged entry before after) {owner : String}
    (different : owner ≠ entry) (owned : owner ∈ after.owners) : owner ∈ before.owners := by
  rcases tagged with rfl | ⟨-, rfl⟩
  · exact owned
  · simpa [Module.addOwner, different] using owned

theorem trans (first : Tagged entry before between) (second : Tagged entry between after) :
    Tagged entry before after := by
  rcases first with rfl | ⟨free, rfl⟩
  · exact second
  · rcases second with rfl | ⟨still, -⟩
    · exact .inr ⟨free, rfl⟩
    · simp [Module.addOwner] at still

theorem eq_of_owners (tagged : Tagged entry before after) (owners : before.owners = [entry]) :
    after = before := by
  rcases tagged with same | ⟨free, -⟩
  · exact same
  · simp [owners] at free

end Tagged

def Grows (entry : String) (before after : ModuleGraph) : Prop :=
  ∃ kept added, after.modules.toList = kept ++ added ∧
    List.Forall₂ (Tagged entry) before.modules.toList kept ∧
    ∀ module ∈ added, module.owners = [entry]

namespace Grows

variable {entry : String} {before between after : ModuleGraph}

theorem refl (entry : String) (graph : ModuleGraph) : Grows entry graph graph :=
  ⟨graph.modules.toList, [], by simp, List.forall₂_same.2 fun _ _ => .inl rfl, by simp⟩

theorem trans (first : Grows entry before between) (second : Grows entry between after) :
    Grows entry before after := by
  obtain ⟨kept, added, list, tagged, own⟩ := first
  obtain ⟨still, later, listed, again, others⟩ := second
  rw [list] at again
  have front := List.forall₂_take_append still kept added again.flip
  have back := List.forall₂_drop_append still kept added again.flip
  refine ⟨still.take kept.length, still.drop kept.length ++ later, ?_, ?_, ?_⟩
  · rw [← List.append_assoc, List.take_append_drop, listed]
  · refine List.forall₂_iff_get.2 ⟨?_, fun place low high => ?_⟩
    · rw [tagged.length_eq, front.length_eq]
    · have middle : place < kept.length := tagged.length_eq ▸ low
      exact ((List.forall₂_iff_get.1 tagged).2 place low middle).trans
        ((List.forall₂_iff_get.1 front.flip).2 place middle high)
  · intro module member
    rcases List.mem_append.1 member with moved | new
    · obtain ⟨place, bound, rfl⟩ := List.getElem_of_mem moved
      have within : place < added.length := back.length_eq ▸ bound
      have step : Tagged entry added[place] (still.drop kept.length)[place] :=
        (List.forall₂_iff_get.1 back.flip).2 place within bound
      have owners := own _ (List.getElem_mem within)
      rw [step.eq_of_owners owners, owners]
    · exact others module new

theorem addOwner (indexed : before.Indexed) (id entry : String) :
    Grows entry before (before.addOwner id entry) := by
  refine ⟨(before.addOwner id entry).modules.toList, [], by simp, ?_, by simp⟩
  rw [toList_addOwner indexed, List.forall₂_map_right_iff]
  refine List.forall₂_same.2 fun module member => ?_
  by_cases way : before.OpenWay entry id module.id
  · rw [tagIf_true entry way]
    obtain ⟨found, looked, free⟩ := way.lacks
    have same := ((indexed.find?_iff _ _).1 looked)
    rw [← indexed.eq_of_id_eq same.1 member same.2]
    exact .inr ⟨free, rfl⟩
  · rw [tagIf_false entry way]
    exact .inl rfl

theorem insert {module : Module} (fresh : before.contains module.id = false)
    (owners : module.owners = [entry]) : Grows entry before (before.insert module).2 :=
  ⟨before.modules.toList, [module], toList_insert fresh, List.forall₂_same.2 fun _ _ => .inl rfl,
    by simpa using owners⟩

section Kept

variable (grows : Grows entry before after)
include grows

theorem exists_tagged {module : Module} (member : module ∈ before.modules.toList) :
    ∃ later ∈ after.modules.toList, Tagged entry module later := by
  obtain ⟨kept, added, list, tagged, -⟩ := grows
  obtain ⟨place, bound, rfl⟩ := List.getElem_of_mem member
  have within : place < kept.length := tagged.length_eq ▸ bound
  refine ⟨kept[place], ?_, (List.forall₂_iff_get.1 tagged).2 place bound within⟩
  rw [list]
  exact List.mem_append_left _ (List.getElem_mem within)

theorem mem_cases {later : Module} (member : later ∈ after.modules.toList) :
    (∃ module ∈ before.modules.toList, Tagged entry module later) ∨ later.owners = [entry] := by
  obtain ⟨kept, added, list, tagged, own⟩ := grows
  rw [list] at member
  rcases List.mem_append.1 member with old | new
  · obtain ⟨place, bound, rfl⟩ := List.getElem_of_mem old
    have within : place < before.modules.toList.length := tagged.length_eq ▸ bound
    exact .inl ⟨_, List.getElem_mem within, (List.forall₂_iff_get.1 tagged).2 place within bound⟩
  · exact .inr (own later new)

theorem find?_tagged (indexed : before.Indexed) (later : after.Indexed) {id : String}
    {module : Module} (found : before.find? id = some module) :
    ∃ tagged, after.find? id = some tagged ∧ Tagged entry module tagged := by
  obtain ⟨member, named⟩ := (indexed.find?_iff id module).1 found
  obtain ⟨still, listed, tagged⟩ := grows.exists_tagged member
  exact ⟨still, (later.find?_iff id still).2 ⟨listed, tagged.id_eq.trans named⟩, tagged⟩

theorem contains_of_contains (indexed : before.Indexed) (later : after.Indexed) {id : String}
    (present : before.contains id = true) : after.contains id = true := by
  obtain ⟨module, member, rfl⟩ := (indexed.contains_iff id).1 present
  obtain ⟨still, listed, tagged⟩ := grows.exists_tagged member
  exact (later.contains_iff _).2 ⟨still, listed, tagged.id_eq⟩

theorem dependenciesOf_eq (indexed : before.Indexed) (later : after.Indexed) {id : String}
    (present : before.contains id = true) : after.dependenciesOf id = before.dependenciesOf id := by
  obtain ⟨module, member, rfl⟩ := (indexed.contains_iff id).1 present
  have found := (indexed.find?_iff module.id module).2 ⟨member, rfl⟩
  obtain ⟨still, looked, tagged⟩ := grows.find?_tagged indexed later found
  simp only [dependenciesOf, found, looked, tagged.dependencies_eq]

theorem requires (indexed : before.Indexed) (later : after.Indexed) {id other : String}
    (requires : before.Requires id other) : after.Requires id other := by
  unfold Requires at requires ⊢
  cases present : before.contains id with
  | true => rwa [grows.dependenciesOf_eq indexed later present]
  | false =>
    rw [dependenciesOf, (indexed.find?_eq_none_iff id).2 present] at requires
    cases requires

theorem reaches (indexed : before.Indexed) (later : after.Indexed) {id other : String}
    (reaches : before.Reaches id other) : after.Reaches id other :=
  Relation.ReflTransGen.mono (fun _ _ step => grows.requires indexed later step) _ _ reaches

theorem owns (indexed : before.Indexed) (later : after.Indexed) {owner id : String}
    (owns : before.Owns owner id) : after.Owns owner id := by
  obtain ⟨module, found, owned⟩ := owns
  obtain ⟨still, looked, tagged⟩ := grows.find?_tagged indexed later found
  exact ⟨still, looked, tagged.mem_owners owned⟩

theorem of_owns (indexed : before.Indexed) (later : after.Indexed) {owner id : String}
    (different : owner ≠ entry) (owns : after.Owns owner id) : before.Owns owner id := by
  obtain ⟨module, found, owned⟩ := owns
  obtain ⟨member, rfl⟩ := (later.find?_iff id module).1 found
  rcases grows.mem_cases member with ⟨old, listed, tagged⟩ | own
  · exact ⟨old, (indexed.find?_iff _ old).2 ⟨listed, tagged.id_eq.symm⟩,
      tagged.of_mem_owners different owned⟩
  · rw [own] at owned
    exact absurd (List.mem_singleton.1 owned) different

/-- The chunk of another entry stays the same. -/
theorem ownedBy_ids {owner : String} (different : owner ≠ entry) :
    (after.ownedBy owner).map Module.id = (before.ownedBy owner).map Module.id := by
  obtain ⟨kept, added, list, tagged, own⟩ := grows
  have none : added.filter (·.isOwnedBy owner) = [] := by
    rw [List.filter_eq_nil_iff]
    intro module member
    simp [Module.isOwnedBy, own module member, different]
  unfold ownedBy
  rw [list, List.filter_append, none, List.append_nil]
  clear list
  generalize before.modules.toList = olds at tagged
  induction tagged with
  | nil => rfl
  | @cons old new olds news step _ ih =>
    have same : new.isOwnedBy owner = old.isOwnedBy owner := by
      rw [Bool.eq_iff_iff]
      simp only [Module.isOwnedBy, List.contains_iff_mem]
      exact ⟨step.of_mem_owners different, step.mem_owners⟩
    rw [List.filter_cons, List.filter_cons, same]
    split
    · rw [List.map_cons, List.map_cons, step.id_eq, ih]
    · exact ih

theorem of_reaches (indexed : before.Indexed) (later : after.Indexed)
    (present : ∀ module ∈ before.modules.toList, ∀ id ∈ module.dependencies,
      before.contains id = true) {root id : String} (rooted : before.contains root = true)
    (reaches : after.Reaches root id) : before.contains id = true ∧ before.Reaches root id := by
  induction reaches with
  | refl => exact ⟨rooted, .refl⟩
  | tail _ requires ih =>
    obtain ⟨there, reached⟩ := ih
    rw [Requires, grows.dependenciesOf_eq indexed later there] at requires
    obtain ⟨module, member, rfl⟩ := (indexed.contains_iff _).1 there
    exact ⟨present module member _ ((requires_iff indexed member _).1 requires), reached.tail requires⟩

theorem owns_iff_reaches (indexed : before.Indexed) (later : after.Indexed)
    (present : ∀ module ∈ before.modules.toList, ∀ id ∈ module.dependencies,
      before.contains id = true) {owner root id : String} (different : owner ≠ entry)
    (rooted : before.contains root = true)
    (owned : ∀ other, before.Owns owner other ↔ before.Reaches root other) :
    after.Owns owner id ↔ after.Reaches root id := by
  constructor
  · exact fun owns => grows.reaches indexed later ((owned id).1 (grows.of_owns indexed later different owns))
  · intro reaches
    exact grows.owns indexed later
      ((owned id).2 (grows.of_reaches indexed later present rooted reaches).2)

theorem pairwise_owners (below : ∀ module ∈ before.modules.toList, ∀ owner ∈ module.owners,
      owner < entry)
    (sorted : ∀ module ∈ before.modules.toList, module.owners.Pairwise (· < ·)) :
    ∀ module ∈ after.modules.toList, module.owners.Pairwise (· < ·) := by
  intro module member
  rcases grows.mem_cases member with ⟨old, listed, rfl | ⟨-, rfl⟩⟩ | only
  · exact sorted module listed
  · refine List.pairwise_append.2 ⟨sorted old listed, List.pairwise_singleton _ _, ?_⟩
    intro owner holds added new
    obtain rfl := List.mem_singleton.1 new
    exact below old listed owner holds
  · rw [only]
    exact List.pairwise_singleton _ _

theorem mem_owners_cases {module : Module} (member : module ∈ after.modules.toList) {owner : String}
    (holds : owner ∈ module.owners) :
    owner = entry ∨ ∃ old ∈ before.modules.toList, owner ∈ old.owners := by
  rcases grows.mem_cases member with ⟨old, listed, tagged⟩ | only
  · by_cases same : owner = entry
    · exact .inl same
    · exact .inr ⟨old, listed, tagged.of_mem_owners same holds⟩
  · rw [only] at holds
    exact .inl (List.mem_singleton.1 holds)

theorem owners_ne_nil (owned : ∀ module ∈ before.modules.toList, module.owners ≠ []) :
    ∀ module ∈ after.modules.toList, module.owners ≠ [] := by
  intro module member
  rcases grows.mem_cases member with ⟨old, listed, rfl | ⟨-, rfl⟩⟩ | only
  · exact owned module listed
  · simp [Module.addOwner]
  · simp [only]

end Kept

end Grows

end ModuleBundler.ModuleGraph
