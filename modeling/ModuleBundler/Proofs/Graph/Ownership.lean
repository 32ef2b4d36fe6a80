import ModuleBundler.Proofs.Graph.Index
import Mathlib.Data.List.Flatten

/-!
Which modules become an entry's when it becomes the owner of one of them. The walk marks the modules that
it tests, and forgets which ways it has gone; what it leaves behind is stated here without it.
-/

namespace ModuleBundler.ModuleGraph

def Requires (graph : ModuleGraph) (id other : String) : Prop :=
  other ∈ graph.dependenciesOf id

/-- One module is reached from another by what modules of the graph require. -/
def Reaches (graph : ModuleGraph) : String → String → Prop :=
  Relation.ReflTransGen graph.Requires

def Owns (graph : ModuleGraph) (entry id : String) : Prop :=
  ∃ module, graph.find? id = some module ∧ entry ∈ module.owners

def Lacks (graph : ModuleGraph) (entry id : String) : Prop :=
  ∃ module, graph.find? id = some module ∧ entry ∉ module.owners

/-- A way of requirements on which no module is missing and none is owned by an entry. -/
inductive OpenWay (graph : ModuleGraph) (entry start : String) : String → Prop where
  | here (lacks : graph.Lacks entry start) : OpenWay graph entry start start
  | onward {id other : String} (way : OpenWay graph entry start id)
      (requires : graph.Requires id other) (lacks : graph.Lacks entry other) :
      OpenWay graph entry start other

namespace OpenWay

variable {graph : ModuleGraph} {entry start id : String}

theorem lacks (way : graph.OpenWay entry start id) : graph.Lacks entry id := by
  cases way with
  | here lacks => exact lacks
  | onward _ _ lacks => exact lacks

theorem start_lacks (way : graph.OpenWay entry start id) : graph.Lacks entry start := by
  induction way with
  | here lacks => exact lacks
  | onward _ _ _ ih => exact ih

theorem reaches (way : graph.OpenWay entry start id) : graph.Reaches start id := by
  induction way with
  | here _ => exact .refl
  | onward _ requires _ ih => exact ih.tail requires

theorem prepend {first : String} (lacks : graph.Lacks entry first)
    (requires : graph.Requires first start) (way : graph.OpenWay entry start id) :
    graph.OpenWay entry first id := by
  induction way with
  | here between => exact .onward (.here lacks) requires between
  | onward _ further between ih => exact ih.onward further between

end OpenWay

open scoped Classical in
/-- A module with one more owner, if a condition holds. -/
noncomputable def tagIf (entry : String) (condition : Prop) (module : Module) : Module :=
  if condition then module.addOwner entry else module

theorem tagIf_false (entry : String) {condition : Prop} (fails : ¬condition) (module : Module) :
    tagIf entry condition module = module :=
  if_neg fails

theorem tagIf_true (entry : String) {condition : Prop} (holds : condition) (module : Module) :
    tagIf entry condition module = module.addOwner entry :=
  if_pos holds

@[simp] theorem tagIf_id (entry : String) (condition : Prop) (module : Module) :
    (tagIf entry condition module).id = module.id := by
  unfold tagIf
  split <;> rfl

@[simp] theorem tagIf_dependencies (entry : String) (condition : Prop) (module : Module) :
    (tagIf entry condition module).dependencies = module.dependencies := by
  unfold tagIf
  split <;> rfl

theorem addOwner_id (entry : String) (module : Module) : (module.addOwner entry).id = module.id :=
  rfl

section Marking

variable {graph : ModuleGraph} {entry id : String} {module : Module}

theorem requires_update (indexed : graph.Indexed) (first second : String) :
    (graph.update id (Module.addOwner entry)).Requires first second ↔
      graph.Requires first second := by
  unfold Requires dependenciesOf
  rw [find?_update indexed (addOwner_id entry)]
  cases graph.find? first with
  | none => rfl
  | some _ =>
    by_cases same : first = id <;> simp [same, Module.addOwner]

theorem lacks_update_iff (indexed : graph.Indexed) (other : String) :
    (graph.update id (Module.addOwner entry)).Lacks entry other ↔
      other ≠ id ∧ graph.Lacks entry other := by
  unfold Lacks
  rw [find?_update indexed (addOwner_id entry)]
  cases graph.find? other with
  | none => simp
  | some _ => by_cases same : other = id <;> simp [same, Module.addOwner]

theorem OpenWay.of_update (indexed : graph.Indexed) {start other : String}
    (way : (graph.update id (Module.addOwner entry)).OpenWay entry start other) :
    graph.OpenWay entry start other := by
  induction way with
  | here lacks => exact .here ((lacks_update_iff indexed _).1 lacks).2
  | onward _ requires lacks ih =>
    exact ih.onward ((requires_update indexed _ _).1 requires) ((lacks_update_iff indexed _).1 lacks).2

/-- A way to another module either avoids the one that is marked or goes on from it. -/
theorem OpenWay.avoid (indexed : graph.Indexed) (id : String) {start other : String}
    (way : graph.OpenWay entry start other) :
    other = id ∨
      ∃ first, (first = start ∨ graph.Requires id first) ∧
        (graph.update id (Module.addOwner entry)).OpenWay entry first other := by
  induction way with
  | here lacks =>
    by_cases same : start = id
    · exact .inl same
    · exact .inr ⟨start, .inl rfl, .here ((lacks_update_iff indexed _).2 ⟨same, lacks⟩)⟩
  | @onward before other _ requires lacks ih =>
    by_cases same : other = id
    · exact .inl same
    · have still : (graph.update id (Module.addOwner entry)).Lacks entry other :=
        (lacks_update_iff indexed other).2 ⟨same, lacks⟩
      rcases ih with rfl | ⟨first, origin, avoiding⟩
      · exact .inr ⟨other, .inr requires, .here still⟩
      · exact .inr ⟨first, origin, avoiding.onward ((requires_update indexed _ _).2 requires) still⟩

/-- Behind a module that is marked the walk goes on with what the module requires. -/
theorem openWay_mark (indexed : graph.Indexed) (found : graph.find? id = some module)
    (unowned : entry ∉ module.owners) (pending : List String) (other : String)
    (different : other ≠ id) :
    (∃ start ∈ module.dependencies ++ pending,
      (graph.update id (Module.addOwner entry)).OpenWay entry start other) ↔
      ∃ start ∈ id :: pending, graph.OpenWay entry start other := by
  have required (first : String) : graph.Requires id first ↔ first ∈ module.dependencies := by
    simp [Requires, dependenciesOf, found]
  constructor
  · rintro ⟨start, listed, way⟩
    have before := way.of_update indexed
    rcases List.mem_append.1 listed with next | waiting
    · exact ⟨id, List.mem_cons_self,
        before.prepend ⟨module, found, unowned⟩ ((required start).2 next)⟩
    · exact ⟨start, List.mem_cons_of_mem _ waiting, before⟩
  · rintro ⟨start, listed, way⟩
    rcases way.avoid indexed id with same | ⟨first, origin, avoiding⟩
    · exact absurd same different
    · rcases origin with rfl | next
      · rcases List.mem_cons.1 listed with rfl | waiting
        · exact absurd rfl ((lacks_update_iff indexed _).1 avoiding.start_lacks).1
        · exact ⟨first, List.mem_append_right _ waiting, avoiding⟩
      · exact ⟨first, List.mem_append_left _ ((required first).1 next), avoiding⟩

end Marking

def openCount (graph : ModuleGraph) (entry : String) : Nat :=
  ((graph.modules.toList.filter (!·.isOwnedBy entry)).flatMap Module.dependencies).length

section Walk

variable {graph : ModuleGraph} {entry id : String} {module : Module}

theorem openCount_le (graph : ModuleGraph) (entry : String) :
    graph.openCount entry ≤ graph.dependencyCount :=
  (List.filter_sublist.flatMap _).length_le

theorem openCount_update (indexed : graph.Indexed) (found : graph.find? id = some module)
    (unowned : entry ∉ module.owners) :
    (graph.update id (Module.addOwner entry)).openCount entry + module.dependencies.length =
      graph.openCount entry := by
  obtain ⟨member, rfl⟩ := (indexed.find?_iff id module).1 found
  obtain ⟨before, behind, split⟩ := List.append_of_mem member
  have alone := indexed.nodup_ids
  rw [split, List.map_append, List.map_cons, List.nodup_middle, List.nodup_cons] at alone
  have others : ∀ other ∈ before ++ behind, other.id ≠ module.id := fun other listed same =>
    alone.1 (by
      rw [← List.map_append, ← same]
      exact List.mem_map_of_mem listed)
  have keep (part : List Module) (within : ∀ other ∈ part, other.id ≠ module.id) :
      part.map (fun other => if other.id = module.id then other.addOwner entry else other) = part := by
    calc part.map (fun other => if other.id = module.id then other.addOwner entry else other)
      _ = part.map fun other => other :=
        List.map_congr_left fun other listed => if_neg (within other listed)
      _ = part := List.map_id' part
  have marked : (module.addOwner entry).isOwnedBy entry = true := by
    simp [Module.isOwnedBy, Module.addOwner]
  have unmarked : module.isOwnedBy entry = false := by
    simpa [Module.isOwnedBy] using unowned
  unfold openCount
  rw [toList_update indexed, split, List.map_append, List.map_cons, if_pos rfl,
    keep before fun other listed => others other (List.mem_append_left _ listed),
    keep behind fun other listed => others other (List.mem_append_right _ listed)]
  simp only [List.filter_append, List.filter_cons, marked, unmarked, Bool.not_true, Bool.not_false,
    Bool.false_eq_true, if_true, if_false, List.flatMap_append, List.flatMap_cons, List.length_append]
  omega

end Walk

/-- One turn of the walk of an entry: from what is pending in a graph to what is pending afterwards. Any id
may be taken off first, and what a module requires may be put anywhere. -/
inductive Turn (entry : String) : List String × ModuleGraph → List String × ModuleGraph → Prop where
  | pass {graph : ModuleGraph} {pending rest : List String} {id : String}
      (taken : pending.Perm (id :: rest)) (closed : ¬graph.Lacks entry id) :
      Turn entry (pending, graph) (rest, graph)
  | mark {graph : ModuleGraph} {pending rest next : List String} {id : String} {module : Module}
      (taken : pending.Perm (id :: rest)) (found : graph.find? id = some module)
      (unowned : entry ∉ module.owners) (put : next.Perm (module.dependencies ++ rest)) :
      Turn entry (pending, graph) (next, graph.update id (Module.addOwner entry))

/-- Turns until some state. -/
def Walks (entry : String) : List String × ModuleGraph → List String × ModuleGraph → Prop :=
  Relation.ReflTransGen (Turn entry)

/-- The modules as a walk from what is pending will leave them: the entry owns those to which an open way
leads. -/
noncomputable def marked (entry : String) (graph : ModuleGraph) (pending : List String) : List Module :=
  graph.modules.toList.map fun module =>
    tagIf entry (∃ start ∈ pending, graph.OpenWay entry start module.id) module

section Marked

variable {graph : ModuleGraph} {entry id : String} {module : Module}

theorem marked_nil (entry : String) (graph : ModuleGraph) :
    graph.marked entry [] = graph.modules.toList := by
  simp [marked, tagIf_false]

theorem marked_perm {pending others : List String} (same : pending.Perm others) :
    graph.marked entry pending = graph.marked entry others := by
  simp only [marked, same.mem_iff]

theorem marked_pass (closed : ¬graph.Lacks entry id) (rest : List String) :
    graph.marked entry (id :: rest) = graph.marked entry rest := by
  refine List.map_congr_left fun module _ => ?_
  congr 1
  simp only [List.mem_cons, exists_eq_or_imp, eq_iff_iff]
  exact ⟨fun ways => ways.resolve_left fun way => closed way.start_lacks, .inr⟩

/-- A module that is marked is not marked again, and its requirements take its place. -/
theorem marked_mark (indexed : graph.Indexed) (found : graph.find? id = some module)
    (unowned : entry ∉ module.owners) (rest : List String) :
    (graph.update id (Module.addOwner entry)).marked entry (module.dependencies ++ rest) =
      graph.marked entry (id :: rest) := by
  rw [marked, toList_update indexed, List.map_map]
  refine List.map_congr_left fun other listed => ?_
  rw [Function.comp_apply]
  by_cases same : other.id = id
  · have reached : ∃ start ∈ id :: rest, graph.OpenWay entry start other.id :=
      ⟨id, List.mem_cons_self, by rw [same]; exact .here ⟨module, found, unowned⟩⟩
    rw [if_pos same, tagIf_true entry reached]
    refine tagIf_false _ ?_ _
    rintro ⟨start, -, way⟩
    exact ((lacks_update_iff indexed _).1 way.lacks).1 same
  · rw [if_neg same]
    congr 1
    exact propext (openWay_mark indexed found unowned rest other.id same)

end Marked

/-! What one turn keeps, and what a walk keeps for that reason. -/

namespace Turn

variable {entry : String} {before after : List String × ModuleGraph}

theorem indexed (turn : Turn entry before after) (indexed : before.2.Indexed) : after.2.Indexed := by
  cases turn with
  | pass _ _ => exact indexed
  | mark _ _ _ _ => exact indexed.update (addOwner_id entry)

theorem index_eq (turn : Turn entry before after) : after.2.index = before.2.index := by
  cases turn with
  | pass _ _ => rfl
  | mark _ _ _ _ => exact index_update

theorem marked_eq (turn : Turn entry before after) (indexed : before.2.Indexed) :
    after.2.marked entry after.1 = before.2.marked entry before.1 := by
  cases turn with
  | pass taken closed => exact ((marked_perm taken).trans (marked_pass closed _)).symm
  | mark taken found unowned put =>
    exact (marked_perm put).trans
      ((marked_mark indexed found unowned _).trans (marked_perm taken).symm)

/-- A turn takes an id off for good, or pays with the requirements of a module that is marked by it. -/
theorem effort_lt (turn : Turn entry before after) (indexed : before.2.Indexed) :
    after.1.length + after.2.openCount entry < before.1.length + before.2.openCount entry := by
  cases turn with
  | pass taken _ =>
    have shorter := taken.length_eq
    rw [List.length_cons] at shorter
    dsimp only
    omega
  | mark taken found unowned put =>
    dsimp only at indexed ⊢
    have shorter := taken.length_eq
    have longer := put.length_eq
    have spent := openCount_update indexed found unowned
    rw [List.length_cons] at shorter
    rw [List.length_append] at longer
    omega

end Turn

namespace Walks

variable {entry : String} {before after : List String × ModuleGraph}

theorem indexed (walks : Walks entry before after) (indexed : before.2.Indexed) :
    after.2.Indexed := by
  induction walks with
  | refl => exact indexed
  | tail _ turn ih => exact turn.indexed ih

theorem index_eq (walks : Walks entry before after) : after.2.index = before.2.index := by
  induction walks with
  | refl => rfl
  | tail _ turn ih => exact turn.index_eq.trans ih

theorem marked_eq (walks : Walks entry before after) (indexed : before.2.Indexed) :
    after.2.marked entry after.1 = before.2.marked entry before.1 := by
  induction walks with
  | refl => rfl
  | tail walked turn ih => exact (turn.marked_eq (Walks.indexed walked indexed)).trans ih

end Walks

section Walk

variable {graph : ModuleGraph}

/-- The walk comes to its end, as long as it is given a step for every pending id and for every
requirement of a module that is not marked yet. -/
theorem walks_ownPending (entry : String) (count : Nat) (pending : List String)
    (indexed : graph.Indexed) (enough : pending.length + graph.openCount entry ≤ count) :
    Walks entry (pending, graph) ([], graph.ownPending entry count pending) := by
  induction count generalizing graph pending with
  | zero =>
    have nothing : pending = [] := List.length_eq_zero_iff.1 (by omega)
    subst nothing
    rw [ownPending]
    · exact .refl
    · exact nofun
  | succ count ih =>
    cases pending with
    | nil =>
      rw [ownPending]
      · exact .refl
      · exact nofun
    | cons id pending =>
      rw [List.length_cons] at enough
      unfold ownPending
      have skip (closed : ¬graph.Lacks entry id) :
          Walks entry (id :: pending, graph) ([], graph.ownPending entry count pending) :=
        .head (.pass (.refl _) closed) (ih pending indexed (by omega))
      cases found : graph.find? id with
      | none => exact skip (by simp [Lacks, found])
      | some module =>
        dsimp only
        split
        · rename_i owned
          exact skip (by simpa [Lacks, found, Module.isOwnedBy] using owned)
        · rename_i free
          have unowned : entry ∉ module.owners := by simpa [Module.isOwnedBy] using free
          have spent := openCount_update indexed found unowned
          refine .head (.mark (.refl _) found unowned (.refl _)) ?_
          exact ih _ (indexed.update (addOwner_id entry)) (by rw [List.length_append]; omega)

theorem walks_addOwner (indexed : graph.Indexed) (id entry : String) :
    Walks entry ([id], graph) ([], graph.addOwner id entry) := by
  have bound := openCount_le graph entry
  exact walks_ownPending entry _ [id] indexed (by rw [List.length_singleton]; omega)

theorem toList_addOwner (indexed : graph.Indexed) (id entry : String) :
    (graph.addOwner id entry).modules.toList = graph.modules.toList.map fun module =>
      tagIf entry (graph.OpenWay entry id module.id) module := by
  have walked := (walks_addOwner indexed id entry).marked_eq indexed
  rw [marked_nil] at walked
  simpa [marked] using walked

theorem Indexed.addOwner (indexed : graph.Indexed) (id entry : String) :
    (graph.addOwner id entry).Indexed :=
  (walks_addOwner indexed id entry).indexed indexed

end Walk

section Tagged

variable {graph : ModuleGraph} {entry : String}

theorem requires_iff (indexed : graph.Indexed) {module : Module} (member : module ∈ graph.modules.toList)
    (other : String) : graph.Requires module.id other ↔ other ∈ module.dependencies := by
  rw [Requires, dependenciesOf, (indexed.find?_iff module.id module).2 ⟨member, rfl⟩]

theorem lacks_or_owns (indexed : graph.Indexed) {id : String} (present : graph.contains id = true)
    (entry : String) : graph.Lacks entry id ∨ graph.Owns entry id := by
  obtain ⟨module, member, rfl⟩ := (indexed.contains_iff id).1 present
  have found := (indexed.find?_iff module.id module).2 ⟨member, rfl⟩
  by_cases owned : entry ∈ module.owners
  · exact .inr ⟨module, found, owned⟩
  · exact .inl ⟨module, found, owned⟩

theorem find?_addOwner (indexed : graph.Indexed) (id entry key : String) :
    (graph.addOwner id entry).find? key =
      (graph.find? key).map (tagIf entry (graph.OpenWay entry id key)) := by
  apply Option.ext
  intro module
  rw [(indexed.addOwner id entry).find?_iff, toList_addOwner indexed]
  simp only [List.mem_map, Option.map_eq_some_iff, indexed.find?_iff]
  constructor
  · rintro ⟨⟨before, member, rfl⟩, named⟩
    rw [tagIf_id] at named
    exact ⟨before, ⟨member, named⟩, by rw [named]⟩
  · rintro ⟨before, ⟨member, rfl⟩, rfl⟩
    exact ⟨⟨before, member, rfl⟩, tagIf_id _ _ _⟩

theorem mem_owners_tagIf {condition : Prop} {module : Module} {owner : String} :
    owner ∈ (tagIf entry condition module).owners ↔
      owner ∈ module.owners ∨ condition ∧ owner = entry := by
  by_cases holds : condition
  · simp [tagIf_true, holds, Module.addOwner]
  · simp [tagIf_false, holds]

theorem owns_addOwner_iff (indexed : graph.Indexed) (id entry key : String) :
    (graph.addOwner id entry).Owns entry key ↔ graph.Owns entry key ∨ graph.OpenWay entry id key := by
  unfold Owns
  rw [find?_addOwner indexed]
  constructor
  · rintro ⟨module, found, owned⟩
    obtain ⟨before, looked, rfl⟩ := Option.map_eq_some_iff.1 found
    rcases mem_owners_tagIf.1 owned with already | ⟨way, -⟩
    · exact .inl ⟨before, looked, already⟩
    · exact .inr way
  · rintro (⟨module, found, owned⟩ | way)
    · exact ⟨_, by rw [found]; rfl, mem_owners_tagIf.2 (.inl owned)⟩
    · obtain ⟨module, found, -⟩ := way.lacks
      exact ⟨_, by rw [found]; rfl, mem_owners_tagIf.2 (.inr ⟨way, rfl⟩)⟩

theorem dependenciesOf_addOwner (indexed : graph.Indexed) (id entry key : String) :
    (graph.addOwner id entry).dependenciesOf key = graph.dependenciesOf key := by
  unfold dependenciesOf
  rw [find?_addOwner indexed]
  cases graph.find? key with
  | none => rfl
  | some module => exact tagIf_dependencies _ _ module

theorem contains_addOwner (indexed : graph.Indexed) (id entry key : String) :
    (graph.addOwner id entry).contains key = graph.contains key := by
  rw [contains, contains, (walks_addOwner indexed id entry).index_eq]

end Tagged

end ModuleBundler.ModuleGraph
