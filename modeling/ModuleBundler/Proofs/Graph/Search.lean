import ModuleBundler.Proofs.Graph.Ownership
import Mathlib.Order.Lattice.Nat

/-!
What is reached from a module, nearer modules first. The search notes an id as seen when it puts it into its
queue and lists it when it takes it out; between the two stand ids of at most two distances.
-/

namespace ModuleBundler.ModuleGraph

variable {graph : ModuleGraph} {start : String}

inductive ReachesIn (graph : ModuleGraph) (start : String) : Nat → String → Prop where
  | here : ReachesIn graph start 0 start
  | onward {count : Nat} {id other : String} (way : ReachesIn graph start count id)
      (requires : graph.Requires id other) : ReachesIn graph start (count + 1) other

theorem reaches_iff_reachesIn {id : String} :
    graph.Reaches start id ↔ ∃ count, graph.ReachesIn start count id := by
  constructor
  · intro reaches
    induction reaches with
    | refl => exact ⟨0, .here⟩
    | tail _ requires ih =>
      obtain ⟨count, way⟩ := ih
      exact ⟨count + 1, way.onward requires⟩
  · rintro ⟨count, way⟩
    induction way with
    | here => exact .refl
    | onward _ requires ih => exact ih.tail requires

/-- The least number of requirements by which a module is reached from another one. -/
noncomputable def distance (graph : ModuleGraph) (start id : String) : Nat :=
  sInf {count | graph.ReachesIn start count id}

theorem distance_le {count : Nat} {id : String} (way : graph.ReachesIn start count id) :
    graph.distance start id ≤ count :=
  Nat.sInf_le way

theorem reachesIn_distance {id : String} (reaches : graph.Reaches start id) :
    graph.ReachesIn start (graph.distance start id) id :=
  Nat.sInf_mem (reaches_iff_reachesIn.1 reaches)

theorem distance_le_succ {id other : String} (reaches : graph.Reaches start id)
    (requires : graph.Requires id other) :
    graph.distance start other ≤ graph.distance start id + 1 :=
  distance_le ((reachesIn_distance reaches).onward requires)

theorem mem_dependencies_of_requires {id other : String} (requires : graph.Requires id other) :
    other ∈ graph.modules.toList.flatMap Module.dependencies := by
  unfold Requires dependenciesOf at requires
  split at requires
  · rename_i module found
    simp only [find?, bind, Option.bind_eq_some_iff] at found
    obtain ⟨place, -, here⟩ := found
    rw [← Array.getElem?_toList] at here
    exact List.mem_flatMap.2 ⟨module, List.mem_of_getElem? here, requires⟩
  · cases requires

theorem mem_unseen {seen ids : List String} {id : String} :
    id ∈ unseen seen ids ↔ id ∈ ids ∧ id ∉ seen := by
  induction ids generalizing seen with
  | nil => simp [unseen]
  | cons first ids ih =>
    unfold unseen
    split
    · rename_i known
      rw [List.contains_iff_mem] at known
      rw [ih, List.mem_cons]
      constructor
      · exact fun ⟨listed, fresh⟩ => ⟨.inr listed, fresh⟩
      · rintro ⟨rfl | listed, fresh⟩
        · exact absurd known fresh
        · exact ⟨listed, fresh⟩
    · rename_i unknown
      rw [List.contains_iff_mem] at unknown
      simp only [List.mem_cons, ih, not_or]
      constructor
      · rintro (rfl | ⟨listed, -, fresh⟩)
        · exact ⟨.inl rfl, unknown⟩
        · exact ⟨.inr listed, fresh⟩
      · rintro ⟨rfl | listed, fresh⟩
        · exact .inl rfl
        · by_cases same : id = first
          · exact .inl same
          · exact .inr ⟨listed, same, fresh⟩

theorem nodup_unseen (seen ids : List String) : (unseen seen ids).Nodup := by
  induction ids generalizing seen with
  | nil => exact .nil
  | cons first ids ih =>
    unfold unseen
    split
    · exact ih seen
    · exact List.nodup_cons.2 ⟨fun again => (mem_unseen.1 again).2 List.mem_cons_self, ih _⟩

/-- The search as long as something is in its queue: what it lists from a queue, with the ids that have been
seen. -/
inductive Searches (graph : ModuleGraph) : List String → List String → List String → Prop where
  | done (seen : List String) : Searches graph [] seen []
  | next {id : String} {queue seen found rest : List String}
      (new : found = unseen seen (graph.dependenciesOf id))
      (continued : Searches graph (queue ++ found) (found ++ seen) rest) :
      Searches graph (id :: queue) seen (id :: rest)

/-- A search that has listed some ids and has others in its queue. -/
structure Frontier (graph : ModuleGraph) (start : String) (listed queue seen : List String) :
    Prop where
  seen_iff : ∀ id, id ∈ seen ↔ id ∈ listed ++ queue
  nodup : (listed ++ queue).Nodup
  start_mem : start ∈ listed ++ queue
  reached : ∀ id ∈ listed ++ queue, graph.Reaches start id
  closed : ∀ id ∈ listed, ∀ other, graph.Requires id other → other ∈ listed ++ queue
  ascending : (listed ++ queue).Pairwise fun near far =>
    graph.distance start near ≤ graph.distance start far
  narrow : ∀ id ∈ queue, ∀ other ∈ queue,
    graph.distance start id ≤ graph.distance start other + 1

namespace Frontier

variable {listed queue seen : List String} {id : String}

theorem init (graph : ModuleGraph) (start : String) : graph.Frontier start [] [start] [start] where
  seen_iff _ := Iff.rfl
  nodup := List.nodup_singleton start
  start_mem := List.mem_singleton_self start
  reached id member := by
    obtain rfl := List.mem_singleton.1 member
    exact .refl
  closed _ member := absurd member List.not_mem_nil
  ascending := List.pairwise_singleton _ _
  narrow id member other also := by
    obtain rfl := List.mem_singleton.1 member
    obtain rfl := List.mem_singleton.1 also
    exact Nat.le_succ _

section Step

variable (frontier : graph.Frontier start listed (id :: queue) seen)
include frontier

theorem distance_first_le {other : String} (waiting : other ∈ id :: queue) :
    graph.distance start id ≤ graph.distance start other := by
  rcases List.mem_cons.1 waiting with rfl | behind
  · exact Nat.le_refl _
  · have ascending := (List.pairwise_append.1 frontier.ascending).2.1
    exact (List.pairwise_cons.1 ascending).1 other behind

/-- What has not been listed is no nearer than the first of the queue: a way to it leaves what is listed
through the queue. -/
theorem distance_first_le_of_way {count : Nat} {other : String}
    (way : graph.ReachesIn start count other) (unlisted : other ∉ listed) :
    graph.distance start id ≤ count := by
  -- on the way: what is listed requires only what is listed or in the queue
  induction way with
  | here =>
    have waiting := (List.mem_append.1 frontier.start_mem).resolve_left unlisted
    exact (frontier.distance_first_le waiting).trans (distance_le .here)
  | @onward count before other way requires ih =>
    by_cases early : before ∈ listed
    · have known := frontier.closed before early other requires
      have waiting := (List.mem_append.1 known).resolve_left unlisted
      exact (frontier.distance_first_le waiting).trans (distance_le (way.onward requires))
    · exact (ih early).trans (Nat.le_succ count)

/-- What is new is one requirement further away than the module that requires it. -/
theorem distance_of_mem_unseen {other : String}
    (new : other ∈ unseen seen (graph.dependenciesOf id)) :
    graph.distance start other = graph.distance start id + 1 := by
  obtain ⟨requires, fresh⟩ := mem_unseen.1 new
  have reaches : graph.Reaches start id :=
    frontier.reached id (List.mem_append_right _ List.mem_cons_self)
  refine Nat.le_antisymm (distance_le_succ reaches requires) ?_
  -- the last module on a shortest way has not been listed, or what it requires would have been seen
  generalize length : graph.distance start other = count
  have way := reachesIn_distance (reaches.tail requires)
  rw [length] at way
  cases way with
  | here => exact absurd ((frontier.seen_iff start).2 frontier.start_mem) fresh
  | @onward count before _ way last =>
    refine Nat.succ_le_succ (frontier.distance_first_le_of_way way fun early => ?_)
    exact fresh ((frontier.seen_iff other).2 (frontier.closed before early other last))

theorem distance_le_first {other : String}
    (waiting : other ∈ queue ++ unseen seen (graph.dependenciesOf id)) :
    graph.distance start id ≤ graph.distance start other ∧
      graph.distance start other ≤ graph.distance start id + 1 := by
  rcases List.mem_append.1 waiting with old | new
  · exact ⟨frontier.distance_first_le (List.mem_cons_of_mem _ old),
      frontier.narrow other (List.mem_cons_of_mem _ old) id List.mem_cons_self⟩
  · have further := frontier.distance_of_mem_unseen new
    omega

/-- One step of the search: the first of the queue is listed, and what is new about what it requires goes to
the end of the queue. -/
theorem step : graph.Frontier start (listed ++ [id])
    (queue ++ unseen seen (graph.dependenciesOf id))
    (unseen seen (graph.dependenciesOf id) ++ seen) := by
  have whole : listed ++ [id] ++ (queue ++ unseen seen (graph.dependenciesOf id)) =
      listed ++ id :: queue ++ unseen seen (graph.dependenciesOf id) := by simp
  have reaches : graph.Reaches start id :=
    frontier.reached id (List.mem_append_right _ List.mem_cons_self)
  refine ⟨fun other => ?_, ?_, ?_, ?_, ?_, ?_, ?_⟩
  · rw [whole, List.mem_append, List.mem_append, frontier.seen_iff, or_comm]
  · rw [whole, List.nodup_append']
    refine ⟨frontier.nodup, nodup_unseen _ _, fun other known new => ?_⟩
    exact (mem_unseen.1 new).2 ((frontier.seen_iff other).2 known)
  · rw [whole]
    exact List.mem_append_left _ frontier.start_mem
  · intro other member
    rw [whole] at member
    rcases List.mem_append.1 member with known | new
    · exact frontier.reached other known
    · exact reaches.tail (mem_unseen.1 new).1
  · intro before member other requires
    rw [whole]
    rcases List.mem_append.1 member with early | last
    · exact List.mem_append_left _ (frontier.closed before early other requires)
    · obtain rfl := List.mem_singleton.1 last
      by_cases known : other ∈ seen
      · exact List.mem_append_left _ ((frontier.seen_iff other).1 known)
      · exact List.mem_append_right _ (mem_unseen.2 ⟨requires, known⟩)
  · -- all that is new is one requirement further away, and nothing that waits is further than that
    rw [whole, List.pairwise_append]
    refine ⟨frontier.ascending, ?_, ?_⟩
    · refine List.pairwise_of_forall_mem_list fun near one far two => ?_
      rw [frontier.distance_of_mem_unseen one, frontier.distance_of_mem_unseen two]
    · intro near known far new
      rw [frontier.distance_of_mem_unseen new]
      rcases List.mem_append.1 known with early | waiting
      · have order := (List.pairwise_append.1 frontier.ascending).2.2
        exact (order near early id List.mem_cons_self).trans (Nat.le_succ _)
      · exact frontier.narrow near waiting id List.mem_cons_self
  · intro one first other second
    have high := (frontier.distance_le_first first).2
    have low := (frontier.distance_le_first second).1
    omega

end Step

theorem mem_listed_iff (frontier : graph.Frontier start listed [] seen) (id : String) :
    id ∈ listed ↔ graph.Reaches start id := by
  have closed := frontier.closed
  have start_mem := frontier.start_mem
  have reached := frontier.reached
  rw [List.append_nil] at closed start_mem reached
  refine ⟨reached id, fun reaches => ?_⟩
  induction reaches with
  | refl => exact start_mem
  | tail _ requires ih => exact closed _ ih _ requires

theorem run {rest : List String} (frontier : graph.Frontier start listed queue seen)
    (searches : graph.Searches queue seen rest) : ∃ all, graph.Frontier start (listed ++ rest) [] all := by
  induction searches generalizing listed with
  | done seen => exact ⟨seen, by rwa [List.append_nil]⟩
  | next new _ ih =>
    subst new
    obtain ⟨all, ended⟩ := ih frontier.step
    exact ⟨all, by rwa [List.append_assoc] at ended⟩

theorem length_le (frontier : graph.Frontier start listed queue seen) :
    listed.length + queue.length ≤ graph.dependencyCount + 1 := by
  have within : listed ++ queue ⊆ start :: graph.modules.toList.flatMap Module.dependencies := by
    intro other member
    cases frontier.reached other member with
    | refl => exact List.mem_cons_self
    | tail _ requires => exact List.mem_cons_of_mem _ (mem_dependencies_of_requires requires)
  have bound := (List.subperm_of_subset frontier.nodup within).length_le
  rwa [List.length_append, List.length_cons] at bound

/-- The search comes to its end, as long as it is given a step for every id that can still be seen. -/
theorem searches_reachQueue (frontier : graph.Frontier start listed queue seen) {count : Nat}
    (enough : graph.dependencyCount + 1 ≤ listed.length + count) :
    graph.Searches queue seen (graph.reachQueue count queue seen) := by
  induction count generalizing listed queue seen with
  | zero =>
    have bound := frontier.length_le
    have nothing : queue = [] := List.length_eq_zero_iff.1 (by omega)
    subst nothing
    exact .done seen
  | succ count ih =>
    cases queue with
    | nil => exact .done seen
    | cons id queue =>
      refine .next rfl (ih frontier.step ?_)
      rw [List.length_append, List.length_singleton]
      omega

end Frontier

/-- The search from a module comes to its end with an empty queue. It lists what is reached from the module,
each id once and the module itself first, in the order of the distances. -/
theorem reachable_by_distance (graph : ModuleGraph) (start : String) :
    graph.Searches [start] [start] (graph.reachable start) ∧
      (graph.reachable start).head? = some start ∧
      (graph.reachable start).Nodup ∧
      (∀ id, id ∈ graph.reachable start ↔ graph.Reaches start id) ∧
      (graph.reachable start).Pairwise fun near far =>
        graph.distance start near ≤ graph.distance start far := by
  have begun := Frontier.init graph start
  have searches : graph.Searches [start] [start] (graph.reachable start) :=
    begun.searches_reachQueue (by simp)
  obtain ⟨all, ended⟩ := begun.run searches
  rw [List.nil_append] at ended
  refine ⟨searches, rfl, ?_, ended.mem_listed_iff, ?_⟩
  · simpa using ended.nodup
  · simpa using ended.ascending

end ModuleBundler.ModuleGraph
