import ModuleBundler.Proofs.Graph.Ownership

/-!
The walk by which an entry becomes the owner of what a module requires. It ends whatever order it is done
in, and always with the same graph, so that of two walks either may come first.
-/

namespace ModuleBundler.ModuleGraph

variable {graph final : ModuleGraph} {entry : String}

theorem Turn.append {before after : List String × ModuleGraph} (turn : Turn entry before after)
    (later : List String) : Turn entry (before.1 ++ later, before.2) (after.1 ++ later, after.2) := by
  cases turn with
  | pass taken closed => exact .pass (taken.append_right later) closed
  | mark taken found unowned put =>
    refine .mark (taken.append_right later) found unowned ?_
    exact (put.append_right later).trans (.of_eq (List.append_assoc _ _ _))

theorem Walks.append {before after : List String × ModuleGraph} (walks : Walks entry before after)
    (later : List String) :
    Walks entry (before.1 ++ later, before.2) (after.1 ++ later, after.2) := by
  induction walks with
  | refl => exact .refl
  | tail _ turn ih => exact ih.tail (turn.append later)

theorem eq_of_modules_of_index {first second : ModuleGraph}
    (modules : first.modules.toList = second.modules.toList) (index : first.index = second.index) :
    first = second := by
  cases first
  cases second
  congr
  exact Array.toList_inj.1 modules

theorem Walks.end_eq {start : List String × ModuleGraph} {other : ModuleGraph}
    (indexed : start.2.Indexed) (walks : Walks entry start ([], final))
    (also : Walks entry start ([], other)) : final = other := by
  have modules := (walks.marked_eq indexed).trans (also.marked_eq indexed).symm
  rw [marked_nil, marked_nil] at modules
  exact eq_of_modules_of_index modules (walks.index_eq.trans also.index_eq.symm)

theorem Walks.continue {start middle : List String × ModuleGraph} (indexed : start.2.Indexed)
    (walks : Walks entry start ([], final)) (walked : Walks entry start middle) :
    Walks entry middle ([], final) := by
  have further := walks_ownPending entry _ middle.1 (walked.indexed indexed) (Nat.le_refl _)
  rwa [walks.end_eq indexed (walked.trans further)]

theorem acc_turn (pending : List String) (indexed : graph.Indexed) :
    Acc (fun after before => Turn entry before after) (pending, graph) := by
  -- what a mark puts on the list is no longer open, so that every turn makes the sum one less
  induction effort : pending.length + graph.openCount entry using Nat.strongRecOn
    generalizing graph pending with
  | ind _ ih =>
    refine ⟨_, fun ⟨next, later⟩ turn => ?_⟩
    have less : next.length + later.openCount entry < pending.length + graph.openCount entry :=
      turn.effort_lt indexed
    exact ih _ (by omega) next (turn.indexed indexed) rfl

/-- What an entry's modules require is the entry's as well, as far as it is there. -/
def OwnsClosed (graph : ModuleGraph) (entry : String) : Prop :=
  ∀ id other, graph.Owns entry id → graph.Requires id other → graph.contains other = true →
    graph.Owns entry other

theorem OwnsClosed.addOwner (closed : graph.OwnsClosed entry) (indexed : graph.Indexed) (id : String) :
    (graph.addOwner id entry).OwnsClosed entry := by
  intro key other owned requires present
  rw [Requires, dependenciesOf_addOwner indexed] at requires
  rw [contains_addOwner indexed] at present
  rw [owns_addOwner_iff indexed] at owned ⊢
  rcases owned with already | way
  · exact .inl (closed key other already requires present)
  · rcases lacks_or_owns indexed present entry with lacks | owns
    · exact .inr (way.onward requires lacks)
    · exact .inl owns

theorem walks_addOwner_addOwner (indexed : graph.Indexed) (id other entry : String) :
    Walks entry ([id, other], graph) ([], (graph.addOwner id entry).addOwner other entry) :=
  ((walks_addOwner indexed id entry).append [other]).trans
    (walks_addOwner (indexed.addOwner id entry) other entry)

theorem addOwner_comm (indexed : graph.Indexed) (id other entry : String) :
    (graph.addOwner id entry).addOwner other entry =
      (graph.addOwner other entry).addOwner id entry := by
  have swapped := walks_addOwner_addOwner indexed other id entry
  -- both are walks from the two starts, which may stand in either order on the list
  have modules := (walks_addOwner_addOwner indexed id other entry).marked_eq indexed
  have others := swapped.marked_eq indexed
  rw [marked_nil] at modules others
  rw [marked_perm (.swap id other [])] at others
  exact eq_of_modules_of_index (modules.trans others.symm)
    ((walks_addOwner_addOwner indexed id other entry).index_eq.trans swapped.index_eq.symm)

/-- When an entry is to own a module, every walk from there ends, whatever order it takes its turns in, with
one graph. In it the entry stands once more among the owners of exactly those modules to which an open way
leads, and nothing else has changed. -/
theorem addOwner_marks (indexed : graph.Indexed) (id entry : String) :
    Acc (fun after before => Turn entry before after) ([id], graph) ∧
      (∀ state, Walks entry ([id], graph) state →
        Walks entry state ([], graph.addOwner id entry)) ∧
      (graph.addOwner id entry).modules.toList = graph.modules.toList.map (fun module =>
        tagIf entry (graph.OpenWay entry id module.id) module) ∧
      (graph.addOwner id entry).index = graph.index ∧
      (graph.OwnsClosed entry → (graph.addOwner id entry).OwnsClosed entry) ∧
      ∀ other, (graph.addOwner id entry).addOwner other entry =
        (graph.addOwner other entry).addOwner id entry := by
  have walked := walks_addOwner indexed id entry
  refine ⟨acc_turn [id] indexed, fun state reached => walked.continue indexed reached,
    toList_addOwner indexed id entry, walked.index_eq, fun closed => closed.addOwner indexed id, ?_⟩
  exact fun other => addOwner_comm indexed id other entry

/-- A circle that requires a module that is missing and one that another entry owns already, without what
that one requires. -/
def tangledGraph : ModuleGraph :=
  [.new "./lib" (.normal ⟨"/lib"⟩) "" ["./helper", "./missing", "./own"] "first",
    .new "./helper" (.normal ⟨"/helper"⟩) "" ["./lib", "./lib"] "first",
    .new "./own" (.normal ⟨"/own"⟩) "" ["./far"] "second",
    .new "./far" (.normal ⟨"/far"⟩) "" ["./helper"] "first"].foldl
      (fun graph module => (graph.insert module).2) .empty

/-- The walk goes round the circle and stops at the module that is owned. -/
theorem tangledGraph_marked : tangledGraph.Indexed ∧
    (tangledGraph.modules.toList.map fun module =>
        (tagIf "second" (tangledGraph.OpenWay "second" "./lib" module.id) module).owners) =
      [["first", "second"], ["first", "second"], ["second"], ["first"]] ∧
    (tangledGraph.addOwner "./lib" "second").addOwner "./far" "second" =
      (tangledGraph.addOwner "./far" "second").addOwner "./lib" "second" := by
  have indexed : tangledGraph.Indexed :=
    (((indexed_empty.insert _).insert _).insert _).insert _
  obtain ⟨-, -, modules, -, -, order⟩ := addOwner_marks indexed "./lib" "second"
  have owners : (tangledGraph.addOwner "./lib" "second").modules.toList.map Module.owners =
      [["first", "second"], ["first", "second"], ["second"], ["first"]] := by decide +kernel
  rw [modules, List.map_map] at owners
  exact ⟨indexed, owners, order "./far"⟩

end ModuleBundler.ModuleGraph
