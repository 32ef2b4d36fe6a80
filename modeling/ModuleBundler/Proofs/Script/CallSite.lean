import ModuleBundler.Script.CallSite

/-!
The call sites of a tree are the calls of the importing name that it holds, wherever they are, each once and
in the order in which a walk comes to them.
-/

namespace ModuleBundler.Script

inductive Argument.Given : Argument → List Node → Prop
  | missing : Given .missing []
  | text (value : String) (span : Span) (parts : List Node) :
      Given (.text value span) [.mk (.text value) span parts]
  | other {node : Node} (plain : ∀ value, node.shape ≠ .text value) : Given .other [node]
  | several (first second : Node) (others : List Node) : Given .several (first :: second :: others)

theorem Argument.given_iff {argument : Argument} {arguments : List Node} :
    argument.Given arguments ↔ argument = ofParts arguments := by
  constructor
  · intro given
    cases given with
    | missing => rfl
    | text value span parts => rfl
    | @other node plain =>
      cases node with
      | mk shape span parts =>
        cases shape with
        | text value => exact absurd rfl (plain value)
        | _ => rfl
    | several first second others => simp [ofParts]
  · rintro rfl
    match arguments with
    | [] => exact .missing
    | [.mk shape span parts] =>
      cases shape with
      | text value => exact .text value span parts
      | _ => exact .other nofun
    | first :: second :: others =>
      have several : ofParts (first :: second :: others) = .several := by simp [ofParts]
      exact several ▸ .several first second others

namespace Node

/-- A node is a call whose callee is the importing name itself. -/
inductive Imports : Node → CallSite → Prop
  | call {span callee : Span} {inner arguments : List Node} {argument : Argument}
      (given : argument.Given arguments) :
      Imports (mk .call span (mk (.identifier importingName) callee inner :: arguments))
        ⟨callee, span, argument⟩

theorem ownCallSite?_eq_some {node : Node} {site : CallSite} :
    node.ownCallSite? = some site ↔ node.Imports site := by
  constructor
  · intro own
    unfold ownCallSite? at own
    split at own
    · split at own
      · rename_i same
        cases own
        subst same
        exact .call (Argument.given_iff.2 rfl)
      · cases own
    · cases own
  · rintro ⟨given⟩
    rw [Argument.given_iff.1 given]
    rfl

/-- The node that a way from another one leads to. A way is given by the places of the parts to go to. -/
def at? : Node → List Nat → Option Node
  | node, [] => some node
  | node, index :: way => node.parts[index]?.bind fun part => part.at? way

mutual

/-- The call sites in a tree with the ways to them. -/
def located : Node → List (List Nat × CallSite)
  | mk shape span parts =>
    (ownCallSite? (mk shape span parts)).toList.map (fun site => ([], site)) ++ locatedFrom 0 parts

def locatedFrom (index : Nat) : List Node → List (List Nat × CallSite)
  | [] => []
  | part :: others =>
    part.located.map (fun (way, site) => (index :: way, site)) ++ locatedFrom (index + 1) others

end

mutual

theorem map_snd_located : (node : Node) → node.located.map Prod.snd = node.callSites
  | mk shape span parts => by
    simp [located, callSites, map_snd_locatedFrom 0 parts, Function.comp_def]

theorem map_snd_locatedFrom :
    (index : Nat) → (nodes : List Node) → (locatedFrom index nodes).map Prod.snd = allCallSites nodes
  | _, [] => rfl
  | index, part :: others => by
    have first := map_snd_located part
    simp [locatedFrom, allCallSites, map_snd_locatedFrom (index + 1) others, ← first,
      Function.comp_def]

end

mutual

theorem mem_located : (node : Node) → (way : List Nat) → (site : CallSite) →
    ((way, site) ∈ node.located ↔ ∃ found, node.at? way = some found ∧ found.Imports site)
  | mk shape span parts, way, site => by
    rw [located, List.mem_append, mem_locatedFrom 0 parts]
    cases way with
    | nil => simp [at?, ownCallSite?_eq_some]
    | cons index rest =>
      simp only [at?, Node.parts, Option.bind_eq_some_iff, Nat.zero_add, List.cons.injEq]
      constructor
      · rintro (own | ⟨place, _, part, found, ⟨rfl, rfl⟩, there, reached, imports⟩)
        · simp at own
        · exact ⟨found, ⟨part, there, reached⟩, imports⟩
      · rintro ⟨found, ⟨part, there, reached⟩, imports⟩
        exact .inr ⟨index, rest, part, found, ⟨rfl, rfl⟩, there, reached, imports⟩

theorem mem_locatedFrom : (index : Nat) → (nodes : List Node) → (way : List Nat) → (site : CallSite) →
    ((way, site) ∈ locatedFrom index nodes ↔
      ∃ place rest part found, way = (index + place) :: rest ∧ nodes[place]? = some part ∧
        part.at? rest = some found ∧ found.Imports site)
  | index, [], way, site => by simp [locatedFrom]
  | index, part :: others, way, site => by
    have first := mem_located part
    rw [locatedFrom, List.mem_append, mem_locatedFrom (index + 1) others]
    constructor
    · rintro (own | ⟨place, rest, node, found, rfl, there, reached, imports⟩)
      · obtain ⟨⟨rest, _⟩, inside, same⟩ := List.mem_map.1 own
        cases same
        obtain ⟨found, reached, imports⟩ := (first rest site).1 inside
        exact ⟨0, rest, part, found, rfl, rfl, reached, imports⟩
      · exact ⟨place + 1, rest, node, found, by rw [Nat.add_right_comm, Nat.add_assoc], there, reached,
          imports⟩
    · rintro ⟨place, rest, node, found, rfl, there, reached, imports⟩
      cases place with
      | zero =>
        cases there
        exact .inl (List.mem_map.2 ⟨(rest, site), (first rest site).2 ⟨found, reached, imports⟩, rfl⟩)
      | succ place =>
        exact .inr ⟨place, rest, node, found, by rw [Nat.add_right_comm, Nat.add_assoc], there, reached,
          imports⟩

end

theorem exists_of_mem_locatedFrom {index : Nat} {nodes : List Node} {way : List Nat}
    (member : way ∈ (locatedFrom index nodes).map Prod.fst) :
    ∃ first rest, way = first :: rest ∧ index ≤ first := by
  obtain ⟨⟨_, site⟩, inside, rfl⟩ := List.mem_map.1 member
  obtain ⟨place, rest, -, -, rfl, -⟩ := (mem_locatedFrom index nodes _ _).1 inside
  exact ⟨index + place, rest, rfl, Nat.le_add_right _ _⟩

mutual

theorem ascending_located : (node : Node) → (node.located.map Prod.fst).Pairwise (· < ·)
  | mk shape span parts => by
    rw [located, List.map_append, List.pairwise_append]
    refine ⟨?_, ascending_locatedFrom 0 parts, ?_⟩
    · cases ownCallSite? (mk shape span parts) <;> simp
    · intro way own other inside
      obtain ⟨first, rest, rfl, -⟩ := exists_of_mem_locatedFrom inside
      obtain rfl : way = [] := by simp_all
      exact List.nil_lt_cons _ _

theorem ascending_locatedFrom :
    (index : Nat) → (nodes : List Node) → ((locatedFrom index nodes).map Prod.fst).Pairwise (· < ·)
  | index, [] => .nil
  | index, part :: others => by
    have first := ascending_located part
    rw [locatedFrom, List.map_append, List.pairwise_append]
    refine ⟨?_, ascending_locatedFrom (index + 1) others, ?_⟩
    · rw [List.map_map, List.pairwise_map]
      rw [List.pairwise_map] at first
      exact first.imp fun less => List.cons_lt_cons_iff.2 (.inr ⟨rfl, less⟩)
    · intro way own other behind
      obtain ⟨place, rest, rfl, later⟩ := exists_of_mem_locatedFrom behind
      rw [List.map_map] at own
      obtain ⟨⟨inner, _⟩, -, rfl⟩ := List.mem_map.1 own
      exact List.cons_lt_cons_iff.2 (.inl later)

end

/-- Every call of the importing name, and nothing else, is a call site, once and in preorder. -/
theorem callSites_in_preorder (tree : Node) :
    ∃ located : List (List Nat × CallSite), located.map Prod.snd = tree.callSites ∧
      (located.map Prod.fst).Pairwise (· < ·) ∧
      ∀ way site, (way, site) ∈ located ↔ ∃ node, tree.at? way = some node ∧ node.Imports site :=
  ⟨tree.located, map_snd_located tree, ascending_located tree, mem_located tree⟩

end Node

end ModuleBundler.Script
