import ModuleBundler.Proofs.Script.CallSite
import ModuleBundler.Proofs.Script.Laid

/-!
The names and strings of the call sites in a tree that is laid out in a text: they are not empty, and none of
them lies on top of another one, however the calls are nested.
-/

namespace ModuleBundler.Script

variable {source : List Char}

/-- The stretches of a call site that say what is called and what it is given: the callee, and the string if
there is a single one. -/
def CallSite.spans (site : CallSite) : List Span :=
  match site.argument with
  | .text _ span => [site.callee, span]
  | _ => [site.callee]

/-- Of two stretches one ends before the other starts. -/
def Span.Apart (one other : Span) : Prop :=
  one.stop ≤ other.start ∨ other.stop ≤ one.start

/-- Stretches between two offsets, none of them empty and none on top of another, that start and end between
characters. -/
structure Scattered (source : List Char) (low high : Nat) (spans : List Span) : Prop where
  filled : ∀ span ∈ spans, span.start < span.stop
  seams : ∀ span ∈ spans, IsSeam source span.start ∧ IsSeam source span.stop
  between : ∀ span ∈ spans, low ≤ span.start ∧ span.stop ≤ high
  apart : spans.Pairwise Span.Apart

namespace Scattered

variable {low high : Nat} {spans fewer : List Span}

theorem nil : Scattered source low high [] :=
  ⟨nofun, nofun, nofun, .nil⟩

theorem sublist (scattered : Scattered source low high spans) (less : fewer.Sublist spans) :
    Scattered source low high fewer where
  filled span member := scattered.filled span (less.subset member)
  seams span member := scattered.seams span (less.subset member)
  between span member := scattered.between span (less.subset member)
  apart := scattered.apart.sublist less

theorem cons {span : Span} (scattered : Scattered source low high spans) (filled : span.start < span.stop)
    (seams : IsSeam source span.start ∧ IsSeam source span.stop) (before : span.stop ≤ low) :
    Scattered source span.start (span.stop + high) (span :: spans) where
  filled := List.forall_mem_cons.2 ⟨filled, scattered.filled⟩
  seams := List.forall_mem_cons.2 ⟨seams, scattered.seams⟩
  between := by
    refine List.forall_mem_cons.2 ⟨⟨Nat.le_refl _, Nat.le_add_right _ _⟩, fun other member => ?_⟩
    have between := scattered.between other member
    omega
  apart := List.pairwise_cons.2 ⟨fun other member =>
    .inl (Nat.le_trans before (scattered.between other member).1), scattered.apart⟩

/-- What is scattered over nodes that are laid out beside each other is scattered over all of them. -/
theorem flatMap {nodes : List Node} {marks : Node → List Span}
    (each : ∀ node ∈ nodes, Scattered source node.span.start node.span.stop (marks node))
    (absent : ∀ node ∈ nodes, node.shape = .absent → marks node = [])
    (inside : ∀ node ∈ nodes, node.Between low high) (apart : nodes.Pairwise Node.Apart) :
    Scattered source low high (nodes.flatMap marks) where
  filled span member := by
    obtain ⟨node, there, marked⟩ := List.mem_flatMap.1 member
    exact (each node there).filled span marked
  seams span member := by
    obtain ⟨node, there, marked⟩ := List.mem_flatMap.1 member
    exact (each node there).seams span marked
  between span member := by
    obtain ⟨node, there, marked⟩ := List.mem_flatMap.1 member
    obtain ⟨start, stop⟩ := (each node there).between span marked
    rcases inside node there with gone | ⟨first, last⟩
    · rw [absent node there gone] at marked
      cases marked
    · exact ⟨Nat.le_trans first start, Nat.le_trans stop last⟩
  apart := by
    refine List.pairwise_flatMap.2 ⟨fun node there => (each node there).apart, ?_⟩
    refine apart.imp_of_mem fun {one other} front back separate first marked second other_marked => ?_
    have one_between := (each one front).between first marked
    have other_between := (each other back).between second other_marked
    rcases separate with gone | gone | before | behind
    · rw [absent one front gone] at marked
      cases marked
    · rw [absent other back gone] at other_marked
      cases other_marked
    · exact .inl (by omega)
    · exact .inr (by omega)

end Scattered

namespace Node

def siteSpans (node : Node) : List Span :=
  node.callSites.flatMap CallSite.spans

theorem allCallSites_eq_flatMap (nodes : List Node) : allCallSites nodes = nodes.flatMap callSites := by
  induction nodes with
  | nil => rfl
  | cons part others ih => rw [allCallSites, ih, List.flatMap_cons]

def marks (node : Node) : List Span :=
  match node.shape with
  | .identifier _ | .text _ => [node.span]
  | _ => node.siteSpans

theorem siteSpans_of_isBare {shape : Shape} {span : Span} (bare : shape.isBare = true) :
    siteSpans (mk shape span []) = [] := by
  cases shape with
  | absent | identifier _ | text _ => rfl
  | _ => cases bare

theorem marks_of_composed {shape : Shape} {span : Span} {parts : List Node}
    (composed : shape.isBare = false) : marks (mk shape span parts) = siteSpans (mk shape span parts) := by
  cases shape with
  | absent | identifier _ | text _ => cases composed
  | _ => rfl

theorem Laid.siteSpans_sublist_marks {node : Node} (laid : node.Laid source) :
    node.siteSpans.Sublist node.marks := by
  cases laid with
  | absent span => exact .refl _
  | bare kind =>
    rw [siteSpans_of_isBare kind]
    exact List.nil_sublist _
  | composed kind =>
    exact marks_of_composed kind ▸ .refl _

theorem flatMap_siteSpans_sublist {nodes : List Node} (laid : ∀ node ∈ nodes, node.Laid source) :
    (nodes.flatMap siteSpans).Sublist (nodes.flatMap marks) := by
  induction nodes with
  | nil => exact .refl _
  | cons node nodes ih =>
    obtain ⟨first, rest⟩ := List.forall_mem_cons.1 laid
    rw [List.flatMap_cons, List.flatMap_cons]
    exact first.siteSpans_sublist_marks.append (ih rest)

theorem Laid.parts_eq_nil {shape : Shape} {span : Span} {parts : List Node}
    (laid : Laid source (mk shape span parts)) (bare : shape.isBare = true) : parts = [] := by
  cases laid with
  | absent | bare => rfl
  | composed kind => cases kind.symm.trans bare

/-- What a call site is rewritten at lies in its callee and its arguments, and not in those of the call sites
inside of them. -/
theorem siteSpans_sublist {shape : Shape} {span : Span} {parts : List Node}
    (laid : ∀ part ∈ parts, part.Laid source) :
    (siteSpans (mk shape span parts)).Sublist (parts.flatMap marks) := by
  rw [siteSpans, callSites, List.flatMap_append, allCallSites_eq_flatMap, List.flatMap_assoc]
  cases own : ownCallSite? (mk shape span parts) with
  | none => exact flatMap_siteSpans_sublist laid
  | some site =>
    obtain ⟨given⟩ := ownCallSite?_eq_some.1 own
    rename_i callee inner arguments argument
    obtain ⟨first, rest⟩ := List.forall_mem_cons.1 laid
    obtain rfl := first.parts_eq_nil rfl
    have below := flatMap_siteSpans_sublist rest
    cases given with
    | missing => exact .refl _
    | text value literal parts =>
      obtain rfl := (rest _ (.head _)).parts_eq_nil rfl
      exact .refl _
    | other | several => exact below.cons_cons callee

theorem Laid.scattered_marks {node : Node} (laid : node.Laid source)
    (scattered : Scattered source node.span.start node.span.stop node.siteSpans) :
    Scattered source node.span.start node.span.stop node.marks := by
  cases laid with
  | absent span => exact scattered
  | @bare shape span kind starts stops filled =>
    have single : Scattered source span.start span.stop [span] :=
      ⟨by simpa using filled, by simpa using ⟨starts, stops⟩, by simp, List.pairwise_singleton _ _⟩
    cases shape with
    | absent => exact scattered
    | identifier _ | text _ => exact single
    | _ => cases kind
  | composed kind => rwa [marks_of_composed kind]

/-- The call sites in a node are scattered over its parts, and lie where those do. -/
theorem scattered_of_parts {shape : Shape} {span : Span} {parts : List Node} {low high : Nat}
    (laid : ∀ part ∈ parts, part.Laid source)
    (scattered : ∀ part ∈ parts, Scattered source part.span.start part.span.stop part.siteSpans)
    (inside : ∀ part ∈ parts, part.Between low high) (apart : parts.Pairwise Apart) :
    Scattered source low high (siteSpans (mk shape span parts)) := by
  refine Scattered.sublist ?_ (siteSpans_sublist laid)
  refine .flatMap (fun part member => ?_) (fun part member gone => ?_) inside apart
  · exact (laid part member).scattered_marks (scattered part member)
  · cases laid part member with
    | absent => rfl
    | bare =>
      cases gone
      rfl
    | composed kind =>
      cases gone
      cases kind

theorem Laid.scattered {node : Node} (laid : node.Laid source) :
    Scattered source node.span.start node.span.stop node.siteSpans := by
  induction laid with
  | absent span => exact .nil
  | bare kind =>
    rw [siteSpans_of_isBare kind]
    exact .nil
  | composed kind starts stops opens laid inside apart ih => exact scattered_of_parts laid ih inside apart

end Node

end ModuleBundler.Script
