import Mathlib.Data.List.Forall2
import ModuleBundler.Proofs.Script.Laid

/-!
An expression that is read as the target of an assignment keeps its place: every part of the target covers
the stretch of the part of the expression that it was made from.
-/

namespace ModuleBundler.Script

variable {source : List Char}

namespace Node

structure Replaces (source : List Char) (old new : Node) : Prop where
  laid : new.Laid source
  span : new.span = old.span
  absent : old.shape = .absent → new.shape = .absent

theorem Laid.replaces {node : Node} (laid : node.Laid source) : Replaces source node node :=
  ⟨laid, rfl, id⟩

namespace Replaces

variable {old new one other : Node} {low high : Nat}

theorem between (replaces : Replaces source old new) (between : old.Between low high) :
    new.Between low high := by
  unfold Between
  rw [replaces.span]
  exact between.imp_left replaces.absent

theorem apart (replaces : Replaces source old new) (others : Replaces source one other)
    (apart : old.Apart one) : new.Apart other := by
  unfold Apart
  rw [replaces.span, others.span]
  exact apart.imp replaces.absent (Or.imp_left others.absent)

theorem forall_mem {olds news : List Node} (all : List.Forall₂ (Replaces source) olds news) {node : Node}
    (member : node ∈ news) : ∃ former ∈ olds, Replaces source former node := by
  induction all with
  | nil => cases member
  | cons first _ ih =>
    rcases List.mem_cons.1 member with rfl | member
    · exact ⟨_, .head _, first⟩
    · obtain ⟨former, there, replaces⟩ := ih member
      exact ⟨former, .tail _ there, replaces⟩

theorem pairwise {olds news : List Node} (all : List.Forall₂ (Replaces source) olds news)
    (apart : olds.Pairwise Apart) : news.Pairwise Apart := by
  induction all with
  | nil => exact .nil
  | cons first rest ih =>
    obtain ⟨front, behind⟩ := List.pairwise_cons.1 apart
    refine List.pairwise_cons.2 ⟨fun node member => ?_, ih behind⟩
    obtain ⟨former, there, replaces⟩ := forall_mem rest member
    exact first.apart replaces (front former there)

end Replaces

/-- A node may get another shape, and others in the places of its parts. -/
theorem Laid.reshape {shape other : Shape} {span : Span} {parts others : List Node}
    (laid : Laid source (mk shape span parts)) (composed : shape.isBare = false)
    (all : List.Forall₂ (Replaces source) parts others) (plain : other.isBare = false)
    (silent : other.declares? = none) :
    Replaces source (mk shape span parts) (mk other span others) := by
  cases laid with
  | absent => cases composed
  | bare kind => exact absurd (composed.symm.trans kind) nofun
  | composed _ starts stops _ inner inside apart =>
    refine ⟨.composed plain starts stops (by rw [silent]; nofun) (fun part member => ?_)
      (fun part member => ?_) (Replaces.pairwise all apart), rfl, fun absent => ?_⟩
    · obtain ⟨_, _, replaces⟩ := Replaces.forall_mem all member
      exact replaces.laid
    · obtain ⟨former, there, replaces⟩ := Replaces.forall_mem all member
      exact replaces.between (inside former there)
    · cases absent
      cases composed

theorem Laid.parts {shape : Shape} {span : Span} {parts : List Node}
    (laid : Laid source (mk shape span parts)) : ∀ part ∈ parts, part.Laid source := by
  cases laid with
  | absent => nofun
  | bare => nofun
  | composed _ _ _ _ inner _ _ => exact inner

theorem Laid.bound {node : Node} {name : String} (laid : node.Laid source)
    (named : node.shape = .identifier name) : Replaces source node (mk (.binding name) node.span []) := by
  cases laid with
  | absent => cases named
  | bare _ starts stops filled =>
    cases named
    exact ⟨.composed rfl starts stops nofun nofun nofun .nil, rfl, nofun⟩
  | composed kind =>
    cases named
    cases kind

theorem Laid.retitle {shape : Shape} {span : Span} {parts : List Node}
    (laid : Laid source (mk shape span parts)) (other : Shape) (composed : shape.isBare = false)
    (plain : other.isBare = false) (silent : other.declares? = none) :
    Replaces source (mk shape span parts) (mk other span parts) :=
  laid.reshape composed (List.forall₂_same.2 fun part member => (laid.parts part member).replaces) plain
    silent

theorem forall₂_of_read {old new : Node} {others targets : List Node} {answer : Option (List Node)}
    (read : targets ∈ answer.bind fun behind => some (new :: behind)) (replaces : Replaces source old new)
    (all : ∀ behind ∈ answer, List.Forall₂ (Replaces source) others behind) :
    List.Forall₂ (Replaces source) (old :: others) targets := by
  obtain ⟨behind, found, put⟩ := Option.bind_eq_some_iff.1 read
  cases put
  exact .cons replaces (all behind found)

theorem spread_target {trailing : Bool} {span : Span} {inner target : Node} {others : List Node}
    (last : ¬(trailing || !others.isEmpty) = true)
    (laid : ∀ node ∈ mk .spread span [inner] :: others, node.Laid source)
    (replaces : inner.Laid source → Replaces source inner target) :
    List.Forall₂ (Replaces source) (mk .spread span [inner] :: others) [mk .rest span [target]] := by
  obtain rfl : others = [] := by simp_all
  have first := laid _ (.head _)
  have inside := replaces (first.parts inner (.head _))
  exact .cons (first.reshape rfl (.cons inside .nil) rfl rfl) .nil

/-- A target is laid out where the expression was, part for part. -/
theorem Laid.target {node : Node} (laid : node.Laid source) :
    ∀ target ∈ node.target?, Replaces source node target := by
  revert laid
  refine Node.target?.induct
    (fun node => node.Laid source → ∀ target ∈ node.target?, Replaces source node target)
    (fun trailing nodes => (∀ node ∈ nodes, node.Laid source) →
      ∀ targets ∈ propertyTargets? trailing nodes, List.Forall₂ (Replaces source) nodes targets)
    (fun trailing nodes => (∀ node ∈ nodes, node.Laid source) →
      ∀ targets ∈ elementTargets? trailing nodes, List.Forall₂ (Replaces source) nodes targets)
    ?array ?object ?simple ?none ?noProperties ?spreadEarly ?spread ?defaulted ?property ?shorthand
    ?shorthandDefault ?noProperty ?noElements ?elementSpreadEarly ?elementSpread ?gap ?elementDefaulted
    ?element node
  case array =>
    intro trailing span parts ih laid target read
    simp only [target?, Option.mem_def, Option.map_eq_some_iff] at read
    obtain ⟨targets, found, rfl⟩ := read
    exact laid.reshape rfl (ih laid.parts targets found) rfl rfl
  case object =>
    intro trailing span parts ih laid target read
    simp only [target?, Option.mem_def, Option.map_eq_some_iff] at read
    obtain ⟨targets, found, rfl⟩ := read
    exact laid.reshape rfl (ih laid.parts targets found) rfl rfl
  case simple =>
    intro node noArray noObject simple laid target read
    rw [target?.eq_3 node noArray noObject, if_pos simple] at read
    cases read
    exact laid.replaces
  case none =>
    intro node noArray noObject simple laid target read
    rw [target?.eq_3 node noArray noObject, if_neg simple] at read
    cases read
  case noProperties =>
    intro trailing laid targets read
    cases read
    exact .nil
  case spreadEarly =>
    intro trailing span inner others early laid targets read
    rw [propertyTargets?, if_pos early] at read
    cases read
  case spread =>
    intro trailing span inner others early ih laid targets read
    rw [propertyTargets?, if_neg early] at read
    obtain ⟨target, found, put⟩ := Option.bind_eq_some_iff.1 read
    cases put
    exact spread_target early laid fun laid => ih laid target found
  case defaulted =>
    intro trailing span key valueSpan parts others ih laid targets read
    rw [propertyTargets?] at read
    obtain ⟨first, rest⟩ := List.forall_mem_cons.1 laid
    obtain ⟨keyLaid, valueLaid⟩ := List.forall_mem_cons.1 first.parts
    have value := (valueLaid _ (.head _)).retitle .defaulted rfl rfl rfl
    exact forall₂_of_read read (first.reshape rfl (.cons keyLaid.replaces (.cons value .nil)) rfl rfl)
      (ih rest)
  case property =>
    intro trailing span key value others plain ih ihOthers laid targets read
    rw [propertyTargets?.eq_4 _ _ _ _ _ plain] at read
    obtain ⟨target, found, more⟩ := Option.bind_eq_some_iff.1 read
    obtain ⟨first, rest⟩ := List.forall_mem_cons.1 laid
    obtain ⟨keyLaid, valueLaid⟩ := List.forall_mem_cons.1 first.parts
    have value := ih (valueLaid _ (.head _)) target found
    exact forall₂_of_read more (first.reshape rfl (.cons keyLaid.replaces (.cons value .nil)) rfl rfl)
      (ihOthers rest)
  case shorthand =>
    intro trailing span name others ih laid targets read
    rw [propertyTargets?] at read
    obtain ⟨first, rest⟩ := List.forall_mem_cons.1 laid
    exact forall₂_of_read read (first.retitle _ rfl rfl rfl) (ih rest)
  case shorthandDefault =>
    intro trailing span name value others ih laid targets read
    rw [propertyTargets?] at read
    obtain ⟨first, rest⟩ := List.forall_mem_cons.1 laid
    have inner := first.retitle .defaulted rfl rfl rfl
    exact forall₂_of_read read ⟨inner.laid.enclose nofun rfl rfl, rfl, nofun⟩ (ih rest)
  case noProperty =>
    intro nodes trailing nil spread defaulted property shorthand shorthandDefault laid targets read
    rw [propertyTargets?.eq_7 _ _ nil spread defaulted property shorthand shorthandDefault] at read
    cases read
  case noElements =>
    intro trailing laid targets read
    cases read
    exact .nil
  case elementSpreadEarly =>
    intro trailing span inner others early laid targets read
    rw [elementTargets?, if_pos early] at read
    cases read
  case elementSpread =>
    intro trailing span inner others early ih laid targets read
    rw [elementTargets?, if_neg early] at read
    obtain ⟨target, found, put⟩ := Option.bind_eq_some_iff.1 read
    cases put
    exact spread_target early laid fun laid => ih laid target found
  case gap =>
    intro trailing span parts others ih laid targets read
    rw [elementTargets?] at read
    obtain ⟨first, rest⟩ := List.forall_mem_cons.1 laid
    exact forall₂_of_read read first.replaces (ih rest)
  case elementDefaulted =>
    intro trailing span parts others ih laid targets read
    rw [elementTargets?] at read
    obtain ⟨first, rest⟩ := List.forall_mem_cons.1 laid
    exact forall₂_of_read read (first.retitle _ rfl rfl rfl) (ih rest)
  case element =>
    intro trailing element others spread gap defaulted ih ihOthers laid targets read
    rw [elementTargets?.eq_5 _ _ _ spread gap defaulted] at read
    obtain ⟨target, found, more⟩ := Option.bind_eq_some_iff.1 read
    obtain ⟨first, rest⟩ := List.forall_mem_cons.1 laid
    exact forall₂_of_read more (ih first target found) (ihOthers rest)

end Node

theorem Extends.replace {α : Type} {start : Nat} {old new : Node} {nodes : α → List Node}
    {reading : Reading α} (extend : Extends source start [new] nodes reading)
    (replaces : old.Laid source → Node.Replaces source old new) :
    Extends source start [old] nodes reading := by
  intro cursor frame found after ended
  have stands := replaces (frame.beside.laid old (.head _))
  exact extend (frame.exchange (.single stands.laid
    (stands.between (frame.beside.between old (.head _))))) ended

end ModuleBundler.Script
