import ModuleBundler.Proofs.Import.Extract
import ModuleBundler.Proofs.Script.Program
import ModuleBundler.Proofs.Script.SiteSpan

/-!
What an extraction does to the source of a module. The stretches that it rewrites lie in the source and apart
from each other, because they come from its tree, so that they can all be replaced.
-/

namespace ModuleBundler.Import

open Script (CallSite Scattered IsSeam Span)
open Text (byteSize byteSize_append)
open Text.Edit (Spliced)

variable {source : List Char}

def editSpan (edit : Text.Edit) : Span :=
  ⟨edit.start, edit.stop⟩

theorem within_of_seams {edit : Text.Edit} (starts : IsSeam source edit.start)
    (stops : IsSeam source edit.stop) (ordered : edit.start ≤ edit.stop) : edit.Within source := by
  obtain ⟨back, front, text, start⟩ := starts
  obtain ⟨rest, before, same, stop⟩ := stops
  dsimp only at text start same stop
  obtain ⟨replaced, rfl, rfl⟩ := Text.exists_of_byteSize_le (text.symm.trans same) (by omega)
  rw [byteSize_append] at stop
  exact ⟨front, replaced, rest, text, by omega, by omega⟩

theorem disjoint_of_spans {one other : Text.Edit} (apart : (editSpan one).Apart (editSpan other)) :
    one.Disjoint other := by
  rintro byte ⟨first, second⟩
  simp only [Span.Apart, editSpan] at apart
  omega

theorem within_and_disjoint {low high : Nat} {edits : List Text.Edit}
    (scattered : Scattered source low high (edits.map editSpan)) :
    (∀ edit ∈ edits, edit.Within source) ∧ edits.Pairwise Text.Edit.Disjoint ∧
      edits.Pairwise Text.Edit.Clear := by
  have filled (edit : Text.Edit) (member : edit ∈ edits) : edit.start < edit.stop :=
    scattered.filled (editSpan edit) (List.mem_map_of_mem member)
  refine ⟨fun edit member => ?_, (List.pairwise_map.1 scattered.apart).imp disjoint_of_spans, ?_⟩
  · obtain ⟨starts, stops⟩ := scattered.seams (editSpan edit) (List.mem_map_of_mem member)
    exact within_of_seams starts stops (Nat.le_of_lt (filled edit member))
  · exact List.pairwise_iff_forall_sublist.2 fun {one other} pair =>
      Text.Edit.clear_of_filled (filled one (pair.subset List.mem_cons_self))
        (filled other (pair.subset (.tail _ List.mem_cons_self)))

variable {σ : Type} {around : Surroundings σ} {module : Path} {start final : σ}

/-- Imports are resolved at all call sites, each of which names what it imports. -/
theorem sites_of_resolveSites {sites : List CallSite} {found : List Resolved}
    (resolved : resolveSites around module source sites start = .ok found final) :
    found.map Resolved.site = sites ∧
      ∀ one ∈ found, ∃ request, one.site.argument = .text request one.argument := by
  induction sites generalizing start found with
  | nil =>
    obtain ⟨rfl, -⟩ := pure_eq_ok.1 resolved
    exact ⟨rfl, nofun⟩
  | cons site sites ih =>
    unfold resolveSites at resolved
    obtain ⟨first, middle, head, remaining⟩ := bind_eq_ok.1 resolved
    obtain ⟨others, _, tail, ending⟩ := bind_eq_ok.1 remaining
    obtain ⟨rfl, rfl⟩ := pure_eq_ok.1 ending
    obtain ⟨request, argument, given, rfl, rfl, -⟩ := resolveSite_eq_ok head
    obtain ⟨rfl, behind⟩ := ih tail
    exact ⟨rfl, List.forall_mem_cons.2 ⟨⟨request, given⟩, behind⟩⟩

theorem map_editSpan_edits {found : List Resolved}
    (named : ∀ one ∈ found, ∃ request, one.site.argument = .text request one.argument) :
    (found.flatMap Resolved.edits).map editSpan = (found.map Resolved.site).flatMap CallSite.spans := by
  rw [List.map_flatMap, List.flatMap_map]
  refine List.flatMap_congr fun one member => ?_
  obtain ⟨request, given⟩ := named one member
  rw [CallSite.spans, given]
  rfl

/-- What an extraction rewrites is scattered over the source. -/
theorem scattered_of_readFrom {program : Script.Node} (readFrom : program.ReadFrom source)
    {found : List Resolved}
    (sites : found.map Resolved.site = program.callSites)
    (named : ∀ one ∈ found, ∃ request, one.site.argument = .text request one.argument) :
    ∃ low high, Scattered source low high
      ((interpreterEdits program ++ found.flatMap Resolved.edits).map editSpan) := by
  rw [List.map_append, map_editSpan_edits named, sites]
  unfold interpreterEdits
  split
  · rename_i line headed
    obtain ⟨marked, long, behind⟩ := readFrom.headed line headed
    obtain ⟨shape, span, parts⟩ := program
    cases headed
    cases readFrom.laid with
    | bare kind => cases kind
    | composed _ _ _ _ laid _ apart =>
      have scattered : Scattered source line.stop span.stop
          (Script.Node.siteSpans (.mk (.program (some line)) span parts)) :=
        Script.Node.scattered_of_parts laid (fun part member => (laid part member).scattered) behind apart
      exact ⟨_, _, scattered.cons (Nat.lt_add_of_pos_right (by decide)) marked.isSeam long⟩
  · exact ⟨_, _, readFrom.laid.scattered⟩

/-- The edits of an extraction can always be made: they replace the name and the string of every import, and
the sign in front of the name of an interpreter, and keep everything else. -/
theorem exists_extracted {text : String} {program : Script.Node} {found : List Resolved}
    (parsed : Script.Node.ofText? text = .ok program)
    (resolved : resolveSites around module text.toList program.callSites start = .ok found final) :
    ∃ result ordered,
      extract around text module start =
        .ok ⟨String.ofList result, distinct [] (found.map Resolved.dependency)⟩ final ∧
      ordered.Perm (interpreterEdits program ++ found.flatMap Resolved.edits) ∧
      Spliced 0 ordered text.toList result := by
  obtain ⟨sites, named⟩ := sites_of_resolveSites resolved
  obtain ⟨_, _, scattered⟩ :=
    scattered_of_readFrom (Script.readFrom_of_ofText? parsed) sites named
  obtain ⟨within, disjoint, clear⟩ := within_and_disjoint scattered
  obtain ⟨result, ordered, made, shuffled, spliced⟩ :=
    Text.Edit.exists_applyAll? within disjoint clear
  refine ⟨result, ordered, ?_, shuffled, spliced⟩
  unfold extract
  rw [parsed]
  refine bind_eq_ok.2 ⟨found, final, resolved, ?_⟩
  simp only [made]
  rfl

/-- Disjoint stretches of a text can be replaced in whatever order they are listed, and all of them are at once,
unless an empty one lies in another one, or at the start of one that is listed behind it. What an extraction
replaces is such: of every import the callee and the string, and the sign that marks the line of an interpreter.
Everything else is kept, which is the whole of a source that can be read and has none of them. -/
theorem edits_replaced_at_once :
    (∀ {text : List Char} {edits : List Text.Edit}, (∀ edit ∈ edits, edit.Within text) →
      edits.Pairwise Text.Edit.Disjoint → edits.Pairwise Text.Edit.Clear →
        ∃ result ordered, Text.Edit.applyAll? edits text = some result ∧ ordered.Perm edits ∧
          Spliced 0 ordered text result) ∧
      ∀ {σ : Type} (around : Surroundings σ) (module : Path) (start : σ) {text : String}
        {program : Script.Node}, Script.Node.ofText? text = .ok program →
          (∀ {found : List Resolved} {final : σ},
            resolveSites around module text.toList program.callSites start = .ok found final →
              ∃ result ordered,
                extract around text module start =
                  .ok ⟨String.ofList result, distinct [] (found.map Resolved.dependency)⟩ final ∧
                ordered.Perm (interpreterEdits program ++ found.flatMap Resolved.edits) ∧
                Spliced 0 ordered text.toList result) ∧
            (program.callSites = [] → program.shape = .program none →
              extract around text module start = .ok ⟨text, []⟩ start) := by
  refine ⟨Text.Edit.exists_applyAll?, fun around module start text program parsed =>
    ⟨fun resolved => exists_extracted parsed resolved, fun silent bare => ?_⟩⟩
  have resolved : resolveSites around module text.toList program.callSites start = .ok [] start := by
    rw [silent]
    rfl
  obtain ⟨result, ordered, extracted, shuffled, spliced⟩ := exists_extracted parsed resolved
  have none : interpreterEdits program ++ [].flatMap Resolved.edits = [] := by
    simp [interpreterEdits, bare]
  rw [none] at shuffled
  obtain rfl := shuffled.eq_nil
  cases spliced
  rw [extracted, String.ofList_toList]
  rfl

/-- Surroundings in which every import is claimed as external. -/
def claiming {σ : Type} : Surroundings σ where
  disk := .empty
  resolver := .new ⟨"/"⟩ []
  hooks :=
    { requireCall := .new "requireCall"
      factorize := (Hook.new "factorize").tap "claims" fun data => return some ⟨data.request⟩ }

/-- A line that names an interpreter, and two imports, one of them inside of another call. -/
def markedSource : String := "#!é\nrequire('ñ') + f(require('b'))"

def resolvedIds? (text : String) : Option (List String) :=
  match Script.Node.ofText? text with
  | .ok program =>
    match resolveSites claiming ⟨"/index.js"⟩ text.toList program.callSites () with
    | .ok found _ => some (found.map (·.dependency.id))
    | .error _ _ => none
  | .error _ => none

theorem marked_replaced :
    (∃ result ordered,
      Text.Edit.applyAll? [⟨3, 4, ['x', 'y']⟩, ⟨1, 3, []⟩, ⟨1, 1, ['z']⟩] ['a', 'ñ', 'b'] = some result ∧
        ordered.Perm [⟨3, 4, ['x', 'y']⟩, ⟨1, 3, []⟩, ⟨1, 1, ['z']⟩] ∧
        Spliced 0 ordered ['a', 'ñ', 'b'] result) ∧
      (∃ (program : Script.Node) (found : List Resolved) (result : List Char)
        (ordered : List Text.Edit), Script.Node.ofText? markedSource = .ok program ∧
          found.map (·.dependency.id) = [externalId "ñ", externalId "b"] ∧
          extract claiming markedSource ⟨"/index.js"⟩ () =
            .ok ⟨String.ofList result, distinct [] (found.map Resolved.dependency)⟩ () ∧
          ordered.Perm (interpreterEdits program ++ found.flatMap Resolved.edits) ∧
          Spliced 0 ordered markedSource.toList result) ∧
      extract claiming "1 + 1" ⟨"/index.js"⟩ () = .ok ⟨"1 + 1", []⟩ () := by
  refine ⟨edits_replaced_at_once.1 ?_ ?_ ?_, ?_, ?_⟩
  · refine List.forall_mem_cons.2 ⟨⟨['a', 'ñ'], ['b'], [], ?_⟩, List.forall_mem_cons.2
      ⟨⟨['a'], ['ñ'], ['b'], ?_⟩, List.forall_mem_singleton.2 ⟨['a'], [], ['ñ', 'b'], ?_⟩⟩⟩
    · decide
    · decide
    · decide
  · refine .cons (List.forall_mem_cons.2 ⟨?_, List.forall_mem_singleton.2 ?_⟩) (List.pairwise_pair.2 ?_)
    all_goals
      rintro byte ⟨first, second⟩
      dsimp only at first second
      omega
  · refine .cons (List.forall_mem_cons.2 ⟨?_, List.forall_mem_singleton.2 ?_⟩) (List.pairwise_pair.2 ?_)
    all_goals exact ⟨by decide, by decide⟩
  · have answered : resolvedIds? markedSource = some [externalId "ñ", externalId "b"] := by
      decide +kernel
    unfold resolvedIds? at answered
    split at answered
    · rename_i program parsed
      split at answered
      · rename_i found _ resolved
        obtain ⟨result, ordered, others⟩ :=
          (edits_replaced_at_once.2 claiming ⟨"/index.js"⟩ () parsed).1 resolved
        exact ⟨program, found, result, ordered, parsed, Option.some.inj answered, others⟩
      · cases answered
    · cases answered
  · have bare : (Script.Node.ofText? "1 + 1").toOption.map
        (fun program => (program.callSites, program.shape)) = some ([], .program none) := by
      decide +kernel
    cases parsed : Script.Node.ofText? "1 + 1" with
    | error fault =>
      rw [parsed] at bare
      cases bare
    | ok program =>
      rw [parsed] at bare
      obtain ⟨silent, unmarked⟩ := Prod.mk.inj (Option.some.inj bare)
      exact (edits_replaced_at_once.2 claiming ⟨"/index.js"⟩ () parsed).2 silent unmarked

/-- What has been put at an empty stretch may be replaced by the next edit, which does not find a seam where it
ends. A source that cannot be read is not given back, whether it has imports or not. -/
theorem empty_span_in_the_way :
    ((∀ edit ∈ [⟨1, 1, ['é']⟩, ⟨1, 2, ['x']⟩], Text.Edit.Within ['a', 'b', 'c'] edit) ∧
      [⟨1, 1, ['é']⟩, ⟨1, 2, ['x']⟩].Pairwise Text.Edit.Disjoint ∧
      Text.Edit.applyAll? [⟨1, 1, ['é']⟩, ⟨1, 2, ['x']⟩] ['a', 'b', 'c'] = none) ∧
    ¬"require".toList <:+: "var = ;".toList ∧ ¬"#!".toList <+: "var = ;".toList ∧
      ∀ extracted final, extract claiming "var = ;" ⟨"/index.js"⟩ () ≠ .ok extracted final := by
  refine ⟨⟨?_, ?_, by decide⟩, by decide +kernel, by decide +kernel, fun extracted final succeeded => ?_⟩
  · exact List.forall_mem_cons.2 ⟨⟨['a'], [], ['b', 'c'], by decide⟩,
      List.forall_mem_singleton.2 ⟨['a'], ['b'], ['c'], by decide⟩⟩
  · refine List.pairwise_pair.2 ?_
    rintro byte ⟨first, second⟩
    dsimp only at first second
    omega
  · have unread : (Script.Node.ofText? "var = ;").isOk = false := by decide +kernel
    unfold extract at succeeded
    cases parsed : Script.Node.ofText? "var = ;" with
    | ok program =>
      rw [parsed] at unread
      cases unread
    | error fault =>
      rw [parsed] at succeeded
      cases succeeded

end ModuleBundler.Import
