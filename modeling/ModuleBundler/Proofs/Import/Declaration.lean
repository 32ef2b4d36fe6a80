import ModuleBundler.Proofs.Import.Rewrite
import ModuleBundler.Proofs.Script.Declaration

/-!
Modules that declare imports and exports. They are accepted like any other one, and what they declare is
still declared by what becomes of them.
-/

namespace ModuleBundler.Import

open Script (IsSeam Span Spells)
open Text (byteSize byteSize_append)
open Text.Edit (Spliced Keeps)

variable {source : List Char} {σ : Type} {around : Surroundings σ} {module : Path} {start final : σ}

/-- The characters of a stretch are kept. -/
def KeepsSpan (edits : List Text.Edit) (text result : List Char) (span : Span) : Prop :=
  ∃ kept, span.stop = span.start + byteSize kept ∧ Keeps edits text result span.start kept

theorem keepsSpan_of_apart {edits : List Text.Edit} {result : List Char} {span : Span}
    (starts : IsSeam source span.start) (stops : IsSeam source span.stop)
    (filled : span.start < span.stop) (spliced : Spliced 0 edits source result)
    (apart : ∀ edit ∈ edits, (editSpan edit).Apart span) : KeepsSpan edits source result span := by
  have within : (⟨span.start, span.stop, []⟩ : Text.Edit).Within source :=
    within_of_seams starts stops (Nat.le_of_lt filled)
  obtain ⟨front, kept, back, rfl, start, stop⟩ := within
  dsimp only at start stop
  refine ⟨kept, stop, start ▸ spliced.keeps fun edit member => ?_⟩
  have apart : edit.stop ≤ span.start ∨ span.stop ≤ edit.start := apart edit member
  omega

theorem keeps_of_spells {edits : List Text.Edit} {result : List Char} {offset : Nat} {word : String}
    (spelled : Spells source offset word) (spliced : Spliced 0 edits source result)
    (apart : ∀ edit ∈ edits, (editSpan edit).Apart (Script.Node.keyword offset word).span) :
    Keeps edits source result offset word.toList := by
  obtain ⟨_, ⟨front, rfl, size⟩, back, rfl⟩ := spelled
  obtain rfl : offset = byteSize front := size.trans (Nat.zero_add _)
  exact spliced.keeps apart

/-- The line that names an interpreter stands in front of every declaration. -/
theorem mark_le_of_at? {program : Script.Node} (readFrom : program.ReadFrom source) {line : Span}
    (headed : program.shape = .program (some line)) {way : List Nat} {node : Script.Node}
    (there : program.at? way = some node) {word : String} (declares : node.shape.declares? = some word) :
    line.start + 2 ≤ node.span.start := by
  obtain ⟨-, long, behind⟩ := readFrom.headed line headed
  cases way with
  | nil =>
    cases there
    rw [headed] at declares
    cases declares
  | cons index way =>
    obtain ⟨part, taken, further⟩ := Option.bind_eq_some_iff.1 there
    have member := List.mem_of_getElem? taken
    have composed := (Script.Node.of_declares? declares node.span node.parts).1
    obtain ⟨shape, span, parts⟩ := program
    have laid := readFrom.laid.parts part member
    obtain ⟨-, first, -⟩ := laid.of_at? further composed
    rcases behind part member with gone | ⟨start, -⟩
    · have present := laid.composed_of_at? further composed
      rw [gone] at present
      cases present
    · omega

/-- No edit of an extraction is about what a declaration of the tree says. -/
theorem edits_apart_declared {program : Script.Node} (readFrom : program.ReadFrom source)
    {found : List Resolved} (sites : found.map Resolved.site = program.callSites)
    (named : ∀ one ∈ found, ∃ request, one.site.argument = .text request one.argument)
    {way : List Nat} {node : Script.Node} (there : program.at? way = some node) {word : String}
    (declares : node.shape.declares? = some word) {span : Span} (declared : span ∈ node.declaredSpans) :
    ∀ edit ∈ interpreterEdits program ++ found.flatMap Resolved.edits, (editSpan edit).Apart span := by
  obtain ⟨-, ⟨inside, -⟩, apart⟩ := readFrom.laid.apart_declaredSpans there span declared
  intro edit member
  rcases List.mem_append.1 member with mark | rewritten
  · unfold interpreterEdits at mark
    split at mark
    · rename_i line headed
      obtain rfl := List.mem_singleton.1 mark
      exact .inl (Nat.le_trans (mark_le_of_at? readFrom headed there declares) inside)
    · cases mark
  · refine apart (editSpan edit) ?_
    rw [Script.Node.siteSpans, ← sites, ← map_editSpan_edits named]
    exact List.mem_map_of_mem rewritten

theorem infix_of_spells {offset : Nat} {word : String} (spelled : Spells source offset word) :
    word.toList <:+: source := by
  obtain ⟨_, ⟨front, text, -⟩, back, rfl⟩ := spelled
  exact ⟨front, back, (List.append_assoc ..).trans text.symm⟩

section Declarations

variable {text : String} {program : Script.Node} (parsed : Script.Node.ofText? text = .ok program)
include parsed

theorem extracts_iff : (∃ extracted, extract around text module start = .ok extracted final) ↔
    ∃ found, resolveSites around module text.toList program.callSites start = .ok found final := by
  constructor
  · rintro ⟨extracted, extraction⟩
    obtain ⟨_, found, _, same, resolved, -⟩ := extract_eq_ok extraction
    cases parsed.symm.trans same
    exact ⟨found, resolved⟩
  · rintro ⟨found, resolved⟩
    obtain ⟨result, ordered, extracted, -⟩ := exists_extracted parsed resolved
    exact ⟨_, extracted⟩

/-- A declaration is kept, if no edit is about what it says. -/
theorem keeps_declaration {edits : List Text.Edit} {result : List Char}
    (spliced : Spliced 0 edits text.toList result) {way : List Nat} {node : Script.Node} {word : String}
    (there : program.at? way = some node) (declares : node.shape.declares? = some word)
    (apart : ∀ span ∈ node.declaredSpans, ∀ edit ∈ edits, (editSpan edit).Apart span) :
    Keeps edits text.toList result node.span.start word.toList ∧
      ∀ span ∈ node.declaredSpans, KeepsSpan edits text.toList result span ∧
        ∀ site ∈ program.callSites, ∀ other ∈ site.spans, other.Apart span := by
  have laid := (Script.readFrom_of_ofText? parsed).laid
  constructor
  · exact keeps_of_spells (laid.spells_of_at? there declares) spliced
      (apart _ (Script.Node.keyword_mem_declaredSpans declares))
  · intro span declared
    obtain ⟨⟨starts, stops, filled⟩, -, separate⟩ := laid.apart_declaredSpans there span declared
    refine ⟨keepsSpan_of_apart starts stops filled spliced (apart span declared), ?_⟩
    exact fun site member other inside => separate other (List.mem_flatMap.2 ⟨site, member, inside⟩)

theorem declares_nothing (noImport : ¬"import".toList <:+: text.toList)
    (noExport : ¬"export".toList <:+: text.toList) {way : List Nat} {node : Script.Node}
    (there : program.at? way = some node) : node.shape.declares? = none := by
  refine Option.eq_none_iff_forall_ne_some.2 fun word declares => ?_
  have occurs := infix_of_spells ((Script.readFrom_of_ofText? parsed).laid.spells_of_at? there declares)
  rcases Script.Shape.word_of_declares? declares with rfl | rfl
  · exact noImport occurs
  · exact noExport occurs

/-- Whether a module declares imports or exports does not matter for its extraction, which succeeds just where
the call sites can be resolved. The dependencies are those of the call sites, which have nothing to do with
the strings of declarations. What becomes of the source holds every declaration still, with its word and its
strings. A source in which neither of the words occurs declares nothing. -/
theorem declarations_kept (around : Surroundings σ) (module : Path) (start : σ) :
    (∀ final, (∃ extracted, extract around text module start = .ok extracted final) ↔
      ∃ found, resolveSites around module text.toList program.callSites start = .ok found final) ∧
    (∀ extracted final, extract around text module start = .ok extracted final →
      ∃ (found : List Resolved) (ordered : List Text.Edit),
        found.map Resolved.site = program.callSites ∧
        extracted.dependencies = distinct [] (found.map Resolved.dependency) ∧
        ordered.Perm (interpreterEdits program ++ found.flatMap Resolved.edits) ∧
        Spliced 0 ordered text.toList extracted.source.toList ∧
        ∀ way node word, program.at? way = some node → node.shape.declares? = some word →
          Keeps ordered text.toList extracted.source.toList node.span.start word.toList ∧
          ∀ span ∈ node.declaredSpans,
            KeepsSpan ordered text.toList extracted.source.toList span ∧
              ∀ site ∈ program.callSites, ∀ other ∈ site.spans, other.Apart span) ∧
    (¬"import".toList <:+: text.toList → ¬"export".toList <:+: text.toList →
      ∀ way node, program.at? way = some node → node.shape.declares? = none) := by
  refine ⟨fun final => extracts_iff parsed, fun extracted final extraction => ?_,
    fun noImport noExport way node there => declares_nothing parsed noImport noExport there⟩
  obtain ⟨_, found, _, same, resolved, -⟩ := extract_eq_ok extraction
  cases parsed.symm.trans same
  obtain ⟨result, ordered, again, shuffled, spliced⟩ := exists_extracted parsed resolved
  cases again.symm.trans extraction
  obtain ⟨sites, named⟩ := sites_of_resolveSites resolved
  rw [← String.toList_ofList (l := result)] at spliced
  refine ⟨found, ordered, sites, rfl, shuffled, spliced, fun way node word there declares => ?_⟩
  refine keeps_declaration parsed spliced there declares fun span declared edit member => ?_
  exact edits_apart_declared (Script.readFrom_of_ofText? parsed) sites named there declares declared edit
    (shuffled.mem_iff.1 member)

end Declarations

def shapeAndExtracted? (around : Surroundings Unit) (text : String) (way : List Nat) :
    Option (Option Script.Shape × Extracted) :=
  match Script.Node.ofText? text, extract around text ⟨"/proj/index.js"⟩ () with
  | .ok program, .ok extracted _ => some ((program.at? way).map Script.Node.shape, extracted)
  | _, _ => none

theorem exists_of_shapeAndExtracted? {around : Surroundings Unit} {text : String} {way : List Nat}
    {shape : Script.Shape} {extracted : Extracted}
    (answered : shapeAndExtracted? around text way = some (some shape, extracted)) :
    ∃ program node, Script.Node.ofText? text = .ok program ∧
      extract around text ⟨"/proj/index.js"⟩ () = .ok extracted () ∧
      program.at? way = some node ∧ node.shape = shape := by
  unfold shapeAndExtracted? at answered
  split at answered
  · rename_i program result _ parsed extraction
    obtain ⟨first, rfl⟩ := Prod.mk.inj (Option.some.inj answered)
    obtain ⟨node, there, kind⟩ := Option.map_eq_some_iff.1 first
    exact ⟨program, node, parsed, extraction, there, kind⟩
  · cases answered

/-- Declarations behind a line that names an interpreter, with an import call inside of one of them. -/
def declaringSource : String := "#!é\nimport a from './a';\nexport default require('b')"

theorem export_kept_around_call :
    (∃ (program node : Script.Node) (extracted : Extracted) (found : List Resolved)
      (ordered : List Text.Edit),
      Script.Node.ofText? declaringSource = .ok program ∧
      extract claiming declaringSource ⟨"/proj/index.js"⟩ () = .ok extracted () ∧
      program.at? [1] = some node ∧ node.shape = .exportDefault ∧
      extracted.dependencies.map Dependency.id = [externalId "b"] ∧
      found.map Resolved.site = program.callSites ∧
      Keeps ordered declaringSource.toList extracted.source.toList node.span.start "export".toList) ∧
    ∃ program, Script.Node.ofText? "a + b" = .ok program ∧
      ∀ way node, program.at? way = some node → node.shape.declares? = none := by
  constructor
  · have answered : shapeAndExtracted? claiming declaringSource [1] = some (some .exportDefault,
        ⟨"//é\nimport a from './a';\nexport default __modpack_require__(\"external \\\"b\\\"\")",
          [⟨externalId "b", "b", .external ⟨"b"⟩⟩]⟩) := by decide +kernel
    obtain ⟨program, node, parsed, extraction, there, shape⟩ := exists_of_shapeAndExtracted? answered
    obtain ⟨found, ordered, sites, -, -, -, kept⟩ :=
      (declarations_kept parsed claiming ⟨"/proj/index.js"⟩ ()).2.1 _ _ extraction
    obtain ⟨word, -⟩ := kept [1] node "export" there (by rw [shape]; rfl)
    exact ⟨program, node, _, found, ordered, parsed, extraction, there, shape, rfl, sites, word⟩
  · have parses : (Script.Node.ofText? "a + b").toOption.isSome = true := by decide +kernel
    cases parsed : Script.Node.ofText? "a + b" with
    | error fault =>
      rw [parsed] at parses
      cases parses
    | ok program =>
      obtain ⟨-, -, nothing⟩ := declarations_kept parsed (claiming : Surroundings Unit) ⟨"/index.js"⟩ ()
      exact ⟨program, rfl, nothing (by decide) (by decide)⟩

/-- Nothing but a declaration of an import. -/
def importingSource : String := "import x from './util';\n"

/-- Surroundings without hooks, in which nothing is found. -/
def bareSurroundings : Surroundings Unit where
  disk := .empty
  resolver := .new ⟨"/proj"⟩ [".js"]
  hooks := { requireCall := .new "requireCall", factorize := .new "factorize" }

/-- A module that declares an import is accepted. It depends on nothing then, and its source, which is to be
the inside of a function, declares the import as before. -/
theorem importDeclaration_accepted :
    ∃ (program node : Script.Node) (extracted : Extracted),
      Script.Node.ofText? importingSource = .ok program ∧
      extract bareSurroundings importingSource ⟨"/proj/index.js"⟩ () = .ok extracted () ∧
      program.at? [0] = some node ∧ node.shape = .importDeclaration ∧
      extracted = ⟨importingSource, []⟩ := by
  have answered : shapeAndExtracted? bareSurroundings importingSource [0] =
      some (some .importDeclaration, ⟨importingSource, []⟩) := by decide +kernel
  obtain ⟨program, node, parsed, extraction, there, shape⟩ := exists_of_shapeAndExtracted? answered
  exact ⟨program, node, _, parsed, extraction, there, shape, rfl⟩

end ModuleBundler.Import
