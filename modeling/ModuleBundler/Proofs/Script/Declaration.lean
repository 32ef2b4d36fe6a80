import Mathlib.Data.List.Pairwise
import ModuleBundler.Proofs.Script.SiteSpan

/-!
What the module declarations of a tree say themselves. Their words and strings are no call sites, and none
lies on top of them.
-/

namespace ModuleBundler.Script

open Text (byteSize)

variable {source : List Char}

theorem Span.Apart.mono {one other inner : Span} (apart : one.Apart other)
    (start : other.start ≤ inner.start) (stop : inner.stop ≤ other.stop) : one.Apart inner := by
  unfold Apart at *
  omega

theorem Shape.word_of_declares? {shape : Shape} {word : String} (declares : shape.declares? = some word) :
    word = "import" ∨ word = "export" := by
  unfold declares? at declares
  split at declares
  · exact .inl (Option.some.inj declares).symm
  · exact .inr (Option.some.inj declares).symm
  · exact .inr (Option.some.inj declares).symm
  · cases declares

namespace Node

/-- The spans of what a module declaration says itself: of its word, and of the strings that are parts of it,
as that of what it imports from is. -/
def declaredSpans : Node → List Span
  | mk shape span parts => shape.declares?.toList.flatMap fun word =>
    ((keyword span.start word :: parts).filter fun part => part.shape matches .text _).map Node.span

theorem keyword_mem_declaredSpans {node : Node} {word : String}
    (declares : node.shape.declares? = some word) :
    (keyword node.span.start word).span ∈ node.declaredSpans := by
  obtain ⟨shape, span, parts⟩ := node
  refine List.mem_flatMap.2 ⟨word, Option.mem_toList.2 declares, List.mem_map_of_mem ?_⟩
  exact List.mem_filter.2 ⟨.head _, rfl⟩

theorem Laid.marks_of_absent {node : Node} (laid : node.Laid source) (absent : node.shape = .absent) :
    node.marks = [] := by
  cases laid with
  | absent => rfl
  | bare =>
    cases absent
    rfl
  | composed kind =>
    cases absent
    cases kind

instance : Std.Symm Apart :=
  ⟨fun _ _ => Apart.symm⟩

theorem Laid.apart_marks {node other : Node} (laid : node.Laid source) (apart : node.Apart other)
    (present : other.shape ≠ .absent) : ∀ span ∈ node.marks, span.Apart other.span := by
  intro span member
  obtain ⟨start, stop⟩ := (laid.scattered_marks laid.scattered).between span member
  rcases apart with gone | gone | before | behind
  · rw [laid.marks_of_absent gone] at member
    cases member
  · exact absurd gone present
  · exact .inl (Nat.le_trans stop before)
  · exact .inr (Nat.le_trans behind start)

theorem Laid.composed_of_at? {root node : Node} {way : List Nat} (laid : root.Laid source)
    (there : root.at? way = some node) (composed : node.shape.isBare = false) :
    root.shape.isBare = false := by
  cases way with
  | nil =>
    cases there
    exact composed
  | cons index way =>
    cases laid with
    | absent | bare => cases there
    | composed kind => exact kind

/-- A node that a way leads to is laid out inside of the node that the way starts from. -/
theorem Laid.of_at? {root node : Node} {way : List Nat} (laid : root.Laid source)
    (there : root.at? way = some node) (composed : node.shape.isBare = false) :
    node.Laid source ∧ root.span.start ≤ node.span.start ∧ node.span.stop ≤ root.span.stop := by
  induction way generalizing root with
  | nil =>
    cases there
    exact ⟨laid, Nat.le_refl _, Nat.le_refl _⟩
  | cons index way ih =>
    obtain ⟨part, taken, further⟩ := Option.bind_eq_some_iff.1 there
    have member := List.mem_of_getElem? taken
    cases laid with
    | absent | bare => cases member
    | composed _ _ _ _ inner inside _ =>
      have present := (inner part member).composed_of_at? further composed
      obtain ⟨found, start, stop⟩ := ih (inner part member) further
      rcases inside part member with gone | ⟨first, last⟩
      · rw [gone] at present
        cases present
      · exact ⟨found, Nat.le_trans first start, Nat.le_trans stop last⟩

/-- What the call sites in a node are apart from, inside of the node, all call sites of the tree are. -/
theorem Laid.apart_of_at? {root node : Node} {way : List Nat} {stretch : Span} (laid : root.Laid source)
    (there : root.at? way = some node) (composed : node.shape.isBare = false)
    (start : node.span.start ≤ stretch.start) (stop : stretch.stop ≤ node.span.stop)
    (own : ∀ span ∈ node.siteSpans, span.Apart stretch) :
    ∀ span ∈ root.siteSpans, span.Apart stretch := by
  induction way generalizing root with
  | nil =>
    cases there
    exact own
  | cons index way ih =>
    intro span member
    obtain ⟨part, taken, further⟩ := Option.bind_eq_some_iff.1 there
    obtain ⟨shape, whole, parts⟩ := root
    cases laid with
    | absent | bare => cases List.mem_of_getElem? taken
    | composed _ _ _ _ inner inside apart =>
      have present := (inner part (List.mem_of_getElem? taken)).composed_of_at? further composed
      obtain ⟨other, there, marked⟩ := List.mem_flatMap.1 ((siteSpans_sublist inner).subset member)
      by_cases same : other = part
      · subst same
        obtain ⟨kind, place, inside⟩ := other
        rw [marks_of_composed (show kind.isBare = false from present)] at marked
        exact ih (inner _ there) further span marked
      · have separate := apart.forall there (List.mem_of_getElem? taken) same
        obtain ⟨-, first, last⟩ := (inner part (List.mem_of_getElem? taken)).of_at? further composed
        refine ((inner other there).apart_marks separate ?_ span marked).mono ?_ ?_
        · intro gone
          rw [gone] at present
          cases present
        · exact Nat.le_trans first start
        · exact Nat.le_trans stop last

theorem siteSpans_of_plain {shape : Shape} {span : Span} {parts : List Node}
    (plain : ownCallSite? (mk shape span parts) = none) :
    siteSpans (mk shape span parts) = parts.flatMap siteSpans := by
  rw [siteSpans, callSites, plain, allCallSites_eq_flatMap, Option.toList_none, List.nil_append,
    List.flatMap_assoc]
  rfl

/-- Call sites in parts are apart from every word and string that is laid out beside the parts. -/
theorem apart_of_beside {low high : Nat} {nodes : List Node} (beside : Beside source low high nodes)
    {text : Node} (member : text ∈ nodes) {value : String} (shape : text.shape = .text value) :
    ∀ span ∈ nodes.flatMap siteSpans, span.Apart text.span := by
  intro span marked
  obtain ⟨other, there, inside⟩ := List.mem_flatMap.1 marked
  by_cases same : other = text
  · subst same
    obtain ⟨kind, place, parts⟩ := other
    cases shape
    cases beside.laid _ there with
    | bare bare =>
      rw [siteSpans_of_isBare bare] at inside
      cases inside
    | composed kind => cases kind
  · have laid := beside.laid other there
    have marked := laid.siteSpans_sublist_marks.subset inside
    refine laid.apart_marks (beside.apart.forall there member same) ?_ span marked
    intro gone
    cases gone.symm.trans shape

theorem of_declares? {shape : Shape} {word : String} (declares : shape.declares? = some word) (span : Span)
    (parts : List Node) : shape.isBare = false ∧ ownCallSite? (mk shape span parts) = none := by
  unfold Shape.declares? at declares
  split at declares
  · exact ⟨rfl, rfl⟩
  · exact ⟨rfl, rfl⟩
  · exact ⟨rfl, rfl⟩
  · cases declares

theorem Laid.spells_of_at? {root node : Node} {way : List Nat} (laid : root.Laid source)
    (there : root.at? way = some node) {word : String} (declares : node.shape.declares? = some word) :
    Spells source node.span.start word := by
  obtain ⟨shape, span, parts⟩ := node
  cases (laid.of_at? there (of_declares? declares span parts).1).1 with
  | absent => cases declares
  | bare bare => cases bare.symm.trans (of_declares? declares span []).1
  | composed _ _ _ opens _ _ _ => exact (opens word declares).spelled

/-- The word of a module declaration and its string lie in the declaration, apart from all call sites. -/
theorem Laid.apart_declaredSpans {root node : Node} {way : List Nat} (laid : root.Laid source)
    (there : root.at? way = some node) :
    ∀ stretch ∈ node.declaredSpans,
      (IsSeam source stretch.start ∧ IsSeam source stretch.stop ∧ stretch.start < stretch.stop) ∧
        (node.span.start ≤ stretch.start ∧ stretch.stop ≤ node.span.stop) ∧
        ∀ span ∈ root.siteSpans, span.Apart stretch := by
  intro stretch member
  obtain ⟨shape, span, parts⟩ := node
  obtain ⟨word, declares, said⟩ := List.mem_flatMap.1 member
  obtain ⟨text, found, rfl⟩ := List.mem_map.1 said
  obtain ⟨among, isText⟩ := List.mem_filter.1 found
  obtain ⟨composed, plain⟩ := of_declares? (Option.mem_toList.1 declares) span parts
  have filled : 0 < byteSize word.toList := by
    rcases Shape.word_of_declares? (Option.mem_toList.1 declares) with rfl | rfl
    · decide
    · decide
  obtain ⟨value, kind⟩ : ∃ value, text.shape = .text value := by
    split at isText
    · exact ⟨_, ‹_›⟩
    · cases isText
  cases (laid.of_at? there composed).1 with
  | absent => cases composed
  | bare bare => cases bare.symm.trans composed
  | composed _ _ _ opens inner inside apart =>
    obtain ⟨spelled, covered, separate⟩ := opens word (Option.mem_toList.1 declares)
    obtain ⟨starts, stops⟩ := spelled.isSeam
    have beside : Beside source span.start span.stop (keyword span.start word :: parts) :=
      ⟨List.forall_mem_cons.2 ⟨.bare rfl starts stops (Nat.lt_add_of_pos_right filled), inner⟩,
        List.forall_mem_cons.2 ⟨covered, inside⟩, List.pairwise_cons.2 ⟨separate, apart⟩⟩
    have between := (beside.between text among).resolve_left fun gone => by cases gone.symm.trans kind
    refine ⟨?_, between, laid.apart_of_at? there composed between.1 between.2 ?_⟩
    · cases beside.laid text among with
      | absent => cases kind
      | bare _ starts stops filled => exact ⟨starts, stops, filled⟩
      | composed plain =>
        cases kind
        cases plain
    · rw [siteSpans_of_plain plain]
      exact fun span marked => apart_of_beside beside among kind span (List.mem_append_right _ marked)

end Node

end ModuleBundler.Script
