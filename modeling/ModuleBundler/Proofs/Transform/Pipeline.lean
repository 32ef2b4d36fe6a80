import Mathlib.Data.List.Forall2
import ModuleBundler.Proofs.Outcome
import ModuleBundler.Transform.Pipeline

/-!
The order in which transforms are applied: from right to left, each of them looked up only when what is to its
right has succeeded. So a pipeline behind another one works on what that one has made, and where one fails,
nothing in front of it is touched.
-/

namespace ModuleBundler

inductive TransformUse where
  | lookedUp (name : String)
  | run (name source : String)
  deriving DecidableEq, Repr

namespace TransformPipeline

instance : Append TransformPipeline where
  append first second := ⟨first.rules ++ second.rules⟩

variable (registry : TransformRegistry) (path : Path)

def tracedOne (name source : String) : EStateM BuildError (List TransformUse) String := do
  modify (· ++ [.lookedUp name])
  match registry.find? name with
  | none => throw (.transformLoad name path)
  | some transform =>
    modify (· ++ [.run name source])
    match transform source with
    | .ok code => return code
    | .error cause => throw (.transform name path cause)

def tracedAll (names : List String) (source : String) : EStateM BuildError (List TransformUse) String :=
  names.reverse.foldlM (fun code name => tracedOne registry path name code) source

def traced (pipeline : TransformPipeline) (source : String) :
    EStateM BuildError (List TransformUse) String :=
  tracedAll registry path (pipeline.matching path) source

/-- What a pipeline does with transforms, in this order. -/
def uses (pipeline : TransformPipeline) (source : String) : List TransformUse :=
  stateAfter (pipeline.traced registry path source [])

/-- Transforms that are all registered succeed, the last one first. -/
inductive Succeed : List String → String → List TransformUse → String → Prop
  | nil (source : String) : Succeed [] source [] source
  | cons {name : String} {names : List String} {source code result : String} {transform : Transform}
      {uses : List TransformUse} (behind : Succeed names source uses code)
      (known : registry.find? name = some transform) (done : transform code = .ok result) :
      Succeed (name :: names) source (uses ++ [.lookedUp name, .run name code]) result

/-- A transform fails: nobody has registered it, or it says why. -/
inductive Fails (name source : String) : List TransformUse → BuildError → Prop
  | unknown (missing : registry.find? name = none) :
      Fails name source [.lookedUp name] (.transformLoad name path)
  | refused {transform : Transform} {cause : String} (known : registry.find? name = some transform)
      (failed : transform source = .error cause) :
      Fails name source [.lookedUp name, .run name source] (.transform name path cause)

variable {registry path} {name source code : String} {names front back : List String}
  {kept uses last : List TransformUse} {failure : BuildError}

theorem tracedOne_of_known {transform : Transform} (known : registry.find? name = some transform)
    (done : transform source = .ok code) : tracedOne registry path name source kept =
      .ok code (kept ++ [.lookedUp name, .run name source]) := by
  rw [List.append_cons]
  simp only [tracedOne, known, done]
  rfl

theorem Fails.tracedOne_eq (fails : Fails registry path name source last failure) :
    tracedOne registry path name source kept = .error failure (kept ++ last) := by
  cases fails with
  | unknown missing =>
    simp only [tracedOne, missing]
    rfl
  | refused known failed =>
    rw [List.append_cons]
    simp only [tracedOne, known, failed]
    rfl

variable (registry path name source) in
theorem exists_known_or_fails :
    (∃ transform code, registry.find? name = some transform ∧ transform source = .ok code) ∨
      ∃ last failure, Fails registry path name source last failure := by
  cases known : registry.find? name with
  | none => exact .inr ⟨_, _, .unknown known⟩
  | some transform =>
    cases ended : transform source with
    | ok code => exact .inl ⟨transform, code, rfl, ended⟩
    | error cause => exact .inr ⟨_, _, .refused known ended⟩

theorem outcome_tracedOne :
    outcome (tracedOne registry path name source kept) = applyOne registry path name source := by
  rcases exists_known_or_fails registry path name source with
    ⟨transform, code, known, done⟩ | ⟨last, failure, fails⟩
  · rw [tracedOne_of_known known done]
    simp only [applyOne, known, done]
    rfl
  · rw [fails.tracedOne_eq]
    cases fails with
    | unknown missing =>
      simp only [applyOne, missing]
      rfl
    | refused known failed =>
      simp only [applyOne, known, failed]
      rfl

theorem tracedAll_append (front back : List String) (source : String) :
    tracedAll registry path (front ++ back) source =
      tracedAll registry path back source >>= tracedAll registry path front := by
  rw [tracedAll, List.foldlM_reverse, List.foldrM_append]
  rfl

theorem tracedAll_cons (name : String) (names : List String) (source : String) :
    tracedAll registry path (name :: names) source =
      tracedAll registry path names source >>= tracedOne registry path name := by
  rw [tracedAll, List.foldlM_reverse, List.foldrM_cons]
  rfl

theorem applyAll_append (front back : List String) (source : String) :
    applyAll registry path (front ++ back) source =
      applyAll registry path back source >>= applyAll registry path front := by
  rw [applyAll, List.foldlM_reverse, List.foldrM_append]
  rfl

theorem applyAll_cons (name : String) (names : List String) (source : String) :
    applyAll registry path (name :: names) source =
      applyAll registry path names source >>= applyOne registry path name := by
  rw [applyAll, List.foldlM_reverse, List.foldrM_cons]
  rfl

theorem outcome_tracedAll :
    outcome (tracedAll registry path names source kept) = applyAll registry path names source := by
  induction names with
  | nil => rfl
  | cons name names ih =>
    rw [tracedAll_cons, applyAll_cons, ← ih]
    change outcome (EStateM.bind _ _ _) = Except.bind _ _
    unfold EStateM.bind
    cases tracedAll registry path names source kept with
    | ok code middle => exact outcome_tracedOne
    | error failure middle => rfl

theorem Succeed.tracedAll_eq (succeed : Succeed registry names source uses code) :
    tracedAll registry path names source kept = .ok code (kept ++ uses) := by
  induction succeed with
  | nil source =>
    rw [List.append_nil]
    rfl
  | cons _ known done ih =>
    rw [tracedAll_cons, ← List.append_assoc]
    exact bind_eq_ok.2 ⟨_, _, ih, tracedOne_of_known known done⟩

theorem Fails.tracedAll_eq (fails : Fails registry path name code last failure)
    (succeed : Succeed registry back source uses code) (front : List String) :
    tracedAll registry path (front ++ name :: back) source kept =
      .error failure (kept ++ (uses ++ last)) := by
  rw [tracedAll_append, tracedAll_cons, ← List.append_assoc]
  refine bind_eq_error.2 (.inl (bind_eq_error.2 (.inr ⟨code, _, succeed.tracedAll_eq, ?_⟩)))
  exact fails.tracedOne_eq

/-- Either all transforms succeed, or one of them fails behind which all do. -/
theorem exists_succeed_or_fails (registry : TransformRegistry) (path : Path) (names : List String)
    (source : String) :
    (∃ uses code, Succeed registry names source uses code) ∨
      ∃ front name back uses code last failure, names = front ++ name :: back ∧
        Succeed registry back source uses code ∧ Fails registry path name code last failure := by
  induction names with
  | nil => exact .inl ⟨[], source, .nil source⟩
  | cons name names ih =>
    rcases ih with
      ⟨uses, code, succeed⟩ | ⟨front, other, back, uses, code, last, failure, rfl, succeed, fails⟩
    · rcases exists_known_or_fails registry path name code with
        ⟨transform, result, known, done⟩ | ⟨last, failure, fails⟩
      · exact .inl ⟨_, result, .cons succeed known done⟩
      · exact .inr ⟨[], name, names, uses, code, last, failure, rfl, succeed, fails⟩
    · exact .inr ⟨name :: front, other, back, uses, code, last, failure, rfl, succeed, fails⟩

theorem tracedAll_eq_ok : tracedAll registry path names source [] = .ok code uses ↔
    Succeed registry names source uses code := by
  refine ⟨fun ended => ?_, fun succeed => succeed.tracedAll_eq⟩
  rcases exists_succeed_or_fails registry path names source with
    ⟨others, result, succeed⟩ | ⟨front, name, back, others, result, last, failure, rfl, succeed, fails⟩
  · rw [succeed.tracedAll_eq, List.nil_append] at ended
    cases ended
    exact succeed
  · rw [fails.tracedAll_eq succeed front] at ended
    cases ended

theorem tracedAll_eq_error : tracedAll registry path names source [] = .error failure uses ↔
    ∃ front name back earlier code last, names = front ++ name :: back ∧
      Succeed registry back source earlier code ∧ Fails registry path name code last failure ∧
      uses = earlier ++ last := by
  constructor
  · intro ended
    rcases exists_succeed_or_fails registry path names source with
      ⟨others, result, succeed⟩ | ⟨front, name, back, others, result, last, other, rfl, succeed, fails⟩
    · rw [succeed.tracedAll_eq] at ended
      cases ended
    · rw [fails.tracedAll_eq succeed front, List.nil_append] at ended
      cases ended
      exact ⟨front, name, back, others, result, last, rfl, succeed, fails, rfl⟩
  · rintro ⟨front, name, back, earlier, code, last, rfl, succeed, fails, rfl⟩
    exact fails.tracedAll_eq succeed front

/-- A registry is like another one as far as transforms are looked up and run. -/
def Agree (registry other : TransformRegistry) (uses : List TransformUse) : Prop :=
  ∀ use ∈ uses, match use with
    | .lookedUp name => (other.find? name).isSome = (registry.find? name).isSome
    | .run name source => (other.find? name).map (· source) = (registry.find? name).map (· source)

theorem Agree.exists_of_run {other : TransformRegistry} (agree : Agree registry other uses)
    (member : .run name source ∈ uses) {transform : Transform} (known : registry.find? name = some transform) :
    ∃ like, other.find? name = some like ∧ like source = transform source := by
  have alike : (other.find? name).map (· source) = (registry.find? name).map (· source) :=
    agree _ member
  rw [known] at alike
  exact Option.map_eq_some_iff.1 alike

theorem Succeed.of_agree {other : TransformRegistry} (succeed : Succeed registry names source uses code)
    (agree : Agree registry other uses) : Succeed other names source uses code := by
  induction succeed with
  | nil source => exact .nil source
  | cons _ known done ih =>
    obtain ⟨like, found, same⟩ :=
      agree.exists_of_run (List.mem_append_right _ (.tail _ (.head _))) known
    exact .cons (ih fun use member => agree use (List.mem_append_left _ member)) found (same.trans done)

theorem Fails.of_agree {other : TransformRegistry} (fails : Fails registry path name source last failure)
    (agree : Agree registry other last) : Fails other path name source last failure := by
  cases fails with
  | unknown missing =>
    have alike : (other.find? name).isSome = (registry.find? name).isSome := agree _ List.mem_cons_self
    rw [missing] at alike
    exact .unknown (Option.isNone_iff_eq_none.1 (Option.isSome_eq_false_iff.1 alike))
  | refused known failed =>
    obtain ⟨like, found, same⟩ := agree.exists_of_run (.tail _ (.head _)) known
    exact .refused found (same.trans failed)

theorem tracedAll_of_agree {other : TransformRegistry}
    (agree : Agree registry other (stateAfter (tracedAll registry path names source []))) :
    tracedAll other path names source [] = tracedAll registry path names source [] := by
  cases ended : tracedAll registry path names source [] with
  | ok code uses =>
    rw [ended] at agree
    exact tracedAll_eq_ok.2 ((tracedAll_eq_ok.1 ended).of_agree agree)
  | error failure uses =>
    rw [ended] at agree
    obtain ⟨front, name, back, earlier, code, last, rfl, succeed, fails, rfl⟩ := tracedAll_eq_error.1 ended
    refine tracedAll_eq_error.2 ⟨front, name, back, earlier, code, last, rfl, succeed.of_agree ?_,
      fails.of_agree ?_, rfl⟩
    · exact fun use member => agree use (List.mem_append_left _ member)
    · exact fun use member => agree use (List.mem_append_right _ member)

/-- The names that the rules whose pattern occurs in a path give, in the order of the rules. -/
inductive Gathers (path : Path) : List CompiledRule → List String → Prop
  | nil : Gathers path [] []
  | hit {rule : CompiledRule} {rules : List CompiledRule} {names : List String}
      (occurs : rule.test.occursIn path.unixText = true) (later : Gathers path rules names) :
      Gathers path (rule :: rules) (rule.transforms ++ names)
  | miss {rule : CompiledRule} {rules : List CompiledRule} {names : List String}
      (absent : rule.test.occursIn path.unixText = false) (later : Gathers path rules names) :
      Gathers path (rule :: rules) names

theorem matching_cons (path : Path) (rule : CompiledRule) (rules : List CompiledRule) :
    matching ⟨rule :: rules⟩ path =
      if rule.test.occursIn path.unixText then rule.transforms ++ matching ⟨rules⟩ path
      else matching ⟨rules⟩ path := by
  unfold matching
  rw [List.filter_cons]
  split <;> rfl

theorem gathers_iff {path : Path} {rules : List CompiledRule} {names : List String} :
    Gathers path rules names ↔ matching ⟨rules⟩ path = names := by
  constructor
  · intro gathers
    induction gathers with
    | nil => rfl
    | hit occurs _ ih => rw [matching_cons, if_pos occurs, ih]
    | miss absent _ ih => rw [matching_cons, if_neg (Bool.eq_false_iff.1 absent), ih]
  · rintro rfl
    induction rules with
    | nil => exact .nil
    | cons rule rules ih =>
      rw [matching_cons]
      split
      · rename_i occurs
        exact .hit occurs ih
      · rename_i absent
        exact .miss (Bool.eq_false_iff.2 absent) ih

/-- A rule that has been read: its test is the pattern of the text, and its transforms are the same. -/
def Reads (rule : Rule) (compiled : CompiledRule) : Prop :=
  Pattern.ofText? rule.test = some compiled.test ∧ compiled.transforms = rule.transforms

theorem compile_eq_ok {rule : Rule} {compiled : CompiledRule} :
    compile rule = .ok compiled ↔ Reads rule compiled := by
  obtain ⟨test, transforms⟩ := compiled
  unfold compile Reads
  cases Pattern.ofText? rule.test with
  | none => simp
  | some read => simp [eq_comm]

theorem ofRules_eq_ok {rules : List Rule} {found : List CompiledRule} :
    ofRules rules = .ok ⟨found⟩ ↔ List.Forall₂ Reads rules found := by
  have all : rules.mapM compile = .ok found ↔ List.Forall₂ Reads rules found := by
    induction rules generalizing found with
    | nil => cases found <;> simp [pure, Except.pure]
    | cons rule rules ih =>
      rw [List.mapM_cons]
      cases compiled : compile rule with
      | error failure => cases found <;> simp [bind, Except.bind, ← compile_eq_ok, compiled]
      | ok first =>
        cases others : rules.mapM compile with
        | error failure => cases found <;> simp [bind, Except.bind, ← ih, others]
        | ok rest =>
          cases found <;>
            simp [bind, Except.bind, pure, Except.pure, ← ih, others, ← compile_eq_ok, compiled]
  rw [← all]
  unfold ofRules
  cases rules.mapM compile <;> simp [Except.map]

theorem matching_append (first second : TransformPipeline) (path : Path) :
    (first ++ second).matching path = first.matching path ++ second.matching path := by
  change ((first.rules ++ second.rules).filter _).flatMap _ = _
  rw [List.filter_append, List.flatMap_append]
  rfl

theorem ofRules_append (first second : List Rule) : ofRules (first ++ second) = do
    let front ← ofRules first
    let back ← ofRules second
    return front ++ back := by
  unfold ofRules
  rw [List.mapM_append]
  cases first.mapM compile with
  | error failure => rfl
  | ok front => cases second.mapM compile <;> rfl

theorem apply_append (first second : TransformPipeline) (source : String) :
    (first ++ second).apply registry path source =
      second.apply registry path source >>= first.apply registry path := by
  rw [apply, matching_append, applyAll_append]
  rfl

theorem apply_eq (pipeline : TransformPipeline) (source : String) :
    pipeline.apply registry path source = outcome (pipeline.traced registry path source []) :=
  outcome_tracedAll.symm

/-- The uses of the second pipeline come first, and those of the first one only where that has succeeded. -/
theorem uses_append (first second : TransformPipeline) (source : String) :
    (first ++ second).uses registry path source = second.uses registry path source ++
      match second.apply registry path source with
      | .ok code => first.uses registry path code
      | .error _ => [] := by
  rw [apply_eq, uses, uses, traced, matching_append, tracedAll_append]
  change stateAfter (EStateM.bind _ _ _) = _
  unfold EStateM.bind traced
  cases tracedAll registry path (second.matching path) source [] with
  | error failure uses => exact (List.append_nil uses).symm
  | ok code kept =>
    change stateAfter (tracedAll registry path (first.matching path) code kept) =
      kept ++ stateAfter (tracedAll registry path (first.matching path) code [])
    rcases exists_succeed_or_fails registry path (first.matching path) code with
      ⟨uses, result, succeed⟩ | ⟨front, name, back, uses, result, last, failure, found, succeed, fails⟩
    · rw [succeed.tracedAll_eq, succeed.tracedAll_eq]
      rfl
    · rw [found, fails.tracedAll_eq succeed front, fails.tracedAll_eq succeed front]
      rfl

theorem apply_eq_ok_iff (pipeline : TransformPipeline) : pipeline.apply registry path source = .ok code ↔
    Succeed registry (pipeline.matching path) source (pipeline.uses registry path source) code := by
  rw [apply_eq, uses]
  constructor
  · intro ended
    cases run : pipeline.traced registry path source [] with
    | ok result uses =>
      rw [run] at ended
      cases ended
      exact tracedAll_eq_ok.1 run
    | error failure uses =>
      rw [run] at ended
      cases ended
  · intro succeed
    exact congrArg outcome (tracedAll_eq_ok.2 succeed)

theorem apply_eq_error_iff (pipeline : TransformPipeline) :
    pipeline.apply registry path source = .error failure ↔
      ∃ front name back earlier code last, pipeline.matching path = front ++ name :: back ∧
        Succeed registry back source earlier code ∧ Fails registry path name code last failure ∧
        pipeline.uses registry path source = earlier ++ last := by
  rw [apply_eq, uses]
  constructor
  · intro ended
    cases run : pipeline.traced registry path source [] with
    | ok result uses =>
      rw [run] at ended
      cases ended
    | error other uses =>
      rw [run] at ended
      cases ended
      exact tracedAll_eq_error.1 run
  · intro fails
    exact congrArg outcome (tracedAll_eq_error.2 fails)

/-- Pipelines are applied from right to left. What applies to a path are the names of the rules whose patterns
occur in it, in the order of the rules. The rules of one list in front of those of another one work on
what those have made. If those fail, that is the error, and what is done is what they have done; and what is
done is all that matters of a registry. A transform that is not registered or fails is reported exactly if all
that apply to its right have been found and have succeeded. -/
theorem apply_right_to_left (registry : TransformRegistry) (path : Path) (source : String) :
    (∀ rules found, ofRules rules = .ok ⟨found⟩ ↔ List.Forall₂ Reads rules found) ∧
    (∀ rules names, matching ⟨rules⟩ path = names ↔ Gathers path rules names) ∧
    (∀ left right : List Rule, ofRules (left ++ right) = do
      let first ← ofRules left
      let second ← ofRules right
      return first ++ second) ∧
    (∀ first second : TransformPipeline,
      (first ++ second).apply registry path source =
          second.apply registry path source >>= first.apply registry path ∧
        (∀ code, second.apply registry path source = .ok code →
          (first ++ second).uses registry path source =
            second.uses registry path source ++ first.uses registry path code) ∧
        ∀ failure, second.apply registry path source = .error failure →
          (first ++ second).apply registry path source = .error failure ∧
            (first ++ second).uses registry path source = second.uses registry path source) ∧
    ∀ pipeline : TransformPipeline,
      pipeline.apply registry path source = outcome (pipeline.traced registry path source []) ∧
        (∀ code, pipeline.apply registry path source = .ok code ↔
          Succeed registry (pipeline.matching path) source (pipeline.uses registry path source) code) ∧
        (∀ failure, pipeline.apply registry path source = .error failure ↔
          ∃ front name back earlier code last, pipeline.matching path = front ++ name :: back ∧
            Succeed registry back source earlier code ∧ Fails registry path name code last failure ∧
            pipeline.uses registry path source = earlier ++ last) ∧
        ∀ other, Agree registry other (pipeline.uses registry path source) →
          pipeline.apply other path source = pipeline.apply registry path source := by
  refine ⟨fun _ _ => ofRules_eq_ok, fun _ _ => gathers_iff.symm, ofRules_append,
    fun first second => ⟨apply_append first second source, fun code ended => ?_,
      fun failure ended => ⟨?_, ?_⟩⟩,
    fun pipeline => ⟨apply_eq pipeline source, fun code => apply_eq_ok_iff pipeline,
      fun failure => apply_eq_error_iff pipeline, fun other agree => ?_⟩⟩
  · rw [uses_append, ended]
  · rw [apply_append, ended]
    rfl
  · rw [uses_append, ended, List.append_nil]
  · rw [apply_eq, apply_eq]
    exact congrArg outcome (tracedAll_of_agree agree)

-- The last transform is run, the one in front of it is missing, and the first one is not touched.
example : stateAfter (tracedAll (.ofList [("a", .ok), ("c", fun code => .ok (code ++ "c"))]) ⟨"/a.js"⟩
      ["a", "b", "c"] "x" []) =
    [.lookedUp "c", .run "c" "x", .lookedUp "b"] := by decide

end TransformPipeline

end ModuleBundler
