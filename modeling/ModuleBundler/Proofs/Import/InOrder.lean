import ModuleBundler.Proofs.Discover.Recording
import ModuleBundler.Proofs.Import.Rewrite

/-!
How the imports of a module are resolved: at one call site after another, in their order, until one fails.
Nothing behind the first failure is looked at, and of two imports of a module the first one counts.
-/

namespace ModuleBundler.Import

open Script (CallSite)
open Text.Edit (Spliced)

section Sites

variable {σ : Type} (around : Surroundings σ) (module : Path)

/-- The import at a call site is resolved: it names a module, the observers let it pass, and it means
something. -/
inductive Passes : CallSite → σ → Resolved → σ → Prop
  | resolved {site : CallSite} {request : String} {argument : Script.Span} {start shown final : σ}
      {answer : Option ExternalModule} {dependency : Dependency}
      (static : site.argument = .text request argument)
      (observed : around.hooks.requireCall.show { request, module } start = .ok () shown)
      (asked : around.hooks.factorize.ask { request, context := module.parent?.getD ⟨"."⟩ } shown = (answer, final))
      (meant : meaning? around module request answer = some dependency) :
      Passes site start ⟨site, argument, dependency⟩ final

/-- The imports at call sites are resolved one after another. -/
inductive AllPass : List CallSite → σ → List Resolved → σ → Prop
  | done (state : σ) : AllPass [] state [] state
  | next {site : CallSite} {sites : List CallSite} {first : Resolved} {others : List Resolved}
      {start middle final : σ} (passes : Passes around module site start first middle)
      (rest : AllPass sites middle others final) : AllPass (site :: sites) start (first :: others) final

/-- The import at a call site fails, after calls of the hooks: it does not name a module, an observer refuses
it, or nobody knows what it means. -/
inductive Fails (source : List Char) : CallSite → σ → BuildError → σ → List ImportCall → Prop
  | dynamic {site : CallSite} {state : σ} (given : ∀ request argument, site.argument ≠ .text request argument) :
      Fails source site state
        (.staticImportRequired module (Text.lineColumn source site.call.start).1
          (Text.lineColumn source site.call.start).2 (dynamicReason site.argument)) state []
  | refused {site : CallSite} {request : String} {argument : Script.Span} {start final : σ}
      {error : BuildError} (static : site.argument = .text request argument)
      (observed : around.hooks.requireCall.show { request, module } start = .error error final) :
      Fails source site start error final [.requireCall { request, module }]
  | missing {site : CallSite} {request : String} {argument : Script.Span} {start shown final : σ}
      (static : site.argument = .text request argument)
      (observed : around.hooks.requireCall.show { request, module } start = .ok () shown)
      (asked : around.hooks.factorize.ask { request, context := module.parent?.getD ⟨"."⟩ } shown = (none, final))
      (lost : around.resolver.resolve? around.disk request (module.parent?.getD ⟨"."⟩) = none) :
      Fails source site start (.moduleNotFound request (module.parent?.getD ⟨"."⟩)) final
        (requestCalls module request)

variable {around module} {source : List Char} {start final : σ}

theorem passes_iff {site : CallSite} {found : Resolved} :
    resolveSite around module source site start = .ok found final ↔
      Passes around module site start found final := by
  constructor
  · intro resolved
    obtain ⟨request, argument, static, rfl, rfl, meant⟩ := resolveSite_eq_ok resolved
    obtain ⟨shown, answer, observed, asked, meaning⟩ := resolve_eq_ok_iff.1 meant
    exact .resolved static observed asked meaning
  · rintro ⟨static, observed, asked, meant⟩
    unfold resolveSite
    rw [static]
    exact bind_eq_ok.2 ⟨_, final, resolve_eq_ok_iff.2 ⟨_, _, observed, asked, meant⟩, rfl⟩

theorem allPass_iff {sites : List CallSite} {found : List Resolved} :
    resolveSites around module source sites start = .ok found final ↔
      AllPass around module sites start found final := by
  constructor
  · intro resolved
    induction sites generalizing start found with
    | nil =>
      obtain ⟨rfl, rfl⟩ := pure_eq_ok.1 resolved
      exact .done start
    | cons site sites ih =>
      obtain ⟨first, middle, head, remaining⟩ := bind_eq_ok.1 resolved
      obtain ⟨others, _, tail, ending⟩ := bind_eq_ok.1 remaining
      obtain ⟨rfl, rfl⟩ := pure_eq_ok.1 ending
      exact .next (passes_iff.1 head) (ih tail)
  · intro pass
    induction pass with
    | done state => rfl
    | next passes _ ih =>
      exact bind_eq_ok.2 ⟨_, _, passes_iff.2 passes, bind_eq_ok.2 ⟨_, _, ih, rfl⟩⟩

/-- Resolving a request fails where an observer refuses it, or where no hook claims it and no file is what it
means. -/
theorem resolve_eq_error_iff {request : String} {error : BuildError} :
    resolve around module request start = .error error final ↔
      around.hooks.requireCall.show { request, module } start = .error error final ∨
        ∃ shown, around.hooks.requireCall.show { request, module } start = .ok () shown ∧
          around.hooks.factorize.ask { request, context := module.parent?.getD ⟨"."⟩ } shown = (none, final) ∧
          around.resolver.resolve? around.disk request (module.parent?.getD ⟨"."⟩) = none ∧
          error = .moduleNotFound request (module.parent?.getD ⟨"."⟩) := by
  unfold resolve
  rw [bind_eq_error]
  refine or_congr_right ⟨?_, ?_⟩
  · rintro ⟨_, shown, observed, asking⟩
    refine ⟨shown, observed, ?_⟩
    rcases bind_eq_error.1 asking with never | ⟨answer, after, asked, deciding⟩
    · cases never
    · cases heard : around.hooks.factorize.ask { request, context := module.parent?.getD ⟨"."⟩ } shown with
      | mk given behind =>
        simp only [heard] at asked
        cases asked
        cases answer with
        | some provided => cases deciding
        | none =>
          cases lost : around.resolver.resolve? around.disk request (module.parent?.getD ⟨"."⟩) with
          | some path =>
            simp only [Resolver.resolve_of_some lost] at deciding
            cases deciding
          | none =>
            simp only [Resolver.resolve_of_none lost] at deciding
            cases deciding
            exact ⟨rfl, rfl, rfl⟩
  · rintro ⟨shown, observed, asked, lost, rfl⟩
    refine ⟨(), shown, observed, bind_eq_error.2 (.inr ⟨none, final, ?_, ?_⟩)⟩
    · simp only [asked]
    · simp only [Resolver.resolve_of_none lost]
      rfl

theorem resolveSite_of_dynamic {site : CallSite}
    (given : ∀ request argument, site.argument ≠ .text request argument) :
    resolveSite around module source site start =
      .error (.staticImportRequired module (Text.lineColumn source site.call.start).1
        (Text.lineColumn source site.call.start).2 (dynamicReason site.argument)) start := by
  unfold resolveSite
  cases argument : site.argument with
  | text request argument => exact absurd argument (given _ _)
  | _ => rfl

theorem fails_iff {site : CallSite} {error : BuildError} :
    resolveSite around module source site start = .error error final ↔
      ∃ calls, Fails around module source site start error final calls := by
  constructor
  · intro failed
    cases given : site.argument with
    | text request argument =>
      unfold resolveSite at failed
      rw [given] at failed
      rcases bind_eq_error.1 failed with refused | ⟨_, _, _, never⟩
      · rcases resolve_eq_error_iff.1 refused with observed | ⟨shown, observed, asked, lost, rfl⟩
        · exact ⟨_, .refused given observed⟩
        · exact ⟨_, .missing given observed asked lost⟩
      · cases never
    | _ =>
      have dynamic : ∀ request argument, site.argument ≠ .text request argument := by simp [given]
      cases (resolveSite_of_dynamic dynamic).symm.trans failed
      exact ⟨_, .dynamic dynamic⟩
  · rintro ⟨calls, failing⟩
    cases failing with
    | dynamic given => exact resolveSite_of_dynamic given
    | refused static observed =>
      unfold resolveSite
      rw [static]
      exact bind_eq_error.2 (.inl (resolve_eq_error_iff.2 (.inl observed)))
    | missing static observed asked lost =>
      unfold resolveSite
      rw [static]
      exact bind_eq_error.2 (.inl (resolve_eq_error_iff.2 (.inr ⟨_, observed, asked, lost, rfl⟩)))

/-- Resolving fails where one import fails after others that are resolved. -/
theorem resolveSites_eq_error_iff {sites : List CallSite} {error : BuildError} :
    resolveSites around module source sites start = .error error final ↔
      ∃ front site behind found middle calls, sites = front ++ site :: behind ∧
        AllPass around module front start found middle ∧
        Fails around module source site middle error final calls := by
  constructor
  · intro failed
    induction sites generalizing start with
    | nil => cases failed
    | cons site sites ih =>
      rcases bind_eq_error.1 failed with here | ⟨first, middle, head, later⟩
      · obtain ⟨calls, failing⟩ := fails_iff.1 here
        exact ⟨[], site, sites, [], start, calls, rfl, .done start, failing⟩
      · rcases bind_eq_error.1 later with behind | ⟨_, _, _, never⟩
        · obtain ⟨front, one, back, found, state, calls, rfl, pass, failing⟩ := ih behind
          exact ⟨site :: front, one, back, first :: found, state, calls, rfl,
            .next (passes_iff.1 head) pass, failing⟩
        · cases never
  · rintro ⟨front, site, behind, found, middle, calls, rfl, pass, failing⟩
    induction pass with
    | done state => exact bind_eq_error.2 (.inl (fails_iff.2 ⟨calls, failing⟩))
    | next passes _ ih =>
      exact bind_eq_error.2 (.inr ⟨_, _, passes_iff.2 passes, bind_eq_error.2 (.inl (ih failing))⟩)

/-- An extraction fails where an import does: what it makes of the others can always be written. -/
theorem extract_eq_error_iff {text : String} {program : Script.Node} {error : BuildError}
    (parsed : Script.Node.ofText? text = .ok program) :
    extract around text module start = .error error final ↔
      resolveSites around module text.toList program.callSites start = .error error final := by
  have unfolded {failure : BuildError} {last : σ}
      (failed : resolveSites around module text.toList program.callSites start = .error failure last) :
      extract around text module start = .error failure last := by
    unfold extract
    rw [parsed]
    exact bind_eq_error.2 (.inl failed)
  refine ⟨fun failed => ?_, unfolded⟩
  cases resolved : resolveSites around module text.toList program.callSites start with
  | ok found last =>
    obtain ⟨result, ordered, extracted, -⟩ := exists_extracted parsed resolved
    cases extracted.symm.trans failed
  | error failure last =>
    cases (unfolded resolved).symm.trans failed
    rfl

end Sites

/-- Dependencies are those that imports were resolved to: each id once, in the order in which the ids are
first met, with what was met first under each. -/
structure Lists (found : List Dependency) (dependencies : List Dependency) : Prop where
  distinct : (dependencies.map Dependency.id).Nodup
  inOrder : dependencies.Pairwise fun one other =>
    (found.map Dependency.id).idxOf one.id < (found.map Dependency.id).idxOf other.id
  complete : ∀ one ∈ found, one.id ∈ dependencies.map Dependency.id
  first : ∀ need ∈ dependencies, found.find? (·.id == need.id) = some need

theorem first_of_mem_distinct {seen : List String} {found : List Dependency} {need : Dependency}
    (member : need ∈ distinct seen found) :
    need.id ∉ seen ∧ found.find? (·.id == need.id) = some need := by
  induction found generalizing seen with
  | nil => cases member
  | cons one found ih =>
    unfold distinct at member
    split at member
    · rename_i known
      obtain ⟨new, first⟩ := ih member
      have other : one.id ≠ need.id := fun same => new (same ▸ List.contains_iff_mem.1 known)
      exact ⟨new, by rw [List.find?_cons_of_neg (by simpa using other), first]⟩
    · rename_i unknown
      rcases List.mem_cons.1 member with rfl | later
      · exact ⟨fun known => unknown (List.contains_iff_mem.2 known), by simp⟩
      · obtain ⟨new, first⟩ := ih later
        obtain ⟨other, new⟩ := not_or.1 (mt List.mem_cons.2 new)
        exact ⟨new, by rw [List.find?_cons_of_neg (by simpa using Ne.symm other), first]⟩

theorem pairwise_distinct (seen : List String) (found : List Dependency) :
    (distinct seen found).Pairwise fun one other =>
      (found.map Dependency.id).idxOf one.id < (found.map Dependency.id).idxOf other.id := by
  induction found generalizing seen with
  | nil => exact .nil
  | cons one found ih =>
    have shifted {known : List String} (listed : one.id ∈ known) :
        (distinct known found).Pairwise fun first second =>
          ((one :: found).map Dependency.id).idxOf first.id <
            ((one :: found).map Dependency.id).idxOf second.id := by
      refine (ih known).imp_of_mem fun {first second} front back less => ?_
      have away {need : Dependency} (member : need ∈ distinct known found) : one.id ≠ need.id :=
        fun same => (first_of_mem_distinct member).1 (same ▸ listed)
      simpa [List.idxOf_cons, away front, away back] using less
    unfold distinct
    split
    · rename_i known
      exact shifted (List.contains_iff_mem.1 known)
    · refine List.pairwise_cons.2 ⟨fun need member => ?_, shifted (List.mem_cons_self)⟩
      have other : one.id ≠ need.id :=
        fun same => (first_of_mem_distinct member).1 (same ▸ List.mem_cons_self)
      simp [other]

theorem lists_distinct (found : List Dependency) : Lists found (distinct [] found) where
  distinct := by
    refine List.pairwise_map.2 ((pairwise_distinct [] found).imp fun less same => ?_)
    rw [same] at less
    exact Nat.lt_irrefl _ less
  inOrder := pairwise_distinct [] found
  complete one member := by
    obtain ⟨kept, listed, same⟩ := exists_mem_distinct member
    exact same ▸ List.mem_map_of_mem listed
  first need member := (first_of_mem_distinct member).2

section Recording

variable {ω : Type} {around : Surroundings (Session ω)} {module : Path} {source : List Char}
  {start final : Session ω}

/-- An observer that refuses an import has been shown it. -/
theorem show_recording_eq_error {hooks : ImportHooks (Session ω)} {call : RequireCall} {error : BuildError}
    (refused : hooks.requireCall.show call start = .error error final) (before : List ImportCall) :
    hooks.recording.requireCall.show call (start.withCalls before) =
      .error error (final.withCalls (before ++ [.requireCall call])) := by
  have taps (all : List (Tap (Observer (Session ω) RequireCall))) {session last : Session ω}
      (known : List ImportCall)
      (failed : callTaps (fun observe => observe call) (.hookFailure hooks.requireCall.name) all
        session = .error error last) :
      callTaps (fun observe => observe call) (.hookFailure hooks.requireCall.name)
        (all.map fun tap => ⟨tap.plugin, Session.besideObserver tap.callback⟩)
        (session.withCalls known) = .error error (last.withCalls known) := by
    induction all generalizing session with
    | nil => cases failed
    | cons tap all ih =>
      have plain : (session.withCalls known).plain = session := rfl
      simp only [List.map_cons, callTaps, Session.besideObserver, plain] at failed ⊢
      cases called : tap.callback call session with
      | ok _ middle =>
        rw [called] at failed
        exact ih failed
      | error cause middle =>
        rw [called] at failed
        cases failed
        rfl
  exact taps hooks.requireCall.taps (before ++ [.requireCall call]) refused

theorem Fails.recording {site : CallSite} {error : BuildError} {calls : List ImportCall}
    (fails : Fails around module source site start error final calls) (before : List ImportCall) :
    Fails around.recording module source site (start.withCalls before) error
      (final.withCalls (before ++ calls)) calls := by
  cases fails with
  | dynamic given =>
    rw [List.append_nil]
    exact .dynamic given
  | refused static observed => exact .refused static (show_recording_eq_error observed before)
  | missing static observed asked lost =>
    refine .missing static (records_show around.hooks _ observed before) ?_ lost
    rw [show around.recording.hooks = around.hooks.recording from rfl, ask_recording, asked,
      List.append_assoc]
    rfl

theorem AllPass.recording {sites : List CallSite} {found : List Resolved}
    (pass : AllPass around module sites start found final) (before : List ImportCall) :
    AllPass around.recording module sites (start.withCalls before) found
      (final.withCalls (before ++ sites.flatMap (siteCalls module))) :=
  allPass_iff.1 (records_resolveSites around module [] sites (allPass_iff.2 pass) before)

theorem extract_recording_eq_ok {text : String} {program : Script.Node} {extracted : Extracted}
    (parsed : Script.Node.ofText? text = .ok program)
    (extraction : extract around text module start = .ok extracted final) (before : List ImportCall) :
    extract around.recording text module (start.withCalls before) =
      .ok extracted (final.withCalls (before ++ program.callSites.flatMap (siteCalls module))) := by
  obtain ⟨_, found, result, same, resolved, made, rfl⟩ := extract_eq_ok extraction
  cases parsed.symm.trans same
  unfold extract
  rw [parsed]
  refine bind_eq_ok.2 ⟨found, _, records_resolveSites around module _ _ resolved before, ?_⟩
  simp only [made]
  rfl

/-- An extraction resolves the imports of a program one after another, in the order of the call sites. It
fails just where one of them fails, with the first failure, and has called the hooks for the imports in front
of it and as far as it got for that one. Otherwise the ids of its dependencies are those of the imports, each
once, in the order of their first use, and every import is rewritten to its id. -/
theorem extract_in_order {text : String} {program : Script.Node}
    (parsed : Script.Node.ofText? text = .ok program) (around : Surroundings (Session ω)) (module : Path)
    (start : Session ω) :
    (∀ error final, extract around text module start = .error error final ↔
      ∃ front site behind found middle calls, program.callSites = front ++ site :: behind ∧
        AllPass around module front start found middle ∧
        Fails around module text.toList site middle error final calls) ∧
    (∀ {front behind : List CallSite} {site : CallSite} {found : List Resolved}
      {middle final : Session ω} {error : BuildError} {calls : List ImportCall},
      program.callSites = front ++ site :: behind → AllPass around module front start found middle →
        Fails around module text.toList site middle error final calls → ∀ before,
          extract around.recording text module (start.withCalls before) =
            .error error (final.withCalls (before ++ front.flatMap (siteCalls module) ++ calls))) ∧
    ∀ extracted final, extract around text module start = .ok extracted final →
      (∃ found ordered, AllPass around module program.callSites start found final ∧
        Lists (found.map Resolved.dependency) extracted.dependencies ∧
        ordered.Perm (interpreterEdits program ++ found.flatMap Resolved.edits) ∧
        Spliced 0 ordered text.toList extracted.source.toList) ∧
      ∀ before, extract around.recording text module (start.withCalls before) =
        .ok extracted (final.withCalls (before ++ program.callSites.flatMap (siteCalls module))) := by
  refine ⟨fun error final => ?_, ?_, fun extracted final extraction => ⟨?_, ?_⟩⟩
  · rw [extract_eq_error_iff parsed, resolveSites_eq_error_iff]
  · intro front behind site found middle final error calls sites pass fails before
    refine (extract_eq_error_iff parsed).2 (resolveSites_eq_error_iff.2 ?_)
    exact ⟨front, site, behind, found, _, calls, sites, pass.recording before, fails.recording _⟩
  · obtain ⟨_, found, _, same, resolved, _, _⟩ := extract_eq_ok extraction
    cases parsed.symm.trans same
    obtain ⟨result, ordered, again, shuffled, spliced⟩ := exists_extracted parsed resolved
    cases again.symm.trans extraction
    refine ⟨found, ordered, allPass_iff.1 resolved, lists_distinct _, shuffled, ?_⟩
    rwa [String.toList_ofList]
  · exact extract_recording_eq_ok parsed extraction

end Recording

/-- An import that does not say what it imports, in front of one that does. -/
def dynamicSource : String := "require('a'); require(b); require('c')"

/-- Two imports of one module, with another one between them. -/
def repeatedSource : String := "require('a'); require('b'); require('a')"

def idsOrFailure : EStateM.Result BuildError (Session Unit) Extracted → List String ⊕ BuildError
  | .ok extracted _ => .inl (extracted.dependencies.map Dependency.id)
  | .error error _ => .inr error

theorem repeated_in_order :
    (∃ (program : Script.Node) (extracted : Extracted) (final : Session Unit) (found : List Resolved),
      Script.Node.ofText? repeatedSource = .ok program ∧
      extract claiming repeatedSource ⟨"/index.js"⟩ (Session.new ()) = .ok extracted final ∧
      extracted.dependencies.map Dependency.id = [externalId "a", externalId "b"] ∧
      AllPass claiming ⟨"/index.js"⟩ program.callSites (Session.new ()) found final ∧
      Lists (found.map Resolved.dependency) extracted.dependencies) ∧
    ∃ (program : Script.Node) (front behind : List CallSite) (site : CallSite) (found : List Resolved)
      (middle final : Session Unit) (calls : List ImportCall),
      Script.Node.ofText? dynamicSource = .ok program ∧
      program.callSites = front ++ site :: behind ∧
      AllPass claiming ⟨"/index.js"⟩ front (Session.new ()) found middle ∧
      Fails claiming ⟨"/index.js"⟩ dynamicSource.toList site middle
        (.staticImportRequired ⟨"/index.js"⟩ 1 15 "argument is not a string literal") final calls := by
  constructor
  · have ids : idsOrFailure (extract claiming repeatedSource ⟨"/index.js"⟩ (Session.new ())) =
        .inl [externalId "a", externalId "b"] := by decide +kernel
    cases extraction : extract claiming repeatedSource ⟨"/index.js"⟩ (Session.new ()) with
    | error error final =>
      rw [extraction] at ids
      cases ids
    | ok extracted final =>
      rw [extraction] at ids
      obtain ⟨program, -, -, parsed, -⟩ := extract_eq_ok extraction
      obtain ⟨⟨found, ordered, pass, lists, -⟩, -⟩ :=
        (extract_in_order parsed claiming ⟨"/index.js"⟩ (Session.new ())).2.2 extracted final extraction
      exact ⟨program, extracted, final, found, parsed, rfl, Sum.inl.inj ids, pass, lists⟩
  · have failure : idsOrFailure (extract claiming dynamicSource ⟨"/index.js"⟩ (Session.new ())) =
        .inr (.staticImportRequired ⟨"/index.js"⟩ 1 15 "argument is not a string literal") := by
      decide +kernel
    have parses : (Script.Node.ofText? dynamicSource).toOption.isSome = true := by decide +kernel
    cases parsed : Script.Node.ofText? dynamicSource with
    | error fault =>
      rw [parsed] at parses
      cases parses
    | ok program =>
      cases extraction : extract claiming dynamicSource ⟨"/index.js"⟩ (Session.new ()) with
      | ok extracted final =>
        rw [extraction] at failure
        cases failure
      | error error final =>
        rw [extraction] at failure
        cases failure
        obtain ⟨front, site, behind, found, middle, calls, sites, pass, fails⟩ :=
          ((extract_in_order parsed claiming ⟨"/index.js"⟩ (Session.new ())).1 _ final).1 extraction
        exact ⟨program, front, behind, site, found, middle, final, calls, rfl, sites, pass, fails⟩

end ModuleBundler.Import
