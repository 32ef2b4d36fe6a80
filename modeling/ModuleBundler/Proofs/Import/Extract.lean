import ModuleBundler.Import.Extract
import ModuleBundler.Proofs.Outcome

/-!
What the imports of a module turn out to mean: every dependency goes by the id of the module that it
leads to.
-/

namespace ModuleBundler.Import

variable {σ : Type} {around : Surroundings σ} {module : Path} {start final : σ}

def meaning? (around : Surroundings σ) (module : Path) (request : String) :
    Option ExternalModule → Option Dependency
  | some provided => some ⟨externalId request, request, .external provided⟩
  | none => (around.resolver.resolve? around.disk request (module.parent?.getD ⟨"."⟩)).map
      fun path => ⟨around.resolver.moduleId path, request, .file path⟩

theorem meaning?_none_eq_some {request : String} {dependency : Dependency} :
    meaning? around module request none = some dependency ↔
      ∃ path, around.resolver.resolve? around.disk request (module.parent?.getD ⟨"."⟩) = some path ∧
        ⟨around.resolver.moduleId path, request, .file path⟩ = dependency := by
  rw [meaning?, Option.map_eq_some_iff]

/-- An import is shown to the hooks, may be claimed by them, and then has its meaning. -/
theorem resolve_eq_ok_iff {request : String} {dependency : Dependency} :
    resolve around module request start = .ok dependency final ↔
      ∃ shown answer, around.hooks.requireCall.show { request, module } start = .ok () shown ∧
        around.hooks.factorize.ask { request, context := module.parent?.getD ⟨"."⟩ } shown =
          (answer, final) ∧
        meaning? around module request answer = some dependency := by
  unfold resolve
  constructor
  · intro resolved
    obtain ⟨_, shown, showing, asking⟩ := bind_eq_ok.1 resolved
    obtain ⟨answer, asked, question, deciding⟩ := bind_eq_ok.1 asking
    cases heard : around.hooks.factorize.ask { request, context := module.parent?.getD ⟨"."⟩ } shown with
    | mk given after =>
      simp only [heard] at question
      cases question
      refine ⟨shown, answer, showing, ?_⟩
      cases answer with
      | some provided =>
        cases deciding
        exact ⟨heard, rfl⟩
      | none =>
        cases found : around.resolver.resolve? around.disk request (module.parent?.getD ⟨"."⟩) with
        | none =>
          simp only [Resolver.resolve_of_none found] at deciding
          cases deciding
        | some path =>
          simp only [Resolver.resolve_of_some found] at deciding
          cases deciding
          exact ⟨heard, meaning?_none_eq_some.2 ⟨path, found, rfl⟩⟩
  · rintro ⟨shown, answer, showing, asked, meant⟩
    refine bind_eq_ok.2 ⟨(), shown, showing, bind_eq_ok.2 ⟨answer, final, ?_, ?_⟩⟩
    · simp only [asked]
    · cases answer with
      | some provided =>
        cases meant
        rfl
      | none =>
        obtain ⟨path, found, rfl⟩ := meaning?_none_eq_some.1 meant
        simp only [Resolver.resolve_of_some found]
        rfl

theorem resolve_eq_ok {request : String} {dependency : Dependency}
    (resolved : resolve around module request start = .ok dependency final) :
    (∃ provided, dependency = ⟨externalId request, request, .external provided⟩) ∨
      ∃ path, around.resolver.resolve? around.disk request (module.parent?.getD ⟨"."⟩) = some path ∧
        dependency = ⟨around.resolver.moduleId path, request, .file path⟩ := by
  obtain ⟨_, answer, -, -, meant⟩ := resolve_eq_ok_iff.1 resolved
  cases answer with
  | some provided => exact .inl ⟨provided, (Option.some.inj meant).symm⟩
  | none =>
    obtain ⟨path, found, same⟩ := meaning?_none_eq_some.1 meant
    exact .inr ⟨path, found, same.symm⟩

theorem resolveSite_eq_ok {source : List Char} {site : Script.CallSite} {found : Resolved}
    (resolved : resolveSite around module source site start = .ok found final) :
    ∃ request argument, site.argument = .text request argument ∧ found.site = site ∧
      found.argument = argument ∧
      resolve around module request start = .ok found.dependency final := by
  unfold resolveSite at resolved
  cases given : site.argument with
  | text request argument =>
    rw [given] at resolved
    obtain ⟨dependency, _, resolving, ending⟩ := bind_eq_ok.1 resolved
    obtain ⟨rfl, rfl⟩ := pure_eq_ok.1 ending
    exact ⟨request, argument, rfl, rfl, rfl, resolving⟩
  | _ =>
    rw [given] at resolved
    cases resolved

def request? (site : Script.CallSite) : Option String :=
  match site.argument with
  | .text request _ => some request
  | _ => none

/-- Every resolved import comes from a successful resolution of the request of a call. -/
theorem exists_request_of_mem_resolveSites {source : List Char} {sites : List Script.CallSite}
    {found : List Resolved} (resolved : resolveSites around module source sites start = .ok found final)
    {one : Resolved} (member : one ∈ found) :
    ∃ request ∈ sites.filterMap request?, ∃ before behind,
      resolve around module request before = .ok one.dependency behind := by
  induction sites generalizing start found with
  | nil =>
    obtain ⟨rfl, -⟩ := pure_eq_ok.1 resolved
    cases member
  | cons site sites ih =>
    unfold resolveSites at resolved
    obtain ⟨first, middle, head, remaining⟩ := bind_eq_ok.1 resolved
    obtain ⟨others, _, tail, ending⟩ := bind_eq_ok.1 remaining
    obtain ⟨rfl, rfl⟩ := pure_eq_ok.1 ending
    rcases List.mem_cons.1 member with rfl | later
    · obtain ⟨request, _, given, -, -, resolving⟩ := resolveSite_eq_ok head
      have own : request? site = some request := by rw [request?, given]
      exact ⟨request, List.mem_filterMap.2 ⟨site, List.mem_cons_self, own⟩, start, middle, resolving⟩
    · obtain ⟨request, listed, resolving⟩ := ih tail later
      obtain ⟨other, among, own⟩ := List.mem_filterMap.1 listed
      exact ⟨request, List.mem_filterMap.2 ⟨other, List.mem_cons_of_mem _ among, own⟩, resolving⟩

theorem resolve_of_mem_resolveSites {source : List Char} {sites : List Script.CallSite}
    {found : List Resolved} (resolved : resolveSites around module source sites start = .ok found final)
    {one : Resolved} (member : one ∈ found) :
    ∃ request before behind, resolve around module request before = .ok one.dependency behind := by
  obtain ⟨request, -, resolving⟩ := exists_request_of_mem_resolveSites resolved member
  exact ⟨request, resolving⟩

theorem distinct_subset (seen : List String) (dependencies : List Dependency) :
    distinct seen dependencies ⊆ dependencies := by
  induction dependencies generalizing seen with
  | nil => exact fun _ member => member
  | cons first dependencies ih =>
    unfold distinct
    split
    · exact fun _ member => List.mem_cons_of_mem _ (ih seen member)
    · intro one member
      rcases List.mem_cons.1 member with rfl | later
      · exact List.mem_cons_self
      · exact List.mem_cons_of_mem _ (ih _ later)

/-- Of every dependency the first one with its id is kept. -/
theorem exists_mem_distinct_or (seen : List String) {dependencies : List Dependency}
    {one : Dependency} (member : one ∈ dependencies) :
    one.id ∈ seen ∨ ∃ kept ∈ distinct seen dependencies, kept.id = one.id := by
  induction dependencies generalizing seen with
  | nil => cases member
  | cons first dependencies ih =>
    unfold distinct
    split
    · rename_i known
      rcases List.mem_cons.1 member with rfl | later
      · exact .inl (List.contains_iff_mem.1 known)
      · exact ih seen later
    · rcases List.mem_cons.1 member with rfl | later
      · exact .inr ⟨one, List.mem_cons_self, rfl⟩
      · rcases ih (first.id :: seen) later with known | ⟨kept, listed, same⟩
        · rcases List.mem_cons.1 known with same | before
          · exact .inr ⟨first, List.mem_cons_self, same.symm⟩
          · exact .inl before
        · exact .inr ⟨kept, List.mem_cons_of_mem _ listed, same⟩

theorem exists_mem_distinct {dependencies : List Dependency} {one : Dependency}
    (member : one ∈ dependencies) : ∃ kept ∈ distinct [] dependencies, kept.id = one.id :=
  (exists_mem_distinct_or [] member).resolve_left List.not_mem_nil

/-- What an extraction answers comes from resolving the calls of a program that its source writes. -/
theorem extract_eq_ok {source : String} {extracted : Extracted}
    (extraction : extract around source module start = .ok extracted final) :
    ∃ program resolved text, Script.Node.ofText? source = .ok program ∧
      resolveSites around module source.toList program.callSites start = .ok resolved final ∧
      Text.Edit.applyAll? (interpreterEdits program ++ resolved.flatMap Resolved.edits)
        source.toList = some text ∧
      extracted = ⟨String.ofList text, distinct [] (resolved.map Resolved.dependency)⟩ := by
  unfold extract at extraction
  cases parsed : Script.Node.ofText? source with
  | error fault =>
    rw [parsed] at extraction
    cases extraction
  | ok program =>
    rw [parsed] at extraction
    obtain ⟨resolved, _, resolving, editing⟩ := bind_eq_ok.1 extraction
    cases edited : Text.Edit.applyAll?
        (interpreterEdits program ++ resolved.flatMap Resolved.edits) source.toList with
    | none =>
      simp only [edited] at editing
      cases editing
    | some text =>
      simp only [edited] at editing
      obtain ⟨rfl, rfl⟩ := pure_eq_ok.1 editing
      exact ⟨program, resolved, text, rfl, resolving, edited, rfl⟩

theorem resolve_of_mem_extract {source : String} {extracted : Extracted}
    (extraction : extract around source module start = .ok extracted final) {need : Dependency}
    (member : need ∈ extracted.dependencies) :
    ∃ request before behind, resolve around module request before = .ok need behind := by
  obtain ⟨program, resolved, text, -, resolving, -, rfl⟩ := extract_eq_ok extraction
  obtain ⟨one, listed, rfl⟩ := List.mem_map.1 (distinct_subset _ _ member)
  exact resolve_of_mem_resolveSites resolving listed

end ModuleBundler.Import
