import ModuleBundler.Proofs.Discover.Recording

/-!
What the files of a graph ask for. Each module that the environment provides has become of such a request,
and goes by the id of it.
-/

namespace ModuleBundler.Discover

variable {ω : Type} {setup : Setup (Session ω)}

def Setup.requests (setup : Setup (Session ω)) (path : Path) : List String :=
  (setup.callSites path).filterMap Import.request?

/-- What the files ask for that the modules of a graph are made of, one module after another. -/
def Setup.graphRequests (setup : Setup (Session ω)) (graph : ModuleGraph) : List String :=
  graph.normalContents.flatMap fun module =>
    match module.kind with
    | .normal path => setup.requests path
    | .external _ => []

theorem Setup.mem_graphRequests {graph : ModuleGraph} {request : String} :
    request ∈ setup.graphRequests graph ↔ ∃ module ∈ graph.contents, ∃ path,
      module.kind = .normal path ∧ request ∈ setup.requests path := by
  rw [Setup.graphRequests, List.mem_flatMap]
  constructor
  · rintro ⟨module, member, asked⟩
    have listed := (List.mem_filter.1 member).1
    cases kind : module.kind with
    | normal path =>
      rw [kind] at asked
      exact ⟨module, listed, path, kind, asked⟩
    | external global =>
      rw [kind] at asked
      cases asked
  · rintro ⟨module, listed, path, kind, asked⟩
    have normal : module.isExternal = false := Module.isExternal_eq_false_iff.2 ⟨path, kind⟩
    exact ⟨module, List.mem_filter.2 ⟨listed, by rw [normal]; rfl⟩, by rw [kind]; exact asked⟩

theorem Reading.Takes.exists_program {reading : Reading} {before after : Session ω}
    (takes : reading.Takes setup before after) :
    ∃ text, ∃ program : Script.Node, Import.resolveSites setup.around reading.path text
        program.callSites before = .ok reading.imports after ∧
      setup.requests reading.path = program.callSites.filterMap Import.request? := by
  obtain ⟨text, program, code, known, parsed, resolving, -⟩ := takes.resolved
  exact ⟨text.toList, program, resolving, by rw [Setup.requests, setup.callSites_eq known parsed]⟩

theorem Reading.Takes.exists_request {reading : Reading} {before after : Session ω}
    (takes : reading.Takes setup before after) {one : Import.Resolved} (member : one ∈ reading.imports)
    {library : ExternalModule} (claimed : one.dependency.target = .external library) :
    ∃ request ∈ setup.requests reading.path, one.dependency.id = externalId request := by
  obtain ⟨text, program, resolving, requests⟩ := takes.exists_program
  obtain ⟨request, asked, _, _, resolved⟩ :=
    Import.exists_request_of_mem_resolveSites resolving member
  rw [requests]
  refine ⟨request, asked, ?_⟩
  rcases Import.resolve_eq_ok resolved with ⟨provided, same⟩ | ⟨path, -, same⟩
  · rw [same]
  · rw [same] at claimed
    cases claimed

theorem graphRequests_of_readings {graph : ModuleGraph} {readings : List Reading}
    (normal : graph.normalContents = readings.map (Reading.module setup)) :
    setup.graphRequests graph = readings.flatMap fun reading => setup.requests reading.path := by
  rw [Setup.graphRequests, normal, List.flatMap_map]
  rfl

/-- A module that the environment provides goes by the id of what some file asks for. -/
theorem Explores.exists_request {needs : List Dependency} {graph : ModuleGraph}
    {readings : List Reading} {session last : Session ω}
    (explores : Explores setup needs .empty graph readings)
    (chain : Readings setup readings session last)
    (starts : ∀ need ∈ needs, ∃ path, need.target = .file path) {module : Module}
    (member : module ∈ graph.contents) {global : String} (kind : module.kind = .external global) :
    ∃ request ∈ setup.graphRequests graph, module.id = externalId request := by
  obtain ⟨need, met, made⟩ := explores.exists_met member
  rcases made with ⟨reading, -, -, rfl⟩ | ⟨library, claimed, rfl⟩
  · cases kind
  · rcases met with start | ⟨reading, read, one, imported, rfl⟩
    · obtain ⟨path, file⟩ := starts need start
      rw [file] at claimed
      cases claimed
    · obtain ⟨before, after, takes⟩ := chain.takes read
      obtain ⟨request, asked, named⟩ := takes.exists_request imported claimed
      rw [graphRequests_of_readings explores.normal]
      exact ⟨request, List.mem_flatMap.2 ⟨reading, read, asked⟩, named⟩

end ModuleBundler.Discover
