import ModuleBundler.Proofs.Discover.Visit
import ModuleBundler.Proofs.Graph.Contents
import ModuleBundler.Proofs.Import.Extract

/-!
The files that a discovery reads. A walk over imports reads one file after another, each for a module that
it puts behind the others, and whatever else it adds is provided by the environment.
-/

namespace ModuleBundler.Discover

variable {σ : Type}

def Setup.text? (setup : Setup σ) (path : Path) : Option String := do
  let raw ← (setup.around.disk.readText path).toOption
  (setup.pipeline.apply setup.transforms path raw).toOption

/-- What came out of a file: its imports as they were resolved, and its source with loader calls. -/
structure Reading where
  path : Path
  imports : List Import.Resolved
  source : String

namespace Reading

def extracted (reading : Reading) : Import.Extracted :=
  ⟨reading.source, Import.distinct [] (reading.imports.map (·.dependency))⟩

/-- The module that a file becomes, without owners. -/
def module (setup : Setup σ) (reading : Reading) : Module where
  id := setup.around.resolver.moduleId reading.path
  kind := .normal reading.path
  source := reading.source
  dependencies := reading.extracted.dependencies.map Dependency.id
  owners := []

/-- Reading a file takes the hooks from one state to another: every import call of its source is resolved,
in order, and replaced. -/
structure Takes (setup : Setup σ) (reading : Reading) (before after : σ) : Prop where
  loaded : load setup reading.path before = .ok reading.extracted after
  resolved : ∃ text program code, setup.text? reading.path = some text ∧
    Script.Node.ofText? text = .ok program ∧
    Import.resolveSites setup.around reading.path text.toList program.callSites before =
      .ok reading.imports after ∧
    Text.Edit.applyAll? (Import.interpreterEdits program ++
      reading.imports.flatMap Import.Resolved.edits) text.toList = some code ∧
    reading.source = String.ofList code

end Reading

/-- A file is loaded by extracting the imports of its transformed source. -/
theorem load_eq_ok {setup : Setup σ} {path : Path} {extracted : Import.Extracted} {before after : σ} :
    load setup path before = .ok extracted after ↔
      ∃ text, setup.text? path = some text ∧
        Import.extract setup.around text path before = .ok extracted after := by
  unfold load Setup.text?
  cases setup.around.disk.readText path with
  | error cause =>
    dsimp only
    rw [throw_apply]
    simp [Except.toOption]
  | ok raw =>
    dsimp only
    cases applied : setup.pipeline.apply setup.transforms path raw with
    | error error =>
      dsimp only
      rw [throw_apply]
      simp [Except.toOption, applied]
    | ok text => simp [Except.toOption, applied]

theorem exists_takes_of_load {setup : Setup σ} {path : Path} {extracted : Import.Extracted}
    {before after : σ} (loaded : load setup path before = .ok extracted after) :
    ∃ reading : Reading, reading.path = path ∧ reading.extracted = extracted ∧
      reading.Takes setup before after := by
  obtain ⟨text, known, extraction⟩ := load_eq_ok.1 loaded
  obtain ⟨program, imports, code, parsed, resolving, edited, rfl⟩ := Import.extract_eq_ok extraction
  exact ⟨⟨path, imports, String.ofList code⟩, rfl, rfl, loaded, text, program, code, known, parsed,
    resolving, edited, rfl⟩

def providedModule (id : String) (library : ExternalModule) : Module where
  id
  kind := .external library.global
  source := Bundle.externalSource library.global
  dependencies := []
  owners := []

theorem Reading.Takes.resolve {setup : Setup σ} {reading : Reading} {before after : σ}
    (takes : reading.Takes setup before after) {one : Import.Resolved}
    (member : one ∈ reading.imports) :
    ∃ request start final,
      Import.resolve setup.around reading.path request start = .ok one.dependency final := by
  obtain ⟨text, program, code, -, -, resolving, -⟩ := takes.resolved
  exact Import.resolve_of_mem_resolveSites resolving member

theorem Reading.id_mem_dependencies (setup : Setup σ) {reading : Reading} {one : Import.Resolved}
    (member : one ∈ reading.imports) :
    one.dependency.id ∈ (reading.module setup).dependencies := by
  obtain ⟨kept, listed, same⟩ := Import.exists_mem_distinct (List.mem_map_of_mem member)
  exact List.mem_map.2 ⟨kept, listed, same⟩

/-- One file after another is read, from a state of the hooks to another. -/
inductive Readings (setup : Setup σ) : List Reading → σ → σ → Prop where
  | done (state : σ) : Readings setup [] state state
  | next {reading : Reading} {readings : List Reading} {before between after : σ}
      (first : reading.Takes setup before between) (rest : Readings setup readings between after) :
      Readings setup (reading :: readings) before after

theorem Readings.append {setup : Setup σ} {front back : List Reading} {before between after : σ}
    (first : Readings setup front before between) (second : Readings setup back between after) :
    Readings setup (front ++ back) before after := by
  induction first with
  | done => exact second
  | next one _ ih => exact .next one (ih second)

theorem Readings.takes {setup : Setup σ} {readings : List Reading} {before after : σ}
    (chain : Readings setup readings before after) {reading : Reading} (member : reading ∈ readings) :
    ∃ start final, reading.Takes setup start final := by
  induction chain with
  | done => cases member
  | next first _ ih =>
    rcases List.mem_cons.1 member with rfl | later
    · exact ⟨_, _, first⟩
    · exact ih later

def Met (needs : List Dependency) (readings : List Reading) (need : Dependency) : Prop :=
  need ∈ needs ∨ ∃ reading ∈ readings, ∃ one ∈ reading.imports, one.dependency = need

theorem Met.mono {needs more : List Dependency} {readings others : List Reading} {need : Dependency}
    (met : Met needs readings need) (wider : needs ⊆ more) (longer : readings ⊆ others) :
    Met more others need := by
  rcases met with start | ⟨reading, listed, one, member, same⟩
  · exact .inl (wider start)
  · exact .inr ⟨reading, longer listed, one, member, same⟩

theorem Met.of_extracted {needs : List Dependency} {readings others : List Reading}
    {reading : Reading} {need : Dependency}
    (met : Met reading.extracted.dependencies readings need) (read : reading ∈ others)
    (longer : readings ⊆ others) : Met needs others need := by
  rcases met with start | later
  · obtain ⟨one, member, same⟩ := List.mem_map.1 (Import.distinct_subset _ _ start)
    exact .inr ⟨reading, read, one, member, same⟩
  · exact (Met.mono (.inr later) (List.nil_subset _) longer : Met [] others need).imp_left nofun

structure Explores (setup : Setup σ) (needs : List Dependency) (graph final : ModuleGraph)
    (readings : List Reading) : Prop where
  normal : final.normalContents = graph.normalContents ++ readings.map (Reading.module setup)
  sought : ∀ reading ∈ readings, ∃ need, Met needs readings need ∧ need.target = .file reading.path
  external : ∀ module ∈ final.contents, module ∈ graph.contents ∨ module.isExternal = false ∨
    ∃ need library, Met needs readings need ∧ need.target = .external library ∧
      module = providedModule need.id library

namespace Explores

variable {setup : Setup σ} {need : Dependency} {needs : List Dependency}
  {graph between final : ModuleGraph} {readings : List Reading}

theorem start (setup : Setup σ) (graph : ModuleGraph) : Explores setup [] graph graph [] :=
  ⟨by simp, by simp, fun _ member => .inl member⟩

/-- What one walk has read comes before what the next one reads. -/
theorem trans {others : List Dependency} {inside : List Reading}
    (first : Explores setup needs graph between inside)
    (second : Explores setup others between final readings) :
    Explores setup (needs ++ others) graph final (inside ++ readings) := by
  have front := List.subset_append_left needs others
  have back := List.subset_append_right needs others
  have within := List.subset_append_left inside readings
  have behind := List.subset_append_right inside readings
  refine ⟨?_, ?_, ?_⟩
  · rw [second.normal, first.normal, List.map_append, List.append_assoc]
  · intro reading member
    rcases List.mem_append.1 member with earlier | later
    · obtain ⟨need, met, file⟩ := first.sought reading earlier
      exact ⟨need, met.mono front within, file⟩
    · obtain ⟨need, met, file⟩ := second.sought reading later
      exact ⟨need, met.mono back behind, file⟩
  · intro module member
    rcases second.external module member with old | normal | ⟨need, library, met, claimed, made⟩
    · rcases first.external module old with before | normal | ⟨need, library, met, claimed, made⟩
      · exact .inl before
      · exact .inr (.inl normal)
      · exact .inr (.inr ⟨need, library, met.mono front within, claimed, made⟩)
    · exact .inr (.inl normal)
    · exact .inr (.inr ⟨need, library, met.mono back behind, claimed, made⟩)

theorem known (same : between.contents = graph.contents) : Explores setup [need] graph between [] := by
  refine ⟨?_, by simp, fun _ member => .inl (same ▸ member)⟩
  rw [ModuleGraph.normalContents, same, List.map_nil, List.append_nil, ModuleGraph.normalContents]

theorem provided {library : ExternalModule} (claimed : need.target = .external library)
    (added : between.contents = graph.contents ++ [providedModule need.id library]) :
    Explores setup [need] graph between [] := by
  refine ⟨?_, by simp, ?_⟩
  · rw [ModuleGraph.normalContents, added, List.filter_append, ModuleGraph.normalContents]
    simp [providedModule, Module.isExternal]
  · intro module member
    rw [added, List.mem_append, List.mem_singleton] at member
    rcases member with before | new
    · exact .inl before
    · exact .inr (.inr ⟨need, library, .inl List.mem_cons_self, claimed, new⟩)

/-- A file that is read adds its module and then what its imports add. -/
theorem loaded {reading : Reading} {inserted : ModuleGraph} {inside : List Reading}
    (file : need.target = .file reading.path)
    (added : inserted.contents = graph.contents ++ [reading.module setup])
    (inner : Explores setup reading.extracted.dependencies inserted between inside) :
    Explores setup [need] graph between (reading :: inside) := by
  have front : reading ∈ reading :: inside := List.mem_cons_self
  have within := List.subset_cons_self reading inside
  refine ⟨?_, ?_, ?_⟩
  · rw [inner.normal, ModuleGraph.normalContents, added, List.filter_append,
      ModuleGraph.normalContents]
    simp [Reading.module, Module.isExternal]
  · intro one member
    rcases List.mem_cons.1 member with rfl | nested
    · exact ⟨need, .inl List.mem_cons_self, file⟩
    · obtain ⟨other, met, target⟩ := inner.sought one nested
      exact ⟨other, met.of_extracted front within, target⟩
  · intro module member
    rcases inner.external module member with before | normal | ⟨other, library, met, target, made⟩
    · rw [added, List.mem_append, List.mem_singleton] at before
      rcases before with older | new
      · exact .inl older
      · exact .inr (.inl (new ▸ rfl))
    · exact .inr (.inl normal)
    · exact .inr (.inr ⟨other, library, met.of_extracted front within, target, made⟩)

variable {module : Module}

theorem exists_reading (explores : Explores setup needs .empty final readings)
    (member : module ∈ final.contents) (normal : module.isExternal = false) :
    ∃ reading ∈ readings, reading.module setup = module := by
  have listed : module ∈ final.normalContents := List.mem_filter.2 ⟨member, by rw [normal]; rfl⟩
  rw [explores.normal] at listed
  exact List.mem_map.1 listed

theorem exists_met (explores : Explores setup needs .empty final readings)
    (member : module ∈ final.contents) :
    ∃ need, Met needs readings need ∧
      ((∃ reading ∈ readings, need.target = .file reading.path ∧ reading.module setup = module) ∨
        ∃ library, need.target = .external library ∧ providedModule need.id library = module) := by
  rcases explores.external module member with old | normal | ⟨need, library, met, claimed, rfl⟩
  · cases old
  · obtain ⟨reading, read, same⟩ := explores.exists_reading member normal
    obtain ⟨need, met, file⟩ := explores.sought reading read
    exact ⟨need, met, .inl ⟨reading, read, file, same⟩⟩
  · exact ⟨need, met, .inr ⟨library, claimed, rfl⟩⟩

end Explores

/-- A property of paths that goes from a module to what its imports are resolved to. -/
def Setup.Keeps (setup : Setup σ) (sound : Path → Prop) : Prop :=
  ∀ path request found, sound path → setup.around.resolver.resolve? setup.around.disk request
    (path.parent?.getD ⟨"."⟩) = some found → sound found

theorem sound_of_load {setup : Setup σ} {sound : Path → Prop} (keeps : setup.Keeps sound)
    {path : Path} {extracted : Import.Extracted} {before after : σ}
    (loaded : load setup path before = .ok extracted after) (own : sound path) {need : Dependency}
    (member : need ∈ extracted.dependencies) {found : Path} (file : need.target = .file found) :
    sound found := by
  obtain ⟨reading, rfl, rfl, takes⟩ := exists_takes_of_load loaded
  obtain ⟨one, listed, same⟩ := List.mem_map.1 (Import.distinct_subset _ _ member)
  obtain ⟨request, _, _, resolving⟩ := takes.resolve listed
  rw [same] at resolving
  rcases Import.resolve_eq_ok resolving with ⟨provided, rfl⟩ | ⟨other, looked, rfl⟩
  · cases file
  · cases file
    exact keeps _ _ _ own looked

/-- A walk leaves the modules that are there in front of those that it adds. -/
theorem Visits.extends {setup : Setup σ} {entry : String} {needs : List Dependency}
    {graph final : ModuleGraph} {state last : σ}
    (visits : Visits setup entry needs graph state final last) (indexed : graph.Indexed) :
    final.Indexed ∧ graph.contents <+: final.contents := by
  induction visits with
  | done => exact ⟨indexed, List.prefix_rfl⟩
  | known _ _ ih =>
    obtain ⟨ended, more⟩ := ih (indexed.addOwner _ _)
    rw [ModuleGraph.contents_addOwner indexed] at more
    exact ⟨ended, more⟩
  | provided _ absent _ ih =>
    obtain ⟨ended, more⟩ := ih (indexed.insert _)
    rw [ModuleGraph.contents_insert absent] at more
    exact ⟨ended, (List.prefix_append _ _).trans more⟩
  | loaded _ absent _ _ _ ihInner ihRest =>
    obtain ⟨halfway, inside⟩ := ihInner (indexed.insert _)
    obtain ⟨ended, more⟩ := ihRest halfway
    rw [ModuleGraph.contents_insert absent] at inside
    exact ⟨ended, ((List.prefix_append _ _).trans inside).trans more⟩

/-- A walk reads one file for each module that it makes of a file, and in this order. -/
theorem Visits.explores {setup : Setup σ} {entry : String} {needs : List Dependency}
    {graph final : ModuleGraph} {state last : σ}
    (visits : Visits setup entry needs graph state final last) (indexed : graph.Indexed)
    {sound : Path → Prop} (keeps : setup.Keeps sound)
    (starts : ∀ need ∈ needs, ∀ path, need.target = .file path → sound path) :
    ∃ readings, Readings setup readings state last ∧ Explores setup needs graph final readings ∧
      ∀ reading ∈ readings, sound reading.path := by
  induction visits with
  | done => exact ⟨[], .done _, .start setup _, by simp⟩
  | known _ _ ih =>
    obtain ⟨readings, chain, explores, all⟩ :=
      ih (indexed.addOwner _ _) fun other member => starts other (List.mem_cons_of_mem _ member)
    have same := ModuleGraph.contents_addOwner indexed
    exact ⟨readings, chain, (Explores.known (same _ _)).trans explores, all⟩
  | @provided need _ library graph _ _ _ claimed absent _ ih =>
    obtain ⟨readings, chain, explores, all⟩ :=
      ih (indexed.insert _) fun other member => starts other (List.mem_cons_of_mem _ member)
    have added : (graph.insert (externalModule entry need.id library)).2.contents =
        graph.contents ++ [providedModule need.id library] := ModuleGraph.contents_insert absent
    exact ⟨readings, chain, (Explores.provided claimed added).trans explores, all⟩
  | loaded file absent source inner rest ihInner ihRest =>
    obtain ⟨reading, rfl, rfl, takes⟩ := exists_takes_of_load source
    have own : sound reading.path := starts _ List.mem_cons_self _ file
    obtain ⟨inside, innerChain, innerExplores, innerAll⟩ :=
      ihInner (indexed.insert _) fun other member path target =>
        sound_of_load keeps source own member target
    obtain ⟨others, restChain, restExplores, restAll⟩ :=
      ihRest (inner.extends (indexed.insert _)).1 fun other member =>
        starts other (List.mem_cons_of_mem _ member)
    have first : Explores setup [_] _ _ (reading :: inside) :=
      .loaded file (ModuleGraph.contents_insert absent) innerExplores
    refine ⟨reading :: inside ++ others, .next takes (innerChain.append restChain),
      first.trans restExplores, ?_⟩
    intro one member
    rcases List.mem_append.1 member with first | later
    · rcases List.mem_cons.1 first with rfl | nested
      · exact own
      · exact innerAll one nested
    · exact restAll one later

end ModuleBundler.Discover
