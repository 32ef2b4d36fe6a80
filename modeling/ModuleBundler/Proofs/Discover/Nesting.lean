import ModuleBundler.Proofs.Discover.Composed
import ModuleBundler.Proofs.Discover.Reading
import ModuleBundler.Proofs.Resolver

/-!
Calls within calls. Each call that waits for another one has put the module of a file into the graph, and
the call that it waits for finds it there; so no two of them are for the same module, and there are never
more of them than there are files.
-/

namespace ModuleBundler

section Failures

variable {σ : Type} {deep : Path}

theorem spares_show {α : Type} (hook : Hook (Observer σ α)) (value : α) :
    Spares (hook.show value) (.tooDeep deep) := by
  have taps (all : List (Tap (Observer σ α))) :
      Spares (callTaps (fun observe => observe value) (.hookFailure hook.name) all)
        (.tooDeep deep) := by
    induction all with
    | nil => exact .pure ()
    | cons tap all ih =>
      intro start final failed
      simp only [callTaps] at failed
      cases called : tap.callback value start with
      | ok _ middle =>
        rw [called] at failed
        exact ih middle final failed
      | error cause middle =>
        rw [called] at failed
        cases failed
  exact taps hook.taps

def Sparing (deep : Path) : Related σ σ :=
  fun _ action _ => Spares action (.tooDeep deep)

theorem composes_sparing : (Sparing deep : Related σ σ).Composes where
  pure found := .pure found
  throw _ other := .throw (other deep)
  bind spares continues := spares.bind continues

theorem Discover.spares_load (setup : Setup σ) (path : Path) :
    Spares (load setup path) (.tooDeep deep) := by
  have same : setup.Counterpart (Sparing deep) setup :=
    ⟨rfl, rfl, rfl, rfl, fun call => spares_show _ call, fun _ _ _ failed => by cases failed⟩
  exact same.load composes_sparing path

end Failures

namespace Discover

variable {σ : Type}

/-- A call that is to add the module of a file: how deep calls may still be nested, and what it is made
with. -/
structure Call (σ : Type) where
  depth : Nat
  path : Path
  graph : ModuleGraph
  state : σ

/-- The id of the module that a call is for. -/
def Call.id (setup : Setup σ) (call : Call σ) : String :=
  setup.around.resolver.moduleId call.path

/-- A moment in a call behind the insertion of its module, with the imports that are still to be followed
and what the graph and the state of the hooks are by then. -/
inductive Call.Inside (setup : Setup σ) (entry : String) :
    Call σ → List Dependency → ModuleGraph → σ → Prop where
  | following {depth : Nat} {path : Path} {before graph : ModuleGraph} {start read state : σ}
      {extracted : Import.Extracted} {front behind : List Dependency}
      (absent : before.contains (setup.around.resolver.moduleId path) = false)
      (source : load setup path start = .ok extracted read)
      (cut : extracted.dependencies = front ++ behind)
      (followed : front.forM (follow setup entry depth)
        ((before.insert (setup.normalModule entry path extracted)).2, read) = .ok () (graph, state)) :
      Inside setup entry ⟨depth + 1, path, before, start⟩ behind graph state

/-- A call is made by another one, for the import that this one is about to follow. -/
def Call.Nests (setup : Setup σ) (entry : String) (outer inner : Call σ) : Prop :=
  outer.depth = inner.depth + 1 ∧ ∃ need behind, need.target = .file inner.path ∧
    outer.Inside setup entry (need :: behind) inner.graph inner.state

inductive Stack (setup : Setup σ) (entry : String) (outermost : Call σ) :
    Call σ → List (Call σ) → Prop where
  | entered : Stack setup entry outermost outermost []
  | nested {outer inner : Call σ} {calls : List (Call σ)}
      (under : Stack setup entry outermost outer calls) (nests : outer.Nests setup entry inner) :
      Stack setup entry outermost inner (outer :: calls)

variable {setup : Setup σ} {entry : String}

def Setup.Rooted (setup : Setup σ) (path : Path) : Prop :=
  path.isAbsolute = true ∧ setup.around.disk.isFile path = true

theorem Setup.keeps_rooted (setup : Setup σ) : setup.Keeps setup.Rooted := by
  rintro path request found ⟨absolute, isFile⟩ looked
  have context := Path.isAbsolute_parent absolute isFile
  exact ⟨Resolver.isAbsolute_of_resolve? context looked, Resolver.isFile_of_resolve? looked⟩

theorem isFile_of_load {path : Path} {extracted : Import.Extracted} {before after : σ}
    (loaded : load setup path before = .ok extracted after) :
    setup.around.disk.isFile path = true := by
  obtain ⟨text, known, -⟩ := load_eq_ok.1 loaded
  unfold Setup.text? at known
  cases held : setup.around.disk.readText path with
  | error cause =>
    rw [held] at known
    cases known
  | ok raw => exact FileSystem.isFile_of_readText held

namespace Call.Inside

variable {call : Call σ} {behind : List Dependency} {graph : ModuleGraph} {state : σ}

theorem isFile (inside : call.Inside setup entry behind graph state) :
    setup.around.disk.isFile call.path = true := by
  cases inside with
  | following _ source _ _ => exact isFile_of_load source

theorem absent (inside : call.Inside setup entry behind graph state) :
    call.graph.contains (call.id setup) = false := by
  cases inside with
  | following absent _ _ _ => exact absent

theorem prefix_contents (inside : call.Inside setup entry behind graph state)
    (indexed : call.graph.Indexed) : graph.Indexed ∧ ∃ module, module.id = call.id setup ∧
      call.graph.contents ++ [module] <+: graph.contents := by
  cases inside with
  | following absent _ _ followed =>
    obtain ⟨later, more⟩ := (visits_of_forM followed).extends (indexed.insert _)
    rw [ModuleGraph.contents_insert absent] at more
    exact ⟨later, _, rfl, more⟩

theorem contains_of_contains (inside : call.Inside setup entry behind graph state)
    (indexed : call.graph.Indexed) {id : String} (known : call.graph.contains id = true) :
    graph.contains id = true := by
  obtain ⟨later, module, -, more⟩ := inside.prefix_contents indexed
  rw [indexed.contains_iff_mem_ids] at known
  rw [later.contains_iff_mem_ids]
  exact List.map_subset Module.id ((List.prefix_append _ _).trans more).subset known

theorem lacks_of_lacks (inside : call.Inside setup entry behind graph state)
    (indexed : call.graph.Indexed) {id : String} (lacking : graph.contains id = false) :
    call.graph.contains id = false := by
  by_contra found
  rw [Bool.not_eq_false] at found
  rw [inside.contains_of_contains indexed found] at lacking
  cases lacking

theorem contains_id (inside : call.Inside setup entry behind graph state)
    (indexed : call.graph.Indexed) : graph.contains (call.id setup) = true := by
  obtain ⟨later, module, named, more⟩ := inside.prefix_contents indexed
  rw [later.contains_iff_mem_ids, ← named]
  exact List.mem_map_of_mem (more.subset (List.mem_append_right _ (List.mem_singleton_self _)))

theorem sound {sound : Path → Prop} (keeps : setup.Keeps sound)
    (inside : call.Inside setup entry behind graph state) (own : sound call.path) {need : Dependency}
    (member : need ∈ behind) {path : Path} (file : need.target = .file path) : sound path := by
  cases inside with
  | following _ source cut _ =>
    refine sound_of_load keeps source own ?_ file
    rw [cut]
    exact List.mem_append_right _ member

end Call.Inside

/-- What is known while calls wait: their modules are in the graph, under ids of their own. -/
structure Piled (setup : Setup σ) (graph : ModuleGraph) (calls : List (Call σ)) : Prop where
  indexed : graph.Indexed
  known : ∀ call ∈ calls, graph.contains (call.id setup) = true
  distinct : (calls.map (Call.id setup)).Nodup
  files : ∀ call ∈ calls, setup.around.disk.isFile call.path = true

theorem Piled.inside {call : Call σ} {calls : List (Call σ)} {behind : List Dependency}
    {graph : ModuleGraph} {state : σ} (piled : Piled setup call.graph calls)
    (inside : call.Inside setup entry behind graph state) : Piled setup graph (call :: calls) := by
  have indexed := piled.indexed
  refine ⟨(inside.prefix_contents indexed).1, ?_, ?_, ?_⟩
  · intro other member
    rcases List.mem_cons.1 member with rfl | waits
    · exact inside.contains_id indexed
    · exact inside.contains_of_contains indexed (piled.known other waits)
  · rw [List.map_cons, List.nodup_cons]
    refine ⟨fun taken => ?_, piled.distinct⟩
    obtain ⟨other, waits, same⟩ := List.mem_map.1 taken
    have known := piled.known other waits
    rw [same, inside.absent] at known
    cases known
  · intro other member
    rcases List.mem_cons.1 member with rfl | waits
    · exact inside.isFile
    · exact piled.files other waits

/-- An id is not in a graph, and a file has it by some path. -/
def Setup.Misses (setup : Setup σ) (graph : ModuleGraph) (id : String) : Prop :=
  graph.contains id = false ∧
    ∃ path, setup.around.disk.isFile path = true ∧ setup.around.resolver.moduleId path = id

/-- A call that has inserted its module leaves its own id to no call that it makes, and none that it did not
find itself. -/
theorem Call.Inside.misses_less {call : Call σ} {behind : List Dependency} {graph : ModuleGraph}
    {state : σ} (inside : call.Inside setup entry behind graph state) (indexed : call.graph.Indexed) :
    setup.Misses call.graph (call.id setup) ∧ ¬setup.Misses graph (call.id setup) ∧
      ∀ id, setup.Misses graph id → setup.Misses call.graph id := by
  refine ⟨⟨inside.absent, call.path, inside.isFile, rfl⟩, ?_, ?_⟩
  · rintro ⟨still, -⟩
    rw [inside.contains_id indexed] at still
    cases still
  · rintro id ⟨lacking, file⟩
    exact ⟨inside.lacks_of_lacks indexed lacking, file⟩

namespace Stack

variable {outermost call : Call σ} {calls : List (Call σ)}

theorem piled (stack : Stack setup entry outermost call calls) (indexed : outermost.graph.Indexed) :
    Piled setup call.graph calls := by
  induction stack with
  | entered => exact ⟨indexed, by simp, .nil, by simp⟩
  | nested _ nests ih =>
    obtain ⟨-, need, behind, -, inside⟩ := nests
    exact ih.inside inside

theorem sound {sound : Path → Prop} (keeps : setup.Keeps sound)
    (stack : Stack setup entry outermost call calls) (start : sound outermost.path) :
    ∀ other ∈ call :: calls, sound other.path := by
  induction stack with
  | entered => simpa using start
  | nested _ nests ih =>
    obtain ⟨-, need, behind, file, inside⟩ := nests
    intro other member
    rcases List.mem_cons.1 member with rfl | waits
    · exact inside.sound keeps (ih _ List.mem_cons_self) List.mem_cons_self file
    · exact ih other waits

theorem under {outer inner : Call σ} (stack : Stack setup entry inner call calls)
    (nests : outer.Nests setup entry inner) : Stack setup entry outer call (calls ++ [outer]) := by
  induction stack with
  | entered => exact .nested .entered nests
  | nested _ further ih => exact .nested ih further

end Stack

/-- An import that is nested too deeply is that of a file. -/
theorem follow_eq_tooDeep {deep : Path} {depth : Nat} {need : Dependency} {graph : ModuleGraph} {state : σ}
    {final : ModuleGraph × σ}
    (failed : follow setup entry depth need (graph, state) = .error (.tooDeep deep) final) :
    ∃ inner after, need.target = .file inner ∧
      addModule setup entry depth inner (graph, state) = .error (.tooDeep deep) after := by
  cases target : need.target with
  | external library =>
    rw [follow_external target] at failed
    split at failed <;> cases failed
  | file inner =>
    rw [follow_file target] at failed
    cases called : addModule setup entry depth inner (graph, state) with
    | ok id after =>
      rw [called] at failed
      cases failed
    | error error after =>
      rw [called] at failed
      cases failed
      exact ⟨inner, _, rfl, called⟩

/-- A call in which calls are nested too deeply makes one of which that is so as well. -/
theorem exists_nests_of_tooDeep {deep : Path} {depth : Nat} {path : Path} {graph : ModuleGraph} {state : σ}
    {final : ModuleGraph × σ}
    (failed : addModule setup entry (depth + 1) path (graph, state) = .error (.tooDeep deep) final) :
    ∃ inner middle between after,
      Call.Nests setup entry ⟨depth + 1, path, graph, state⟩ ⟨depth, inner, middle, between⟩ ∧
        addModule setup entry depth inner (middle, between) = .error (.tooDeep deep) after := by
  cases known : graph.contains (setup.around.resolver.moduleId path) with
  | true =>
    rw [addModule_known known] at failed
    cases failed
  | false =>
    rw [addModule_new known] at failed
    cases source : load setup path state with
    | error error read =>
      rw [source] at failed
      cases failed
      exact absurd source (spares_load setup path _ _)
    | ok extracted read =>
      rw [source] at failed
      dsimp only at failed
      cases looping : extracted.dependencies.forM (follow setup entry depth)
          ((graph.insert (setup.normalModule entry path extracted)).2, read) with
      | ok _ last =>
        rw [looping] at failed
        cases failed
      | error error last =>
        rw [looping] at failed
        cases failed
        obtain ⟨front, need, behind, ⟨middle, between⟩, cut, followed, failing⟩ :=
          exists_of_forM_eq_error looping
        obtain ⟨inner, after, file, called⟩ := follow_eq_tooDeep failing
        exact ⟨inner, middle, between, after,
          ⟨rfl, need, behind, file, .following known source cut followed⟩, called⟩

theorem exists_stack_of_tooDeep {deep : Path} (depth : Nat) {path : Path} {graph : ModuleGraph}
    {state : σ} {final : ModuleGraph × σ}
    (failed : addModule setup entry depth path (graph, state) = .error (.tooDeep deep) final) :
    ∃ call calls, Stack setup entry ⟨depth, path, graph, state⟩ call calls ∧ calls.length = depth := by
  induction depth generalizing path graph state final with
  | zero => exact ⟨_, [], .entered, rfl⟩
  | succ depth ih =>
    obtain ⟨inner, middle, between, after, nests, called⟩ := exists_nests_of_tooDeep failed
    obtain ⟨call, calls, stack, length⟩ := ih called
    refine ⟨call, _, stack.under nests, ?_⟩
    rw [List.length_append, length, List.length_singleton]

end Discover

end ModuleBundler
