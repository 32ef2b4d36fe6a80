import ModuleBundler.Proofs.Build.Entries
import ModuleBundler.Proofs.Discover.Counting

/-!
How deep the calls of a discovery are nested, and how many modules it makes. It never comes to the limit that
is set for it, and where entries are resolved in an absolute directory the files of the file system bound
both.
-/

namespace ModuleBundler.Bundler

open Discover (Call Piled Setup Stack)

variable {ω : Type} {setup : Setup (Session ω)}

/-- A call of a discovery is under way for an entry, when those in front of it have been discovered; the
calls that wait for it are listed, the latest first. -/
inductive UnderWay (setup : Setup (Session ω)) (asked : List (String × Path))
    (compilation : Compilation) (session : Session ω) :
    String → Call (Session ω) → List (Call (Session ω)) → Prop where
  | entered {front back : List (String × Path)} {name : String} {path file : Path}
      {before : Compilation} {between : Session ω} {call : Call (Session ω)}
      {calls : List (Call (Session ω))} (cut : asked = front ++ (name, path) :: back)
      (found : discover setup front compilation session = .ok before between)
      (resolved : setup.around.resolver.resolve? setup.around.disk path.text before.root = some file)
      (stack : Stack setup name ⟨FileSystem.pathCount + 1, file, before.graph, between⟩ call calls) :
      UnderWay setup asked compilation session name call calls

/-- What the files bound: the calls that have put modules into a graph are for different files, and there
are no more of them, nor of the modules made of files, than there are files. -/
structure Bounded (setup : Setup (Session ω)) (graph : ModuleGraph)
    (calls : List (Call (Session ω))) : Prop where
  distinct : (calls.map (Call.id setup)).Nodup
  files : ∀ call ∈ calls, setup.around.disk.placeOf call.path ∈ setup.around.disk.files ∧
    call.id setup = setup.around.resolver.fileId (setup.around.disk.placeOf call.path)
  depth : calls.length ≤ setup.around.disk.files.card
  modules : graph.normalContents.length ≤ setup.around.disk.files.card

theorem bounded_of_piled {graph : ModuleGraph} {calls : List (Call (Session ω))}
    (piled : Piled setup graph calls) (rooted : ∀ call ∈ calls, setup.Rooted call.path)
    (sourced : setup.Sourced graph) : Bounded setup graph calls := by
  refine ⟨piled.distinct, ?_, ?_, sourced.length_le piled.indexed⟩
  · intro call member
    obtain ⟨absolute, isFile⟩ := rooted call member
    exact ⟨FileSystem.placeOf_mem_files isFile,
      setup.around.resolver.moduleId_of_isAbsolute setup.around.disk absolute⟩
  · rw [← List.length_map (Call.id setup)]
    refine Discover.length_le_of_mem_fileIds piled.distinct fun id member => ?_
    obtain ⟨call, listed, rfl⟩ := List.mem_map.1 member
    exact (rooted call listed).id_mem

theorem rooted_of_resolve? {root path : Path} (absolute : root.isAbsolute = true) {request : String}
    (resolved : setup.around.resolver.resolve? setup.around.disk request root = some path) :
    setup.Rooted path :=
  ⟨Resolver.isAbsolute_of_resolve? absolute resolved, Resolver.isFile_of_resolve? resolved⟩

theorem Enters.sourced {root : Path} (absolute : root.isAbsolute = true)
    {asked : List (String × Path)} {graph final : ModuleGraph} {session last : Session ω}
    {entries : List EntryPoint} (enters : Enters setup root asked graph session entries final last)
    (indexed : graph.Indexed) (sourced : setup.Sourced graph) : setup.Sourced final := by
  induction enters with
  | done => exact sourced
  | @next one asked entry entries graph middle final session between last located visits rest ih =>
    refine ih (visits.extends indexed).1 (visits.sourced indexed sourced ?_)
    intro need member path file
    obtain rfl := List.mem_singleton.1 member
    cases file
    exact rooted_of_resolve? absolute located.path

namespace UnderWay

variable {asked : List (String × Path)} {compilation : Compilation} {session : Session ω}
  {name : String} {call : Call (Session ω)} {calls : List (Call (Session ω))}

theorem piled (underWay : UnderWay setup asked compilation session name call calls)
    (indexed : compilation.graph.Indexed) : Piled setup call.graph calls := by
  obtain ⟨-, found, -, stack⟩ := underWay
  obtain ⟨entries, -, enters⟩ := enters_of_discover found
  exact stack.piled (enters.extends indexed).1

/-- From an absolute directory the calls that are under way are for files at absolute paths, and the modules
that there are by then are those of files. -/
theorem sourced (underWay : UnderWay setup asked compilation session name call calls)
    (absolute : compilation.root.isAbsolute = true) (indexed : compilation.graph.Indexed)
    (bare : setup.Sourced compilation.graph) :
    (∀ other ∈ call :: calls, setup.Rooted other.path) ∧ setup.Sourced call.graph := by
  obtain ⟨-, found, resolved, stack⟩ := underWay
  rw [root_of_discover found] at resolved
  obtain ⟨entries, -, enters⟩ := enters_of_discover found
  have start := rooted_of_resolve? absolute resolved
  exact ⟨stack.sound setup.keeps_rooted start,
    stack.sourced (enters.extends indexed).1 (enters.sourced absolute indexed bare) start⟩

end UnderWay

theorem discover_spares_tooDeep {deep : Path} {asked : List (String × Path)}
    {compilation : Compilation} (indexed : compilation.graph.Indexed) :
    Spares (discover setup asked compilation) (.tooDeep deep) := by
  intro session last failed
  induction asked generalizing compilation session with
  | nil => cases failed
  | cons one asked ih =>
    obtain ⟨name, path⟩ := one
    rcases bind_eq_error.1 failed with here | ⟨next, middle, first, later⟩
    · unfold discoverEntry at here
      cases resolved :
          setup.around.resolver.resolve? setup.around.disk path.text compilation.root with
      | none =>
        rw [Resolver.resolve_of_none resolved] at here
        cases here
      | some file =>
        rw [Resolver.resolve_of_some resolved] at here
        rcases bind_eq_error.1 here with adding | ⟨_, _, _, ending⟩
        · unfold addEntryModules at adding
          generalize called : Discover.addEntry setup name file (compilation.graph, session) = outcome
            at adding
          cases outcome with
          | ok id state => cases adding
          | error error state =>
            cases adding
            exact Discover.addEntry_spares_tooDeep indexed session _ called
        · cases ending
    · obtain ⟨file, graph, -, visits, shape⟩ := discoverEntry_eq_ok first
      refine ih ?_ middle later
      rw [shape]
      exact (visits.extends indexed).1

/-- A discovery does not end because its calls are nested too deeply. At any moment the calls that have put
their modules into the graph are for files whose ids differ, and a call that has done so leaves fewer ids of
files to those that it makes. If entries are resolved in an absolute directory, as those of a configuration
that was loaded are, then a file has one id: there are never more modules made of files than files, and calls
are nested by at most one more. (In a relative directory a file has an id for each way out of it and back, so
that only the paths that can be looked up bound them.) -/
theorem discover_bounded (config : Config) (session : Session ω) :
    (∀ deep, Spares (discover setup config.entries.entries (.new config)) (.tooDeep deep)) ∧
    (∀ name call calls,
      UnderWay setup config.entries.entries (.new config) session name call calls →
        Piled setup call.graph calls ∧
        ∀ behind graph state, call.Inside setup name behind graph state →
          Piled setup graph (call :: calls) ∧ setup.Misses call.graph (call.id setup) ∧
            ¬setup.Misses graph (call.id setup) ∧
            ∀ id, setup.Misses graph id → setup.Misses call.graph id) ∧
    (config.contextDirectory.isAbsolute = true →
      (∀ name call calls,
        UnderWay setup config.entries.entries (.new config) session name call calls →
          Bounded setup call.graph calls ∧
          (call :: calls).length ≤ setup.around.disk.files.card + 1 ∧
          (∀ behind graph state, call.Inside setup name behind graph state →
            Bounded setup graph (call :: calls)) ∧
          ∀ inner, call.Nests setup name inner →
            (setup.unread inner.graph).card < (setup.unread call.graph).card) ∧
      ∀ compilation last,
        discover setup config.entries.entries (.new config) session = .ok compilation last →
          compilation.graph.normalContents.length ≤ setup.around.disk.files.card) := by
  have empty : (Compilation.new config).graph.Indexed := ModuleGraph.indexed_empty
  have bare : setup.Sourced (Compilation.new config).graph :=
    fun module member => absurd member List.not_mem_nil
  refine ⟨fun deep => discover_spares_tooDeep empty, ?_, fun absolute => ⟨?_, ?_⟩⟩
  · intro name call calls underWay
    have piled := underWay.piled empty
    refine ⟨piled, fun behind graph state inside => ?_⟩
    exact ⟨piled.inside inside, inside.misses_less piled.indexed⟩
  · intro name call calls underWay
    have piled := underWay.piled empty
    obtain ⟨rooted, sourced⟩ := underWay.sourced absolute empty bare
    have bounded := bounded_of_piled piled (fun other waits => rooted other (.tail _ waits)) sourced
    refine ⟨bounded, Nat.succ_le_succ bounded.depth, ?_, ?_⟩
    · intro behind graph state inside
      exact bounded_of_piled (piled.inside inside) rooted
        (inside.sourced piled.indexed sourced (rooted _ List.mem_cons_self))
    · rintro inner ⟨-, need, behind, -, inside⟩
      exact Finset.card_lt_card (inside.unread_ssubset piled.indexed (rooted _ List.mem_cons_self))
  · intro compilation last found
    obtain ⟨entries, -, enters⟩ := enters_of_discover found
    exact (enters.sourced absolute empty bare).length_le (enters.extends empty).1

def loadedTargets : EStateM.Result BuildError (Session Unit) Import.Extracted → List Target
  | .ok extracted _ => extracted.dependencies.map (·.target)
  | .error _ _ => []

/-- While the first entry is discovered, its file waits for the one that it requires. -/
theorem circle_bounded : ∃ outer inner,
    UnderWay circleSetup circleConfig.entries.entries (.new circleConfig) (.new ()) "left" inner
      [outer] ∧
    outer.path = ⟨"/left"⟩ ∧ inner.path = ⟨"/shared"⟩ ∧
    Bounded circleSetup inner.graph [outer] ∧
    (circleSetup.unread inner.graph).card < (circleSetup.unread outer.graph).card := by
  have targets : loadedTargets (Discover.load circleSetup ⟨"/left"⟩ (.new ())) =
      [.file ⟨"/shared"⟩] := by decide +kernel
  cases source : Discover.load circleSetup ⟨"/left"⟩ (.new ()) with
  | error error read =>
    rw [source] at targets
    cases targets
  | ok extracted read =>
    rw [source] at targets
    obtain ⟨need, cut, file⟩ := List.map_eq_singleton_iff.1 targets
    have nests (depth : Nat) : Call.Nests circleSetup "left"
        ⟨depth + 1, ⟨"/left"⟩, .empty, .new ()⟩
        ⟨depth, ⟨"/shared"⟩,
          (ModuleGraph.empty.insert (circleSetup.normalModule "left" ⟨"/left"⟩ extracted)).2, read⟩ :=
      ⟨rfl, need, [], file, .following rfl source (cut.trans (List.nil_append _).symm) rfl⟩
    have asked : circleConfig.entries.entries =
        [] ++ ("left", ⟨"/left"⟩) :: [("right", ⟨"/right"⟩)] := by decide +kernel
    have resolved : circleSetup.around.resolver.resolve? circleSetup.around.disk "/left"
        (Compilation.new circleConfig).root = some ⟨"/left"⟩ := by decide +kernel
    have entered : UnderWay circleSetup circleConfig.entries.entries (.new circleConfig) (.new ())
        "left" ⟨FileSystem.pathCount + 1, ⟨"/left"⟩, .empty, .new ()⟩ [] :=
      .entered asked rfl resolved .entered
    have deeper : UnderWay circleSetup circleConfig.entries.entries (.new circleConfig) (.new ())
        "left" _ [_] := .entered asked rfl resolved (.nested .entered (nests FileSystem.pathCount))
    obtain ⟨-, -, counted⟩ := discover_bounded circleConfig (.new ())
    obtain ⟨all, -⟩ := counted (by decide +kernel)
    obtain ⟨-, -, -, fewer⟩ := all _ _ _ entered
    exact ⟨_, _, deeper, rfl, rfl, (all _ _ _ deeper).1, fewer _ (nests FileSystem.pathCount)⟩

/-- A project in the directory that the program is run in, which is given as such. -/
def aloneConfig : Config :=
  .ofEntry ⟨"."⟩ "index.js"

/-- A single file, which requires itself by its absolute path. -/
def aloneSetup : Discover.Setup (Session Unit) where
  around :=
    { disk := { nodes := [(["index.js"], .file "require('/index.js')".toUTF8)], workingDirectory := [] }
      resolver := .new aloneConfig.contextDirectory []
      hooks := Hooks.new.imports }
  pipeline := ⟨[]⟩
  transforms := {}

def fileIds : EStateM.Result BuildError (Session Unit) Compilation → List String
  | .ok compilation _ => compilation.graph.normalContents.map (·.id)
  | .error _ _ => []

/-- In a relative directory the file is found under two ids, so that there are more modules than files. -/
theorem file_found_twice : aloneConfig.contextDirectory.isAbsolute = false ∧
    ∃ compilation last,
      discover aloneSetup aloneConfig.entries.entries (.new aloneConfig) (.new ()) =
          .ok compilation last ∧
        compilation.graph.normalContents.map (·.id) = ["./index.js", ".//index.js"] ∧
        aloneSetup.around.disk.files.card = 1 ∧
        ¬compilation.graph.normalContents.length ≤ aloneSetup.around.disk.files.card := by
  refine ⟨by decide +kernel, ?_⟩
  have ids : fileIds (discover aloneSetup aloneConfig.entries.entries (.new aloneConfig) (.new ())) =
      ["./index.js", ".//index.js"] := by decide +kernel
  have single : aloneSetup.around.disk.files.card = 1 := by decide +kernel
  cases found : discover aloneSetup aloneConfig.entries.entries (.new aloneConfig) (.new ()) with
  | error error last =>
    rw [found] at ids
    cases ids
  | ok compilation last =>
    rw [found] at ids
    have listed : compilation.graph.normalContents.map (·.id) = ["./index.js", ".//index.js"] := ids
    refine ⟨compilation, last, rfl, listed, single, ?_⟩
    rw [single, ← List.length_map (·.id), listed]
    decide

end ModuleBundler.Bundler
