import ModuleBundler.Proofs.Build.Entries
import ModuleBundler.Proofs.Config
import ModuleBundler.Proofs.Discover.Nesting

/-!
Which file a module is made of. Modules are told apart by their ids, and every entry and every import leads
to the module of an id; the module is made of the file that the id was first met for. So two files with one
id become one module, which from an absolute root happens to those whose paths differ in backslashes alone.
-/

namespace ModuleBundler.Bundler

open Discover (Explores Met Reading Readings Setup)

variable {ω : Type}

/-- An entry or an import of a file that is read goes by an id and was resolved to a file. -/
def Targets (entries : List EntryPoint) (readings : List Reading) (id : String) (path : Path) : Prop :=
  (∃ entry ∈ entries, entry.module = id ∧ entry.path = path) ∨
    ∃ reading ∈ readings, ∃ one ∈ reading.imports,
      one.dependency.id = id ∧ one.dependency.target = .file path

/-- The module of an id is made of the file that a path leads to. -/
def MadeOf (graph : ModuleGraph) (disk : FileSystem) (id : String) (path : Path) : Prop :=
  ∃ module source, graph.find? id = some module ∧ module.kind = .normal source ∧
    disk.placeOf source = disk.placeOf path

section Found

variable {setup : Setup (Session ω)} {root : Path} {asked : List (String × Path)}
  {graph : ModuleGraph} {session last : Session ω} {entries : List EntryPoint}
  {readings : List Reading}

/-- Every import that is met goes by the id of the file that it was resolved to, or by one of an external
module. -/
theorem cases_of_met (enters : Enters setup root asked .empty session entries graph last)
    (chain : Readings setup readings session last) {need : Dependency}
    (met : Met (entries.map EntryPoint.need) readings need) :
    (∃ path, need.target = .file path ∧ need.id = setup.around.resolver.moduleId path ∧
        Targets entries readings need.id path) ∨
      (∃ library, need.target = .external library) ∧ need.id = externalId need.request := by
  rcases met with first | ⟨reading, listed, one, member, rfl⟩
  · obtain ⟨entry, among, rfl⟩ := List.mem_map.1 first
    obtain ⟨_, -, located⟩ := enters.exists_located among
    exact .inl ⟨entry.path, rfl, located.module, .inl ⟨entry, among, rfl, rfl⟩⟩
  · obtain ⟨start, final, takes⟩ := chain.takes listed
    obtain ⟨request, _, _, resolving⟩ := takes.resolve member
    rcases Import.resolve_eq_ok resolving with ⟨library, same⟩ | ⟨path, -, same⟩
    · exact .inr ⟨⟨library, by rw [same]⟩, by rw [same]⟩
    · have target : one.dependency.target = .file path := by rw [same]
      exact .inl ⟨path, target, by rw [same], .inr ⟨reading, listed, one, member, rfl, target⟩⟩

theorem targets_of_met (enters : Enters setup root asked .empty session entries graph last)
    (chain : Readings setup readings session last) {need : Dependency}
    (met : Met (entries.map EntryPoint.need) readings need) {path : Path}
    (target : need.target = .file path) :
    need.id = setup.around.resolver.moduleId path ∧ Targets entries readings need.id path := by
  rcases cases_of_met enters chain met with ⟨found, same, named, held⟩ | ⟨⟨library, other⟩, -⟩
  · rw [target] at same
    cases same
    exact ⟨named, held⟩
  · rw [target] at other
    cases other

theorem exists_met {id : String} {path : Path} (targets : Targets entries readings id path) :
    ∃ need, Met (entries.map EntryPoint.need) readings need ∧ need.id = id ∧
      need.target = .file path := by
  rcases targets with ⟨entry, member, named, rfl⟩ | ⟨reading, listed, one, member, named, target⟩
  · exact ⟨entry.need, .inl (List.mem_map_of_mem member), named, rfl⟩
  · exact ⟨one.dependency, .inr ⟨reading, listed, one, member, rfl⟩, named, target⟩

theorem Targets.id_eq (enters : Enters setup root asked .empty session entries graph last)
    (chain : Readings setup readings session last) {id : String} {path : Path}
    (targets : Targets entries readings id path) : id = setup.around.resolver.moduleId path := by
  obtain ⟨need, met, rfl, target⟩ := exists_met targets
  exact (targets_of_met enters chain met target).1

/-- A module that goes by the id of a file is made of a file that was resolved to under this id. -/
theorem exists_source (enters : Enters setup root asked .empty session entries graph last)
    (chain : Readings setup readings session last)
    (explores : Explores setup (entries.map EntryPoint.need) .empty graph readings) {module : Module}
    (member : module ∈ graph.contents) {path : Path}
    (targets : Targets entries readings module.id path) :
    ∃ source, module.kind = .normal source ∧ Targets entries readings module.id source := by
  obtain ⟨need, met, made⟩ := explores.exists_met member
  rcases made with ⟨reading, read, target, rfl⟩ | ⟨library, target, rfl⟩
  · obtain ⟨named, held⟩ := targets_of_met enters chain met target
    rw [named] at held
    exact ⟨reading.path, rfl, held⟩
  · rcases cases_of_met enters chain met with ⟨found, same, -⟩ | ⟨-, named⟩
    · rw [target] at same
      cases same
    · have own := targets.id_eq enters chain
      exact absurd (own.symm.trans named) (moduleId_ne_externalId _ _ _)

theorem Targets.sound {sound : Path → Prop} (keeps : setup.Keeps sound)
    (starts : ∀ entry ∈ entries, sound entry.path) (chain : Readings setup readings session last)
    (read : ∀ reading ∈ readings, sound reading.path) {id : String} {path : Path}
    (targets : Targets entries readings id path) : sound path := by
  rcases targets with ⟨entry, member, -, rfl⟩ | ⟨reading, listed, one, member, -, target⟩
  · exact starts entry member
  · obtain ⟨start, final, takes⟩ := chain.takes listed
    obtain ⟨request, _, _, resolving⟩ := takes.resolve member
    rcases Import.resolve_eq_ok resolving with ⟨library, same⟩ | ⟨found, looked, same⟩
    · rw [same] at target
      cases target
    · rw [same] at target
      cases target
      exact keeps _ _ _ (read reading listed) looked

/-- The module of every id that leads to a file is made of one to which it leads. -/
theorem exists_module {compilation : Compilation} (settled : compilation.Settled)
    (enters : Enters setup root asked .empty session compilation.entries compilation.graph last)
    (chain : Readings setup readings session last)
    (explores : Explores setup (compilation.entries.map EntryPoint.need) .empty compilation.graph readings)
    {id : String} {path : Path} (targets : Targets compilation.entries readings id path) :
    ∃ module source, compilation.graph.find? id = some module ∧ module.kind = .normal source ∧
      Targets compilation.entries readings id source := by
  have present : id ∈ compilation.graph.contents.map Module.id := by
    rcases targets with ⟨entry, member, rfl, -⟩ | ⟨reading, listed, one, member, rfl, -⟩
    · exact (settled.indexed.contains_iff_mem_ids _).1 (settled.rooted entry member)
    · have normal : reading.module setup ∈ compilation.graph.normalContents := by
        rw [explores.normal]
        exact List.mem_append_right _ (List.mem_map_of_mem listed)
      exact mem_ids_of_settled settled _ (List.mem_filter.1 normal).1 _
        (Reading.id_mem_dependencies setup member)
  obtain ⟨module, member, rfl⟩ := List.mem_map.1 present
  obtain ⟨source, kind, also⟩ := exists_source enters chain explores member targets
  obtain ⟨found, looked, same⟩ := settled.indexed.bare_find?.2 ⟨member, rfl⟩
  exact ⟨found, source, looked, by rw [← kind, ← same]; rfl, also⟩

/-- Modules are made of the files that ids lead to exactly if no id leads to two files. -/
theorem forall_madeOf_iff {compilation : Compilation} (settled : compilation.Settled)
    (enters : Enters setup root asked .empty session compilation.entries compilation.graph last)
    (chain : Readings setup readings session last)
    (explores : Explores setup (compilation.entries.map EntryPoint.need) .empty compilation.graph readings)
    (disk : FileSystem) :
    (∀ id path, Targets compilation.entries readings id path → MadeOf compilation.graph disk id path) ↔
      ∀ id path other, Targets compilation.entries readings id path →
        Targets compilation.entries readings id other → disk.placeOf path = disk.placeOf other := by
  constructor
  · intro made id path other first second
    obtain ⟨module, source, looked, kind, place⟩ := made id path first
    obtain ⟨same, again, held, sort, spot⟩ := made id other second
    rw [looked] at held
    cases held
    rw [kind] at sort
    cases sort
    exact place.symm.trans spot
  · intro alone id path targets
    obtain ⟨module, source, looked, kind, also⟩ := exists_module settled enters chain explores targets
    exact ⟨module, source, looked, kind, alone id source path also targets⟩

end Found

/-- Every entry and every import that was resolved to a file leads to a module made of this file exactly if
no id leads to two files. From an absolute root two files have one id exactly if the ways to them are written
alike but for backslashes, so that none do where no path has a backslash. -/
theorem construct_made_of_iff {bundler : Bundler ω} {disk : FileSystem} {pipeline : TransformPipeline}
    {compilation : Compilation} {session last : Session ω}
    (found : bundler.construct disk pipeline session = .ok compilation last) :
    ∃ readings,
      Readings (bundler.setup disk bundler.config.contextDirectory pipeline) readings session last ∧
      compilation.graph.normalContents =
        readings.map (Reading.module (bundler.setup disk bundler.config.contextDirectory pipeline)) ∧
      ((∀ id path, Targets compilation.entries readings id path →
          MadeOf compilation.graph disk id path) ↔
        ∀ id path other, Targets compilation.entries readings id path →
          Targets compilation.entries readings id other → disk.placeOf path = disk.placeOf other) ∧
      (bundler.config.root.isAbsolute = true →
        (∀ id key path other, Targets compilation.entries readings id path →
          Targets compilation.entries readings key other →
          (id = key ↔
            (Location.relative (bundler.config.contextDirectory.place []) (disk.placeOf path)).unixText =
              (Location.relative (bundler.config.contextDirectory.place [])
                (disk.placeOf other)).unixText)) ∧
        (disk.BackslashFree → ∀ id path, Targets compilation.entries readings id path →
          MadeOf compilation.graph disk id path)) := by
  obtain ⟨settled, -⟩ := settled_discover bundler.config.entries.entries
    (settled_new bundler.config) bundler.config.entries.ascending (by simp [Compilation.new]) found
  obtain ⟨entries, listed, enters⟩ := enters_of_discover found
  obtain rfl : compilation.entries = entries := listed
  -- every path is that of a file, and absolute as soon as the root is
  have keeps : (bundler.setup disk bundler.config.contextDirectory pipeline).Keeps fun path =>
      disk.isFile path = true ∧ (bundler.config.root.isAbsolute = true → path.isAbsolute = true) := by
    rintro path request next ⟨isFile, absolute⟩ looked
    exact ⟨Resolver.isFile_of_resolve? looked, fun rooted =>
      Resolver.isAbsolute_of_resolve? (Path.isAbsolute_parent (absolute rooted) isFile) looked⟩
  have starts : ∀ entry ∈ compilation.entries, disk.isFile entry.path = true ∧
      (bundler.config.root.isAbsolute = true → entry.path.isAbsolute = true) := by
    intro entry member
    obtain ⟨one, -, located⟩ := enters.exists_located member
    exact ⟨Resolver.isFile_of_resolve? located.path, fun rooted =>
      Resolver.isAbsolute_of_resolve? (Config.isAbsolute_contextDirectory rooted) located.path⟩
  obtain ⟨readings, chain, explores, read⟩ :=
    enters.explores ModuleGraph.indexed_empty keeps starts
  have faithful := forall_madeOf_iff settled enters chain explores disk
  refine ⟨readings, chain, explores.normal, faithful, fun rooted => ⟨?_, fun free => faithful.2 ?_⟩⟩
  · intro id key path other first second
    have absolute := (first.sound keeps starts chain read).2 rooted
    have also := (second.sound keeps starts chain read).2 rooted
    rw [first.id_eq enters chain, second.id_eq enters chain,
      Resolver.moduleId_of_isAbsolute _ disk absolute, Resolver.moduleId_of_isAbsolute _ disk also]
    exact Resolver.fileId_eq_iff (Config.isAbsolute_contextDirectory rooted) _
      (Path.plain_place absolute _) (Path.plain_place also _)
  · intro id path other first second
    obtain ⟨isFile, absolute⟩ := first.sound keeps starts chain read
    obtain ⟨held, also⟩ := second.sound keeps starts chain read
    have same := (first.id_eq enters chain).symm.trans (second.id_eq enters chain)
    exact Resolver.placeOf_eq_of_moduleId_eq (Config.isAbsolute_contextDirectory rooted) _ free
      (absolute rooted) isFile (also rooted) held same

theorem circle_made_of : ∃ compilation last readings,
    circleBundler.construct circleDisk ⟨[]⟩ (.new ()) = .ok compilation last ∧
      compilation.graph.normalContents =
        readings.map (Reading.module (circleBundler.setup circleDisk ⟨"/"⟩ ⟨[]⟩)) ∧
      compilation.chunks.map (·.modules) =
        [["./left", "./shared", "./right"], ["./shared", "./right"]] ∧
      ∀ id path, Targets compilation.entries readings id path →
        MadeOf compilation.graph circleDisk id path := by
  have modules : chunkModules (circleBundler.construct circleDisk ⟨[]⟩ (.new ())) =
      [["./left", "./shared", "./right"], ["./shared", "./right"]] := by decide +kernel
  have free : circleDisk.BackslashFree := by simp [FileSystem.BackslashFree, circleDisk]
  cases found : circleBundler.construct circleDisk ⟨[]⟩ (.new ()) with
  | error error last =>
    rw [found] at modules
    cases modules
  | ok compilation last =>
    rw [found] at modules
    obtain ⟨readings, -, contents, -, faithful⟩ := construct_made_of_iff found
    exact ⟨compilation, last, readings, rfl, contents, modules,
      (faithful (by decide +kernel)).2 free⟩

/-- A file that requires one in a directory and one whose name is written like the path of that one but
for a backslash. -/
def backslashDisk : FileSystem where
  nodes := [
    (["proj"], .directory), (["proj", "src"], .directory), (["proj", "src", "a"], .directory),
    (["proj", "src", "index.js"],
      .file "require('./a/b.js');\nrequire('./a\\\\b.js');\n".toUTF8),
    (["proj", "src", "a", "b.js"], .file "exports.v = 1;\n".toUTF8),
    (["proj", "src", "a\\b.js"], .file "exports.v = 2;\n".toUTF8)]
  workingDirectory := []

def backslashBundler : Bundler Unit :=
  withPlugins { entry := .named (.ofList [("main", "src/index.js")]), root := ⟨"/proj"⟩ } []

def backslashSetup : Setup (Session Unit) :=
  backslashBundler.setup backslashDisk backslashBundler.config.contextDirectory ⟨[]⟩

def idsAndTargets (setup : Setup (Session Unit)) (path : Path) (text : String) :
    List (String × Target) :=
  match Script.Node.ofText? text with
  | .ok program =>
    match Import.resolveSites setup.around path text.toList program.callSites (.new ()) with
    | .ok imports _ => imports.map fun one => (one.dependency.id, one.dependency.target)
    | .error _ _ => []
  | .error _ => []

theorem idsAndTargets_eq {setup : Setup (Session Unit)} {path : Path} {text : String}
    {program : Script.Node} {imports : List Import.Resolved} {after : Session Unit}
    (parsed : Script.Node.ofText? text = .ok program)
    (resolved : Import.resolveSites setup.around path text.toList program.callSites (.new ()) =
      .ok imports after) :
    idsAndTargets setup path text =
      imports.map fun one => (one.dependency.id, one.dependency.target) := by
  rw [idsAndTargets, parsed]
  dsimp only
  rw [resolved]

def idsAndKinds : EStateM.Result BuildError (Session Unit) Compilation → List (String × ModuleKind)
  | .ok compilation _ => compilation.graph.contents.map fun module => (module.id, module.kind)
  | .error _ _ => []

/-- The second import leads to a module that is made of the file of the first one. -/
theorem backslash_conflated : ∃ compilation last reading before after one module source,
    backslashBundler.construct backslashDisk ⟨[]⟩ (.new ()) = .ok compilation last ∧
      reading.module backslashSetup ∈ compilation.graph.normalContents ∧
      Reading.Takes backslashSetup reading before after ∧ one ∈ reading.imports ∧
      one.dependency.target = .file ⟨"/proj/src/a\\b.js"⟩ ∧
      compilation.graph.find? one.dependency.id = some module ∧ module.kind = .normal source ∧
      backslashDisk.placeOf source ≠ backslashDisk.placeOf ⟨"/proj/src/a\\b.js"⟩ := by
  have kinds : idsAndKinds (backslashBundler.construct backslashDisk ⟨[]⟩ (.new ())) =
      [("./src/index.js", .normal ⟨"/proj/src/index.js"⟩),
        ("./src/a/b.js", .normal ⟨"/proj/src/a/b.js"⟩)] := by decide +kernel
  have content : backslashSetup.text? ⟨"/proj/src/index.js"⟩ =
      some "require('./a/b.js');\nrequire('./a\\\\b.js');\n" := by decide +kernel
  have targets : idsAndTargets backslashSetup ⟨"/proj/src/index.js"⟩
      "require('./a/b.js');\nrequire('./a\\\\b.js');\n" =
      [("./src/a/b.js", .file ⟨"/proj/src/a/b.js"⟩),
        ("./src/a/b.js", .file ⟨"/proj/src/a\\b.js"⟩)] := by decide +kernel
  cases found : backslashBundler.construct backslashDisk ⟨[]⟩ (.new ()) with
  | error error last =>
    rw [found] at kinds
    cases kinds
  | ok compilation last =>
    rw [found] at kinds
    obtain ⟨entries, -, enters⟩ := enters_of_discover found
    obtain ⟨indexed, -⟩ := enters.extends ModuleGraph.indexed_empty
    obtain ⟨readings, chain, explores⟩ := explores_of_discover found
    obtain ⟨first, others, contents, index, rest⟩ := List.map_eq_cons_iff.1 kinds
    obtain ⟨second, ending, tail, library, stop⟩ := List.map_eq_cons_iff.1 rest
    obtain rfl := List.map_eq_nil_iff.1 stop
    obtain ⟨named, kind⟩ := Prod.mk.inj index
    obtain ⟨also, sort⟩ := Prod.mk.inj library
    have normal : compilation.graph.normalContents = [first, second] := by
      rw [ModuleGraph.normalContents, contents, tail]
      simp [Module.isExternal, kind, sort]
    have all := normal.symm.trans explores.normal
    obtain ⟨reading, behind, read, made, -⟩ := List.map_eq_cons_iff.1 all.symm
    rw [read] at chain
    cases chain with
    | next takes _ =>
      have path : reading.path = ⟨"/proj/src/index.js"⟩ := by
        rw [← made] at kind
        exact ModuleKind.normal.inj kind
      obtain ⟨text, program, code, known, parsed, resolving, -⟩ := takes.resolved
      rw [path] at known resolving
      obtain rfl := Option.some.inj (content.symm.trans known)
      have written := (idsAndTargets_eq parsed resolving).symm.trans targets
      obtain ⟨_, more, imports, -, remaining⟩ := List.map_eq_cons_iff.1 written
      obtain ⟨one, _, listed, meant, -⟩ := List.map_eq_cons_iff.1 remaining
      obtain ⟨id, target⟩ := Prod.mk.inj meant
      obtain ⟨module, looked, same⟩ := indexed.bare_find?.2
        ⟨by rw [contents, tail]; simp, also⟩
      refine ⟨compilation, last, reading, _, _, one, module, ⟨"/proj/src/a/b.js"⟩, rfl, ?_, takes, ?_,
        target, ?_, ?_, ?_⟩
      · rw [normal, ← made]
        exact List.mem_cons_self
      · rw [imports, listed]
        simp
      · rw [id]
        exact looked
      · rw [← sort, ← same]
        rfl
      · decide +kernel

end ModuleBundler.Bundler
