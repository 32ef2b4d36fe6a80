import ModuleBundler.Proofs.Build.Entries
import ModuleBundler.Proofs.Bundle.Loader
import ModuleBundler.Script.Character

/-!
The line that a script has in front of the source of a module. It names the module in quotes, as the key of
the registry, and as it is in a comment that goes to the end of the line. So a name that ends the line goes
on as code.
-/

namespace ModuleBundler

/-- No character of a text ends a line. -/
def Text.OneLine (text : String) : Prop :=
  ∀ c ∈ text.toList, Script.isLineTerminator c = false

namespace Text

instance (text : String) : Decidable (OneLine text) :=
  List.decidableBAll (fun c => Script.isLineTerminator c = false) text.toList

theorem oneLine_append {front back : String} :
    OneLine (front ++ back) ↔ OneLine front ∧ OneLine back := by
  simp only [OneLine, String.toList_append, List.mem_append, or_imp, forall_and]

theorem Quoted.isLineTerminator_digit : ∀ value < 32,
    Script.isLineTerminator (digit (value / 16)) = false ∧
      Script.isLineTerminator (digit (value % 16)) = false := by
  decide

/-- What is written with escapes is on one line, but for the two separators that stand for themselves. -/
theorem Quoted.forall_mem_escape_iff (c : Char) :
    (∀ d ∈ escape c, Script.isLineTerminator d = false) ↔ c ≠ '\u2028' ∧ c ≠ '\u2029' := by
  unfold escape
  -- one case for each character that has a spelling of its own
  iterate 7
    split
    · rename_i spelled
      subst spelled
      exact iff_of_true (List.forall_mem_cons.2 ⟨rfl, List.forall_mem_singleton.2 rfl⟩) (by decide)
  split
  · rename_i control
    obtain ⟨high, low⟩ := isLineTerminator_digit c.toNat control
    refine iff_of_true ?_ ⟨?_, ?_⟩
    · simp only [List.forall_mem_cons, high, low, true_and]
      exact ⟨rfl, rfl, rfl, rfl, List.forall_mem_nil _⟩
    · rintro rfl
      exact absurd control (by decide)
    · rintro rfl
      exact absurd control (by decide)
  · rename_i noFeed noReturn _ _
    simp [Script.isLineTerminator, noFeed, noReturn]

theorem oneLine_quoted_iff (text : String) :
    OneLine (quoted text) ↔ '\u2028' ∉ text.toList ∧ '\u2029' ∉ text.toList := by
  have pieces : OneLine (quoted text) ↔
      ∀ c ∈ text.toList, ∀ d ∈ Quoted.escape c, Script.isLineTerminator d = false := by
    simp only [OneLine, quoted, String.toList_ofList, Quoted.encode, List.mem_append, List.mem_cons,
      List.mem_flatMap, List.not_mem_nil, or_false]
    constructor
    · exact fun single c member d within => single d (.inl (.inr ⟨c, member, within⟩))
    · rintro single d ((rfl | ⟨c, member, within⟩) | rfl)
      · rfl
      · exact single c member d within
      · rfl
  rw [pieces]
  simp only [Quoted.forall_mem_escape_iff]
  exact ⟨fun free => ⟨fun member => (free _ member).1 rfl, fun member => (free _ member).2 rfl⟩,
    fun free c member => ⟨fun same => free.1 (same ▸ member), fun same => free.2 (same ▸ member)⟩⟩

theorem OneLine.quoted {text : String} (single : OneLine text) : OneLine (quoted text) := by
  refine (oneLine_quoted_iff text).2 ⟨fun member => ?_, fun member => ?_⟩
  · cases single _ member
  · cases single _ member

end Text

namespace Bundle

open Text (OneLine quoted)

/-- The line in front of the source of a module, from the mark that it starts with. -/
def headerLine (id : String) (isExternal : Bool) : String :=
  "/***/ " ++ quoted id ++ ": (function (module, exports, " ++ loaderName ++ ") \x7b // " ++ id ++
    (if isExternal then " (external)" else "")

theorem moduleHeader_eq (id : String) (isExternal : Bool) :
    moduleHeader id isExternal = "\n" ++ headerLine id isExternal ++ "\n" := by
  simp only [moduleHeader, headerLine, ← String.append_assoc]
  rfl

theorem oneLine_headerLine_iff (id : String) (isExternal : Bool) :
    OneLine (headerLine id isExternal) ↔ OneLine id := by
  have fixed : OneLine "/***/ " ∧ OneLine ": (function (module, exports, " ∧ OneLine loaderName ∧
      OneLine ") \x7b // " ∧ OneLine (if isExternal then " (external)" else "") := by
    refine ⟨by decide, by decide, by decide, by decide, ?_⟩
    split <;> decide
  simp only [headerLine, Text.oneLine_append]
  exact ⟨fun all => all.1.2, fun single => ⟨⟨⟨⟨⟨⟨fixed.1, single.quoted⟩, fixed.2.1⟩, fixed.2.2.1⟩,
    fixed.2.2.2.1⟩, single⟩, fixed.2.2.2.2⟩⟩

theorem exists_renderModules_eq {graph : ModuleGraph} {ids : List String} {id : String}
    {module : Module} (listed : id ∈ ids) (found : graph.find? id = some module) :
    ∃ front back, renderModules graph ids = front ++ renderModule id module ++ back := by
  have member : (id, module) ∈ registered graph ids :=
    List.mem_filterMap.2 ⟨id, listed, by rw [found]; rfl⟩
  obtain ⟨before, behind, whole⟩ := List.append_of_mem member
  rw [renderModules_eq, whole, List.map_append, List.map_cons, String.join_append, String.join_cons,
    ← String.append_assoc]
  exact ⟨_, _, rfl⟩

theorem exists_render_eq {chunk : Chunk} {graph : ModuleGraph} {id : String} {module : Module}
    (listed : id ∈ chunk.modules) (found : graph.find? id = some module) :
    ∃ front back, render chunk graph =
      front ++ "\n" ++ headerLine id module.isExternal ++ "\n" ++ module.source ++ back := by
  obtain ⟨before, behind, whole⟩ := exists_renderModules_eq listed found
  refine ⟨"(() => \x7b\n  var " ++ registryName ++ " = \x7b\n" ++ before,
    "\n/***/ \x7d),\n" ++ behind ++ "\n  \x7d;\n" ++ runtime ++
      "  var __modpack_exports__ = " ++ loaderName ++ "(" ++ quoted chunk.entryModule ++ ");\n\x7d)();\n", ?_⟩
  unfold render
  rw [whole, renderModule, moduleHeader_eq]
  generalize headerLine id module.isExternal = line
  simp only [String.append_assoc]

end Bundle

/-- The path of a file as it is seen from the root. -/
def Resolver.wayTo (resolver : Resolver) (path : Path) : Path :=
  (path.normalize.relativeTo? resolver.root).getD path.normalize

theorem Path.oneLine_unixText (path : Path) :
    Text.OneLine path.unixText ↔ Text.OneLine path.text := by
  simp only [Text.OneLine, unixText, String.toList_ofList, List.forall_mem_map, characters]
  refine forall₂_congr fun c _ => ?_
  split
  · rename_i backslash
    subst backslash
    decide
  · exact Iff.rfl

theorem Resolver.oneLine_moduleId (resolver : Resolver) (path : Path) :
    Text.OneLine (resolver.moduleId path) ↔ Text.OneLine (resolver.wayTo path).text := by
  have start : Text.OneLine idStart := by decide
  rw [show resolver.moduleId path = idStart ++ (resolver.wayTo path).unixText from rfl,
    Text.oneLine_append, Path.oneLine_unixText, and_iff_right start]

theorem oneLine_externalId (request : String) :
    Text.OneLine (externalId request) ↔ '\u2028' ∉ request.toList ∧ '\u2029' ∉ request.toList := by
  have start : Text.OneLine "external " := by decide
  rw [externalId, Text.oneLine_append, and_iff_right start, Text.oneLine_quoted_iff]

namespace Bundler

open ModuleBundler.Bundle (headerLine oneLine_headerLine_iff)
open Text (OneLine)

variable {ω : Type} {setup : Discover.Setup (Session ω)}

/-- In front of the source of every module of a chunk there is a line that names it, which is broken exactly
if the path of its file, as it is seen from the root, has a character that ends a line, or if the request of
an external module has one of the two separators. -/
theorem headerLine_broken_iff {config : Config} {compilation : Compilation} {session last : Session ω}
    (found : discover setup config.entries.entries (.new config) session = .ok compilation last)
    {chunk : Chunk} (bundled : chunk ∈ compilation.chunks) {id : String} (listed : id ∈ chunk.modules) :
    ∃ module, compilation.graph.find? id = some module ∧
      (∃ front back, Bundle.render chunk compilation.graph =
        front ++ "\n" ++ headerLine id module.isExternal ++ "\n" ++ module.source ++ back) ∧
      match module.kind with
      | .normal path => OneLine (headerLine id module.isExternal) ↔
          OneLine (setup.around.resolver.wayTo path).text
      | .external _ => ∃ request ∈ setup.graphRequests compilation.graph, id = externalId request ∧
          (OneLine (headerLine id module.isExternal) ↔
            '\u2028' ∉ request.toList ∧ '\u2029' ∉ request.toList) := by
  obtain ⟨settled, -⟩ := settled_discover config.entries.entries (settled_new config)
    config.entries.ascending (by simp [Compilation.new]) found
  obtain ⟨entry, -, bundles⟩ := exists_of_forall₂ (bundles_of_settled settled).flip bundled
  obtain ⟨module, looked⟩ := bundles.present id listed
  obtain ⟨readings, -, explores⟩ := explores_of_discover found
  obtain ⟨member, named⟩ := settled.indexed.bare_find?.1 ⟨module, looked, rfl⟩
  refine ⟨module, looked, Bundle.exists_render_eq listed looked, ?_⟩
  rw [oneLine_headerLine_iff]
  cases kind : module.kind with
  | normal path =>
    obtain ⟨reading, -, same⟩ :=
      explores.exists_reading member (Module.isExternal_eq_false_iff.2 ⟨path, kind⟩)
    obtain rfl : reading.path = path := ModuleKind.normal.inj ((congrArg Module.kind same).trans kind)
    have own : setup.around.resolver.moduleId reading.path = id :=
      (congrArg Module.id same).trans named
    rw [← own]
    exact Resolver.oneLine_moduleId _ _
  | external global =>
    obtain ⟨request, asked, own⟩ := exists_request_of_discover found member kind
    refine ⟨request, asked, named.symm.trans own, ?_⟩
    rw [← named, own, oneLine_externalId]

def kindOf? (id : String) : EStateM.Result BuildError (Session Unit) Compilation → Option ModuleKind
  | .ok compilation _ => (compilation.graph.find? id).map (·.kind)
  | .error _ _ => none

theorem kindOf?_ok {id : String} {compilation : Compilation} {last : Session Unit} {module : Module}
    (looked : compilation.graph.find? id = some module) :
    kindOf? id (.ok compilation last) = some module.kind := by
  rw [kindOf?, looked, Option.map_some]

/-- The file that both entries of the circle share is named on one line. -/
theorem circle_headerLine_whole : ∃ compilation last chunk module,
    discover circleSetup circleConfig.entries.entries (.new circleConfig) (.new ()) =
        .ok compilation last ∧
      chunk ∈ compilation.chunks ∧ chunk.modules = ["./left", "./shared", "./right"] ∧
      compilation.graph.find? "./shared" = some module ∧
      OneLine (headerLine "./shared" module.isExternal) := by
  have modules : chunkModules (discover circleSetup circleConfig.entries.entries
      (.new circleConfig) (.new ())) =
        [["./left", "./shared", "./right"], ["./shared", "./right"]] := by decide +kernel
  have kind : kindOf? "./shared" (discover circleSetup circleConfig.entries.entries
      (.new circleConfig) (.new ())) = some (.normal ⟨"/shared"⟩) := by decide +kernel
  cases found : discover circleSetup circleConfig.entries.entries (.new circleConfig) (.new ()) with
  | error error last =>
    rw [found] at modules
    cases modules
  | ok compilation last =>
    rw [found] at modules kind
    obtain ⟨chunk, others, listed, holds, -⟩ := List.map_eq_cons_iff.1 modules
    have bundled : chunk ∈ compilation.chunks := listed ▸ List.mem_cons_self
    have own : "./shared" ∈ chunk.modules := by
      rw [holds]
      decide
    obtain ⟨module, looked, -, line⟩ := headerLine_broken_iff found bundled own
    rw [kindOf?_ok looked, Option.some.injEq] at kind
    rw [kind] at line
    exact ⟨compilation, last, chunk, module, rfl, bundled, holds, looked,
      line.2 (by decide +kernel)⟩

/-- A file with a line feed in its name. -/
def brokenDisk : FileSystem where
  nodes := [(["a\nb"], .file "var x;".toUTF8)]
  workingDirectory := []

def brokenBundler : Bundler Unit :=
  withPlugins { entry := .named (.ofList [("main", "a\nb")]), root := ⟨"/"⟩ } []

/-- The line in front of the module ends in its name. -/
theorem broken_headerLine : ∃ compilation last chunk module,
    brokenBundler.construct brokenDisk ⟨[]⟩ (.new ()) = .ok compilation last ∧
      brokenBundler.config.validate = .ok brokenBundler.config ∧
      chunk ∈ compilation.chunks ∧ "./a\nb" ∈ chunk.modules ∧
      compilation.graph.find? "./a\nb" = some module ∧
      (∃ front back, Bundle.render chunk compilation.graph =
        front ++ "\n" ++ headerLine "./a\nb" module.isExternal ++ "\n" ++ module.source ++ back) ∧
      ¬ OneLine (headerLine "./a\nb" module.isExternal) := by
  have modules : chunkModules (brokenBundler.construct brokenDisk ⟨[]⟩ (.new ())) =
      [["./a\nb"]] := by decide +kernel
  have kind : kindOf? "./a\nb" (brokenBundler.construct brokenDisk ⟨[]⟩ (.new ())) =
      some (.normal ⟨"/a\nb"⟩) := by decide +kernel
  cases found : brokenBundler.construct brokenDisk ⟨[]⟩ (.new ()) with
  | error error last =>
    rw [found] at modules
    cases modules
  | ok compilation last =>
    rw [found] at modules kind
    obtain ⟨chunk, others, listed, holds, -⟩ := List.map_eq_cons_iff.1 modules
    have bundled : chunk ∈ compilation.chunks := listed ▸ List.mem_cons_self
    have own : "./a\nb" ∈ chunk.modules := by rw [holds]; exact List.mem_cons_self
    cases looked : compilation.graph.find? "./a\nb" with
    | none =>
      rw [kindOf?, looked] at kind
      cases kind
    | some module =>
      refine ⟨compilation, last, chunk, module, rfl, by rfl, bundled, own, looked,
        Bundle.exists_render_eq own looked, ?_⟩
      rw [oneLine_headerLine_iff]
      decide

end Bundler

end ModuleBundler
