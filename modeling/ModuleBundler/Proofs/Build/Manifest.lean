import Mathlib.Data.List.Sort
import ModuleBundler.Proofs.Build.Watch
import ModuleBundler.Proofs.Json.Reading

/-!
The manifest of an externals plugin. It lists the libraries that the files of the graph ask for, and no build
before has a part in it.
-/

namespace ModuleBundler

namespace Plugin

def usedLibraries (libraries : Table ExternalLibrary) (requests : List String) :
    List (String × ExternalLibrary) :=
  libraries.entries.filter fun entry => entry.1 ∈ requests

def manifestEntry (entry : String × ExternalLibrary) : Json :=
  .object ([("request", .text entry.1), ("variable", .text entry.2.global)] ++
    (entry.2.src.map fun src => ("src", Json.text src)).toList)

def manifestText (used : List (String × ExternalLibrary)) : String :=
  (Json.array (used.map manifestEntry)).pretty

theorem textual_manifestEntry (entry : String × ExternalLibrary) : (manifestEntry entry).Textual := by
  obtain ⟨request, ⟨global, src⟩⟩ := entry
  refine .object ?_
  cases src with
  | none => simp [Json.Textual.text]
  | some src => simp [Json.Textual.text]

theorem read?_manifestText (used : List (String × ExternalLibrary)) :
    Json.read? (manifestText used) = some (.array (used.map manifestEntry)) := by
  refine Json.read?_render (.array fun entry member => ?_) _
  obtain ⟨library, -, rfl⟩ := List.mem_map.1 member
  exact textual_manifestEntry library

variable {libraries : Table ExternalLibrary} {requests : List String}

theorem mem_usedLibraries {entry : String × ExternalLibrary} :
    entry ∈ usedLibraries libraries requests ↔ entry ∈ libraries.entries ∧ entry.1 ∈ requests := by
  rw [usedLibraries, List.mem_filter, decide_eq_true_iff]

theorem ascending_usedLibraries (libraries : Table ExternalLibrary) (requests : List String) :
    (usedLibraries libraries requests).Pairwise fun earlier later => earlier.1 < later.1 :=
  libraries.ascending.filter _

theorem eq_singleton {used : List (String × ExternalLibrary)}
    (ascending : used.Pairwise fun earlier later => earlier.1 < later.1)
    {entry : String × ExternalLibrary} (single : ∀ other, other ∈ used ↔ other = entry) :
    used = [entry] := by
  have different : used.Nodup := ascending.imp fun {earlier later} (below : earlier.1 < later.1) same =>
    String.ne_of_lt below (congrArg Prod.fst same)
  refine List.perm_singleton.1 ((List.perm_ext_iff_of_nodup different (List.nodup_singleton _)).2 ?_)
  exact fun other => (single other).trans List.mem_singleton.symm

/-- Requests that have been noted are those of the libraries that are used. -/
theorem noted_eq (libraries : Table ExternalLibrary) (requests : List String) :
    Session.noted libraries.contains requests [] =
      (usedLibraries libraries requests).map Prod.fst := by
  refine List.Pairwise.eq_of_mem_iff (Session.ascending_noted _ requests .nil)
    (List.pairwise_map.2 (ascending_usedLibraries libraries requests)) fun request => ?_
  rw [Session.mem_noted, List.mem_map]
  constructor
  · rintro (none | ⟨asked, known⟩)
    · cases none
    · obtain ⟨entry, listed, same⟩ := List.any_eq_true.1 known
      obtain rfl := eq_of_beq same
      exact ⟨entry, mem_usedLibraries.2 ⟨listed, asked⟩, rfl⟩
  · rintro ⟨entry, used, rfl⟩
    obtain ⟨listed, asked⟩ := mem_usedLibraries.1 used
    exact .inr ⟨asked, List.any_eq_true.2 ⟨entry, listed, beq_self_eq_true _⟩⟩

theorem usedLibrary_eq {entry : String × ExternalLibrary} (listed : entry ∈ libraries.entries) :
    usedLibrary libraries entry.1 = some (manifestEntry entry) := by
  rw [usedLibrary, Table.find?_eq_some.2 listed]
  rfl

/-- With the requests that have been noted, a manifest of the used libraries is emitted, if there are any. -/
theorem withManifest_noted (compilation : Compilation) :
    withManifest libraries (Session.noted libraries.contains requests []) compilation =
      if usedLibraries libraries requests = [] then compilation
      else compilation.emitAsset manifestName (.text (manifestText (usedLibraries libraries requests))) := by
  have entries : ((usedLibraries libraries requests).map Prod.fst).filterMap (usedLibrary libraries) =
      (usedLibraries libraries requests).map manifestEntry := by
    rw [List.filterMap_map, ← List.filterMap_eq_map]
    refine List.filterMap_congr fun entry used => ?_
    exact usedLibrary_eq (mem_usedLibraries.1 used).1
  rw [noted_eq]
  unfold withManifest
  split
  · rename_i none
    rw [if_pos (List.map_eq_nil_iff.1 none)]
  · rename_i some
    rw [if_neg fun none => some (by rw [none, List.map_nil]), entries, manifestText]

end Plugin

namespace Bundler

variable {ω : Type}

/-- A build that comes to the tap of an externals plugin emits a manifest there, whatever the other plugins do
and whatever earlier builds have left in the session. What is read from it are the libraries that some file of
the graph requires, each once and in ascending order, with its own variable and source. Where there are none, no
manifest is emitted. -/
theorem manifest_lists_used (config : Config) (front : List (Plugin ω))
    (libraries : Table ExternalLibrary) (back : List (Plugin ω)) :
    let bundler := withPlugins config (front ++ .externals libraries :: back)
    let passed := (withPlugins config front).hooks.emit.taps
    let tap : Tap (Reviser (Session ω) Compilation) :=
      ⟨"ExternalsPlugin", Plugin.emitManifest (numberBehind config front) libraries⟩
    (∃ later, bundler.hooks.emit.taps = passed ++ tap :: later) ∧
      ∀ disk session pipeline found state,
        bundler.Reaches disk session passed pipeline found state →
        ∃ (used : List (String × ExternalLibrary)) (text : String),
          used.Pairwise (fun earlier later => earlier.1 < later.1) ∧
            (∀ entry, entry ∈ used ↔ entry ∈ libraries.entries ∧
              ∃ module ∈ found.graph.contents, ∃ path, module.kind = .normal path ∧
                ∃ site ∈ (bundler.setup disk config.contextDirectory pipeline).callSites path,
                  Import.request? site = some entry.1) ∧
            Json.read? text = some (.array (used.map Plugin.manifestEntry)) ∧
            tap.callback state = .ok () (if used = [] then state.1
              else state.1.emitAsset "externals.json" (.text text), state.2) := by
  intro bundler passed tap
  have taps : ∃ later, bundler.hooks.emit.taps = passed ++ tap :: later := by
    obtain ⟨later, whole⟩ :=
      prefix_emit_foldl ((withPlugins config front).apply (.externals libraries)) back
    refine ⟨later, ?_⟩
    show (withPlugins config (front ++ .externals libraries :: back)).hooks.emit.taps = _
    rw [withPlugins, List.foldl_append, List.foldl_cons]
    exact whole.symm.trans (List.append_cons _ _ _).symm
  refine ⟨taps, fun disk session pipeline found state reaches => ?_⟩
  obtain ⟨later, split⟩ := taps
  obtain ⟨middle, ⟨shown, showing, -, constructed⟩, revised⟩ := reaches
  have watch := watch_withPlugins config front libraries back
  have own : bundler.config = config := config_withPlugins config _
  have seen : state.2.seen (numberBehind config front) = Session.noted libraries.contains
      ((bundler.setup disk config.contextDirectory pipeline).graphRequests found.graph) [] := by
    have kept := seen_of_callTaps (fun one member => watch.emit one (by
      show one ∈ bundler.hooks.emit.taps
      rw [split]
      exact List.mem_append_left _ member)) revised
    have noted := seen_of_construct watch showing _ constructed
    rw [own] at noted
    exact kept.trans noted
  refine ⟨Plugin.usedLibraries libraries
    ((bundler.setup disk config.contextDirectory pipeline).graphRequests found.graph), _,
    Plugin.ascending_usedLibraries _ _, fun entry => ?_, Plugin.read?_manifestText _, ?_⟩
  · rw [Plugin.mem_usedLibraries, Discover.Setup.mem_graphRequests]
    simp only [Discover.Setup.requests, List.mem_filterMap]
  · show EStateM.Result.ok () (Plugin.withManifest libraries (state.2.seen _) state.1, state.2) = _
    rw [seen, Plugin.withManifest_noted]
    rfl

def lodashDisk : FileSystem where
  nodes := [(["main.js"], .file "require('lodash')".toUTF8)]
  workingDirectory := []

def lodashLibraries : Table ExternalLibrary :=
  .ofList [("lodash", ⟨"_", none⟩), ("react", ⟨"React", some "react.js"⟩)]

def lodashBundler : Bundler Unit :=
  withPlugins (.ofEntry ⟨"/"⟩ "main.js") ([.logger] ++ .externals lodashLibraries :: [])

/-- What a build has left that found another library used. -/
def reactSession : Session Unit where
  memory := ()
  seen := fun _ => ["react"]
  log := []

/-- The file of the project asks for one of the libraries. -/
theorem lodash_used {graph : ModuleGraph}
    (kinds : graph.contents.map (·.kind) = [.normal ⟨"/main.js"⟩, .external "_"])
    (entry : String × ExternalLibrary) :
    (entry ∈ lodashLibraries.entries ∧ ∃ module ∈ graph.contents, ∃ path, module.kind = .normal path ∧
      ∃ site ∈ (lodashBundler.setup lodashDisk ⟨"/"⟩ ⟨[]⟩).callSites path,
        Import.request? site = some entry.1) ↔ entry = ("lodash", ⟨"_", none⟩) := by
  have asked : (lodashBundler.setup lodashDisk ⟨"/"⟩ ⟨[]⟩).requests ⟨"/main.js"⟩ = ["lodash"] := by
    decide +kernel
  constructor
  · rintro ⟨known, module, member, path, kind, called⟩
    have among : module.kind ∈ graph.contents.map (·.kind) := List.mem_map_of_mem member
    rw [kinds, kind] at among
    obtain rfl : path = ⟨"/main.js"⟩ := by simpa using among
    have own : entry.1 ∈ ["lodash"] := asked ▸ List.mem_filterMap.2 called
    have looked := Table.find?_eq_some.2 known
    rw [List.mem_singleton.1 own] at looked
    exact Prod.ext (List.mem_singleton.1 own) (Option.some.inj looked).symm
  · rintro rfl
    have among : .normal ⟨"/main.js"⟩ ∈ graph.contents.map (·.kind) := kinds ▸ List.mem_cons_self
    obtain ⟨module, member, kind⟩ := List.mem_map.1 among
    have own : "lodash" ∈ (lodashBundler.setup lodashDisk ⟨"/"⟩ ⟨[]⟩).requests ⟨"/main.js"⟩ := by
      rw [asked]
      exact List.mem_cons_self
    exact ⟨by decide, module, member, _, kind, List.mem_filterMap.1 own⟩

def kinds : EStateM.Result BuildError (Session Unit) Compilation → List ModuleKind
  | .ok compilation _ => compilation.graph.contents.map (·.kind)
  | .error _ _ => []

/-- The manifest lists what this build uses, and no more. -/
theorem lodash_listed : ∃ compilation last text,
    lodashBundler.compile lodashDisk reactSession = .ok compilation last ∧
      compilation.assets.find? "externals.json" = some (.text text) ∧
      Json.read? text =
        some (.array [.object [("request", .text "lodash"), ("variable", .text "_")]]) := by
  have compiles : kinds (lodashBundler.compile lodashDisk reactSession) =
      [.normal ⟨"/main.js"⟩, .external "_"] := by decide +kernel
  cases compiled : lodashBundler.compile lodashDisk reactSession with
  | error error last =>
    rw [compiled] at compiles
    cases compiles
  | ok compilation last =>
    obtain ⟨⟨later, taps⟩, lists⟩ := manifest_lists_used (ω := Unit) (.ofEntry ⟨"/"⟩ "main.js")
      [.logger] lodashLibraries []
    obtain rfl : [] = later := (List.cons.inj taps).2
    obtain ⟨pipeline, found, state, final, reaches, rest⟩ := exists_reaches compiled taps
    obtain ⟨used, text, ascending, listed, read, emitted⟩ := lists _ _ _ _ _ reaches
    obtain ⟨between, ⟨shown, showing, ruled, constructed⟩, -⟩ := reaches
    obtain rfl : ⟨[]⟩ = pipeline := Except.ok.inj ruled
    cases showing
    have held : kinds (.ok found between) = [.normal ⟨"/main.js"⟩, .external "_"] := by
      rw [← constructed]
      decide +kernel
    obtain rfl := Plugin.eq_singleton ascending fun entry => (listed entry).trans (lodash_used held entry)
    -- it is the last one of the taps, and what it leaves is what is compiled
    obtain ⟨middle, called, ended⟩ := callTaps_cons_eq_ok.1 rest
    rw [if_neg (List.cons_ne_nil _ _)] at emitted
    cases called.symm.trans emitted
    cases ended
    refine ⟨_, last, text, rfl, ?_, read⟩
    rw [Compilation.emitAsset, Table.find?_insert, if_pos rfl]

end Bundler

end ModuleBundler
