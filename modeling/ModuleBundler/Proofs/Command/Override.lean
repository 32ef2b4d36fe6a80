import ModuleBundler.Proofs.Command.Execute
import ModuleBundler.Proofs.Toml

/-!
Values on the command line and in the configuration file. A command with values for the configuration ends as
one without them does on a file in which they are written, provided that the file which it reads passes the
check at loading as it stands; otherwise it fails with what is wrong with that file.
-/

namespace ModuleBundler

namespace Config

/-- The file that the path of a configuration file means. -/
def filePath (disk : FileSystem) (path : Path) : Path :=
  if path.isAbsolute then path else (pathOf disk.workingDirectory).join path

def ofText (root : Path) (text : String) : Except ConfigError Config :=
  match (Toml.ofText? text).bind (ofMembers? root) with
  | some config => config.validate
  | none => .error .malformed

theorem load_eq {disk : FileSystem} {path : Path} {text : String}
    (read : disk.readText (filePath disk path) = .ok text) :
    load disk path = ofText ((filePath disk path).parent?.getD ⟨"."⟩) text := by
  unfold load
  rw [show (if path.isAbsolute then path else (pathOf disk.workingDirectory).join path) =
    filePath disk path from rfl]
  dsimp only
  rw [read]
  rfl

theorem ofText_eq_ok {root : Path} {text : String} {config : Config} :
    ofText root text = .ok config ↔ ∃ members, Toml.ofText? text = some members ∧
      ofMembers? root members = some config ∧ config.fault? = none := by
  unfold ofText
  cases Toml.ofText? text with
  | none => simp
  | some members =>
    cases made : ofMembers? root members with
    | none => simp [made]
    | some found =>
      simp only [Option.bind_some, made, validate_eq_ok, Option.some.injEq, exists_eq_left']
      constructor
      · rintro ⟨sound, rfl⟩
        exact ⟨rfl, sound⟩
      · rintro ⟨rfl, sound⟩
        exact ⟨sound, rfl⟩

theorem not_ofPlugin_of_validate {config : Config} {error : ConfigError}
    (refused : config.validate = .error error) : ¬ error.OfPlugin := by
  unfold validate at refused
  split at refused
  · rename_i fault known
    cases refused
    unfold fault? at known
    dsimp only at known
    repeat' split at known
    · cases known
      exact not_false
    · cases known
      exact not_false
    · obtain ⟨rule, -, rfl⟩ := Option.map_eq_some_iff.1 known
      exact not_false
  · cases refused

theorem not_ofPlugin_of_load {disk : FileSystem} {path : Path} {error : ConfigError}
    (refused : load disk path = .error error) : ¬ error.OfPlugin := by
  unfold load at refused
  dsimp only at refused
  split at refused
  · cases refused
    exact not_false
  · split at refused
    · exact not_ofPlugin_of_validate refused
    · cases refused
      exact not_false

end Config

namespace Command

def instead (given : Option String) (setting : Option Toml) : Option Toml :=
  (given.map Toml.text).orElse fun _ => setting

theorem optional_instead {given value : Option String} {setting : Option Toml}
    (known : Toml.optional setting Toml.text? = some value) :
    Toml.optional (instead given setting) Toml.text? = some (given.orElse fun _ => value) := by
  cases given with
  | none => exact known
  | some text => rfl

def outputSettings? (members : List (String × Toml)) : Option (String → Option Toml) :=
  match members.lookup "output" with
  | some value => value.settings? ["path", "filename"]
  | none => some fun _ => none

structure Request.Rewrites (request : Request) (before after : List (String × Toml)) : Prop where
  others : ∀ name, name ≠ "context" → name ≠ "output" → after.lookup name = before.lookup name
  context : after.lookup "context" = instead request.context (before.lookup "context")
  output : ∀ setting, outputSettings? before = some setting →
    ∃ written, outputSettings? after = some written ∧
      written "path" = instead request.outputDirectory (setting "path") ∧
      written "filename" = instead request.filename (setting "filename")

/-- The same for texts; one that is no document has no values that others could be written for. -/
def Request.RewritesText (request : Request) (text written : String) : Prop :=
  ∀ before, Toml.ofText? text = some before →
    ∃ after, Toml.ofText? written = some after ∧ request.Rewrites before after

def outputOf? (setting : String → Option Toml) : Option OutputConfig := do
  let path ← Toml.optional (setting "path") Toml.text?
  let filename ← Toml.optional (setting "filename") Toml.text?
  let default : OutputConfig := {}
  return ⟨path.getD default.path, filename.getD default.filename⟩

theorem output_eq_of_settings (members : List (String × Toml)) :
    (Toml.optional (members.lookup "output") OutputConfig.ofToml?).map (·.getD {}) =
      (outputSettings? members).bind outputOf? := by
  unfold outputSettings?
  cases members.lookup "output" with
  | none => rfl
  | some value =>
    show ((OutputConfig.ofToml? value).map some).map (·.getD {}) = OutputConfig.ofToml? value
    rw [Option.map_map]
    exact Option.map_id'

theorem outputOf?_instead {request : Request} {setting written : String → Option Toml}
    {output : OutputConfig} (known : outputOf? setting = some output)
    (path : written "path" = instead request.outputDirectory (setting "path"))
    (filename : written "filename" = instead request.filename (setting "filename")) :
    outputOf? written = some {
      path := request.outputDirectory.getD output.path
      filename := request.filename.getD output.filename } := by
  unfold outputOf? at known ⊢
  simp only [bind, Option.bind_eq_some_iff] at known
  obtain ⟨directory, first, name, second, same⟩ := known
  cases same
  rw [path, filename, optional_instead first, optional_instead second]
  cases request.outputDirectory <;> cases request.filename <;> rfl

/-- A document in which the values of a request are written means the configuration of the document in which
they are not, with these values. -/
theorem Request.Rewrites.ofMembers? {request : Request} {before after : List (String × Toml)}
    (rewrites : request.Rewrites before after) {root : Path} {config : Config}
    (made : Config.ofMembers? root before = some config) :
    Config.ofMembers? root after = some (request.override config) := by
  unfold Config.ofMembers? at made
  simp only [bind, Option.bind_eq_some_iff] at made
  obtain ⟨context, asContext, entry, asEntry, output, asOutput, extensions, asExtensions, rules, asRules,
    plugins, asPlugins, same⟩ := made
  cases same
  -- the two documents need not write the output in one form, so it is compared by its settings
  have settings := output_eq_of_settings before
  rw [asOutput] at settings
  obtain ⟨setting, stands, meant⟩ := Option.bind_eq_some_iff.1 settings.symm
  obtain ⟨written, stands', path, filename⟩ := rewrites.output setting stands
  have also := output_eq_of_settings after
  rw [stands', Option.bind_some, outputOf?_instead meant path filename] at also
  obtain ⟨output', asOutput', meant'⟩ := Option.map_eq_some_iff.1 also
  have asContext' : Toml.optional (after.lookup "context") Toml.text? =
      some (request.context.orElse fun _ => context) := by
    rw [rewrites.context]
    exact optional_instead asContext
  have kept (name : String) (one : name ≠ "context") (two : name ≠ "output") :=
    rewrites.others name one two
  unfold Config.ofMembers?
  simp only [bind, Option.bind_eq_some_iff, kept "entry" (by decide) (by decide),
    kept "resolve" (by decide) (by decide), kept "module" (by decide) (by decide),
    kept "plugins" (by decide) (by decide)]
  refine ⟨_, asContext', entry, asEntry, output', asOutput', extensions, asExtensions, rules, asRules,
    plugins, asPlugins, congrArg some ?_⟩
  dsimp only at meant' ⊢
  rw [meant']
  rfl

/-- The same request for another configuration file, without values of its own for what that file says. -/
def Request.withoutValues (request : Request) (config : String) : Request :=
  { request with config, outputDirectory := none, filename := none, context := none }

theorem Request.configuration_withoutValues (request : Request) (other : String) (disk : FileSystem) :
    (request.withoutValues other).configuration disk = Config.load disk ⟨other⟩ := by
  show (Config.load disk ⟨other⟩ >>= fun config => config.validate) = _
  cases loaded : Config.load disk ⟨other⟩ with
  | error error => rfl
  | ok config => exact Config.validate_eq_ok.2 ⟨(Config.fault?_and_root_of_load loaded).1, rfl⟩

section Values

variable {request : Request} {disk : FileSystem} {other text written : String}
  (read : disk.readText (Config.filePath disk ⟨request.config⟩) = .ok text)
  (also : disk.readText (Config.filePath disk ⟨other⟩) = .ok written)
  (beside : (Config.filePath disk ⟨other⟩).parent? = (Config.filePath disk ⟨request.config⟩).parent?)
  (rewritten : request.RewritesText text written)
include read also beside rewritten

/-- Where a file passes the check, a request means the configuration of a file beside it in which the values
of the request are written. -/
theorem Request.configuration_eq_load {config : Config}
    (loaded : Config.load disk ⟨request.config⟩ = .ok config) :
    request.configuration disk = Config.load disk ⟨other⟩ := by
  unfold configuration
  rw [loaded, Config.load_eq also, beside]
  rw [Config.load_eq read] at loaded
  obtain ⟨before, parsed, made, -⟩ := Config.ofText_eq_ok.1 loaded
  obtain ⟨after, parsed', rewrites⟩ := rewritten before parsed
  unfold Config.ofText
  rw [parsed', Option.bind_some, rewrites.ofMembers? made]
  rfl

/-- A command whose configuration file passes the check as it stands ends as the same command does without
values on its command line, on a file beside that one in which they are written. A file that does not pass the
check is refused with what is wrong with it as it stands, and nothing is built; the outcomes are the same then
just if the other file is refused alike. -/
theorem Request.outcome_override (elapsed : Report.Duration) :
    (∀ config, Config.load disk ⟨request.config⟩ = .ok config →
      request.outcome elapsed disk = (request.withoutValues other).outcome elapsed disk) ∧
    ∀ error, Config.load disk ⟨request.config⟩ = .error error →
      request.outcome elapsed disk = .error (.config error) (.waiting request.json disk) ∧
        (request.outcome elapsed disk = (request.withoutValues other).outcome elapsed disk ↔
          Config.load disk ⟨other⟩ = .error error) := by
  have plain := request.configuration_withoutValues other disk
  constructor
  · intro config loaded
    rw [request.outcome_eq, (request.withoutValues other).outcome_eq, plain,
      request.configuration_eq_load read also beside rewritten loaded]
    rfl
  · intro error loaded
    have own : ¬ error.OfPlugin := Config.not_ofPlugin_of_load loaded
    have refused : request.outcome elapsed disk = .error (.config error) (.waiting request.json disk) := by
      refine (Request.outcome_eq_refused_iff own).2 ?_
      unfold configuration
      rw [loaded]
      rfl
    refine ⟨refused, ?_⟩
    rw [refused, eq_comm, ← plain]
    exact Request.outcome_eq_refused_iff own

end Values

/-- Two entries whose bundles would have the same name. -/
def sharedText : String := "entry.a=\"a.js\"\nentry.b=\"b.js\"\noutput.filename=\"all.js\"\n"

/-- Two entries whose bundles are named after them. -/
def namedText : String := "entry.a=\"a.js\"\nentry.b=\"b.js\"\noutput.filename=\"[name].js\"\n"

def movedText : String :=
  "context=\"src\"\nentry.a=\"a.js\"\nentry.b=\"b.js\"\n" ++
    "output.path=\"out\"\noutput.filename=\"[name].min.js\"\n"

def pairDisk : FileSystem where
  nodes := [(["shared.toml"], .file sharedText.toUTF8), (["named.toml"], .file namedText.toUTF8),
    (["moved.toml"], .file movedText.toUTF8), (["a.js"], .file "1".toUTF8), (["b.js"], .file "2".toUTF8),
    (["src"], .directory), (["src", "a.js"], .file "3".toUTF8), (["src", "b.js"], .file "4".toUTF8)]
  workingDirectory := []

/-- Asks for bundles named after the entries, where the file asks for one name. -/
def naming : Request :=
  { (default : Request) with config := "shared.toml", filename := some "[name].js" }

/-- Has a value for everything that can be said on the command line instead. -/
def moving : Request :=
  { (default : Request) with
    config := "named.toml"
    outputDirectory := some "out"
    filename := some "[name].min.js"
    context := some "src" }

def pairEntries : Toml := .table [("a", .text "a.js"), ("b", .text "b.js")]

theorem parsed_shared : Toml.ofText? sharedText =
    some [("entry", pairEntries), ("output", .table [("filename", .text "all.js")])] := by
  decide +kernel

theorem parsed_named : Toml.ofText? namedText =
    some [("entry", pairEntries), ("output", .table [("filename", .text "[name].js")])] := by
  decide +kernel

theorem parsed_moved : Toml.ofText? movedText =
    some [("context", .text "src"), ("entry", pairEntries),
      ("output", .table [("path", .text "out"), ("filename", .text "[name].min.js")])] := by
  decide +kernel

theorem naming_rewrites : naming.RewritesText sharedText namedText := by
  intro before parsed
  rw [parsed_shared] at parsed
  cases parsed
  refine ⟨_, parsed_named, fun name _ different => ?_, rfl, fun setting stands => ?_⟩
  · have kept : (name == "output") = false := beq_eq_false_iff_ne.2 different
    simp only [List.lookup_cons, List.lookup_nil, kept]
  · cases stands
    exact ⟨_, rfl, rfl, rfl⟩

theorem moving_rewrites : moving.RewritesText namedText movedText := by
  intro before parsed
  rw [parsed_named] at parsed
  cases parsed
  refine ⟨_, parsed_moved, fun name context output => ?_, rfl, fun setting stands => ?_⟩
  · have one : (name == "context") = false := beq_eq_false_iff_ne.2 context
    have two : (name == "output") = false := beq_eq_false_iff_ne.2 output
    simp only [List.lookup_cons, List.lookup_nil, one, two]
  · cases stands
    exact ⟨_, rfl, rfl, rfl⟩

theorem read_shared : pairDisk.readText (Config.filePath pairDisk ⟨naming.config⟩) = .ok sharedText := by
  decide +kernel

theorem read_named : pairDisk.readText (Config.filePath pairDisk ⟨"named.toml"⟩) = .ok namedText := by
  decide +kernel

theorem exists_load_named : ∃ config, Config.load pairDisk ⟨"named.toml"⟩ = .ok config := by
  rw [Config.load_eq read_named]
  exact ⟨_, Config.ofText_eq_ok.2 ⟨_, parsed_named, rfl, by decide +kernel⟩⟩

theorem load_shared : Config.load pairDisk ⟨naming.config⟩ = .error (.sharedFilename "all.js" 2) := by
  rw [Config.load_eq read_shared]
  unfold Config.ofText
  rw [parsed_shared]
  rfl

/-- The check at loading comes before the command line: the file with one name for two bundles is refused,
though the command line has other names, with which the same file would be accepted. -/
theorem shared_refused :
    pairDisk.readText (Config.filePath pairDisk ⟨naming.config⟩) = .ok sharedText ∧
      pairDisk.readText (Config.filePath pairDisk ⟨"named.toml"⟩) = .ok namedText ∧
      (Config.filePath pairDisk ⟨"named.toml"⟩).parent? =
        (Config.filePath pairDisk ⟨naming.config⟩).parent? ∧
      naming.RewritesText sharedText namedText ∧
      naming.outcome ⟨0, 0⟩ pairDisk =
        .error (.config (.sharedFilename "all.js" 2)) (.waiting false pairDisk) ∧
      naming.outcome ⟨0, 0⟩ pairDisk ≠
        (naming.withoutValues "named.toml").outcome ⟨0, 0⟩ pairDisk := by
  have own : ¬ (ConfigError.sharedFilename "all.js" 2).OfPlugin := not_false
  have refused : naming.outcome ⟨0, 0⟩ pairDisk =
      .error (.config (.sharedFilename "all.js" 2)) (.waiting false pairDisk) := by
    refine (Request.outcome_eq_refused_iff own).2 ?_
    unfold Request.configuration
    rw [load_shared]
    rfl
  refine ⟨read_shared, read_named, by decide +kernel, naming_rewrites, refused, fun same => ?_⟩
  obtain ⟨config, loaded⟩ := exists_load_named
  rw [refused] at same
  have also : (naming.withoutValues "named.toml").configuration pairDisk = _ :=
    (Request.outcome_eq_refused_iff own).1 same.symm
  rw [Request.configuration_withoutValues, loaded] at also
  cases also

/-- A file that is accepted as it stands, and the one in which all values of the command line are written. -/
theorem moving_outcome : (∃ config, Config.load pairDisk ⟨moving.config⟩ = .ok config) ∧
    moving.outcome ⟨0, 0⟩ pairDisk =
      (moving.withoutValues "moved.toml").outcome ⟨0, 0⟩ pairDisk := by
  obtain ⟨config, loaded⟩ := exists_load_named
  have read : pairDisk.readText (Config.filePath pairDisk ⟨moving.config⟩) = .ok namedText := read_named
  have also : pairDisk.readText (Config.filePath pairDisk ⟨"moved.toml"⟩) = .ok movedText := by
    decide +kernel
  have beside : (Config.filePath pairDisk ⟨"moved.toml"⟩).parent? =
      (Config.filePath pairDisk ⟨moving.config⟩).parent? := by decide +kernel
  exact ⟨⟨config, loaded⟩,
    (Request.outcome_override read also beside moving_rewrites ⟨0, 0⟩).1 config loaded⟩

end Command

end ModuleBundler
