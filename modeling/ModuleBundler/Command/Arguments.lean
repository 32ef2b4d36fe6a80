/-!
The command line: what it may say, and what is wrong with one that says something else.
-/

namespace ModuleBundler.Command

/-- Why a command line is not carried out. Asking for help or for the version is one of the reasons. -/
inductive UsageError where
  | help
  | helpOnMissingSubcommand
  | version
  | missingSubcommand
  | invalidSubcommand
  | unknownArgument
  | invalidValue
  | tooManyValues
  | argumentConflict
  deriving DecidableEq, Repr, Inhabited

/-- What an argument is about. -/
inductive Topic where
  | verbose
  | config
  | outputDirectory
  | filename
  | context
  | json
  | help
  | version
  deriving DecidableEq, Repr, Inhabited

namespace Topic

def longName : Topic → String
  | verbose => "verbose"
  | config => "config"
  | outputDirectory => "outdir"
  | filename => "filename"
  | context => "context"
  | json => "json"
  | help => "help"
  | version => "version"

def letter? : Topic → Option Char
  | verbose => some 'v'
  | config => some 'c'
  | outputDirectory => some 'o'
  | filename => some 'f'
  | context | json => none
  | help => some 'h'
  | version => some 'V'

def takesValue : Topic → Bool
  | config | outputDirectory | filename | context => true
  | verbose | json | help | version => false

def accepts (topic : Topic) (value : String) : Bool :=
  !(topic = outputDirectory && value = "")

def general : List Topic := [verbose, config, help, version]

def ofBuild : List Topic := general ++ [outputDirectory, filename, context, json]

end Topic

/-- What has been read of one part of a command line. A value that was read last is settled only when the
next argument comes. -/
structure Reader where
  settled : List (Topic × String)
  pending : Option (Topic × Option String)
  deriving Repr, Inhabited

namespace Reader

def settle (reader : Reader) (topic : Topic) (value : String) : Except UsageError Reader :=
  if (reader.settled.lookup topic).isSome then .error .argumentConflict
  else if !topic.accepts value then .error .invalidValue
  else .ok { reader with settled := reader.settled ++ [(topic, value)] }

def resolve (reader : Reader) : Except UsageError Reader :=
  match reader.pending with
  | none => .ok reader
  | some (_, none) => .error .invalidValue
  | some (topic, some value) => { reader with pending := none }.settle topic value

def flag (reader : Reader) (topic : Topic) : Except UsageError Reader := do
  let reader ← reader.resolve
  match topic with
  | .help => throw .help
  | .version => throw .version
  | _ => reader.settle topic "true"

def attached (reader : Reader) (topic : Topic) (value : String) : Except UsageError Reader := do
  (← reader.resolve).settle topic value

def await (reader : Reader) (topic : Topic) : Except UsageError Reader := do
  return { ← reader.resolve with pending := some (topic, none) }

def awaits (reader : Reader) : Bool :=
  match reader.pending with
  | some (_, none) => true
  | _ => false

def value (reader : Reader) (text : String) : Reader :=
  match reader.pending with
  | some (topic, none) => { reader with pending := some (topic, some text) }
  | _ => reader

def long (topics : List Topic) (reader : Reader) (name : String) (value : Option String) :
    Except UsageError Reader :=
  match topics.find? fun topic => topic.longName = name, value with
  | none, _ => .error .unknownArgument
  | some topic, some value =>
    if topic.takesValue then reader.attached topic value else .error .tooManyValues
  | some topic, none => if topic.takesValue then reader.await topic else reader.flag topic

def letters (topics : List Topic) : Reader → List Char → Except UsageError Reader
  | reader, [] => .ok reader
  | reader, letter :: rest =>
    match topics.find? fun topic => topic.letter? = some letter with
    | none => .error .unknownArgument
    | some topic =>
      if topic.takesValue then
        match rest with
        | [] => reader.await topic
        | '=' :: value => reader.attached topic (String.ofList value)
        | value => reader.attached topic (String.ofList value)
      else do letters topics (← reader.flag topic) rest

end Reader

inductive Form where
  /-- Two hyphens, behind which nothing is a name. -/
  | divider
  | long (name : String) (value : Option String)
  | letters (letters : List Char)
  | plain (text : String)
  deriving DecidableEq, Repr

def Form.of (argument : String) : Form :=
  match argument.toList with
  | ['-', '-'] => .divider
  | '-' :: '-' :: rest =>
    let name := rest.takeWhile (· != '=')
    match rest.drop name.length with
    | [] => .long (String.ofList name) none
    | _ :: value => .long (String.ofList name) (some (String.ofList value))
  | '-' :: first :: rest => .letters (first :: rest)
  | _ => .plain argument

def readBuild (divided : Bool) : Reader → List String → Except UsageError Reader
  | reader, [] => reader.resolve
  | reader, argument :: rest =>
    if divided then .error .unknownArgument
    else
      match Form.of argument with
      | .divider => readBuild true reader rest
      | .long name value => do readBuild false (← reader.long Topic.ofBuild name value) rest
      | .letters letters => do readBuild false (← reader.letters Topic.ofBuild letters) rest
      | .plain text =>
        if reader.awaits then readBuild false (reader.value text) rest else .error .unknownArgument

def subcommands : List String := ["build", "help"]

def askForHelp : List String → UsageError
  | [] => .help
  | [name] => if subcommands.contains name then .help else .invalidSubcommand
  | _ => .invalidSubcommand

structure Request where
  config : String
  verbose : Bool
  outputDirectory : Option String
  filename : Option String
  context : Option String
  json : Bool
  deriving DecidableEq, Repr, Inhabited

def defaultConfig : String := "modpack.toml"

def Request.of (general build : Reader) : Request :=
  let named (topic : Topic) : Option String := build.settled.lookup topic
  let anywhere (topic : Topic) : Option String :=
    (named topic).orElse fun _ => general.settled.lookup topic
  { config := (anywhere .config).getD defaultConfig
    verbose := (anywhere .verbose).isSome
    outputDirectory := named .outputDirectory
    filename := named .filename
    context := named .context
    json := (named .json).isSome }

def readGeneral (divided : Bool) : Reader → List String → Except UsageError Request
  | reader, [] => do
    let reader ← reader.resolve
    throw (if reader.settled.isEmpty then .helpOnMissingSubcommand else .missingSubcommand)
  | reader, argument :: rest =>
    if divided then
      .error (if subcommands.contains argument then .unknownArgument else .invalidSubcommand)
    else
      match Form.of argument with
      | .divider => readGeneral true reader rest
      | .long name value => do readGeneral false (← reader.long Topic.general name value) rest
      | .letters letters => do readGeneral false (← reader.letters Topic.general letters) rest
      | .plain text =>
        if reader.awaits then readGeneral false (reader.value text) rest
        else if text = "build" then do
          let build ← readBuild false default rest
          return .of (← reader.resolve) build
        else if text = "help" then .error (askForHelp rest)
        else .error .invalidSubcommand

def Request.parse (arguments : List String) : Except UsageError Request :=
  readGeneral false default arguments

end ModuleBundler.Command
