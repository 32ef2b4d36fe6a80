import ModuleBundler.Error

/-!
Points of a build that plugins take part in. The callbacks of a hook, its taps, are called in the order in
which they were registered; a failure ends the calls. Taps may keep a state `σ`, which outlives failures.
-/

namespace ModuleBundler

structure Tap (Callback : Type) where
  plugin : String
  callback : Callback

structure Hook (Callback : Type) where
  name : String
  taps : List (Tap Callback)

namespace Hook

variable {Callback : Type}

def new (name : String) : Hook Callback := ⟨name, []⟩

def tap (hook : Hook Callback) (plugin : String) (callback : Callback) : Hook Callback :=
  { hook with taps := hook.taps ++ [⟨plugin, callback⟩] }

def tapNames (hook : Hook Callback) : List String :=
  hook.taps.map Tap.plugin

def isEmpty (hook : Hook Callback) : Bool :=
  hook.taps.isEmpty

end Hook

variable {σ α β : Type}

abbrev Observer (σ α : Type) := α → EStateM String σ Unit

abbrev Decider (σ α β : Type) := α → StateM σ (Option β)

abbrev Reviser (σ α : Type) := EStateM String (α × σ) Unit

def callTaps (run : Callback → EStateM String σ Unit) (fault : String → String → BuildError) :
    List (Tap Callback) → EStateM BuildError σ Unit
  | [] => pure ()
  | tap :: taps => fun state =>
    match run tap.callback state with
    | .ok _ state => callTaps run fault taps state
    | .error cause state => .error (fault tap.plugin cause) state

def Hook.show (hook : Hook (Observer σ α)) (value : α) : EStateM BuildError σ Unit :=
  callTaps (fun observe => observe value) (.hookFailure hook.name) hook.taps

def Hook.revise (hook : Hook (Reviser σ α)) : EStateM BuildError (α × σ) Unit :=
  callTaps id (.asyncHookFailure hook.name) hook.taps

def askTaps (value : α) : List (Tap (Decider σ α β)) → StateM σ (Option β)
  | [] => pure none
  | tap :: taps => do
    match ← tap.callback value with
    | some answer => return some answer
    | none => askTaps value taps

def Hook.ask (hook : Hook (Decider σ α β)) (value : α) : StateM σ (Option β) :=
  askTaps value hook.taps

end ModuleBundler
