import ModuleBundler.Toml.Reading
import ModuleBundler.Toml.Section

/-!
Reading TOML documents. `Toml.ofText?` answers the members of the table that a document writes.
-/

namespace ModuleBundler.Toml

def arrayRest (element : Reading Toml) : Reading Toml :=
  untilDone (fun (found : List Toml) => do
    skipLines
    if ← eat "]" then return .inr (.array found.reverse)
    else
      let found := (← element) :: found
      skipLines
      if ← eat "," then return .inl found
      else
        expect "]"
        return .inr (.array found.reverse)) []

def tableRest (element : Reading Toml) : Reading Toml := do
  skipBlanks
  if ← eat "\x7d" then return .table []
  else
    let members ← untilDone (fun (members : Members) => do
      let path ← key
      expect "="
      skipBlanks
      let value ← element
      skipBlanks
      match members.assign path (.value value) with
      | none => refuse
      | some members =>
        if ← eat "," then return .inl members
        else
          expect "\x7d"
          return .inr members) []
    return .table (membersToToml members)

def valueWith (nested : Option (Reading Toml)) : Reading Toml := do
  match ← peek?, nested with
  | some '\x22', _ => return .text (← textValue '\x22')
  | some '\'', _ => return .text (← textValue '\'')
  | some '[', some nested =>
    drop 1
    arrayRest nested
  | some '\x7b', some nested =>
    drop 1
    tableRest nested
  | some 't', _ =>
    expect "true"
    return .bool true
  | some 'f', _ =>
    expect "false"
    return .bool false
  | _, _ => if ← startsMoment then momentValue else number

def value : Nat → Reading Toml
  | 0 => valueWith none
  | depth + 1 => valueWith (some (value depth))

def lineRest : Reading Unit := do
  skipBlanks
  skipComment
  if (← peek?).isSome then
    if !(← eatLineEnd) then refuse

structure Draft where
  members : Members
  open_ : List String
  deriving Inhabited

def header (draft : Draft) : Reading Draft := do
  let element ← eat "[["
  if !element then expect "["
  let path ← key
  expect (if element then "]]" else "]")
  let opened := if element then draft.members.openElement path else draft.members.openTable path
  match opened with
  | some members => return ⟨members, path⟩
  | none => refuse

def assignment (draft : Draft) : Reading Draft := do
  let path ← key
  expect "="
  skipBlanks
  let value ← value depthLimit
  let changed := Members.enterAll false draft.open_ (fun _ inner =>
    Members.assign path (.value value) inner) false draft.members
  match changed with
  | some members => return { draft with members }
  | none => refuse

def document : Reading Members :=
  untilDone (fun (draft : Draft) => do
    skipLines
    match ← peek? with
    | none => return .inr draft.members
    | some '[' =>
      let draft ← header draft
      lineRest
      return .inl draft
    | some _ =>
      let draft ← assignment draft
      lineRest
      return .inl draft) ⟨[], []⟩

def ofText? (text : String) : Option (List (String × Toml)) :=
  let characters :=
    match text.toList with
    | '\ufeff' :: characters => characters
    | characters => characters
  match document characters with
  | some (members, []) => some (membersToToml members)
  | _ => none

end ModuleBundler.Toml
