import ModuleBundler.Digest.Sha256
import ModuleBundler.Graph.Reach
import ModuleBundler.Unicode.Category

/-!
Chunks: the modules that are bundled for one entry, and the name of the file they go to.
-/

namespace ModuleBundler

structure Chunk where
  /-- The name of the entry. -/
  name : String
  /-- The id of the module that is run first. -/
  entryModule : String
  modules : List String
  deriving DecidableEq, Repr, Inhabited

inductive Placeholder where
  | name
  /-- The first digits of the digest of the code; eight of them if the count is missing or too
  large to be a count. -/
  | contentHash (count : Option Nat)
  deriving DecidableEq, Repr, Inhabited

namespace Placeholder

def countLimit : Nat := 18446744073709551616

def countOf? (digits : List Char) : Option Nat :=
  if digits.all Char.isDigit then
    let value := digits.foldl (fun value c => value * 10 + (c.toNat - 48)) 0
    if value < countLimit then some value else none
  else none

def isDigit (c : Char) : Bool :=
  Unicode.category c = .decimalNumber

/-- Reads a colon with digits, if there is one, and the closing bracket. The number of characters read
is answered as well. -/
def ending? (placeholder : Option Nat → Placeholder) (text : List Char) :
    Option (Placeholder × Nat) :=
  match text with
  | ']' :: _ => some (placeholder none, 1)
  | ':' :: rest =>
    let digits := rest.takeWhile isDigit
    match digits.isEmpty, rest.drop digits.length with
    | false, ']' :: _ => some (placeholder (countOf? digits), digits.length + 2)
    | _, _ => none
  | _ => none

def at? (text : List Char) : Option (Placeholder × Nat) :=
  let name := "[name".toList
  let hash := "[contenthash".toList
  if name.isPrefixOf text then
    (ending? (fun _ => .name) (text.drop name.length)).map fun (found, length) =>
      (found, name.length + length)
  else if hash.isPrefixOf text then
    (ending? .contentHash (text.drop hash.length)).map fun (found, length) =>
      (found, hash.length + length)
  else none

def defaultCount : Nat := 8

def value (name code : String) : Placeholder → List Char
  | .name => name.toList
  | .contentHash count =>
    (Digest.sha256 code.toUTF8).toList.take (count.getD defaultCount)

def fill (value : Placeholder → List Char) : Nat → List Char → List Char
  | _, [] => []
  | skip + 1, _ :: rest => fill value skip rest
  | 0, c :: rest =>
    match at? (c :: rest) with
    | some (found, length) => value found ++ fill value (length - 1) rest
    | none => c :: fill value 0 rest

end Placeholder

namespace Chunk

def assemble (name entryModule : String) (graph : ModuleGraph) : Chunk :=
  { name, entryModule, modules := (graph.ownedBy name).map (·.id) }

def contains (chunk : Chunk) (id : String) : Bool :=
  chunk.modules.contains id

def size (chunk : Chunk) : Nat :=
  chunk.modules.length

def isEmpty (chunk : Chunk) : Bool :=
  chunk.modules.isEmpty

def filename (chunk : Chunk) (pattern code : String) : String :=
  String.ofList (Placeholder.fill (Placeholder.value chunk.name code) 0 pattern.toList)

end Chunk

end ModuleBundler
