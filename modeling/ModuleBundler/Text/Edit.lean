/-!
Stretches of a text given by bytes: cutting a text at an offset, replacing stretches of it, and finding the
line and the column of an offset. An offset has to lie between two characters.
-/

namespace ModuleBundler.Text

def byteSize : List Char → Nat
  | [] => 0
  | c :: rest => c.utf8Size + byteSize rest

def cutAt? : Nat → List Char → Option (List Char × List Char)
  | 0, rest => some ([], rest)
  | _ + 1, [] => none
  | offset + 1, c :: rest =>
    if c.utf8Size ≤ offset + 1 then
      (cutAt? (offset + 1 - c.utf8Size) rest).map fun (before, behind) => (c :: before, behind)
    else none

structure Edit where
  start : Nat
  stop : Nat
  replacement : List Char
  deriving DecidableEq, Repr, Inhabited

namespace Edit

def inText? (edit : Edit) (text : List Char) : Option (List Char) := do
  if edit.stop < edit.start then none
  let (before, rest) ← cutAt? edit.start text
  let (_, behind) ← cutAt? (edit.stop - edit.start) rest
  return before ++ edit.replacement ++ behind

def insertLastFirst (edit : Edit) : List Edit → List Edit
  | [] => [edit]
  | first :: edits =>
    if edit.start < first.start then first :: insertLastFirst edit edits else edit :: first :: edits

def lastFirst (edits : List Edit) : List Edit :=
  edits.foldr insertLastFirst []

def applyAll? (edits : List Edit) (text : List Char) : Option (List Char) :=
  (lastFirst edits).foldlM (fun text edit => edit.inText? text) text

end Edit

def before (text : List Char) (offset : Nat) : List Char :=
  match cutAt? offset text with
  | some (before, _) => before
  | none => text

def lineColumn (text : List Char) (offset : Nat) : Nat × Nat :=
  let before := before text offset
  (before.count '\n' + 1, byteSize (before.reverse.takeWhile (· != '\n')) + 1)

end ModuleBundler.Text
