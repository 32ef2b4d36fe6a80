/-!
Zip archives. A member is written without compression, behind a header of its own; a directory at the end
lists all members.
-/

namespace ModuleBundler.Archive

structure Member where
  name : String
  content : ByteArray
  deriving Inhabited

def checksumBits : Nat → UInt32 → UInt32
  | 0, value => value
  | count + 1, value =>
    checksumBits count (if value &&& 1 = 1 then (0xedb88320 : UInt32) ^^^ (value >>> 1) else value >>> 1)

def checksum (content : List UInt8) : UInt32 :=
  ~~~content.foldl (fun value byte => checksumBits 8 (value ^^^ byte.toUInt32)) 0xffffffff

def field : Nat → Nat → List UInt8
  | 0, _ => []
  | count + 1, value => UInt8.ofNat (value % 256) :: field count (value / 256)

def memberMark : Nat := 0x04034b50
def entryMark : Nat := 0x02014b50
def endMark : Nat := 0x06054b50

/-- What a header and the directory both say of a member. The flag says that names are UTF-8, and
method zero that the content is as it is. -/
def description (member : Member) : List UInt8 :=
  let content := member.content.toList
  field 2 20 ++ field 2 0x800 ++ field 2 0 ++ field 2 0 ++ field 2 0x21 ++
    field 4 (checksum content).toNat ++ field 4 content.length ++ field 4 content.length ++
    field 2 member.name.toUTF8.size ++ field 2 0

def encodeMember (member : Member) : List UInt8 :=
  field 4 memberMark ++ description member ++ member.name.toUTF8.toList ++ member.content.toList

def encodeEntry (member : Member) (offset : Nat) : List UInt8 :=
  field 4 entryMark ++ field 2 20 ++ description member ++ field 2 0 ++ field 2 0 ++ field 2 0 ++
    field 4 0 ++ field 4 offset ++ member.name.toUTF8.toList

def encodeEntries : Nat → List Member → List UInt8
  | _, [] => []
  | offset, member :: members =>
    encodeEntry member offset ++ encodeEntries (offset + (encodeMember member).length) members

def encode (members : List Member) : ByteArray :=
  let content := members.flatMap encodeMember
  let directory := encodeEntries 0 members
  let ending := field 4 endMark ++ field 2 0 ++ field 2 0 ++ field 2 members.length ++
    field 2 members.length ++ field 4 directory.length ++ field 4 content.length ++ field 2 0
  ByteArray.mk (content ++ directory ++ ending).toArray

def fieldValue (bytes : List UInt8) : Nat :=
  bytes.foldr (fun byte value => byte.toNat + 256 * value) 0

def fieldAt (bytes : List UInt8) (offset count : Nat) : Nat :=
  fieldValue ((bytes.drop offset).take count)

def member? (bytes : List UInt8) : Option (Member × Nat) :=
  if fieldAt bytes 0 4 ≠ memberMark ∨ fieldAt bytes 8 2 ≠ 0 then none
  else
    let nameLength := fieldAt bytes 26 2
    let start := 30 + nameLength + fieldAt bytes 28 2
    let length := fieldAt bytes 18 4
    let content := (bytes.drop start).take length
    match String.fromUTF8? (ByteArray.mk ((bytes.drop 30).take nameLength).toArray) with
    | some name =>
      if content.length = length then
        some (⟨name, ByteArray.mk content.toArray⟩, start + length)
      else none
    | none => none

def members? : Nat → List UInt8 → Option (List Member)
  | 0, bytes => if fieldAt bytes 0 4 = entryMark ∨ fieldAt bytes 0 4 = endMark then some [] else none
  | count + 1, bytes => do
    let (member, length) ← member? bytes
    return member :: (← members? count (bytes.drop length))

def endingLength : Nat := 22

def decode? (archive : ByteArray) : Option (List Member) :=
  let bytes := archive.toList
  if bytes.length < endingLength then none
  else
    let ending := bytes.drop (bytes.length - endingLength)
    if fieldAt ending 0 4 = endMark then members? (fieldAt ending 10 2) bytes else none

end ModuleBundler.Archive
