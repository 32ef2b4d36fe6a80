/-!
Bytes read as UTF-8 text, a replacement character standing for every stretch that is none.
-/

namespace ModuleBundler.Text

def continues (byte : UInt8) : Bool :=
  byte.toNat / 64 == 2

/-- The number of bytes that a first byte announces, and the bounds for the byte behind it, which keep
out numbers that are too large, that have a shorter form, or that are no characters. -/
def announced? (byte : UInt8) : Option (Nat × Nat × Nat) :=
  let value := byte.toNat
  if 0xc2 ≤ value ∧ value ≤ 0xdf then some (2, 0x80, 0xbf)
  else if value = 0xe0 then some (3, 0xa0, 0xbf)
  else if value = 0xed then some (3, 0x80, 0x9f)
  else if 0xe1 ≤ value ∧ value ≤ 0xef then some (3, 0x80, 0xbf)
  else if value = 0xf0 then some (4, 0x90, 0xbf)
  else if 0xf1 ≤ value ∧ value ≤ 0xf3 then some (4, 0x80, 0xbf)
  else if value = 0xf4 then some (4, 0x80, 0x8f)
  else none

def belonging (length low high : Nat) : List UInt8 → Nat
  | [] => 0
  | second :: rest =>
    if low ≤ second.toNat ∧ second.toNat ≤ high then
      1 + ((rest.take (length - 2)).takeWhile continues).length
    else 0

def codeOf (length : Nat) (first : UInt8) (behind : List UInt8) : Nat :=
  behind.foldl (fun value byte => value * 64 + byte.toNat % 64) (first.toNat % (1 <<< (7 - length)))

def lossyCharacters : Nat → List UInt8 → List Char
  | _, [] => []
  | skip + 1, _ :: rest => lossyCharacters skip rest
  | 0, first :: rest =>
    if first.toNat < 128 then Char.ofNat first.toNat :: lossyCharacters 0 rest
    else
      match announced? first with
      | none => '\ufffd' :: lossyCharacters 0 rest
      | some (length, low, high) =>
        let count := belonging length low high rest
        if count + 1 = length then
          Char.ofNat (codeOf length first (rest.take count)) :: lossyCharacters count rest
        else '\ufffd' :: lossyCharacters count rest

def lossy (content : ByteArray) : String :=
  String.ofList (lossyCharacters 0 content.toList)

end ModuleBundler.Text
