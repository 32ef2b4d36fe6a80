/-!
The SHA-256 digest of some bytes. A block of sixty-four bytes is expanded into a schedule of
sixty-four words, which are mixed into a state of eight words one after another.
-/

namespace ModuleBundler.Digest

/-- The first thirty-two bits of the fractional parts of the cube roots of the first sixty-four
primes. -/
def roundConstants : List UInt32 := [
  0x428a2f98, 0x71374491, 0xb5c0fbcf, 0xe9b5dba5, 0x3956c25b, 0x59f111f1, 0x923f82a4, 0xab1c5ed5,
  0xd807aa98, 0x12835b01, 0x243185be, 0x550c7dc3, 0x72be5d74, 0x80deb1fe, 0x9bdc06a7, 0xc19bf174,
  0xe49b69c1, 0xefbe4786, 0x0fc19dc6, 0x240ca1cc, 0x2de92c6f, 0x4a7484aa, 0x5cb0a9dc, 0x76f988da,
  0x983e5152, 0xa831c66d, 0xb00327c8, 0xbf597fc7, 0xc6e00bf3, 0xd5a79147, 0x06ca6351, 0x14292967,
  0x27b70a85, 0x2e1b2138, 0x4d2c6dfc, 0x53380d13, 0x650a7354, 0x766a0abb, 0x81c2c92e, 0x92722c85,
  0xa2bfe8a1, 0xa81a664b, 0xc24b8b70, 0xc76c51a3, 0xd192e819, 0xd6990624, 0xf40e3585, 0x106aa070,
  0x19a4c116, 0x1e376c08, 0x2748774c, 0x34b0bcb5, 0x391c0cb3, 0x4ed8aa4a, 0x5b9cca4f, 0x682e6ff3,
  0x748f82ee, 0x78a5636f, 0x84c87814, 0x8cc70208, 0x90befffa, 0xa4506ceb, 0xbef9a3f7, 0xc67178f2]

/-- The eight words that are being mixed. -/
structure State where
  a : UInt32
  b : UInt32
  c : UInt32
  d : UInt32
  e : UInt32
  f : UInt32
  g : UInt32
  h : UInt32
  deriving DecidableEq, Repr, Inhabited

def State.initial : State :=
  ⟨0x6a09e667, 0xbb67ae85, 0x3c6ef372, 0xa54ff53a, 0x510e527f, 0x9b05688c, 0x1f83d9ab, 0x5be0cd19⟩

def State.words (state : State) : List UInt32 :=
  [state.a, state.b, state.c, state.d, state.e, state.f, state.g, state.h]

def State.add (left right : State) : State :=
  ⟨left.a + right.a, left.b + right.b, left.c + right.c, left.d + right.d,
    left.e + right.e, left.f + right.f, left.g + right.g, left.h + right.h⟩

def rotateRight (word count : UInt32) : UInt32 :=
  (word >>> count) ||| (word <<< (32 - count))

def State.round (state : State) (constant word : UInt32) : State :=
  let mixed := rotateRight state.e 6 ^^^ rotateRight state.e 11 ^^^ rotateRight state.e 25
  let choice := (state.e &&& state.f) ^^^ (~~~state.e &&& state.g)
  let first := state.h + mixed + choice + constant + word
  let spread := rotateRight state.a 2 ^^^ rotateRight state.a 13 ^^^ rotateRight state.a 22
  let majority := (state.a &&& state.b) ^^^ (state.a &&& state.c) ^^^ (state.b &&& state.c)
  ⟨first + (spread + majority), state.a, state.b, state.c, state.d + first, state.e, state.f, state.g⟩

def extendSchedule : Nat → Array UInt32 → Array UInt32
  | 0, words => words
  | count + 1, words =>
    let back (distance : Nat) : UInt32 := words[words.size - distance]?.getD 0
    let early := back 15
    let late := back 2
    let low := rotateRight early 7 ^^^ rotateRight early 18 ^^^ (early >>> 3)
    let high := rotateRight late 17 ^^^ rotateRight late 19 ^^^ (late >>> 10)
    extendSchedule count (words.push (back 16 + low + back 7 + high))

def State.compress (state : State) (block : List UInt32) : State :=
  let schedule := (extendSchedule 48 block.toArray).toList
  state.add ((roundConstants.zip schedule).foldl (fun state (constant, word) =>
    state.round constant word) state)

def wordOf (bytes : List UInt8) : UInt32 :=
  bytes.foldl (fun word byte => (word <<< 8) ||| byte.toUInt32) 0

def bytesOf (count value : Nat) : List UInt8 :=
  (List.range count).reverse.map fun place => UInt8.ofNat ((value >>> (8 * place)) % 256)

def stretches (length : Nat) : Nat → List α → List (List α)
  | 0, _ => []
  | count + 1, list => list.take length :: stretches length count (list.drop length)

def padded (message : List UInt8) : List UInt8 :=
  let length := message.length
  message ++ 0x80 :: List.replicate ((119 - length % 64) % 64) 0 ++ bytesOf 8 (length * 8)

def sha256State (message : List UInt8) : State :=
  let bytes := padded message
  (stretches 64 (bytes.length / 64) bytes).foldl (fun state block =>
    state.compress ((stretches 4 16 block).map wordOf)) .initial

def sha256 (content : ByteArray) : String :=
  String.ofList ((sha256State content.toList).words.flatMap fun word =>
    (bytesOf 4 word.toNat).flatMap fun byte =>
      [Nat.digitChar (byte.toNat / 16), Nat.digitChar (byte.toNat % 16)])

end ModuleBundler.Digest
