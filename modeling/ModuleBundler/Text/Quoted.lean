/-!
Text in double quotes, as JSON writes it. `encode` writes the characters between the quotes, `decode`
reads them; both work on lists of characters.
-/

namespace ModuleBundler.Text

namespace Quoted

def digit (value : Nat) : Char :=
  (Nat.digitChar value)

def digitValue? (c : Char) : Option Nat :=
  if '0' ≤ c ∧ c ≤ '9' then some (c.toNat - 48)
  else if 'a' ≤ c ∧ c ≤ 'f' then some (c.toNat - 87)
  else if 'A' ≤ c ∧ c ≤ 'F' then some (c.toNat - 55)
  else none

/-- A character as it is written between quotes. The quote, the backslash and the control
characters are escaped, five of them by a letter. -/
def escape (c : Char) : List Char :=
  if c = '\x22' then ['\\', '\x22']
  else if c = '\\' then ['\\', '\\']
  else if c = '\x08' then ['\\', 'b']
  else if c = '\x0c' then ['\\', 'f']
  else if c = '\n' then ['\\', 'n']
  else if c = '\r' then ['\\', 'r']
  else if c = '\t' then ['\\', 't']
  else if c.toNat < 32 then ['\\', 'u', '0', '0', digit (c.toNat / 16), digit (c.toNat % 16)]
  else [c]

def encode (text : List Char) : List Char :=
  text.flatMap escape

def letter? : Char → Option Char
  | '\x22' => some '\x22'
  | '\\' => some '\\'
  | '/' => some '/'
  | 'b' => some '\x08'
  | 'f' => some '\x0c'
  | 'n' => some '\n'
  | 'r' => some '\r'
  | 't' => some '\t'
  | _ => none

def unit? (a b c d : Char) : Option Nat := do
  return (((← digitValue? a) * 16 + (← digitValue? b)) * 16 + (← digitValue? c)) * 16
    + (← digitValue? d)

def isHigh (unit : Nat) : Bool := 0xd800 ≤ unit && unit < 0xdc00
def isLow (unit : Nat) : Bool := 0xdc00 ≤ unit && unit < 0xe000

/-- Reads what stands between the quotes. A control character may not stand for itself, and half of
a pair of units not alone. -/
def decode : List Char → Option (List Char)
  | [] => some []
  | '\\' :: 'u' :: a :: b :: c :: d :: rest => do
    let unit ← unit? a b c d
    if isHigh unit then
      match rest with
      | '\\' :: 'u' :: e :: f :: g :: h :: rest => do
        let low ← unit? e f g h
        if isLow low then
          return Char.ofNat (0x10000 + (unit - 0xd800) * 0x400 + (low - 0xdc00)) :: (← decode rest)
        else none
      | _ => none
    else if isLow unit then none
    else return Char.ofNat unit :: (← decode rest)
  | '\\' :: c :: rest => do return (← letter? c) :: (← decode rest)
  | c :: rest =>
    if c = '\x22' ∨ c = '\\' ∨ c.toNat < 32 then none
    else do return c :: (← decode rest)
termination_by structural text => text

end Quoted

def quoted (text : String) : String :=
  String.ofList ('\x22' :: Quoted.encode text.toList ++ ['\x22'])

end ModuleBundler.Text
