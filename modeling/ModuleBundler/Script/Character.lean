import ModuleBundler.Unicode.Category

/-!
The classes of characters that scripts are spelled with: blanks, line terminators, the characters of
names, and digits in the bases a number can be written in.
-/

namespace ModuleBundler.Script

open Unicode (category)

def isLineTerminator (c : Char) : Bool :=
  c == '\n' || c == '\r' || c == '\u2028' || c == '\u2029'

def isBlank (c : Char) : Bool :=
  c == ' ' || c == '\t' || c == '\x0b' || c == '\x0c' || c == '\u00a0' || c == '\u0085' ||
    c == '\u1680' || ('\u2000' ≤ c && c ≤ '\u200b') || c == '\u202f' || c == '\u205f' ||
    c == '\u3000' || c == '\ufeff'

def isAsciiLetter (c : Char) : Bool :=
  ('a' ≤ c && c ≤ 'z') || ('A' ≤ c && c ≤ 'Z')

def isDigit (c : Char) : Bool :=
  '0' ≤ c && c ≤ '9'

/-- Whether a name can start with the character: a letter, a letter number, one of six code points
kept for compatibility, a dollar sign or an underscore. -/
def startsName (c : Char) : Bool :=
  if c.toNat < 128 then isAsciiLetter c || c == '$' || c == '_'
  else
    match category c with
    | .uppercaseLetter | .lowercaseLetter | .titlecaseLetter | .modifierLetter | .otherLetter
    | .letterNumber => c != '\u2e2f'
    | _ => c == '\u1885' || c == '\u1886' || c == '\u2118' || c == '\u212e' || c == '\u309b' ||
        c == '\u309c'

/-- Whether a name can go on with the character: besides those that start one, marks, digits,
connecting punctuation and the two zero-width joiners. -/
def continuesName (c : Char) : Bool :=
  if c.toNat < 128 then isAsciiLetter c || isDigit c || c == '$' || c == '_'
  else
    startsName c ||
      match category c with
      | .nonspacingMark | .spacingMark | .decimalNumber | .connectorPunctuation => true
      | _ => c == '\u00b7' || c == '\u0387' || ('\u1369' ≤ c && c ≤ '\u1371') || c == '\u19da' ||
          c == '\u200c' || c == '\u200d'

def digitValue? (c : Char) : Option Nat :=
  if isDigit c then some (c.toNat - 48)
  else if 'a' ≤ c ∧ c ≤ 'f' then some (c.toNat - 87)
  else if 'A' ≤ c ∧ c ≤ 'F' then some (c.toNat - 55)
  else none

def isDigitOf (base : Nat) (c : Char) : Bool :=
  match digitValue? c with
  | some value => value < base
  | none => false

end ModuleBundler.Script
