import ModuleBundler.Json.Value
import ModuleBundler.Number.Fraction

/-!
Whether a text is a JSON document. A document may be nested up to a limit, and its numbers must fit
into a double.
-/

namespace ModuleBundler.Json

def isBlank (c : Char) : Bool :=
  c == ' ' || c == '\n' || c == '\t' || c == '\r'

def skipBlanks (text : List Char) : List Char :=
  text.dropWhile isBlank

def splitQuoted : List Char → Option (List Char × List Char)
  | [] => none
  | '\x22' :: rest => some ([], rest)
  | '\\' :: c :: rest => do
    let (inside, rest) ← splitQuoted rest
    return ('\\' :: c :: inside, rest)
  | c :: rest => do
    let (inside, rest) ← splitQuoted rest
    return (c :: inside, rest)
termination_by structural text => text

def skipText (text : List Char) : Option (List Char) := do
  let (inside, rest) ← splitQuoted text
  let _ ← Text.Quoted.decode inside
  return rest

def isDigit (c : Char) : Bool :=
  '0' ≤ c && c ≤ '9'

def digitsValue (digits : List Char) : Nat :=
  digits.foldl (fun value c => value * 10 + (c.toNat - 48)) 0

def significandLimit : Nat := 18446744073709551616

structure Scaled where
  significand : Nat
  exponent : Int
  deriving DecidableEq, Repr

def Scaled.digitAppended (scaled : Scaled) (c : Char) : Nat :=
  scaled.significand * 10 + (c.toNat - 48)

/-- Takes digits before the point into a significand. From the first one on that would pass the limit
they only make the exponent larger. -/
def Scaled.addWhole (scaled : Scaled) : List Char → Scaled
  | [] => scaled
  | c :: digits =>
    if significandLimit ≤ scaled.digitAppended c then
      { scaled with exponent := scaled.exponent + 1 + digits.length }
    else addWhole { scaled with significand := scaled.digitAppended c } digits

/-- Takes digits behind the point into a significand, up to the first one that would pass the
limit. -/
def Scaled.addFraction (scaled : Scaled) : List Char → Scaled
  | [] => scaled
  | c :: digits =>
    if significandLimit ≤ scaled.digitAppended c then scaled
    else addFraction ⟨scaled.digitAppended c, scaled.exponent - 1⟩ digits

def largestPower : Int := 308

/-- Whether a number is too large for a double, the significand and the power of ten being rounded
before they are multiplied. -/
def Scaled.overflows (scaled : Scaled) : Bool :=
  if scaled.significand = 0 || scaled.exponent < 0 then false
  else if largestPower < scaled.exponent then true
  else
    let significand := (Fraction.ofNat scaled.significand).toDouble
    let power := (Fraction.ofNat (Nat.pow 10 scaled.exponent.toNat)).toDouble
    Fraction.doubleBound * (significand.denominator * power.denominator) ≤
      significand.numerator * power.numerator

def splitExponent (text : List Char) : Option (Bool × List Char × List Char) :=
  let (negative, text) :=
    match text with
    | '-' :: rest => (true, rest)
    | '+' :: rest => (false, rest)
    | _ => (false, text)
  let digits := text.takeWhile isDigit
  if digits.isEmpty then none else some (negative, digits, text.dropWhile isDigit)

def skipNumber (text : List Char) : Option (List Char) := do
  let whole := text.takeWhile isDigit
  let rest := text.dropWhile isDigit
  if whole.isEmpty || (whole.head? == some '0' && whole.length ≠ 1) then none
  let scaled := Scaled.addWhole ⟨0, 0⟩ whole
  let (scaled, rest) ←
    match rest with
    | '.' :: rest =>
      let fraction := rest.takeWhile isDigit
      if fraction.isEmpty then none
      else some (scaled.addFraction fraction, rest.dropWhile isDigit)
    | _ => some (scaled, rest)
  match rest with
  | 'e' :: rest | 'E' :: rest =>
    let (negative, digits, rest) ← splitExponent rest
    let exponent : Int := digitsValue digits
    let scaled := { scaled with
      exponent := scaled.exponent + if negative then -exponent else exponent }
    if scaled.overflows then none else return rest
  | _ => if scaled.overflows then none else return rest

/-- What a document is expected to go on with. -/
inductive Expected where
  | value
  /-- A value, or the end of an array. -/
  | firstElement
  /-- The name of a member, or the end of an object. -/
  | firstName
  | name
  /-- What follows a value. -/
  | separator
  deriving DecidableEq, Repr

inductive Enclosure where
  | array
  | object
  deriving DecidableEq, Repr

def nestingLimit : Nat := 127

def skipName (text : List Char) : Option (List Char) := do
  match text with
  | '\x22' :: rest =>
    match skipBlanks (← skipText rest) with
    | ':' :: rest => return rest
    | _ => none
  | _ => none

def skipValue (enclosures : List Enclosure) (text : List Char) :
    Option (Expected × List Enclosure × List Char) :=
  let opened (enclosure : Enclosure) (expected : Expected) (rest : List Char) :=
    if enclosures.length < nestingLimit then some (expected, enclosure :: enclosures, rest) else none
  match text with
  | '\x22' :: rest => (skipText rest).map fun rest => (.separator, enclosures, rest)
  | '[' :: rest => opened .array .firstElement rest
  | '\x7b' :: rest => opened .object .firstName rest
  | 'n' :: 'u' :: 'l' :: 'l' :: rest => some (.separator, enclosures, rest)
  | 't' :: 'r' :: 'u' :: 'e' :: rest => some (.separator, enclosures, rest)
  | 'f' :: 'a' :: 'l' :: 's' :: 'e' :: rest => some (.separator, enclosures, rest)
  | '-' :: rest => (skipNumber rest).map fun rest => (.separator, enclosures, rest)
  | _ => (skipNumber text).map fun rest => (.separator, enclosures, rest)

def advance (expected : Expected) (enclosures : List Enclosure) (text : List Char) :
    Option (Expected × List Enclosure × List Char) :=
  match expected, enclosures, text with
  | .firstElement, .array :: outer, ']' :: rest => some (.separator, outer, rest)
  | .firstName, .object :: outer, '\x7d' :: rest => some (.separator, outer, rest)
  | .separator, .array :: outer, ']' :: rest => some (.separator, outer, rest)
  | .separator, .object :: outer, '\x7d' :: rest => some (.separator, outer, rest)
  | .separator, .array :: _, ',' :: rest => some (.value, enclosures, rest)
  | .separator, .object :: _, ',' :: rest => some (.name, enclosures, rest)
  | .separator, _, _ => none
  | .name, _, _ | .firstName, _, _ => (skipName text).map fun rest => (.value, enclosures, rest)
  | .value, _, _ | .firstElement, _, _ => skipValue enclosures text

def accepts : Nat → Expected → List Enclosure → List Char → Bool
  | 0, _, _, _ => false
  | count + 1, expected, enclosures, remaining =>
    match expected, enclosures, skipBlanks remaining with
    | .separator, [], [] => true
    | _, _, rest =>
      match advance expected enclosures rest with
      | some (expected, enclosures, rest) => accepts count expected enclosures rest
      | none => false

def isDocument (text : String) : Bool :=
  accepts (text.toList.length + 2) .value [] text.toList

end ModuleBundler.Json
