import ModuleBundler.Number.Fraction
import ModuleBundler.Toml.Value

/-!
Reading the leaves of a TOML document: keys, strings, numbers and dates. A `Reading` consumes characters
and fails where the text is no document.
-/

namespace ModuleBundler.Toml

abbrev Reading := StateT (List Char) Option

def refuse : Reading α := failure

def rest : Reading (List Char) := get

def peek? : Reading (Option Char) := do
  return (← rest).head?

def drop (count : Nat) : Reading Unit :=
  modify (·.drop count)

def next : Reading Char := do
  match ← peek? with
  | some c =>
    drop 1
    return c
  | none => refuse

def eat (text : String) : Reading Bool := do
  if text.toList.isPrefixOf (← rest) then
    drop text.toList.length
    return true
  else return false

def expect (text : String) : Reading Unit := do
  if !(← eat text) then refuse

def takeWhile (kind : Char → Bool) : Reading (List Char) := do
  let found := (← rest).takeWhile kind
  drop found.length
  return found

def attempt (reading : Reading α) : Reading (Option α) := fun text =>
  match reading text with
  | some (found, rest) => some (some found, rest)
  | none => some (none, text)

def loop (step : σ → Reading (σ ⊕ α)) : Nat → σ → Reading α
  | 0, _ => refuse
  | count + 1, state => do
    match ← step state with
    | .inl state => loop step count state
    | .inr found => return found

def untilDone (step : σ → Reading (σ ⊕ α)) (state : σ) : Reading α := do
  loop step ((← rest).length + 2) state

def isBlank (c : Char) : Bool := c == ' ' || c == '\t'

def isPlain (c : Char) : Bool :=
  c == '\t' || (' ' ≤ c && c ≤ '~') || 128 ≤ c.toNat

def skipBlanks : Reading Unit := do
  let _ ← takeWhile isBlank

def skipComment : Reading Unit := do
  if ← eat "#" then
    let _ ← takeWhile isPlain

def eatLineEnd : Reading Bool := do
  if ← eat "\n" then return true else eat "\r\n"

def skipLines : Reading Unit :=
  untilDone (fun (_ : Unit) => do
    skipBlanks
    skipComment
    if ← eatLineEnd then return .inl () else return .inr ()) ()

def hexDigit? (c : Char) : Option Nat :=
  if '0' ≤ c && c ≤ '9' then some (c.toNat - 48)
  else if 'a' ≤ c && c ≤ 'f' then some (c.toNat - 87)
  else if 'A' ≤ c && c ≤ 'F' then some (c.toNat - 55)
  else none

def codeEscape (count : Nat) : Reading Char := do
  let digits := (← rest).take count
  if digits.length < count then refuse
  drop count
  match digits.foldlM (fun value c => (hexDigit? c).map (value * 16 + ·)) 0 with
  | some value => if value.isValidChar then return Char.ofNat value else refuse
  | none => refuse

def escape : Reading Char := do
  match ← next with
  | 'b' => return '\x08'
  | 't' => return '\t'
  | 'n' => return '\n'
  | 'f' => return '\x0c'
  | 'r' => return '\r'
  | '\x22' => return '\x22'
  | '\\' => return '\\'
  | 'u' => codeEscape 4
  | 'U' => codeEscape 8
  | _ => refuse

def lineText (quote : Char) : Reading String :=
  untilDone (fun (found : List Char) => do
    let c ← next
    if c = quote then return .inr (String.ofList found.reverse)
    else if c = '\\' && quote = '\x22' then return .inl ((← escape) :: found)
    else if isPlain c then return .inl (c :: found)
    else refuse) []

def eatFoldedLine : Reading Bool := do
  match ← attempt (do
    skipBlanks
    if !(← eatLineEnd) then refuse) with
  | some _ =>
    untilDone (fun (_ : Unit) => do
      let blanks ← takeWhile isBlank
      if (← eatLineEnd) || !blanks.isEmpty then return .inl () else return .inr ()) ()
    return true
  | none => return false

/-- A string over several lines, behind its three opening quotes. Up to two quotes may stand in front
of the closing ones. -/
def linesText (quote : Char) : Reading String := do
  let _ ← eatLineEnd
  untilDone (fun (found : List Char) => do
    let quotes ← takeWhile (· == quote)
    if 3 ≤ quotes.length then
      if 5 < quotes.length then refuse
      else return .inr (String.ofList (found.reverse ++ quotes.drop 3))
    else if !quotes.isEmpty then return .inl (quotes ++ found)
    else if ← eatLineEnd then return .inl ('\n' :: found)
    else
      let c ← next
      if c = '\\' && quote = '\x22' then
        if ← eatFoldedLine then return .inl found else return .inl ((← escape) :: found)
      else if isPlain c then return .inl (c :: found)
      else refuse) []

def textValue (quote : Char) : Reading String := do
  let mark := String.ofList [quote]
  if ← eat (mark ++ mark ++ mark) then linesText quote
  else
    expect mark
    lineText quote

def isBare (c : Char) : Bool :=
  c.isAlphanum || c == '_' || c == '-'

def keyPart : Reading String := do
  match ← peek? with
  | some '\x22' =>
    drop 1
    lineText '\x22'
  | some '\'' =>
    drop 1
    lineText '\''
  | _ =>
    let found ← takeWhile isBare
    if found.isEmpty then refuse else return String.ofList found

def depthLimit : Nat := 79

def key : Reading (List String) := do
  let parts ← untilDone (fun (found : List String) => do
    skipBlanks
    let found := (← keyPart) :: found
    skipBlanks
    if ← eat "." then return .inl found else return .inr found.reverse) []
  if depthLimit < parts.length then refuse else return parts

def isDigit (c : Char) : Bool := '0' ≤ c && c ≤ '9'

def digits (kind : Char → Bool) : Reading (List Char) := do
  let first ← next
  if !kind first then refuse
  untilDone (fun (found : List Char) => do
    match ← rest with
    | '_' :: c :: _ =>
      if kind c then
        drop 2
        return .inl (c :: found)
      else refuse
    | ['_'] => refuse
    | c :: _ =>
      if kind c then
        drop 1
        return .inl (c :: found)
      else return .inr found.reverse
    | [] => return .inr found.reverse) [first]

def valueOf (base : Nat) (digits : List Char) : Nat :=
  digits.foldl (fun value c => value * base + (hexDigit? c).getD 0) 0

def sign : Reading Bool := do
  if ← eat "-" then return true
  else
    let _ ← eat "+"
    return false

def wholeDigits : Reading (List Char) := do
  if ← eat "0" then return ['0'] else digits isDigit

def smallestInteger : Int := -9223372036854775808
def largestInteger : Int := 9223372036854775807

def toInteger (value : Int) : Reading Toml := do
  if value < smallestInteger ∨ largestInteger < value then refuse else return .integer value

def exponent? : Reading (Option Int) := do
  if (← peek?).any fun c => c == 'e' || c == 'E' then
    drop 1
    let negative ← sign
    let found : Int := valueOf 10 (← digits isDigit)
    return some (if negative then -found else found)
  else return none

def smallestScale : Int := -1100

/-- A number from its digits and the power of ten it is multiplied by. One that is too large is
refused, but for a negative one, which becomes infinite. -/
def toFraction (negative : Bool) (digits : Nat) (exponent : Int) : Reading Toml := do
  let length : Int := (toString digits).length
  if digits = 0 || length + exponent < smallestScale then return .fraction (.decimal negative 0 1)
  else
    let overflows := 400 < length + exponent ||
      Fraction.doubleBound * Nat.pow 10 (-exponent).toNat ≤ digits * Nat.pow 10 exponent.toNat
    if overflows then
      if negative then return .fraction (.infinite true) else refuse
    else if exponent < 0 then return .fraction (.decimal negative digits (-exponent).toNat)
    else return .fraction (.decimal negative (digits * Nat.pow 10 exponent.toNat * 10) 1)

def decimalNumber : Reading Toml := do
  let negative ← sign
  if ← eat "inf" then return .fraction (.infinite negative)
  else if ← eat "nan" then return .fraction .undefined
  else
    let whole ← wholeDigits
    let fraction? ← if ← eat "." then some <$> digits isDigit else pure none
    let exponent? ← exponent?
    match fraction?, exponent? with
    | none, none =>
      let value : Int := valueOf 10 whole
      toInteger (if negative then -value else value)
    | _, _ =>
      let fraction := fraction?.getD []
      toFraction negative (valueOf 10 (whole ++ fraction))
        (exponent?.getD 0 - (fraction.length : Int))

def number : Reading Toml := do
  if ← eat "0x" then toInteger (valueOf 16 (← digits fun c => (hexDigit? c).isSome))
  else if ← eat "0o" then toInteger (valueOf 8 (← digits fun c => '0' ≤ c && c ≤ '7'))
  else if ← eat "0b" then toInteger (valueOf 2 (← digits fun c => c == '0' || c == '1'))
  else decimalNumber

def digitsWithin (count low high : Nat) : Reading Nat := do
  let found := (← rest).take count
  if found.length < count || !found.all isDigit then refuse
  drop count
  let value := valueOf 10 found
  if value < low || high < value then refuse else return value

def paddedText (width value : Nat) : String :=
  let found := (toString value).toList
  String.ofList (List.replicate (width - found.length) '0' ++ found)

def daysIn (year month : Nat) : Nat :=
  if month = 2 then if year % 4 = 0 ∧ (year % 100 ≠ 0 ∨ year % 400 = 0) then 29 else 28
  else if month = 4 ∨ month = 6 ∨ month = 9 ∨ month = 11 then 30
  else 31

def date : Reading String := do
  let year ← digitsWithin 4 0 9999
  expect "-"
  let month ← digitsWithin 2 1 12
  expect "-"
  let day ← digitsWithin 2 1 31
  if daysIn year month < day then refuse
  return paddedText 4 year ++ "-" ++ paddedText 2 month ++ "-" ++ paddedText 2 day

def secondPart : Reading String := do
  if ← eat "." then
    let found ← takeWhile isDigit
    if found.isEmpty then refuse
    let kept := ((found.take 9).reverse.dropWhile (· == '0')).reverse
    return if kept.isEmpty then "" else String.ofList ('.' :: kept)
  else return ""

def time : Reading String := do
  let hour ← digitsWithin 2 0 23
  expect ":"
  let minute ← digitsWithin 2 0 59
  expect ":"
  let second ← digitsWithin 2 0 60
  return paddedText 2 hour ++ ":" ++ paddedText 2 minute ++ ":" ++ paddedText 2 second ++
    (← secondPart)

def offset : Reading String := do
  if (← peek?).any fun c => c == 'Z' || c == 'z' then
    drop 1
    return "Z"
  else if (← peek?).any fun c => c == '+' || c == '-' then
    let negative ← sign
    let hour ← digitsWithin 2 0 23
    expect ":"
    let minute ← digitsWithin 2 0 59
    let mark := if negative && (hour ≠ 0 || minute ≠ 0) then "-" else "+"
    return mark ++ paddedText 2 hour ++ ":" ++ paddedText 2 minute
  else return ""

def wouldRead (reading : Reading α) : Reading Bool := fun text =>
  some ((reading text).isSome, text)

/-- The time behind a date, if there is one. A blank in front of it is not taken for a separator unless
an hour follows. -/
def timeOfDay : Reading String := do
  let separated ← wouldRead (do
    let separator ← next
    if separator ≠ 'T' ∧ separator ≠ 't' ∧ separator ≠ ' ' then refuse
    let _ ← digitsWithin 2 0 23
    expect ":")
  if separated then
    drop 1
    return "T" ++ (← time) ++ (← offset)
  else return ""

def momentValue : Reading Toml := do
  let startsDate ← wouldRead (do
    let _ ← digitsWithin 4 0 9999
    expect "-")
  if startsDate then
    let found ← date
    return .moment (found ++ (← timeOfDay))
  else return .moment (← time)

def startsMoment : Reading Bool :=
  wouldRead (do
    let found ← takeWhile isDigit
    let c ← next
    if (found.length = 4 ∧ c = '-') ∨ (found.length = 2 ∧ c = ':') then return () else refuse)

end ModuleBundler.Toml
