import ModuleBundler.Pattern.Basic

/-!
Reading a pattern from its text. A `Reading` consumes characters and fails where the text is no pattern;
flags that are set in the middle of a group last until it is closed.
-/

namespace ModuleBundler.Pattern

/-- How the characters of a pattern are meant. -/
structure Flags where
  ignoresCase : Bool := false
  multiLine : Bool := false
  dotTakesLines : Bool := false
  wide : Bool := true
  returns : Bool := false
  /-- Whether blanks and comments in the pattern mean nothing. -/
  verbose : Bool := false
  deriving DecidableEq, Repr, Inhabited

structure Reader where
  text : List Char
  flags : Flags
  names : List String
  deriving Inhabited

abbrev Reading := StateT Reader Option

def refuse : Reading α := failure

def peek? : Reading (Option Char) := do
  return (← get).text.head?

def rest : Reading (List Char) := do
  return (← get).text

def drop (count : Nat) : Reading Unit :=
  modify fun reader => { reader with text := reader.text.drop count }

def flags : Reading Flags := do
  return (← get).flags

def eat (text : String) : Reading Bool := do
  if text.toList.isPrefixOf (← rest) then
    drop text.toList.length
    return true
  else return false

def expect (text : String) : Reading Unit := do
  if !(← eat text) then refuse

def next : Reading Char := do
  match ← peek? with
  | some c =>
    drop 1
    return c
  | none => refuse

def skipVerbose : Bool → List Char → List Char
  | _, [] => []
  | true, c :: rest => skipVerbose (c != '\n') rest
  | false, c :: rest =>
    if Unicode.isWhiteSpace c then skipVerbose false rest
    else if c = '#' then skipVerbose true rest
    else c :: rest

def skipIdle : Reading Unit :=
  modify fun reader =>
    if reader.flags.verbose then { reader with text := skipVerbose false reader.text } else reader

def loop (step : σ → Reading (σ ⊕ α)) : Nat → σ → Reading α
  | 0, _ => refuse
  | count + 1, state => do
    match ← step state with
    | .inl state => loop step count state
    | .inr found => return found

def untilDone (step : σ → Reading (σ ⊕ α)) (state : σ) : Reading α := do
  loop step ((← rest).length + 2) state

inductive Escape where
  | literal (c : Char)
  /-- A character given by its number. -/
  | code (value : Nat)
  | characters (class_ : CharClass)
  | condition (anchor : Anchor)
  deriving Inhabited

def withCases (flags : Flags) (characters : CharClass) : CharClass :=
  if flags.ignoresCase then .folded flags.wide characters else characters

def complemented (flags : Flags) (negated : Bool) (characters : CharClass) : Reading CharClass := do
  let found := if negated then .complement characters else characters
  if !flags.wide && found.holds '\u0080' then refuse else return found

def digitsOf : CharClass := .range '0' '9'

def letterClass (wide : Bool) (letter : Char) : CharClass :=
  match letter, wide with
  | 'd', true => .property (.category .decimalNumber)
  | 'd', false => digitsOf
  | 's', true => .property .whiteSpace
  | 's', false => .union (.range '\t' '\r') (.single ' ')
  | _, true => .property .wordPart
  | _, false => .union (.union (.range 'a' 'z') (.range 'A' 'Z')) (.union digitsOf (.single '_'))

def hexDigit? (c : Char) : Option Nat :=
  if '0' ≤ c && c ≤ '9' then some (c.toNat - 48)
  else if 'a' ≤ c && c ≤ 'f' then some (c.toNat - 87)
  else if 'A' ≤ c && c ≤ 'F' then some (c.toNat - 55)
  else none

def hexValue? (digits : List Char) : Option Nat := do
  if digits.isEmpty then none
  let value ← digits.foldlM (fun value c => (hexDigit? c).map (value * 16 + ·)) 0
  if value.isValidChar then some value else none

def upTo (sign : Char) : Reading (List Char) := do
  let text ← rest
  let inside := text.takeWhile (· != sign)
  if inside.length = text.length then refuse
  drop (inside.length + 1)
  return inside

def hexEscape (letter : Char) : Reading Escape := do
  let digits ←
    if ← eat "\x7b" then upTo '\x7d'
    else
      let count := if letter = 'x' then 2 else if letter = 'u' then 4 else 8
      let digits := (← rest).take count
      if digits.length < count then refuse
      drop count
      pure digits
  match hexValue? digits with
  | some value => return .code value
  | none => refuse

def propertyEscape (negated : Bool) : Reading Escape := do
  let flags ← flags
  if !flags.wide then refuse
  let (negated, property) ←
    if ← eat "\x7b" then
      let name ← upTo '\x7d'
      let kind := name.takeWhile fun c => c != '=' && c != ':'
      let behind := name.drop kind.length
      match behind, kind.getLast? with
      | [], _ => pure (negated, property? name)
      | '=' :: value, some '!' => pure (!negated, propertyOfKind? kind.dropLast value)
      | _ :: value, _ => pure (negated, propertyOfKind? kind value)
    else
      let name ← next
      pure (negated, categoryProperty? (looseName [name]))
  match property with
  | some property =>
    return .characters (← complemented flags negated (withCases flags (.property property)))
  | none => refuse

def boundaryEscape : Reading Escape := do
  let wide := (← flags).wide
  match ← rest with
  | '\x7b' :: c :: _ =>
    if c.isAlpha || c == '-' then
      drop 1
      match String.ofList (← upTo '\x7d') with
      | "start" => return .condition (.wordStart wide)
      | "end" => return .condition (.wordEnd wide)
      | "start-half" => return .condition (.wordStartHalf wide)
      | "end-half" => return .condition (.wordEndHalf wide)
      | _ => refuse
    else return .condition (.wordBoundary wide)
  | ['\x7b'] => refuse
  | _ => return .condition (.wordBoundary wide)

/-- An escape behind its backslash. Signs stand for themselves; letters and digits that mean nothing
are refused. -/
def escape : Reading Escape := do
  let flags ← flags
  let c ← next
  match c with
  | 'x' | 'u' | 'U' => hexEscape c
  | 'p' | 'P' => propertyEscape (c = 'P')
  | 'd' | 's' | 'w' => return .characters (letterClass flags.wide c)
  | 'D' | 'S' | 'W' =>
    return .characters (← complemented flags true (letterClass flags.wide c.toLower))
  | 'a' => return .literal '\x07'
  | 'f' => return .literal '\x0c'
  | 't' => return .literal '\t'
  | 'n' => return .literal '\n'
  | 'r' => return .literal '\r'
  | 'v' => return .literal '\x0b'
  | 'A' => return .condition .textStart
  | 'z' => return .condition .textEnd
  | 'b' => boundaryEscape
  | 'B' => return .condition (.noWordBoundary flags.wide)
  | '<' => return .condition (.wordStart flags.wide)
  | '>' => return .condition (.wordEnd flags.wide)
  | _ => if c.toNat < 128 && !c.isAlphanum then return .literal c else refuse

def literalClass (flags : Flags) (c : Char) : CharClass :=
  withCases flags (.single c)

inductive SetOperator where
  | intersection
  | difference
  | symmetric
  deriving DecidableEq, Repr

def SetOperator.apply (operator : SetOperator) (flags : Flags) (left right : CharClass) :
    CharClass :=
  let left := withCases flags left
  let right := withCases flags right
  match operator with
  | .intersection => .intersection left right
  | .difference => .difference left right
  | .symmetric => .symmetric left right

structure Bracket where
  left : Option (SetOperator × CharClass)
  items : CharClass
  deriving Inhabited

def Bracket.add (bracket : Bracket) (item : CharClass) : Bracket :=
  { bracket with items := .union bracket.items item }

def Bracket.closed (bracket : Bracket) (flags : Flags) : CharClass :=
  match bracket.left with
  | some (operator, left) => operator.apply flags left bracket.items
  | none => bracket.items

def bracketItem : Reading Escape := do
  if ← eat "\\" then escape else return .literal (← next)

def Escape.character (item : Escape) (flags : Flags) : Reading Char := do
  let found : Char ←
    match item with
    | .literal c => pure c
    | .code value => pure (Char.ofNat value)
    | _ => refuse
  if !flags.wide && 128 ≤ found.toNat then refuse else return found

/-- An item of a class: a character, a range of them, or a class. A hyphen in front of the closing
bracket or of another hyphen makes no range. -/
def bracketRange (flags : Flags) : Reading CharClass := do
  let first ← bracketItem
  skipIdle
  let behind ← (do
    let text ← rest
    drop 1
    skipIdle
    let behind ← peek?
    modify fun reader => { reader with text }
    return (text.head?, behind))
  match behind with
  | (some '-', some c) =>
    if c = ']' || c = '-' then
      match first with
      | .characters found => return found
      | item => return .single (← item.character flags)
    else
      drop 1
      skipIdle
      let last ← bracketItem
      let low ← first.character flags
      let high ← last.character flags
      if high < low then refuse else return .range low high
  | (some '-', none) => refuse
  | (some _, _) =>
    match first with
    | .characters found => return found
    | item => return .single (← item.character flags)
  | (none, _) => refuse

def namedClass? : Reading (Option CharClass) := do
  match ← rest with
  | '[' :: ':' :: text =>
    let (negated, text) := match text with
      | '^' :: text => (true, text)
      | _ => (false, text)
    let name := text.takeWhile (· != ':')
    match text.drop name.length, asciiClass? (String.ofList name) with
    | ':' :: ']' :: text, some found =>
      modify fun reader => { reader with text }
      return some (if negated then .complement found else found)
    | _, _ => return none
  | _ => return none

def bracket : Nat → Reading CharClass
  | 0 => refuse
  | depth + 1 => do
    let flags ← flags
    expect "["
    skipIdle
    let negated ← eat "^"
    skipIdle
    let opening : Bracket ← untilDone (fun (bracket : Bracket) => do
      if ← eat "-" then
        skipIdle
        return .inl (bracket.add (.single '-'))
      else return .inr bracket) ⟨none, .none⟩
    let opening ←
      if opening.items = .none && (← peek?) = some ']' then do
        drop 1
        pure (opening.add (.single ']'))
      else pure opening
    let found ← untilDone (fun (found : Bracket) => do
      skipIdle
      let operated (operator : SetOperator) : Bracket :=
        ⟨some (operator, found.closed flags), .none⟩
      match ← rest with
      | '[' :: _ =>
        match ← namedClass? with
        | some named => return .inl (found.add (← complemented flags false (withCases flags named)))
        | none => return .inl (found.add (← bracket depth))
      | ']' :: _ =>
        drop 1
        return .inr (found.closed flags)
      | '&' :: '&' :: _ =>
        drop 2
        return .inl (operated .intersection)
      | '-' :: '-' :: _ =>
        drop 2
        return .inl (operated .difference)
      | '~' :: '~' :: _ =>
        drop 2
        return .inl (operated .symmetric)
      | [] => refuse
      | _ => return .inl (found.add (← bracketRange flags))) opening
    complemented flags negated (withCases flags found)

def countLimit : Nat := 4294967296

def decimal : Reading Nat := do
  let skipBlanks : Reading Unit :=
    modify fun reader => { reader with text := reader.text.dropWhile Unicode.isWhiteSpace }
  skipBlanks
  let digits := (← rest).takeWhile Char.isDigit
  drop digits.length
  skipBlanks
  let value := digits.foldl (fun value c => value * 10 + (c.toNat - 48)) 0
  if digits.isEmpty || countLimit ≤ value then refuse else return value

def counted (inner : Pattern) : Reading Pattern := do
  expect "\x7b"
  let least ← decimal
  if ← eat "," then
    skipIdle
    if ← eat "\x7d" then return .repeated inner least none
    else
      let most ← decimal
      expect "\x7d"
      if most < least then refuse else return .repeated inner least (some (most - least))
  else
    expect "\x7d"
    return .repeated inner least (some 0)

def repetition (inner : Pattern) : Reading Pattern := do
  match ← peek? with
  | some '*' =>
    drop 1
    return .repeated inner 0 none
  | some '+' =>
    drop 1
    return .repeated inner 1 none
  | some '?' =>
    drop 1
    return .repeated inner 0 (some 1)
  | _ =>
    let found ← counted inner
    skipIdle
    return found

def Flags.with? (flags : Flags) (letter : Char) (value : Bool) : Option Flags :=
  match letter with
  | 'i' => some { flags with ignoresCase := value }
  | 'm' => some { flags with multiLine := value }
  | 's' => some { flags with dotTakesLines := value }
  | 'u' => some { flags with wide := value }
  | 'R' => some { flags with returns := value }
  | 'x' => some { flags with verbose := value }
  | 'U' => some flags
  | _ => none

/-- Letters of flags up to a sign that ends them. Each may be named once, and a hyphen, behind which
they are cleared, needs at least one behind it. -/
def flagLetters (ends : Char → Bool) : Reading (Flags × Bool) := do
  let start := ← flags
  untilDone (fun ((flags, seen) : Flags × List Char) => do
    match ← peek? with
    | none => refuse
    | some c =>
      if ends c then
        if seen.head? = some '-' then refuse else return .inr (flags, seen.isEmpty)
      else if seen.contains c then refuse
      else
        drop 1
        if c = '-' then return .inl (flags, c :: seen)
        else
          match flags.with? c (!seen.contains '-') with
          | some flags => return .inl (flags, c :: seen)
          | none => refuse) (start, [])

def groupName : Reading Unit := do
  let name ← upTo '>'
  let startsName (c : Char) : Bool := c == '_' || Unicode.isAlphabetic c
  let continuesName (c : Char) : Bool :=
    c == '_' || c == '.' || c == '[' || c == ']' || Unicode.isAlphanumeric c
  match name with
  | [] => refuse
  | first :: others =>
    let name := String.ofList name
    if !startsName first || !others.all continuesName || (← get).names.contains name then refuse
    modify fun reader => { reader with names := name :: reader.names }

inductive Opening where
  | group
  | setting
  deriving DecidableEq, Repr

def opening : Reading Opening := do
  skipIdle
  match ← rest with
  | '?' :: '=' :: _ | '?' :: '!' :: _ | '?' :: '<' :: '=' :: _ | '?' :: '<' :: '!' :: _ => refuse
  | '?' :: 'P' :: '<' :: _ =>
    drop 3
    groupName
    return .group
  | '?' :: '<' :: _ =>
    drop 2
    groupName
    return .group
  | '?' :: _ =>
    drop 1
    let (flags, none?) ← flagLetters fun c => c == ':' || c == ')'
    let closing ← next
    if closing = ')' && none? then refuse
    modify fun reader => { reader with flags }
    return if closing = ')' then .setting else .group
  | _ => return .group

abbrev Branch := List (Option Pattern)

def Branch.pattern (branch : Branch) : Pattern :=
  match branch.reverse.filterMap id with
  | [] => .empty
  | first :: others => others.foldl .sequence first

def dot (flags : Flags) : CharClass :=
  if flags.dotTakesLines then .property .any
  else if flags.returns then .complement (.union (.single '\n') (.single '\r'))
  else .complement (.single '\n')

def Escape.pattern (item : Escape) (flags : Flags) : Reading Pattern := do
  match item with
  | .literal c => return .one (literalClass flags c)
  | .code value =>
    if !flags.wide && 128 ≤ value && value < 256 then refuse
    else return .one (literalClass flags (Char.ofNat value))
  | .characters found => return .one found
  | .condition found => return .anchor found

def group (inside : Reading Pattern) : Reading (Option Pattern) := do
  let outer ← flags
  expect "("
  match ← opening with
  | .setting => return none
  | .group =>
    let found ← inside
    expect ")"
    modify fun reader => { reader with flags := outer }
    return some found

def branchStep (depth : Nat) (inside : Reading Pattern) (branch : Branch) :
    Reading (Branch ⊕ Pattern) := do
  skipIdle
  let flags ← flags
  let taken (pattern : Pattern) : Branch ⊕ Pattern := .inl (some pattern :: branch)
  match ← rest with
  | [] | '|' :: _ | ')' :: _ => return .inr branch.pattern
  | '(' :: _ => return .inl ((← group inside) :: branch)
  | '[' :: _ => return taken (.one (← bracket depth))
  | '*' :: _ | '+' :: _ | '?' :: _ | '\x7b' :: _ =>
    match branch with
    | some last :: earlier =>
      let found ← repetition last
      let _ ← eat "?"
      return .inl (some found :: earlier)
    | _ => refuse
  | '\\' :: _ =>
    drop 1
    return taken (← (← escape).pattern flags)
  | '.' :: _ =>
    drop 1
    return taken (.one (← complemented flags false (dot flags)))
  | '^' :: _ =>
    drop 1
    return taken (.anchor (if flags.multiLine then .lineStart flags.returns else .textStart))
  | '$' :: _ =>
    drop 1
    return taken (.anchor (if flags.multiLine then .lineEnd flags.returns else .textEnd))
  | c :: _ =>
    drop 1
    return taken (.one (literalClass flags c))

def alternatives (depth : Nat) (inside : Reading Pattern) : Reading Pattern := do
  let branch : Reading Pattern := untilDone (branchStep depth inside) []
  let first ← branch
  untilDone (fun (found : Pattern) => do
    if ← eat "|" then return .inl (.choice found (← branch)) else return .inr found) first

def whole : Nat → Reading Pattern
  | 0 => refuse
  | depth + 1 => alternatives depth (whole depth)

def nestingLimit : Nat := 250

def sizeLimit : Nat := 10485760

/-- About how many bytes the automaton of a class takes. Properties, and what they are not, have many
ranges. -/
def CharClass.size : CharClass → Nat
  | range first last => if last.toNat < 128 then 32 else 32 * (first.utf8Size + last.utf8Size)
  | property .any | property .ascii => 600
  | property _ => 45000
  | complement (property named) => (property named).size
  | complement inner => 600 + inner.size
  | union left right | intersection left right | difference left right | symmetric left right =>
    left.size + right.size
  | folded _ inner => inner.size

def size : Pattern → Nat
  | empty | anchor _ => 32
  | one characters => characters.size
  | sequence first second | choice first second => first.size + second.size
  | repeated inner least further => inner.size * (least + further.getD 1)

def ofText? (text : String) : Option Pattern :=
  match (whole nestingLimit).run { text := text.toList, flags := {}, names := [] } with
  | some (found, reader) =>
    if reader.text.isEmpty && found.size ≤ sizeLimit then some found else none
  | none => none

end ModuleBundler.Pattern
