import ModuleBundler.Script.Character

/-!
The tokens of a script. A token remembers the text from its first character on, so that it can be
read again as a regular expression or as the rest of a template where the grammar asks for one.
-/

namespace ModuleBundler.Script

structure Span where
  start : Nat
  stop : Nat
  deriving DecidableEq, Repr, Inhabited

structure Fault where
  offset : Nat
  reason : String
  deriving DecidableEq, Repr, Inhabited

/-- What a token is. -/
inductive Lexeme where
  /-- A name or keyword, with its escapes resolved. -/
  | word (name : String) (escaped : Bool)
  | privateName (name : String)
  | sign (text : String)
  | number
  | bigInteger
  | text (value : String)
  /-- A stretch of a template up to a substitution, or up to its end when `closes`; a stretch is
  `sound` if its escapes are. -/
  | template (closes sound : Bool)
  | regex
  | interpreterLine
  | endOfText
  deriving DecidableEq, Repr, Inhabited

structure Token where
  lexeme : Lexeme
  start : Nat
  stop : Nat
  /-- Whether a line ended between the previous token and this one. -/
  opensLine : Bool
  /-- The text from the first character of the token on. -/
  text : List Char
  /-- The text behind the token. -/
  rest : List Char
  deriving Repr, Inhabited

def Token.span (token : Token) : Span :=
  ⟨token.start, token.stop⟩

structure Place where
  offset : Nat
  text : List Char
  deriving Repr, Inhabited

namespace Place

def skip (place : Place) : Nat → Place
  | 0 => place
  | count + 1 =>
    match place.text with
    | [] => place
    | c :: rest => skip ⟨place.offset + c.utf8Size, rest⟩ count

def fault (place : Place) (reason : String) : Except Fault α :=
  .error ⟨place.offset, reason⟩

end Place

/-- What blank space is being read: plain space, a comment up to the end of the line, or a comment
up to its closing mark. -/
inductive Gap where
  | space
  | lineComment
  | blockComment
  deriving DecidableEq, Repr

/-- Skips blanks and comments. The flag tells whether a line has ended, as it has at the start of a
script; only then does `-->` open a comment, while `<!--` does so everywhere. -/
def skipGap : Gap → Nat → Bool → List Char → Except Fault (Bool × Place)
  | .blockComment, offset, _, [] => .error ⟨offset, "unterminated comment"⟩
  | _, offset, opensLine, [] => .ok (opensLine, ⟨offset, []⟩)
  | .blockComment, offset, opensLine, '*' :: '/' :: rest =>
    skipGap .space (offset + 2) opensLine rest
  | .blockComment, offset, opensLine, c :: rest =>
    skipGap .blockComment (offset + c.utf8Size) (opensLine || isLineTerminator c) rest
  | .lineComment, offset, opensLine, c :: rest =>
    if isLineTerminator c then skipGap .space (offset + c.utf8Size) true rest
    else skipGap .lineComment (offset + c.utf8Size) opensLine rest
  | .space, offset, opensLine, '/' :: '/' :: rest => skipGap .lineComment (offset + 2) opensLine rest
  | .space, offset, opensLine, '/' :: '*' :: rest => skipGap .blockComment (offset + 2) opensLine rest
  | .space, offset, opensLine, '<' :: '!' :: '-' :: '-' :: rest =>
    skipGap .lineComment (offset + 4) opensLine rest
  | .space, offset, true, '-' :: '-' :: '>' :: rest => skipGap .lineComment (offset + 3) true rest
  | .space, offset, opensLine, c :: rest =>
    if isLineTerminator c then skipGap .space (offset + c.utf8Size) true rest
    else if isBlank c then skipGap .space (offset + c.utf8Size) opensLine rest
    else .ok (opensLine, ⟨offset, c :: rest⟩)

def signs : List String :=
  [">>>=", "...", "===", "!==", "**=", "<<=", ">>=", ">>>", "&&=", "||=", "??=",
   "=>", "==", "!=", "<=", ">=", "&&", "||", "??", "++", "--", "+=", "-=", "*=", "/=", "%=", "&=",
   "|=", "^=", "<<", ">>", "**",
   "\x7b", "\x7d", "(", ")", "[", "]", ".", ";", ",", "<", ">", "+", "-", "*", "/", "%", "&", "|",
   "^", "!", "~", "?", ":", "=", "@"]

def signSpellings : List (List Char × String) :=
  signs.map fun sign => (sign.toList, sign)

def signAt? (text : List Char) : Option (Nat × String) :=
  match text with
  | '?' :: '.' :: c :: _ => if isDigit c then some (1, "?") else some (2, "?.")
  | ['?', '.'] => some (2, "?.")
  | _ =>
    (signSpellings.find? fun (spelling, _) => spelling.isPrefixOf text).map
      fun (spelling, sign) => (spelling.length, sign)

/-- Reads digits of a base, single underscores between two of them included; `after` tells whether
a digit has just been read, so that an underscore may follow. -/
def skipDigits (base : Nat) (after : Bool) : Nat → List Char → Except Fault Place
  | offset, [] => .ok ⟨offset, []⟩
  | offset, '_' :: c :: rest =>
    if !after then .ok ⟨offset, '_' :: c :: rest⟩
    else if isDigitOf base c then skipDigits base true (offset + 2) rest
    else .error ⟨offset + 1, "a digit must follow the separator"⟩
  | offset, ['_'] => if after then .error ⟨offset + 1, "a digit must follow the separator"⟩ else .ok ⟨offset, ['_']⟩
  | offset, c :: rest =>
    if isDigitOf base c then skipDigits base true (offset + 1) rest else .ok ⟨offset, c :: rest⟩

def endNumber (lexeme : Lexeme) (place : Place) : Except Fault (Lexeme × Place) :=
  match place.text with
  | [] => .ok (lexeme, place)
  | c :: _ =>
    if isDigit c || startsName c then place.fault "unexpected character after a number"
    else .ok (lexeme, place)

def skipExponent (place : Place) : Except Fault Place :=
  let digits :=
    match place.text with
    | '+' :: _ | '-' :: _ => place.skip 1
    | _ => place
  match digits.text with
  | c :: _ => if isDigit c then skipDigits 10 false digits.offset digits.text
      else digits.fault "an exponent needs a digit"
  | [] => digits.fault "an exponent needs a digit"

def skipExponent? (place : Place) : Except Fault Place :=
  match place.text with
  | 'e' :: _ | 'E' :: _ => skipExponent (place.skip 1)
  | _ => .ok place

def endFraction (place : Place) : Except Fault (Lexeme × Place) := do
  let place ← skipDigits 10 false place.offset place.text
  endNumber .number (← skipExponent? place)

def endDecimal (place : Place) : Except Fault (Lexeme × Place) :=
  match place.text with
  | '.' :: _ => endFraction (place.skip 1)
  | 'n' :: _ => endNumber .bigInteger (place.skip 1)
  | _ => do endNumber .number (← skipExponent? place)

def scanBased (base : Nat) (place : Place) : Except Fault (Lexeme × Place) := do
  match place.text with
  | [] => place.fault "a digit must follow the base"
  | c :: _ =>
    if !isDigitOf base c then place.fault "a digit must follow the base"
    else
      let place ← skipDigits base false place.offset place.text
      match place.text with
      | 'n' :: _ => endNumber .bigInteger (place.skip 1)
      | _ => endNumber .number place

/-- Reads a number that starts with a zero and a further digit. It is octal, and ends with its
digits, unless it holds an eight or a nine. -/
def scanLegacyNumber (place : Place) : Except Fault (Lexeme × Place) :=
  let digits := place.text.takeWhile isDigit
  let place := place.skip digits.length
  if digits.any (fun c => c == '8' || c == '9') then
    match place.text with
    | '.' :: _ => endFraction (place.skip 1)
    | 'e' :: _ => do endNumber .number (← skipExponent (place.skip 1))
    | _ => endNumber .number place
  else endNumber .number place

def scanNumber (place : Place) : Except Fault (Lexeme × Place) :=
  match place.text with
  | '0' :: 'x' :: _ | '0' :: 'X' :: _ => scanBased 16 (place.skip 2)
  | '0' :: 'o' :: _ | '0' :: 'O' :: _ => scanBased 8 (place.skip 2)
  | '0' :: 'b' :: _ | '0' :: 'B' :: _ => scanBased 2 (place.skip 2)
  | '0' :: 'e' :: _ | '0' :: 'E' :: _ => do return (.number, ← skipExponent (place.skip 2))
  | '0' :: '.' :: _ => endFraction (place.skip 2)
  | '0' :: 'n' :: _ => endNumber .bigInteger (place.skip 2)
  | '0' :: c :: _ => if isDigit c then scanLegacyNumber place else endNumber .number (place.skip 1)
  | '.' :: _ => endFraction (place.skip 1)
  | _ => do endDecimal (← skipDigits 10 false place.offset place.text)

def hexValue? (digits : List Char) : Option Nat :=
  digits.foldlM (fun value c => (digitValue? c).map (value * 16 + ·)) 0

def hexText (value : Nat) : List Char :=
  Nat.toDigits 16 value

def bracedCode? : Nat → Nat → List Char → Option (Nat × Nat)
  | count, value, '\x7d' :: _ => if count = 0 then none else some (value, count)
  | count, value, c :: rest =>
    match digitValue? c with
    | some digit =>
      if value * 16 + digit ≤ 0x10ffff then bracedCode? (count + 1) (value * 16 + digit) rest else none
    | none => none
  | _, _, [] => none

def isHighSurrogate (code : Nat) : Bool := 0xd800 ≤ code && code ≤ 0xdbff
def isLowSurrogate (code : Nat) : Bool := 0xdc00 ≤ code && code ≤ 0xdfff

def codeText (code : Nat) : List Char :=
  if code.isValidChar then [Char.ofNat code] else '\\' :: 'u' :: hexText code

structure Escape where
  meaning : List Char
  length : Nat
  deriving DecidableEq, Repr, Inhabited

/-- The escape whose letter `u` the text follows. A high surrogate takes the next escape with it,
and both stand for one character if that one is a low surrogate. -/
def unicodeEscape? : List Char → Option Escape
  | '\x7b' :: rest => (bracedCode? 0 0 rest).map fun (code, count) => ⟨codeText code, count + 3⟩
  | a :: b :: c :: d :: rest => do
    let high ← hexValue? [a, b, c, d]
    match isHighSurrogate high, rest with
    | true, '\\' :: 'u' :: rest =>
      match rest with
      | a :: b :: c :: d :: _ =>
        let low ← hexValue? [a, b, c, d]
        if isLowSurrogate low then
          some ⟨[Char.ofNat (0x10000 + (high - 0xd800) * 0x400 + (low - 0xdc00))], 11⟩
        else some ⟨'\\' :: 'u' :: hexText high ++ '\\' :: 'u' :: hexText low, 11⟩
      | _ => none
    | _, _ => some ⟨codeText high, 5⟩
  | _ => none

def letterEscape? : Char → Option Char
  | 'b' => some '\x08'
  | 't' => some '\t'
  | 'n' => some '\n'
  | 'v' => some '\x0b'
  | 'f' => some '\x0c'
  | 'r' => some '\r'
  | _ => none

def octalEscape (digits : List Char) : Escape :=
  let limit := match digits with
    | c :: _ => if c ≤ '3' then 3 else 2
    | [] => 0
  let taken := (digits.take limit).takeWhile (isDigitOf 8)
  ⟨[Char.ofNat (taken.foldl (fun value c => value * 8 + (c.toNat - 48)) 0)], taken.length⟩

/-- The escape behind a backslash, if it stands for anything. In a template no digit may be escaped
but a zero that stands alone. -/
def escape? (inTemplate : Bool) : List Char → Option Escape
  | [] => none
  | '\r' :: '\n' :: _ => some ⟨[], 2⟩
  | 'x' :: a :: b :: _ => (hexValue? [a, b]).map fun code => ⟨[Char.ofNat code], 3⟩
  | 'u' :: rest => unicodeEscape? rest
  | c :: rest =>
    if c == 'x' then none
    else if isLineTerminator c then some ⟨[], 1⟩
    else match letterEscape? c with
      | some letter => some ⟨[letter], 1⟩
      | none =>
        if !isDigit c then some ⟨[c], 1⟩
        else if c == '0' && !(rest.head?.any isDigit) then some ⟨['\x00'], 1⟩
        else if inTemplate then none
        else if isDigitOf 8 c then some (octalEscape (c :: rest))
        else some ⟨[c], 1⟩

def scanText (quote : Char) : Nat → List Char → Nat → List Char → Except Fault (String × Place)
  | _, _, offset, [] => .error ⟨offset, "unterminated string"⟩
  | skip + 1, value, offset, c :: rest => scanText quote skip value (offset + c.utf8Size) rest
  | 0, value, offset, c :: rest =>
    if c == '\\' then
      match escape? false rest with
      | some escape => scanText quote escape.length (escape.meaning.reverse ++ value) (offset + 1) rest
      | none => .error ⟨offset, "invalid escape"⟩
    else if c == quote then .ok (String.ofList value.reverse, ⟨offset + 1, rest⟩)
    else if c == '\n' || c == '\r' then .error ⟨offset, "unterminated string"⟩
    else scanText quote 0 (c :: value) (offset + c.utf8Size) rest

def scanTemplate : Nat → Bool → Nat → List Char → Except Fault (Lexeme × Place)
  | _, _, offset, [] => .error ⟨offset, "unterminated template"⟩
  | skip + 1, sound, offset, c :: rest => scanTemplate skip sound (offset + c.utf8Size) rest
  | 0, sound, offset, c :: rest =>
    if c == '\x60' then .ok (.template true sound, ⟨offset + 1, rest⟩)
    else if c == '$' && rest.head? == some '\x7b' then
      .ok (.template false sound, ⟨offset + 2, rest.drop 1⟩)
    else if c == '\\' then
      match escape? true rest with
      | some escape => scanTemplate escape.length sound (offset + 1) rest
      | none => scanTemplate 1 false (offset + 1) rest
    else scanTemplate 0 sound (offset + c.utf8Size) rest

def skipRegexBody : Bool → Nat → List Char → Except Fault Place
  | _, offset, [] => .error ⟨offset, "unterminated regular expression"⟩
  | inClass, offset, '\\' :: c :: rest =>
    if isLineTerminator c then .error ⟨offset, "unterminated regular expression"⟩
    else skipRegexBody inClass (offset + 1 + c.utf8Size) rest
  | inClass, offset, c :: rest =>
    if isLineTerminator c then .error ⟨offset, "unterminated regular expression"⟩
    else if c == '/' && !inClass then .ok ⟨offset + 1, rest⟩
    else skipRegexBody ((inClass || c == '[') && c != ']') (offset + c.utf8Size) rest

def skipRegexFlags : List Char → Nat → List Char → Except Fault Place
  | _, offset, [] => .ok ⟨offset, []⟩
  | seen, offset, c :: rest =>
    if !(isAsciiLetter c || isDigit c || c == '$' || c == '_') then .ok ⟨offset, c :: rest⟩
    else if "dgimsuvy".toList.contains c && !seen.contains c then
      skipRegexFlags (c :: seen) (offset + 1) rest
    else .error ⟨offset, "invalid regular expression flag"⟩

def Token.asRegex (token : Token) : Except Fault Token := do
  let place ← skipRegexBody false (token.start + 1) (token.text.drop 1)
  let place ← skipRegexFlags [] place.offset place.text
  return { token with lexeme := .regex, stop := place.offset, rest := place.text }

def Token.asTemplate (token : Token) : Except Fault Token := do
  let (lexeme, place) ← scanTemplate 0 true (token.start + 1) (token.text.drop 1)
  return { token with lexeme, stop := place.offset, rest := place.text }

structure NameRead where
  name : String
  escaped : Bool
  after : Place
  deriving Repr, Inhabited

def scanName : Nat → List Char → Bool → Nat → List Char → Except Fault NameRead
  | _, name, escaped, offset, [] => .ok ⟨String.ofList name.reverse, escaped, ⟨offset, []⟩⟩
  | skip + 1, name, escaped, offset, c :: rest => scanName skip name escaped (offset + c.utf8Size) rest
  | 0, name, escaped, offset, c :: rest =>
    let admits := if name.isEmpty then startsName else continuesName
    if c == '\\' then
      match if rest.head? == some 'u' then unicodeEscape? (rest.drop 1) else none with
      | some ⟨[meant], length⟩ =>
        if admits meant then scanName length (meant :: name) true (offset + 1) rest
        else .error ⟨offset, "invalid escape in a name"⟩
      | _ => .error ⟨offset, "invalid escape in a name"⟩
    else if admits c then scanName 0 (c :: name) escaped (offset + c.utf8Size) rest
    else .ok ⟨String.ofList name.reverse, escaped, ⟨offset, c :: rest⟩⟩

def scanLexeme (place : Place) : Except Fault (Lexeme × Place) :=
  match place.text with
  | [] => .ok (.endOfText, place)
  | c :: rest =>
    let behind : Nat := place.offset + c.utf8Size
    if c == '\x60' then scanTemplate 0 true behind rest
    else if c == '\x22' || c == '\x27' then do
      let (value, after) ← scanText c 0 [] behind rest
      return (.text value, after)
    else if c == '#' then
      if place.offset = 0 ∧ rest.head? = some '!' then
        let line := place.text.takeWhile fun c => !isLineTerminator c
        .ok (.interpreterLine, place.skip line.length)
      else do
        let read ← scanName 0 [] false behind rest
        if read.name.isEmpty then place.fault "unexpected character"
        else return (.privateName read.name, read.after)
    else if isDigit c || (c == '.' && rest.head?.any isDigit) then scanNumber place
    else if c == '\\' || startsName c then do
      let read ← scanName 0 [] false place.offset place.text
      return (.word read.name read.escaped, read.after)
    else match signAt? place.text with
      | some (length, sign) => .ok (.sign sign, place.skip length)
      | none => place.fault "unexpected character"

def scanToken (opensLine : Bool) (place : Place) : Except Fault Token := do
  let (opensLine, place) ← skipGap .space place.offset opensLine place.text
  let (lexeme, after) ← scanLexeme place
  return {
    lexeme, start := place.offset, stop := after.offset, opensLine
    text := place.text, rest := after.text }

def Token.next (token : Token) : Except Fault Token :=
  scanToken (token.lexeme = .interpreterLine) ⟨token.stop, token.rest⟩

end ModuleBundler.Script
