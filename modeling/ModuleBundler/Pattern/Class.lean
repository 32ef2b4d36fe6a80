import ModuleBundler.Unicode.Folding
import ModuleBundler.Unicode.Property
import ModuleBundler.Unicode.WritingSystem

/-!
Classes of characters in patterns, and the properties that they can be named by.
-/

namespace ModuleBundler.Pattern

/-- A property of characters that a pattern can name. -/
inductive Property where
  | any
  | assigned
  | ascii
  | category (category : Unicode.Category)
  /-- All categories whose code starts with a letter. -/
  | group (letter : Char)
  /-- Upper, lower and title case letters. -/
  | casedLetter
  | writingSystem (code : String)
  | alphabetic
  | lowercase
  | uppercase
  | whiteSpace
  | wordPart
  | hexDigit
  deriving DecidableEq, Repr, Inhabited

def Property.holds (property : Property) (c : Char) : Bool :=
  match property with
  | any => true
  | assigned => Unicode.category c != .unassigned
  | ascii => c.toNat < 128
  | category wanted => Unicode.category c == wanted
  | group letter => (Unicode.category c).group == letter
  | casedLetter =>
    match Unicode.category c with
    | .uppercaseLetter | .lowercaseLetter | .titlecaseLetter => true
    | _ => false
  | writingSystem code => Unicode.writingSystem c == code
  | alphabetic => Unicode.isAlphabetic c
  | lowercase => Unicode.isLowercase c
  | uppercase => Unicode.isUppercase c
  | whiteSpace => Unicode.isWhiteSpace c
  | wordPart => Unicode.isWordPart c
  | hexDigit => ('0' ≤ c && c ≤ '9') || ('a' ≤ c && c ≤ 'f') || ('A' ≤ c && c ≤ 'F')

/-- A set of characters. -/
inductive CharClass where
  | range (first last : Char)
  | property (property : Property)
  | complement (inner : CharClass)
  | union (left right : CharClass)
  | intersection (left right : CharClass)
  | difference (left right : CharClass)
  | symmetric (left right : CharClass)
  /-- The set with the other cases of its characters; only of ASCII letters, unless `wide`. -/
  | folded (wide : Bool) (inner : CharClass)
  deriving DecidableEq, Repr, Inhabited

namespace CharClass

def none : CharClass := complement (property .any)

def single (c : Char) : CharClass := range c c

def peers (wide : Bool) (c : Char) : List Char :=
  if wide then (Unicode.foldPeers c.toNat).map Char.ofNat
  else if 'a' ≤ c && c ≤ 'z' then [Char.ofNat (c.toNat - 32)]
  else if 'A' ≤ c && c ≤ 'Z' then [Char.ofNat (c.toNat + 32)]
  else []

def holds : CharClass → Char → Bool
  | range first last, c => first ≤ c && c ≤ last
  | property named, c => named.holds c
  | complement inner, c => !inner.holds c
  | union left right, c => left.holds c || right.holds c
  | intersection left right, c => left.holds c && right.holds c
  | difference left right, c => left.holds c && !right.holds c
  | symmetric left right, c => left.holds c != right.holds c
  | folded wide inner, c => inner.holds c || (peers wide c).any inner.holds

end CharClass

def asciiClasses : List (String × List (Char × Char)) := [
  ("alnum", [('0', '9'), ('A', 'Z'), ('a', 'z')]),
  ("alpha", [('A', 'Z'), ('a', 'z')]),
  ("ascii", [('\x00', '\x7f')]),
  ("blank", [('\t', '\t'), (' ', ' ')]),
  ("cntrl", [('\x00', '\x1f'), ('\x7f', '\x7f')]),
  ("digit", [('0', '9')]),
  ("graph", [('!', '~')]),
  ("lower", [('a', 'z')]),
  ("print", [(' ', '~')]),
  ("punct", [('!', '/'), (':', '@'), ('[', '\x60'), ('\x7b', '~')]),
  ("space", [('\t', '\r'), (' ', ' ')]),
  ("upper", [('A', 'Z')]),
  ("word", [('0', '9'), ('A', 'Z'), ('_', '_'), ('a', 'z')]),
  ("xdigit", [('0', '9'), ('A', 'F'), ('a', 'f')])]

def CharClass.ofRanges (ranges : List (Char × Char)) : CharClass :=
  ranges.foldr (fun (first, last) rest => .union (.range first last) rest) .none

def asciiClass? (name : String) : Option CharClass :=
  (asciiClasses.lookup name).map .ofRanges

/-- The name of a property as it is compared: in lower case, without blanks, underscores, hyphens, and
without a leading "is". -/
def looseName (name : List Char) : String :=
  let kept := (name.filter fun c => c != ' ' && c != '_' && c != '-' && c.toNat < 128).map Char.toLower
  match kept with
  | ['i', 's', 'c'] => "isc"
  | 'i' :: 's' :: rest => String.ofList rest
  | _ => String.ofList kept

def categoryNames : List (String × Property) := [
  ("any", .any), ("ascii", .ascii), ("assigned", .assigned),
  ("casedletter", .casedLetter), ("lc", .casedLetter),
  ("letter", .group 'L'), ("mark", .group 'M'), ("combiningmark", .group 'M'),
  ("number", .group 'N'), ("punctuation", .group 'P'), ("punct", .group 'P'),
  ("symbol", .group 'S'), ("separator", .group 'Z'), ("other", .group 'C'),
  ("uppercaseletter", .category .uppercaseLetter), ("lowercaseletter", .category .lowercaseLetter),
  ("titlecaseletter", .category .titlecaseLetter), ("modifierletter", .category .modifierLetter),
  ("otherletter", .category .otherLetter), ("nonspacingmark", .category .nonspacingMark),
  ("spacingmark", .category .spacingMark), ("enclosingmark", .category .enclosingMark),
  ("decimalnumber", .category .decimalNumber), ("digit", .category .decimalNumber),
  ("letternumber", .category .letterNumber), ("othernumber", .category .otherNumber),
  ("connectorpunctuation", .category .connectorPunctuation),
  ("dashpunctuation", .category .dashPunctuation),
  ("openpunctuation", .category .openPunctuation),
  ("closepunctuation", .category .closePunctuation),
  ("initialpunctuation", .category .initialPunctuation),
  ("finalpunctuation", .category .finalPunctuation),
  ("otherpunctuation", .category .otherPunctuation), ("mathsymbol", .category .mathSymbol),
  ("currencysymbol", .category .currencySymbol), ("modifiersymbol", .category .modifierSymbol),
  ("othersymbol", .category .otherSymbol), ("spaceseparator", .category .spaceSeparator),
  ("lineseparator", .category .lineSeparator),
  ("paragraphseparator", .category .paragraphSeparator), ("control", .category .control),
  ("cntrl", .category .control), ("format", .category .format),
  ("surrogate", .category .surrogate), ("privateuse", .category .privateUse),
  ("unassigned", .category .unassigned)]

def categoryProperty? (name : String) : Option Property :=
  match categoryNames.lookup name with
  | some property => some property
  | none =>
    match name.toList with
    | [letter] =>
      let letter := letter.toUpper
      if "LMNPSZC".toList.contains letter then some (.group letter) else none
    | _ => (Unicode.Category.all.find? fun category => looseName category.code.toList == name).map
        .category

def writingSystemProperty? (name : String) : Option Property :=
  (Unicode.writingSystems.find? fun (code, aliases) =>
    (code :: aliases).any fun spelling => looseName spelling.toList == name).map
    fun (code, _) => .writingSystem code

def otherProperties : List (String × Property) := [
  ("alphabetic", .alphabetic), ("alpha", .alphabetic), ("lowercase", .lowercase),
  ("lower", .lowercase), ("uppercase", .uppercase), ("upper", .uppercase),
  ("whitespace", .whiteSpace), ("wspace", .whiteSpace), ("space", .whiteSpace),
  ("asciihexdigit", .hexDigit), ("ahex", .hexDigit)]

/-- The property of a name. A name that fits several kinds of properties means a property of its own
first, then a category, then a writing system. -/
def property? (name : List Char) : Option Property :=
  let name := looseName name
  match otherProperties.lookup name with
  | some property => some property
  | none => (categoryProperty? name).orElse fun _ => writingSystemProperty? name

def propertyOfKind? (kind name : List Char) : Option Property :=
  match looseName kind with
  | "generalcategory" | "gc" => categoryProperty? (looseName name)
  | "script" | "sc" | "scriptextensions" | "scx" => writingSystemProperty? (looseName name)
  | _ => none

end ModuleBundler.Pattern
