import ModuleBundler.Unicode.Property

/-!
Texts as diagnostics show them: in quotes, with escapes for what cannot be seen.
-/

namespace ModuleBundler.Text

def otherExtending : List (Nat × Nat) :=
  [(0x9be, 0x9be), (0x9d7, 0x9d7), (0xb3e, 0xb3e), (0xb57, 0xb57), (0xbbe, 0xbbe), (0xbd7, 0xbd7),
   (0xcc2, 0xcc2), (0xcd5, 0xcd6), (0xd3e, 0xd3e), (0xd57, 0xd57), (0xdcf, 0xdcf), (0xddf, 0xddf),
   (0x1b35, 0x1b35), (0x200c, 0x200c), (0x302e, 0x302f), (0xff9e, 0xff9f), (0x1133e, 0x1133e),
   (0x11357, 0x11357), (0x114b0, 0x114b0), (0x114bd, 0x114bd), (0x115af, 0x115af),
   (0x11930, 0x11930), (0x1d165, 0x1d165), (0x1d16e, 0x1d172), (0xe0020, 0xe007f)]

def attaches (c : Char) : Bool :=
  match Unicode.category c with
  | .nonspacingMark | .enclosingMark => true
  | _ => Unicode.within otherExtending c.toNat

def isVisible (c : Char) : Bool :=
  c == ' ' ||
    match Unicode.category c with
    | .control | .format | .surrogate | .privateUse | .unassigned | .lineSeparator
    | .paragraphSeparator | .spaceSeparator => false
    | _ => true

def shown (c : Char) : List Char :=
  if c = '\x22' then ['\\', '\x22']
  else if c = '\\' then ['\\', '\\']
  else if c = '\x00' then ['\\', '0']
  else if c = '\t' then ['\\', 't']
  else if c = '\n' then ['\\', 'n']
  else if c = '\r' then ['\\', 'r']
  else if isVisible c && !attaches c then [c]
  else '\\' :: 'u' :: '\x7b' :: Nat.toDigits 16 c.toNat ++ ['\x7d']

def debugText (text : String) : String :=
  String.ofList ('\x22' :: text.toList.flatMap shown ++ ['\x22'])

def debugList (texts : List String) : String :=
  "[" ++ ", ".intercalate (texts.map debugText) ++ "]"

def debugRecord (name : String) (fields : List (String × List String)) : String :=
  name ++ " \x7b " ++
    ", ".intercalate (fields.map fun (field, texts) => field ++ ": " ++ debugList texts) ++ " \x7d"

end ModuleBundler.Text
