/-!
Looking for a stretch of text, and replacing it.
-/

namespace ModuleBundler.Text

def occurs [BEq α] (stretch : List α) : List α → Bool
  | [] => stretch.isEmpty
  | first :: rest => stretch.isPrefixOf (first :: rest) || occurs stretch rest

/-- Replaces a stretch that is not empty wherever it occurs, from the left, behind the first `skip`
characters, which are left out. -/
def replaceStretch (stretch value : List Char) : Nat → List Char → List Char
  | _, [] => []
  | skip + 1, _ :: rest => replaceStretch stretch value skip rest
  | 0, c :: rest =>
    if stretch.isPrefixOf (c :: rest) then
      value ++ replaceStretch stretch value (stretch.length - 1) rest
    else c :: replaceStretch stretch value 0 rest

def replaceAll (stretch value : List Char) (text : List Char) : List Char :=
  if stretch.isEmpty then value ++ text.flatMap fun c => c :: value
  else replaceStretch stretch value 0 text

end ModuleBundler.Text
