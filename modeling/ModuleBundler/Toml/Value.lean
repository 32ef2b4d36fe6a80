/-!
Values of TOML documents.
-/

namespace ModuleBundler

namespace Toml

inductive Decimal where
  /-- `digits` with the last `places` of them behind the point. -/
  | decimal (negative : Bool) (digits places : Nat)
  | infinite (negative : Bool)
  | undefined
  deriving DecidableEq, Repr, Inhabited

end Toml

inductive Toml where
  | text (value : String)
  | integer (value : Int)
  | fraction (value : Toml.Decimal)
  | bool (value : Bool)
  /-- A date, a time or both, in their usual spelling. -/
  | moment (spelling : String)
  | array (elements : List Toml)
  | table (members : List (String × Toml))
  deriving Repr, Inhabited

end ModuleBundler
