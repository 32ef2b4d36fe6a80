import ModuleBundler.Toml.Value

/-!
Equality of TOML values, which can be computed.
-/

namespace ModuleBundler.Toml

mutual

def same : Toml → Toml → Bool
  | .text left, .text right => left == right
  | .integer left, .integer right => left == right
  | .fraction left, .fraction right => left == right
  | .bool left, .bool right => left == right
  | .moment left, .moment right => left == right
  | .array left, .array right => sameElements left right
  | .table left, .table right => sameMembers left right
  | _, _ => false

def sameElements : List Toml → List Toml → Bool
  | [], [] => true
  | left :: lefts, right :: rights => left.same right && sameElements lefts rights
  | _, _ => false

def sameMembers : List (String × Toml) → List (String × Toml) → Bool
  | [], [] => true
  | (name, left) :: lefts, (other, right) :: rights =>
    name == other && left.same right && sameMembers lefts rights
  | _, _ => false

end

mutual

theorem same_iff : (left right : Toml) → (left.same right = true ↔ left = right)
  | .text _, right => by cases right <;> simp [same]
  | .integer _, right => by cases right <;> simp [same]
  | .fraction _, right => by cases right <;> simp [same]
  | .bool _, right => by cases right <;> simp [same]
  | .moment _, right => by cases right <;> simp [same]
  | .array left, right => by
    cases right with
    | array right => simpa [same] using sameElements_iff left right
    | _ => simp [same]
  | .table left, right => by
    cases right with
    | table right => simpa [same] using sameMembers_iff left right
    | _ => simp [same]

theorem sameElements_iff :
    (lefts rights : List Toml) → (sameElements lefts rights = true ↔ lefts = rights)
  | [], rights => by cases rights <;> simp [sameElements]
  | left :: lefts, rights => by
    cases rights with
    | nil => simp [sameElements]
    | cons right rights => simp [sameElements, same_iff left right, sameElements_iff lefts rights]

theorem sameMembers_iff :
    (lefts rights : List (String × Toml)) → (sameMembers lefts rights = true ↔ lefts = rights)
  | [], rights => by cases rights <;> simp [sameMembers]
  | (name, left) :: lefts, rights => by
    cases rights with
    | nil => simp [sameMembers]
    | cons one rights =>
      simp [sameMembers, same_iff left one.2, sameMembers_iff lefts rights, Prod.ext_iff]

end

instance : DecidableEq Toml := fun left right =>
  decidable_of_decidable_of_iff (same_iff left right)

end ModuleBundler.Toml
