/-!
Numbers that are not negative, as fractions, and their rounding: to the precision of a double and to
decimal places. A half goes to the even neighbour.
-/

namespace ModuleBundler

def roundedQuotient (numerator denominator : Nat) : Nat :=
  let quotient := numerator / denominator
  let twice := 2 * (numerator % denominator)
  if twice < denominator then quotient
  else if denominator < twice then quotient + 1
  else if quotient % 2 = 0 then quotient else quotient + 1

structure Fraction where
  numerator : Nat
  denominator : Nat
  deriving DecidableEq, Repr, Inhabited

namespace Fraction

def ofNat (value : Nat) : Fraction := ⟨value, 1⟩

def add (left right : Fraction) : Fraction :=
  ⟨left.numerator * right.denominator + right.numerator * left.denominator,
    left.denominator * right.denominator⟩

def scale (factor : Nat) (value : Fraction) : Fraction :=
  ⟨value.numerator * factor, value.denominator⟩

/-- The nearest number with fifty-three significant binary digits. The exponent is chosen so that the
rounded quotient has them; a carry that makes it one digit longer leaves a power of two, which has
few digits enough. -/
def toDouble (value : Fraction) : Fraction :=
  if value.numerator = 0 then ofNat 0
  else
    let shift (value : Fraction) (up down : Nat) : Fraction :=
      ⟨value.numerator <<< up, value.denominator <<< down⟩
    let digits : Int := (Nat.log2 value.numerator : Int) - Nat.log2 value.denominator
    let exponent : Int :=
      if (shift value (-digits).toNat digits.toNat).numerator <
          (shift value (-digits).toNat digits.toNat).denominator
      then digits - 53 else digits - 52
    let scaled := shift value (-exponent).toNat exponent.toNat
    shift (ofNat (roundedQuotient scaled.numerator scaled.denominator)) exponent.toNat (-exponent).toNat

def fixed (places : Nat) (value : Fraction) : String :=
  let unscaled := roundedQuotient (value.numerator * Nat.pow 10 places) value.denominator
  let whole := toString (unscaled / Nat.pow 10 places)
  if places = 0 then whole
  else
    let fraction := (toString (unscaled % Nat.pow 10 places)).toList
    whole ++ "." ++ String.ofList (List.replicate (places - fraction.length) '0' ++ fraction)

def doubleBound : Nat := (1 <<< 1024) - (1 <<< 970)

end Fraction

end ModuleBundler
