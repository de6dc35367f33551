/-!
# Binary floating point numbers as fractions

A finite floating point number is a mantissa times a power of two. `FloatParts`
takes a number apart, and `nearestFloat` goes the other way: it rounds a
fraction to the nearest floating point number, ties to the even mantissa. All
arithmetic in between is exact.
-/

set_option autoImplicit false

namespace CodeLayout

/-- Rounds a quotient to the nearest whole number, ties to the even one. -/
def roundQuotient (numerator denominator : Nat) : Nat :=
  let quotient := numerator / denominator
  let twice := 2 * (numerator % denominator)
  if twice < denominator then
    quotient
  else if twice > denominator then
    quotient + 1
  else
    quotient + quotient % 2

/-- A quotient of natural numbers. -/
structure Ratio where
  /-- The number above the line. -/
  numerator : Nat
  /-- The number below the line. -/
  denominator : Nat
deriving DecidableEq, Repr

namespace Ratio

/-- A whole number times a power of a base. -/
def scaled (number base : Nat) (exponent : Int) : Ratio :=
  match exponent with
  | .ofNat power => { numerator := number * Nat.pow base power, denominator := 1 }
  | .negSucc power => { numerator := number, denominator := Nat.pow base (power + 1) }

/-- A quotient times a power of a base. -/
def scaleBy (ratio : Ratio) (base : Nat) (exponent : Int) : Ratio :=
  match exponent with
  | .ofNat power => { ratio with numerator := ratio.numerator * Nat.pow base power }
  | .negSucc power => { ratio with denominator := ratio.denominator * Nat.pow base (power + 1) }

/-- Whether a quotient is at most another. -/
def atMost (left right : Ratio) : Bool :=
  left.numerator * right.denominator ≤ right.numerator * left.denominator

/-- Whether a quotient is less than another. -/
def less (left right : Ratio) : Bool :=
  left.numerator * right.denominator < right.numerator * left.denominator

end Ratio

/-- What a floating point number is. -/
inductive FloatParts where
  /-- Not a number. -/
  | notANumber
  /-- An infinity. -/
  | infinite (negative : Bool)
  /-- A sign, a mantissa and the power of two it is multiplied with. -/
  | finite (negative : Bool) (mantissa : Nat) (exponent : Int)
deriving DecidableEq, Repr

namespace FloatParts

/-- The least power of two of a mantissa. -/
def leastExponent : Int := -1074

/-- The greatest power of two of a mantissa. -/
def greatestExponent : Int := 971

/-- Takes a floating point number apart. -/
def ofFloat (number : Float) : FloatParts :=
  let bits := number.toBits.toNat
  let negative := bits / Nat.pow 2 63 == 1
  let exponent : Nat := bits / Nat.pow 2 52 % Nat.pow 2 11
  let fraction := bits % Nat.pow 2 52
  if exponent == 2047 then
    if fraction == 0 then .infinite negative else .notANumber
  else if exponent == 0 then
    .finite negative fraction leastExponent
  else
    .finite negative (Nat.pow 2 52 + fraction) (exponent - 1075)

/-- Puts a floating point number together. The mantissa is below 2^53. -/
def toFloat : FloatParts → Float
  | .notANumber => Float.ofBits (UInt64.ofNat (Nat.pow 2 51 + 2047 * Nat.pow 2 52))
  | .infinite negative =>
    Float.ofBits (UInt64.ofNat ((if negative then Nat.pow 2 63 else 0) + 2047 * Nat.pow 2 52))
  | .finite negative mantissa exponent =>
    let sign := if negative then Nat.pow 2 63 else 0
    if mantissa < Nat.pow 2 52 then
      Float.ofBits (UInt64.ofNat (sign + mantissa))
    else
      let scale := (exponent + 1075).toNat * Nat.pow 2 52
      Float.ofBits (UInt64.ofNat (sign + scale + (mantissa - Nat.pow 2 52)))

/-- The fraction without its sign. -/
def magnitude (mantissa : Nat) (exponent : Int) : Ratio :=
  Ratio.scaled mantissa 2 exponent

end FloatParts

/-- The power of two for the mantissa of a fraction that is not zero. -/
def mantissaExponent (ratio : Ratio) : Int :=
  let guess : Int := (Nat.log2 ratio.numerator : Int) - Nat.log2 ratio.denominator - 53
  let mantissa := ratio.scaleBy 2 (-guess)
  let exponent :=
    if mantissa.numerator / mantissa.denominator ≥ Nat.pow 2 53 then guess + 1 else guess
  max exponent FloatParts.leastExponent

/-- The floating point number nearest to a fraction, ties to the even mantissa.
A fraction beyond the greatest finite number gives an infinity. -/
def nearestParts (negative : Bool) (ratio : Ratio) : FloatParts :=
  if ratio.numerator == 0 then
    .finite negative 0 FloatParts.leastExponent
  else
    let exponent := mantissaExponent ratio
    let scaled := ratio.scaleBy 2 (-exponent)
    let mantissa := roundQuotient scaled.numerator scaled.denominator
    let carried := mantissa == Nat.pow 2 53
    let exponent' := if carried then exponent + 1 else exponent
    if exponent' > FloatParts.greatestExponent then
      .infinite negative
    else
      .finite negative (if carried then Nat.pow 2 52 else mantissa) exponent'

/-- The floating point number nearest to a signed fraction. -/
def nearestFloat (negative : Bool) (ratio : Ratio) : Float :=
  (nearestParts negative ratio).toFloat

/-- The floating point number nearest to a whole number. -/
def nearestFloatOfInt (number : Int) : Float :=
  nearestFloat (number < 0) { numerator := number.natAbs, denominator := 1 }

end CodeLayout
