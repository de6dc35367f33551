import CodeLayout.Decimal.Binary

/-!
# Division of floating point numbers

The remainder of a division of floating point numbers is exact. The truncated
remainder has the sign of the dividend. The floored remainder has the sign of the
divisor, and goes with the quotient rounded down.
-/

set_option autoImplicit false

namespace CodeLayout

/-- Zero with the sign of a number. -/
def zeroLike (number : Float) : Float :=
  match FloatParts.ofFloat number with
  | .notANumber => 0.0
  | .infinite negative => (FloatParts.finite negative 0 FloatParts.leastExponent).toFloat
  | .finite negative _ _ => (FloatParts.finite negative 0 FloatParts.leastExponent).toFloat

/-- The remainder with the sign of the dividend. -/
def truncatedRemainder (dividend divisor : Float) : Float :=
  match FloatParts.ofFloat dividend, FloatParts.ofFloat divisor with
  | .finite negative mantissa exponent, .finite _ mantissa' exponent' =>
    if mantissa' == 0 then
      FloatParts.notANumber.toFloat
    else
      let low := min exponent exponent'
      let scaled := mantissa * Nat.pow 2 (exponent - low).toNat
      let scaled' := mantissa' * Nat.pow 2 (exponent' - low).toNat
      nearestFloat negative (Ratio.scaled (scaled % scaled') 2 low)
  | .finite _ _ _, .infinite _ => dividend
  | _, _ => FloatParts.notANumber.toFloat

/-- The remainder with the sign of the divisor. -/
def flooredRemainder (dividend divisor : Float) : Float :=
  let remainder := truncatedRemainder dividend divisor
  if remainder == 0.0 then zeroLike divisor
  else if (divisor < 0.0) != (remainder < 0.0) then remainder + divisor
  else remainder

/-- The quotient rounded down. -/
def flooredQuotient (dividend divisor : Float) : Float :=
  let remainder := truncatedRemainder dividend divisor
  let exact := (dividend - remainder) / divisor
  let quotient :=
    if remainder != 0.0 && (divisor < 0.0) != (remainder < 0.0) then exact - 1.0 else exact
  if quotient == 0.0 then
    zeroLike (dividend / divisor)
  else
    let floor := quotient.floor
    if quotient - floor > 0.5 then floor + 1.0 else floor

/-- The whole number of a floating point number without its fraction, if it is
finite. -/
def truncated? (number : Float) : Option Int :=
  match FloatParts.ofFloat number with
  | .finite negative mantissa exponent =>
    let ratio := Ratio.scaled mantissa 2 exponent
    let whole : Nat := ratio.numerator / ratio.denominator
    some (if negative then -(whole : Int) else whole)
  | _ => none

end CodeLayout
