import CodeLayout.Decimal.Notation

/-!
# Rounded decimals

A floating point number can be written with a fixed number of places after the
point, with a fixed number of significant digits, or with as few digits as are
needed. The exact value is rounded once, ties to the even digit.

The general form has a fixed number of significant digits and chooses between the
positional notation and the one with an exponent by the size of the number.
-/

set_option autoImplicit false

namespace CodeLayout

/-- The decimal 0.d₁d₂d₃… times a power of ten, zeros at the end included. -/
structure DigitRow where
  /-- The digits, highest first. -/
  digits : List Char
  /-- The power of ten. -/
  point : Int
deriving DecidableEq, Repr

namespace DigitRow

/-- A fraction rounded to so many places after the point. -/
def fixed (ratio : Ratio) (places : Nat) : DigitRow :=
  let scaled := ratio.scaleBy 10 places
  let digits := Decimal.digitList (roundQuotient scaled.numerator scaled.denominator)
  { digits, point := (digits.length : Int) - places }

/-- A fraction rounded to so many significant digits, at least one. -/
def significant (ratio : Ratio) (count : Nat) : DigitRow :=
  if ratio.numerator == 0 then
    { digits := zeros count, point := 1 }
  else
    let leading := Decimal.leadingExponent ratio
    let scaled := ratio.scaleBy 10 (count - leading)
    let digits := Decimal.digitList (roundQuotient scaled.numerator scaled.denominator)
    { digits := digits.take count, point := leading + ((digits.length : Int) - count) }

/-- The digits without zeros at the end. The first digit stays. -/
def dropZeros (row : DigitRow) : DigitRow :=
  let rest := ((row.digits.drop 1).reverse.dropWhile (· == '0')).reverse
  { row with digits := row.digits.take 1 ++ rest }

/-- Whether all digits are zeros. -/
def isZero (row : DigitRow) : Bool := row.digits.all (· == '0')

/-- The digits with a point, at least so many places after it. The point itself
stays alone at the end only if asked for. -/
def positional (row : DigitRow) (places : Nat) (keepPoint : Bool) : List Char :=
  let parts := splitAtPoint row.digits row.point
  let fraction := parts.2 ++ zeros (places - parts.2.length)
  parts.1 ++ (if fraction.isEmpty && !keepPoint then [] else '.' :: fraction)

/-- The first digit, the others as its fraction, and the exponent. -/
def scientific (row : DigitRow) (places : Nat) (keepPoint : Bool) : List Char :=
  positional { row with point := 1 } places keepPoint ++ 'e' :: exponentText (row.point - 1)

end DigitRow

/-- How a floating point number is written. -/
inductive FloatStyle where
  /-- With so many places after the point. -/
  | fixed (places : Nat)
  /-- With an exponent and so many places after the point. -/
  | scientific (places : Nat)
  /-- With so many significant digits, zeros at the end left out. -/
  | general (count : Nat)
  /-- The same, and positional only with a digit after the point. -/
  | generalWithPoint (count : Nat)
  /-- With as few digits as are needed. -/
  | shortest
deriving DecidableEq, Repr

/-- The general form of a fraction. With `full`, zeros at the end stay. -/
def generalText (ratio : Ratio) (count : Nat) (withPoint full : Bool) : List Char × Bool :=
  let count := max count 1
  let row := DigitRow.significant ratio count
  let shown := if full then row else row.dropZeros
  let greatest : Int := if withPoint then count - 1 else count
  let text :=
    if row.point ≤ -4 || greatest < row.point then shown.scientific 0 full
    else shown.positional (if withPoint then 1 else 0) full
  (text, row.isZero)

/-- The shortest form of a number. With `full`, a point stays before an exponent. -/
def shortestText (mantissa : Nat) (exponent : Int) (full : Bool) : List Char :=
  let decimal := Decimal.shortest mantissa exponent
  let row : DigitRow := { digits := Decimal.digitList decimal.digits, point := decimal.exponent }
  if isPositional (row.point - 1) then row.positional 1 full else row.scientific 0 full

/-- The text of a mantissa with its power of two in a style, and whether only zeros
are shown. With `full`, the point and the zeros at the end stay. -/
def FloatStyle.text (style : FloatStyle) (mantissa : Nat) (exponent : Int) (full : Bool) :
    List Char × Bool :=
  let ratio := FloatParts.magnitude mantissa exponent
  match style with
  | .fixed places =>
    let row := DigitRow.fixed ratio places
    (row.positional places full, row.isZero)
  | .scientific places =>
    let row := DigitRow.significant ratio (places + 1)
    (row.scientific places full, row.isZero)
  | .general count => generalText ratio count false full
  | .generalWithPoint count => generalText ratio count true full
  | .shortest => (shortestText mantissa exponent full, mantissa == 0)

end CodeLayout
