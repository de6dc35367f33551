import CodeLayout.Decimal.Shortest

/-!
# Decimal notation

How a decimal is written: positionally, with a point, or with an exponent. A
number of data is written positionally when its exponent is at least -4 and
below 16, and always shows a point or an exponent.
-/

set_option autoImplicit false

namespace CodeLayout

/-- So many zeros. -/
def zeros (count : Nat) : List Char := List.replicate count '0'

/-- An exponent with its sign and at least two digits. -/
def exponentText (exponent : Int) : List Char :=
  let digits := Decimal.digitList exponent.natAbs
  (if exponent < 0 then '-' else '+') :: (zeros (2 - digits.length) ++ digits)

/-- The whole part and the part after the point of 0.d₁d₂d₃… times a power of
ten. -/
def splitAtPoint (digits : List Char) (exponent : Int) : List Char × List Char :=
  if exponent ≤ 0 then
    (['0'], zeros (-exponent).toNat ++ digits)
  else
    let whole := exponent.toNat
    (digits.take whole ++ zeros (whole - digits.length), digits.drop whole)

/-- Whether numbers whose first digit has this power of ten are written
positionally. -/
def isPositional (exponent : Int) : Bool :=
  -4 ≤ exponent && exponent < 16

/-- The written form of a decimal. -/
def Decimal.write (decimal : Decimal) : List Char :=
  let digits := digitList decimal.digits
  let first := decimal.exponent - 1
  if isPositional first then
    let parts := splitAtPoint digits decimal.exponent
    parts.1 ++ '.' :: (if parts.2.isEmpty then ['0'] else parts.2)
  else
    let rest := digits.drop 1
    digits.take 1 ++ (if rest.isEmpty then [] else '.' :: rest) ++ 'e' :: exponentText first

/-- The written form of a floating point number: the shortest decimal that is
read back as this number. -/
def floatText (number : Float) : String :=
  match FloatParts.ofFloat number with
  | .notANumber => "nan"
  | .infinite negative => if negative then "-inf" else "inf"
  | .finite negative mantissa exponent =>
    let digits := (Decimal.shortest mantissa exponent).write
    String.ofList (if negative then '-' :: digits else digits)

end CodeLayout
