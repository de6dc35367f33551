import CodeLayout.Decimal.Binary
import CodeLayout.Text.Digits

/-!
# Reading numbers

A number in a text may have blanks around it, a sign, and underscores between
its digits. A whole number may begin with the sign of its base. A floating
point number may have a fraction and an exponent, or be one of the words for an
infinity or for what is not a number; it is the one nearest to the decimal that
is written.

A whole number in a text has at most 4300 decimal digits.
-/

set_option autoImplicit false

namespace CodeLayout

/-- The letters that may follow a zero in front of a number of a base. -/
def baseLetters : Nat → List Char
  | 2 => ['b', 'B']
  | 8 => ['o', 'O']
  | 16 => ['x', 'X']
  | _ => []

/-- A number without the sign of its base. An underscore may follow the sign. -/
def dropBaseSign (base : Nat) : List Char → List Char
  | '0' :: letter :: '_' :: rest =>
    if (baseLetters base).contains letter then rest else '0' :: letter :: '_' :: rest
  | '0' :: letter :: rest =>
    if (baseLetters base).contains letter then rest else '0' :: letter :: rest
  | text => text

/-- What a text is as a whole number. -/
inductive IntegerReading where
  /-- A number. -/
  | number (number : Int)
  /-- A number with this many digits, which is too many. -/
  | tooLong (count : Nat)
  /-- No number. -/
  | none
deriving DecidableEq, Repr

/-- Reads a text as a whole number of a base. -/
def readInteger (base : Nat) (text : List Char) : IntegerReading :=
  let split := splitSign ((trimBlanks text).map plainDigit)
  match groupedDigitsIn? base (dropBaseSign base split.2) with
  | none => .none
  | some digits =>
    if base == 10 && digitLimit < digits.length then
      .tooLong digits.length
    else
      .number (signed split.1 (digitsValueIn base digits))

/-- The floating point number nearest to a decimal: a sign, digits, and the power
of ten they are multiplied with. Far outside the range of floating point numbers
the exact value does not matter. -/
def nearestDecimal (negative : Bool) (digits : List Char) (exponent : Int) : Float :=
  let significant := digits.dropWhile (· == '0')
  let leading : Int := significant.length + exponent
  if significant.isEmpty || leading < -400 then
    nearestFloat negative { numerator := 0, denominator := 1 }
  else if 400 < leading then
    (FloatParts.infinite negative).toFloat
  else
    nearestFloat negative (Ratio.scaled (digitsValue significant) 10 exponent)

/-- A run of grouped digits that may be missing. -/
def optionalDigits? (text : List Char) : Option (List Char) :=
  if text.isEmpty then some [] else groupedDigitsIn? 10 text

/-- Whether a character begins an exponent. -/
def isExponentMark (character : Char) : Bool := character == 'e' || character == 'E'

/-- Reads a text without sign as a decimal: the digits and the power of ten. -/
def readDecimal? (text : List Char) : Option (List Char × Int) := do
  let mantissa := text.takeWhile fun character => !isExponentMark character
  let after := text.dropWhile fun character => !isExponentMark character
  let whole ← optionalDigits? (mantissa.takeWhile (· != '.'))
  let fraction ← optionalDigits? ((mantissa.dropWhile (· != '.')).drop 1)
  if whole.isEmpty && fraction.isEmpty then
    none
  else
    match after with
    | [] => some (whole ++ fraction, -(fraction.length : Int))
    | _ :: rest =>
      let split := splitSign rest
      let power ← groupedDigitsIn? 10 split.2
      some (whole ++ fraction, signed split.1 (digitsValue power) - fraction.length)

/-- Reads a text as a floating point number. -/
def readFloat? (text : List Char) : Option Float :=
  let split := splitSign ((trimBlanks text).map plainDigit)
  let word := String.ofList (split.2.map Char.toLower)
  if word == "inf" || word == "infinity" then
    some (FloatParts.infinite split.1).toFloat
  else if word == "nan" then
    some FloatParts.notANumber.toFloat
  else
    (readDecimal? split.2).map fun decimal => nearestDecimal split.1 decimal.1 decimal.2

end CodeLayout
