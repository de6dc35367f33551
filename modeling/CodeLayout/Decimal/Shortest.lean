import CodeLayout.Decimal.Binary

/-!
# Shortest decimals

The shortest decimal of a floating point number has the fewest digits among all
decimals that are read back as this number, and is the nearest to the number
among those of that length.

The decimals that are read back as a number form an interval around it. The
ends belong to the interval when the mantissa is even, because a tie is read
as the even mantissa. If any decimal with a given count of digits lies in the
interval then one of the two neighbours of the number on that decimal grid
does, so only these two are looked at.
-/

set_option autoImplicit false

namespace CodeLayout

/-- A decimal 0.d₁d₂d₃… times a power of ten, without zeros at the end. -/
structure Decimal where
  /-- The digits as one whole number. -/
  digits : Nat
  /-- The power of ten. -/
  exponent : Int
deriving DecidableEq, Repr

namespace Decimal

/-- The digits of a number, highest first. -/
def digitList (number : Nat) : List Char :=
  Nat.toDigits 10 number

/-- The count of decimal digits of a number. -/
def digitCount (number : Nat) : Nat :=
  (digitList number).length

/-- Takes zeros off the end of a number, at most so many. -/
def dropZeros : Nat → Nat → Nat
  | 0, number => number
  | limit + 1, number => if number % 10 == 0 then dropZeros limit (number / 10) else number

/-- The power of ten just above a fraction: the fraction is at least a tenth of
it and less than it. -/
def leadingExponent (ratio : Ratio) : Int :=
  let whole := ratio.numerator / ratio.denominator
  if whole > 0 then
    digitCount whole
  else
    let inverse := (ratio.denominator + ratio.numerator - 1) / ratio.numerator
    1 - (digitCount (inverse - 1) : Int)

/-- The numbers that are read back as a given one. -/
structure Reach where
  /-- The lower end. -/
  low : Ratio
  /-- The upper end. -/
  high : Ratio
  /-- Whether the ends belong to it. -/
  closed : Bool

namespace Reach

/-- The reach of a mantissa with its power of two. The gap below a power of two
is half as wide as the gap above it. -/
def ofMantissa (mantissa : Nat) (exponent : Int) : Reach where
  low :=
    if mantissa == Nat.pow 2 52 && exponent > FloatParts.leastExponent then
      Ratio.scaled (4 * mantissa - 1) 2 (exponent - 2)
    else
      Ratio.scaled (2 * mantissa - 1) 2 (exponent - 1)
  high := Ratio.scaled (2 * mantissa + 1) 2 (exponent - 1)
  closed := mantissa % 2 == 0

/-- Whether a fraction lies in the reach. -/
def holds (reach : Reach) (ratio : Ratio) : Bool :=
  if reach.closed then
    reach.low.atMost ratio && ratio.atMost reach.high
  else
    reach.low.less ratio && ratio.less reach.high

end Reach

/-- The best decimal with so many digits inside the reach of a number, if there
is one. Of two neighbours the nearer wins, and the even one at a tie. -/
def withDigits? (reach : Reach) (ratio : Ratio) (leading : Int) (count : Nat) : Option Nat :=
  let scale : Int := count - leading
  let scaled := ratio.scaleBy 10 scale
  let below := scaled.numerator / scaled.denominator
  let above := below + 1
  let nearest := roundQuotient scaled.numerator scaled.denominator
  let farther := if nearest == below then above else below
  if reach.holds (Ratio.scaled nearest 10 (-scale)) then
    some nearest
  else if reach.holds (Ratio.scaled farther 10 (-scale)) then
    some farther
  else
    none

/-- The digits of the shortest decimal that is read back, searched from a count
on, and the count they were found with. -/
def search (reach : Reach) (ratio : Ratio) (leading : Int) : Nat → Nat → Nat × Nat
  | 0, count => ((withDigits? reach ratio leading count).getD 0, count)
  | more + 1, count =>
    match withDigits? reach ratio leading count with
    | some digits => (digits, count)
    | none => search reach ratio leading more (count + 1)

/-- Seventeen digits are always enough. -/
def enoughDigits : Nat := 17

/-- The shortest decimal of a mantissa with its power of two. -/
def shortest (mantissa : Nat) (exponent : Int) : Decimal :=
  if mantissa == 0 then
    { digits := 0, exponent := 1 }
  else
    let ratio := FloatParts.magnitude mantissa exponent
    let leading := leadingExponent ratio
    let reach := Reach.ofMantissa mantissa exponent
    let found := search reach ratio leading (enoughDigits - 1) 1
    let carried : Int := if digitCount found.1 > found.2 then 1 else 0
    { digits := dropZeros enoughDigits found.1, exponent := leading + carried }

end Decimal

end CodeLayout
