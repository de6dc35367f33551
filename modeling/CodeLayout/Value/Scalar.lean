import CodeLayout.Calendar
import CodeLayout.Decimal.Notation
import CodeLayout.Text.Digits
import CodeLayout.Text.Quoted

/-!
# Scalars

The values without parts: null, truth values, numbers, texts, dates and bytes.

Numbers are equal when they stand for the same number, and true and false are
the numbers one and zero here. Whole numbers and floating point numbers are
compared exactly.
-/

set_option autoImplicit false

namespace CodeLayout

/-- A value without parts. -/
inductive Scalar where
  /-- The value that stands for nothing. -/
  | null
  /-- True or false. -/
  | bool (truth : Bool)
  /-- A whole number. -/
  | int (number : Int)
  /-- A floating point number. -/
  | float (number : Float)
  /-- A text. -/
  | text (text : String)
  /-- A day. -/
  | date (date : Date)
  /-- A day with a time. -/
  | moment (moment : Moment)
  /-- A sequence of bytes. -/
  | bytes (bytes : List UInt8)
deriving Inhabited

/-- The written form of a truth value. -/
def boolText (truth : Bool) : String :=
  if truth then "True" else "False"

/-- A number, of either kind, for comparison. -/
inductive Magnitude where
  /-- Not a number. It compares with nothing. -/
  | notANumber
  /-- An infinity. -/
  | infinite (negative : Bool)
  /-- A whole number times a power of two. -/
  | exact (number : Int) (exponent : Int)

namespace Magnitude

/-- The exact value of a floating point number. -/
def ofFloat (number : Float) : Magnitude :=
  match FloatParts.ofFloat number with
  | .notANumber => .notANumber
  | .infinite negative => .infinite negative
  | .finite negative mantissa exponent =>
    .exact (if negative then -(mantissa : Int) else mantissa) exponent

/-- A whole number. -/
def ofInt (number : Int) : Magnitude := .exact number 0

/-- How two numbers compare, unless one is not a number. -/
def compare? : Magnitude → Magnitude → Option Ordering
  | .notANumber, _ => none
  | _, .notANumber => none
  | .infinite left, .infinite right =>
    some (if left == right then .eq else if left then .lt else .gt)
  | .infinite negative, .exact _ _ => some (if negative then .lt else .gt)
  | .exact _ _, .infinite negative => some (if negative then .gt else .lt)
  | .exact left leftExponent, .exact right rightExponent =>
    let low := min leftExponent rightExponent
    let left' := left * Nat.pow 2 (leftExponent - low).toNat
    let right' := right * Nat.pow 2 (rightExponent - low).toNat
    some (Ord.compare left' right')

/-- Whether two numbers are equal. -/
def same (left right : Magnitude) : Bool :=
  compare? left right == some .eq

end Magnitude

namespace Scalar

/-- The name of a scalar's type. -/
def typeName : Scalar → String
  | .null => "NoneType"
  | .bool _ => "bool"
  | .int _ => "int"
  | .float _ => "float"
  | .text _ => "str"
  | .date _ => "date"
  | .moment _ => "datetime"
  | .bytes _ => "bytes"

/-- The written form of a scalar. -/
def written : Scalar → String
  | .null => "None"
  | .bool truth => boolText truth
  | .int number => toString number
  | .float number => floatText number
  | .text plain => quoted plain
  | .date day => day.constructor
  | .moment time => time.constructor
  | .bytes raw => quotedBytes raw

/-- Whether a scalar has a written form: a whole number with too many digits has
none. -/
def isWritable : Scalar → Bool
  | .int number => isWritableInteger number
  | _ => true

/-- A scalar as it is shown inside a text. -/
def shown : Scalar → String
  | .text plain => plain
  | .date day => day.text
  | .moment time => time.text
  | scalar => scalar.written

/-- The number a scalar stands for, if it is one. -/
def magnitude? : Scalar → Option Magnitude
  | .bool truth => some (.ofInt (if truth then 1 else 0))
  | .int number => some (.ofInt number)
  | .float number => some (.ofFloat number)
  | _ => none

/-- Whether two scalars are equal. -/
def same : Scalar → Scalar → Bool
  | .null, .null => true
  | .text left, .text right => left == right
  | .date left, .date right => left == right
  | .moment left, .moment right => left.same right
  | .bytes left, .bytes right => left == right
  | left, right =>
    match left.magnitude?, right.magnitude? with
    | some left, some right => left.same right
    | _, _ => false

end Scalar

end CodeLayout
