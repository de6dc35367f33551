import CodeLayout.Calendar
import CodeLayout.Text.Quoted

/-!
# Why a YAML text has no value

A text may not be well formed. A well-formed text may still have no value: a
node can carry a tag that its content does not fit, or contain itself.
-/

set_option autoImplicit false

namespace CodeLayout

namespace Yaml

/-- Why a YAML text has no value. -/
inductive Failure where
  /-- The text is not well formed, or a node is of a kind that its tag does not
  allow. -/
  | malformed
  /-- An escape stands for a number that is no character. -/
  | noCharacter (code : Nat)
  /-- A text tagged as a whole number is none in this base. -/
  | notInteger (base : Nat) (text : String)
  /-- A text tagged as a floating point number is none. -/
  | notFloat (text : String)
  /-- A text tagged as a number is empty. -/
  | emptyNumber
  /-- A number has too many digits. -/
  | tooManyDigits (count : Nat)
  /-- A text tagged as a truth value is none. -/
  | notBoolean (word : String)
  /-- A text tagged as a date is none. -/
  | notMoment
  /-- There is no such date. -/
  | calendar (error : CalendarError)
  /-- A node contains itself. -/
  | endless
deriving DecidableEq, Repr

/-- The greatest number of characters of a text that a failure shows. -/
def shownCharacters : Nat := 200

/-- The wording of a failure. -/
def Failure.message : Failure → String
  | .malformed => "<yaml>"
  | .noCharacter code =>
    if code < 0x80000000 then "chr() arg not in range(0x110000)"
    else "Python int too large to convert to C int"
  | .notInteger base text =>
    "invalid literal for int() with base " ++ toString base ++ ": " ++
      String.ofList ((quoted text).toList.take shownCharacters)
  | .notFloat text => "could not convert string to float: " ++ quoted text
  | .emptyNumber => "string index out of range"
  | .tooManyDigits count =>
    "Exceeds the limit (4300 digits) for integer string conversion: value has " ++
      toString count ++ " digits; use sys.set_int_max_str_digits() to increase the limit"
  | .notBoolean word => quoted word
  | .notMoment => "'NoneType' object has no attribute 'groupdict'"
  | .calendar error => error.message
  | .endless => "maximum recursion depth exceeded"

end Yaml

end CodeLayout
