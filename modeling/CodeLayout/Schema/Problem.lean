import CodeLayout.Value.Text

/-!
# Problems with data

Data that should have a certain shape is checked field by field, and every
field that does not fit is one problem. A problem has a place, a cause and the
value that was found there. A report lists the problems of one check, and never
is empty.

A value in a report is shown in written form. A long one is cut in the middle:
the first 25 and the last 24 bytes stay, less a character that would be split.
-/

set_option autoImplicit false

namespace CodeLayout

/-- What is wrong with a value. -/
inductive Cause where
  /-- Not a whole number, and nothing that is read as one. -/
  | notInteger
  /-- A text that is not a whole number. -/
  | unreadableInteger
  /-- A number with a fraction. -/
  | fractional
  /-- An infinity, or not a number. -/
  | notFinite
  /-- A number with too many digits. -/
  | tooManyDigits
  /-- A number of spaces that is not positive. -/
  | indentRange
  /-- Not a truth value, and nothing that is read as one. -/
  | notBoolean
  /-- A word or a number that is no truth value. -/
  | unreadableBoolean
  /-- Not a text. -/
  | notText
  /-- Bytes that are not text. -/
  | unreadableText
  /-- Not a mapping. -/
  | notMapping
  /-- A key that is not a text. -/
  | keyNotText
  /-- An entry without meaning. -/
  | unexpected
  /-- An entry that is needed and missing. -/
  | missing
  /-- A value that is to stay as it is. -/
  | frozen
  /-- None of some fixed words. -/
  | notOneOf (words : List String) (kind : String)
  /-- A number that is too small. -/
  | below (least : Nat)
deriving DecidableEq, Repr

/-- Words as alternatives, in quotes. -/
def alternatives : List String → String
  | [] => ""
  | [only] => quoted only
  | [first, second] => quoted first ++ " or " ++ quoted second
  | first :: second :: third :: rest =>
    quoted first ++ ", " ++ alternatives (second :: third :: rest)

namespace Cause

/-- The wording of a cause. -/
def message : Cause → String
  | .notInteger => "Input should be a valid integer"
  | .unreadableInteger =>
    "Input should be a valid integer, unable to parse string as an integer"
  | .fractional => "Input should be a valid integer, got a number with a fractional part"
  | .notFinite => "Input should be a finite number"
  | .tooManyDigits => "Unable to parse input string as an integer, exceeded maximum size"
  | .indentRange => "Value error, indent must be a positive number of spaces or -1 for tabs"
  | .notBoolean => "Input should be a valid boolean"
  | .unreadableBoolean => "Input should be a valid boolean, unable to interpret input"
  | .notText => "Input should be a valid string"
  | .unreadableText =>
    "Input should be a valid string, unable to parse raw data as a unicode string"
  | .notMapping => "Input should be a valid dictionary"
  | .keyNotText => "Keys should be strings"
  | .unexpected => "Extra inputs are not permitted"
  | .missing => "Field required"
  | .frozen => "Instance is frozen"
  | .notOneOf words _ => "Input should be " ++ alternatives words
  | .below least => "Input should be greater than or equal to " ++ toString least

/-- The short name of a cause. -/
def code : Cause → String
  | .notInteger => "int_type"
  | .unreadableInteger => "int_parsing"
  | .fractional => "int_from_float"
  | .notFinite => "finite_number"
  | .tooManyDigits => "int_parsing_size"
  | .indentRange => "value_error"
  | .notBoolean => "bool_type"
  | .unreadableBoolean => "bool_parsing"
  | .notText => "string_type"
  | .unreadableText => "string_unicode"
  | .notMapping => "dict_type"
  | .keyNotText => "invalid_key"
  | .unexpected => "extra_forbidden"
  | .missing => "missing"
  | .frozen => "frozen_instance"
  | .notOneOf _ kind => kind
  | .below _ => "greater_than_equal"

end Cause

/-- The longest initial part of a text of at most so many bytes. -/
def takeBytes : Nat → List Char → List Char
  | _, [] => []
  | limit, first :: rest =>
    if first.utf8Size ≤ limit then first :: takeBytes (limit - first.utf8Size) rest else []

/-- The longest final part of a text of at most so many bytes. -/
def takeLastBytes (limit : Nat) (text : List Char) : List Char :=
  (takeBytes limit text.reverse).reverse

/-- The greatest number of bytes of a value in a report. -/
def shownLimit : Nat := 50

/-- A text that is cut in the middle when it is too long. -/
def abbreviated (text : String) : String :=
  if text.utf8ByteSize ≤ shownLimit then
    text
  else
    let half := (shownLimit + 1) / 2
    String.ofList (takeBytes half text.toList) ++ "..." ++
      String.ofList (takeLastBytes (half - 1) text.toList)

/-- One thing wrong with data. -/
structure Problem where
  /-- The keys that lead to the value. -/
  place : List String
  /-- What is wrong. -/
  cause : Cause
  /-- The value that was found. -/
  input : Value

/-- The written form of a place. A key with a point in it is set off. -/
def placeText (place : List String) : String :=
  ".".intercalate (place.map fun key => if key.contains '.' then "\x60" ++ key ++ "\x60" else key)

/-- A value as it is shown in a report. -/
def reportedText (value : Value) : String :=
  if value.isWritable then value.written else "<unprintable " ++ value.typeName ++ " object>"

/-- The text of one problem. -/
def Problem.text (problem : Problem) : String :=
  (if problem.place.isEmpty then "" else placeText problem.place ++ "\n") ++ "  " ++ problem.cause.message ++ " [type=" ++ problem.cause.code ++
    ", input_value=" ++ abbreviated (reportedText problem.input) ++ ", input_type=" ++
    problem.input.typeName ++ "]"

/-- The problems of one check. -/
structure Report where
  /-- What the data should have been. -/
  model : String
  /-- The first problem. -/
  first : Problem
  /-- The other problems. -/
  others : List Problem

namespace Report

/-- The report of a list of problems, if there are any. -/
def ofProblems? (model : String) : List Problem → Option Report
  | [] => none
  | first :: others => some { model, first, others }

/-- The problems in order. -/
def problems (report : Report) : List Problem :=
  report.first :: report.others

/-- The text of a report. -/
def text (report : Report) : String :=
  let count := report.problems.length
  toString count ++ " validation error" ++ (if count = 1 then "" else "s") ++ " for " ++
    report.model ++ "\n" ++ "\n".intercalate (report.problems.map Problem.text)

end Report

/-- A key as part of a place. True and false count as one and zero. -/
def keyPlace : Value → String
  | .text name => name
  | .bool truth => if truth then "1" else "0"
  | key => reportedText key

end CodeLayout
