import CodeLayout.Yaml.ScalarText

/-!
# Tags

Every node has a tag that says what it stands for. A plain scalar without a tag
gets one from its form: words for truth values and null, whole numbers in
several bases, floating point numbers, both also in base sixty, dates, and the
two signs for merging and for the default value of a mapping. Everything else
is text.

The forms are small regular languages, given here by functions that take the
characters of one part off the front of a text.
-/

set_option autoImplicit false

namespace CodeLayout

namespace Yaml

/-- What a node stands for. -/
inductive Tag where
  | null
  | bool
  | int
  | float
  | binary
  | timestamp
  | text
  | merge
  | default
  | sequence
  | mapping
  | set
  | orderedMap
  | pairs
  | unknown
deriving DecidableEq, Repr

namespace Tag

/-- The beginning of the tags of the core language. -/
def corePrefix : String := "tag:yaml.org,2002:"

/-- The core tags by name. -/
def coreTags : List (String × Tag) :=
  [("null", .null), ("bool", .bool), ("int", .int), ("float", .float), ("binary", .binary),
    ("timestamp", .timestamp), ("str", .text), ("merge", .merge), ("value", .default),
    ("seq", .sequence), ("map", .mapping), ("set", .set), ("omap", .orderedMap),
    ("pairs", .pairs)]

/-- The tag written in full. -/
def ofFull (full : String) : Tag :=
  match coreTags.find? fun entry => corePrefix ++ entry.1 == full with
  | some entry => entry.2
  | none => .unknown

/-! ## Forms of plain scalars -/

/-- Whether a character is a decimal digit. -/
def isDecimal (character : Char) : Bool := '0' ≤ character && character ≤ '9'

/-- Whether a character is a decimal digit or an underscore. -/
def isDecimalGroup (character : Char) : Bool := isDecimal character || character == '_'

/-- A text without a sign. -/
def dropSign : List Char → List Char
  | '-' :: rest => rest
  | '+' :: rest => rest
  | rest => rest

/-- What follows a run of digits, underscores allowed after the first. -/
def afterDigits? : List Char → Option (List Char)
  | [] => none
  | first :: rest => if isDecimal first then some (rest.dropWhile isDecimalGroup) else none

/-- What follows groups of base sixty, each a colon with one or two digits. At
least one is needed. Groups end where no further one can be read. -/
def afterSixties? : List Char → Option (List Char)
  | ':' :: high :: low :: rest =>
    if '0' ≤ high && high ≤ '5' && isDecimal low then
      some ((afterSixties? rest).getD rest)
    else if isDecimal high then
      some ((afterSixties? (low :: rest)).getD (low :: rest))
    else
      none
  | [':', digit] => if isDecimal digit then some [] else none
  | _ => none

/-- Whether a text is empty or an exponent with a sign. -/
def isExponentOrEnd : List Char → Bool
  | [] => true
  | mark :: sign :: digit :: rest =>
    (mark == 'e' || mark == 'E') && (sign == '-' || sign == '+') && isDecimal digit &&
      rest.all isDecimal
  | _ => false

/-- Whether a text is a nonempty run of characters of a kind. -/
def isRun (belongs : Char → Bool) (text : List Char) : Bool :=
  !text.isEmpty && text.all belongs

/-- Whether a text has the form of a whole number. -/
def isInteger (text : List Char) : Bool :=
  match dropSign text with
  | ['0'] => true
  | '0' :: 'b' :: rest =>
    isRun (fun digit => digit == '0' || digit == '1' || digit == '_') rest
  | '0' :: 'x' :: rest => isRun (fun digit => isHexDigit digit || digit == '_') rest
  | '0' :: rest => isRun (fun digit => ('0' ≤ digit && digit ≤ '7') || digit == '_') rest
  | rest =>
    match afterDigits? rest with
    | none => false
    | some [] => true
    | some after => afterSixties? after == some []

/-- The words for an infinity. -/
def infinityWords : List String := [".inf", ".Inf", ".INF"]

/-- The words for what is not a number. -/
def notANumberWords : List String := [".nan", ".NaN", ".NAN"]

/-- Whether a text has the form of a floating point number. -/
def isFloat (text : List Char) : Bool :=
  let positional :=
    match afterDigits? (dropSign text) with
    | some ('.' :: rest) => isExponentOrEnd (rest.dropWhile isDecimalGroup)
    | _ => false
  let fractionOnly :=
    match text with
    | '.' :: rest => ((afterDigits? rest).map isExponentOrEnd).getD false
    | _ => false
  let sixties :=
    match (afterDigits? (dropSign text)).bind afterSixties? with
    | some ('.' :: rest) => rest.all isDecimalGroup
    | _ => false
  positional || fractionOnly || sixties ||
    infinityWords.contains (String.ofList (dropSign text)) ||
    notANumberWords.contains (String.ofList text)

/-- The words for truth values. -/
def boolWords : List String :=
  ["yes", "Yes", "YES", "no", "No", "NO", "true", "True", "TRUE", "false", "False", "FALSE",
    "on", "On", "ON", "off", "Off", "OFF"]

/-- The words for null. -/
def nullWords : List String := ["", "~", "null", "Null", "NULL"]

/-- Takes so many digits off the front. -/
def takeDigits? (count : Nat) (text : List Char) : Option (List Char × List Char) :=
  let digits := text.take count
  if digits.length == count && digits.all isDecimal then some (digits, text.drop count) else none

/-- Takes one or two digits off the front, two if possible. -/
def takeOneOrTwo? (text : List Char) : Option (List Char × List Char) :=
  (takeDigits? 2 text).or (takeDigits? 1 text)

/-- Takes a character off the front. -/
def takeChar? (character : Char) : List Char → Option (List Char)
  | [] => none
  | first :: rest => if first == character then some rest else none

/-- The parts of a date as it is written. -/
structure DateParts where
  /-- The digits of the year. -/
  year : List Char
  /-- The digits of the month. -/
  month : List Char
  /-- The digits of the day. -/
  day : List Char

/-- The parts of a time as it is written. -/
structure TimeParts where
  /-- The digits of the hour. -/
  hour : List Char
  /-- The digits of the minute. -/
  minute : List Char
  /-- The digits of the second. -/
  second : List Char
  /-- The digits after the point. -/
  fraction : List Char
  /-- The offset: whether it is behind, hours and minutes. -/
  zone : Option (Bool × List Char × List Char)

/-- Reads the date at the front of a text. -/
def takeDate? (text : List Char) : Option (DateParts × List Char) := do
  let (year, rest) ← takeDigits? 4 text
  let rest ← takeChar? '-' rest
  let (month, rest) ← takeOneOrTwo? rest
  let rest ← takeChar? '-' rest
  let (day, rest) ← takeOneOrTwo? rest
  some ({ year, month, day }, rest)

/-- Whether a character is a space or a tab. -/
def isSpaceOrTab (character : Char) : Bool := character == ' ' || character == '\t'

/-- What separates a date from a time. -/
def takeSeparator? : List Char → Option (List Char)
  | [] => none
  | first :: rest =>
    if first == 'T' || first == 't' then some rest
    else if isSpaceOrTab first then some (rest.dropWhile isSpaceOrTab)
    else none

/-- Reads an offset that is the rest of a text. -/
def zone? (text : List Char) : Option (Option (Bool × List Char × List Char)) :=
  match text.dropWhile isSpaceOrTab with
  | [] => if text.isEmpty then some none else none
  | ['Z'] => some (some (false, [], []))
  | sign :: rest =>
    if sign == '-' || sign == '+' then do
      let (hours, rest) ← takeOneOrTwo? rest
      match rest with
      | [] => some (some (sign == '-', hours, []))
      | ':' :: rest => do
        let (minutes, rest) ← takeDigits? 2 rest
        if rest.isEmpty then some (some (sign == '-', hours, minutes)) else none
      | _ => none
    else
      none

/-- Reads a time that is the rest of a text. -/
def time? (text : List Char) : Option TimeParts := do
  let rest ← takeSeparator? text
  let (hour, rest) ← takeOneOrTwo? rest
  let rest ← takeChar? ':' rest
  let (minute, rest) ← takeDigits? 2 rest
  let rest ← takeChar? ':' rest
  let (second, rest) ← takeDigits? 2 rest
  let (fraction, rest) :=
    match rest with
    | '.' :: rest => (rest.takeWhile isDecimal, rest.dropWhile isDecimal)
    | rest => ([], rest)
  let zone ← zone? rest
  some { hour, minute, second, fraction, zone }

/-- Reads a date, or a date with a time. -/
def moment? (text : List Char) : Option (DateParts × Option TimeParts) :=
  match takeDate? text with
  | none => none
  | some (date, []) => some (date, none)
  | some (date, rest) => (time? rest).map fun time => (date, some time)

/-- Whether a text has the form of a date. A date without a time has two digits
for month and day. -/
def isTimestamp (text : List Char) : Bool :=
  match moment? text with
  | none => false
  | some (date, none) => date.month.length == 2 && date.day.length == 2
  | some (_, some _) => true

/-- The tag of a plain scalar. A line feed at the very end does not count. -/
def ofPlain (text : String) : Tag :=
  let characters := if text.endsWith "\n" then text.toList.dropLast else text.toList
  let word := String.ofList characters
  if text.isEmpty then .null
  else if boolWords.contains word then .bool
  else if isFloat characters then .float
  else if isInteger characters then .int
  else if word == "<<" then .merge
  else if word != "" && nullWords.contains word then .null
  else if isTimestamp characters then .timestamp
  else if word == "=" then .default
  else .text

end Tag

end Yaml

end CodeLayout
