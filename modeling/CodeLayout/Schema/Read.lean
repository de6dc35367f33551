import CodeLayout.Decimal.Reading
import CodeLayout.Schema.Problem
import CodeLayout.Text.Surrogate
import CodeLayout.Text.Utf8

/-!
# Reading fields

A field that asks for a whole number, a truth value or a text also takes what
clearly stands for one: a number field takes digits in a text and numbers
without a fraction, a truth field takes the numbers zero and one and the usual
words, and bytes are taken as the text they encode.
-/

set_option autoImplicit false

namespace CodeLayout

namespace Field

/-- Whether a character is white space around a number. -/
def isSpace (character : Char) : Bool :=
  isBlank character && !(0x1C ≤ character.toNat && character.toNat ≤ 0x1F)

/-- A text without white space at both ends. -/
def trim (text : List Char) : List Char :=
  ((text.dropWhile isSpace).reverse.dropWhile isSpace).reverse

/-- A text without a fraction of one or more zeros. -/
def dropZeroFraction (text : List Char) : List Char :=
  match text.dropWhile (· != '.') with
  | _ :: zero :: zeros =>
    if (zero :: zeros).all (· == '0') then text.takeWhile (· != '.') else text
  | _ => text

/-- What follows the zeros at the front of a number, and the underscores among
them: a digit, a minus sign, or the last zero with its fraction. -/
def afterZeros (last : Char) : List Char → Option (List Char)
  | [] => some [last]
  | character :: rest =>
    if character == '0' || character == '_' then afterZeros character rest
    else if isDigit character || character == '-' then some (character :: rest)
    else if character == '.' then some (last :: character :: rest)
    else none

/-- A number without zeros at its front. -/
def dropLeadingZeros : List Char → Option (List Char)
  | [] => none
  | character :: rest =>
    if character == '0' then afterZeros character rest
    else if isDigit character || character == '-' then some (character :: rest)
    else none

/-- A text without single underscores between other characters. Underscores in
any other place stay. -/
def dropUnderscores (text : List Char) : List Char :=
  let doubled := (text.zip (text.drop 1)).any fun pair => pair.1 == '_' && pair.2 == '_'
  if text.head? == some '_' || text.getLast? == some '_' || doubled then text
  else text.filter (· != '_')

/-- The plain form of a number that is written with white space around it, a plus
sign, leading zeros, a fraction of zeros or underscores. -/
def plainForm (text : List Char) : Option (List Char) :=
  let number := trim text
  let unsigned := if number.head? == some '+' then number.drop 1 else number
  if number.head? == some '+' && unsigned.head? == some '-' then none
  else (dropLeadingZeros unsigned).map fun digits => dropUnderscores (dropZeroFraction digits)

/-- Whether a text starts with a number that has too many digits to be read. Its
sign counts too. -/
def startsTooLong (text : List Char) : Bool :=
  let sign := (text.takeWhile (· == '-')).take 1
  let digits := (text.drop sign.length).takeWhile isDigit
  digits.head? != some '0' && digitLimit < sign.length + digits.length

/-- The number a plain form stands for: a minus sign or nothing, and digits of
which only a single one is zero at the front. -/
def ofPlainForm? (text : List Char) : Option Int :=
  let sign := (text.takeWhile (· == '-')).take 1
  let digits := text.drop sign.length
  if digits.isEmpty || !digits.all isDigit || digitLimit < text.length then none
  else if digits.head? == some '0' && 1 < digits.length then none
  else some (signed (!sign.isEmpty) (digitsValue digits))

/-- The whole number a text stands for. -/
def integerOfText (text : String) : Except Cause Int :=
  if hasSurrogates text then .error .unreadableText
  else if startsTooLong text.toList then .error .tooManyDigits
  else
    match (plainForm text.toList).bind ofPlainForm? with
    | some number => .ok number
    | none => .error .unreadableInteger

/-- The whole number a floating point number stands for. -/
def integerOfFloat (number : Float) : Except Cause Int :=
  match FloatParts.ofFloat number with
  | .notANumber => .error .notFinite
  | .infinite _ => .error .notFinite
  | .finite negative mantissa exponent =>
    let ratio := FloatParts.magnitude mantissa exponent
    if ratio.numerator % ratio.denominator != 0 then
      .error .fractional
    else if Nat.pow 2 63 ≤ ratio.numerator / ratio.denominator then
      .error .tooManyDigits
    else
      .ok (signed negative (ratio.numerator / ratio.denominator))

/-- Reads a whole number. -/
def integer : Value → Except Cause Int
  | .int number => .ok number
  | .bool truth => .ok (if truth then 1 else 0)
  | .float number => integerOfFloat number
  | .text text => integerOfText text
  | .bytes bytes =>
    match Utf8.decode bytes with
    | .ok text => integerOfText text
    | .error _ => .error .unreadableInteger
  | _ => .error .notInteger

/-- The words for true. -/
def trueWords : List String := ["1", "true", "t", "yes", "y", "on"]

/-- The words for false. -/
def falseWords : List String := ["0", "false", "f", "no", "n", "off"]

/-- The truth value a word stands for, in capital or small letters. -/
def booleanOfText (text : String) : Except Cause Bool :=
  let word := String.ofList (text.toList.map Char.toLower)
  if hasSurrogates text then
    .error .unreadableText
  else if trueWords.contains word then
    .ok true
  else if falseWords.contains word then
    .ok false
  else
    .error .unreadableBoolean

/-- Whether a whole number takes at most 64 bits. -/
def isShort (number : Int) : Bool := -Nat.pow 2 63 ≤ number && number < Nat.pow 2 63

/-- The truth value a whole number stands for. A number of more than 64 bits does
not even look like one. -/
def booleanOfInteger (number : Int) : Except Cause Bool :=
  if number = 1 then .ok true
  else if number = 0 then .ok false
  else .error (if isShort number then .unreadableBoolean else .notBoolean)

/-- Reads a truth value. -/
def boolean : Value → Except Cause Bool
  | .bool truth => .ok truth
  | .int number => booleanOfInteger number
  | .float number =>
    match integerOfFloat number with
    | .ok whole => booleanOfInteger whole
    | .error _ => .error .notBoolean
  | .text text => booleanOfText text
  | .bytes bytes =>
    match Utf8.decode bytes with
    | .ok text => booleanOfText text
    | .error _ => .error .unreadableBoolean
  | _ => .error .notBoolean

/-- Reads a text. -/
def text : Value → Except Cause String
  | .text written => .ok written
  | .bytes bytes =>
    match Utf8.decode bytes with
    | .ok written => .ok written
    | .error _ => .error .unreadableText
  | _ => .error .notText

/-- The reading of an entry, or of its default when it is missing. -/
def optional {α : Type} (entries : List (Value × Value)) (name : String) (default : α)
    (read : Value → Except Cause α) : Except Problem α :=
  match Value.lookup? name entries with
  | none => .ok default
  | some input =>
    match read input with
    | .ok value => .ok value
    | .error cause => .error { place := [name], cause, input }

/-- The reading of an entry that has to be there. -/
def required {α : Type} (entries : List (Value × Value)) (name : String)
    (read : Value → Except Cause α) : Except Problem α :=
  match Value.lookup? name entries with
  | none => .error { place := [name], cause := .missing, input := .map entries }
  | some input =>
    match read input with
    | .ok value => .ok value
    | .error cause => .error { place := [name], cause, input }

/-- The problem of a reading. -/
def problems {α : Type} : Except Problem α → List Problem
  | .ok _ => []
  | .error problem => [problem]

end Field

/-- Entries whose keys are texts. -/
abbrev Options := List (String × Value)

namespace Options

/-- Gives an option a value. An option that is there keeps its place. -/
def put (key : String) (value : Value) : Options → Options
  | [] => [(key, value)]
  | (name, old) :: rest =>
    if name = key then (name, value) :: rest else (name, old) :: put key value rest

/-- The names of options. -/
def names (options : Options) : List String := options.map Prod.fst

/-- Reads entries whose keys have to be texts. Every other key is a problem. Of
two keys with one text the later one gives the value. -/
def ofEntries (place : List String) (entries : List (Value × Value)) : Options × List Problem :=
  entries.foldl
    (fun read entry =>
      match Field.text entry.1 with
      | .ok name => (read.1.put name entry.2, read.2)
      | .error cause =>
        (read.1, read.2 ++
          [{ place := place ++ [keyPlace entry.1, "[key]"], cause, input := entry.1 }]))
    ([], [])

/-- The options that entries stand for, if all keys are texts. -/
def ofTextKeys? (entries : List (Value × Value)) : Option Options :=
  entries.mapM fun entry => entry.1.text?.map fun name => (name, entry.2)

/-- Reads a mapping whose keys have to be texts. -/
def ofValue (place : List String) (input : Value) : Options × List Problem :=
  match input.opened with
  | .map entries => ofEntries place entries
  | _ => ([], [{ place, cause := .notMapping, input }])

/-- The problem of the first key with surrogates that is none of some known ones. It
has no place, and no other problem counts beside it. -/
def unreadableKey? (known : List String) (entries : List (Value × Value)) : Option Problem :=
  entries.findSome? fun entry =>
    match entry.1 with
    | .text name =>
      if !known.contains name && hasSurrogates name then
        some { place := [], cause := .unreadableText, input := entry.1 }
      else
        none
    | _ => none

/-- The problems of the entries that are none of some known ones. -/
def unexpected (known : List String) (entries : List (Value × Value)) : List Problem :=
  entries.filterMap fun entry =>
    match entry.1 with
    | .text name =>
      if known.contains name then none
      else some { place := [name], cause := .unexpected, input := entry.2 }
    | key => some { place := [keyPlace key], cause := .keyNotText, input := key }

/-- All problems of some entries, given those of the known ones. -/
def problems (known : List String) (entries : List (Value × Value)) (found : List Problem) :
    List Problem :=
  match unreadableKey? known entries with
  | some problem => [problem]
  | none => found ++ unexpected known entries

/-- Options as entries. -/
def toEntries (options : Options) : List (Value × Value) :=
  options.map fun option => (.text option.1, option.2)

end Options

end CodeLayout
