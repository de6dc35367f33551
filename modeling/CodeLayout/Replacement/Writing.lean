import CodeLayout.Decimal.Reading
import CodeLayout.Decimal.Rounded
import CodeLayout.Replacement.Specifier
import CodeLayout.Value.Text

/-!
# Writing values in fields

A text is cut to its precision. A whole number is written in a base, and a
floating point number in a style; both have a sign, digits that may be grouped, and
something after the digits. All are filled up to the width of the field. With zeros
between the sign and the number, the zeros are grouped like the digits.
-/

set_option autoImplicit false

namespace CodeLayout

namespace Replacement

/-- A text filled up to a width. -/
def padded (specifier : Specifier) (text : List Char) : List Char :=
  let missing := specifier.width - text.length
  let left :=
    match specifier.alignment with
    | .left => 0
    | .center => missing / 2
    | .right => missing
    | .inner => missing
  List.replicate left specifier.fill ++ text ++ List.replicate (missing - left) specifier.fill

/-- Writes a text. -/
def writeText (specifier : Specifier) (text : String) : Except FillError String :=
  match specifier.letter with
  | some 's' =>
    if specifier.sign == some ' ' then
      .error (.misfit .blankText)
    else if specifier.sign.isSome then
      .error (.misfit .signedText)
    else if specifier.plainZero then
      .error (.misfit .zeroSignText)
    else if specifier.alternative then
      .error (.misfit .alternativeText)
    else if specifier.alignment == .inner then
      .error (.misfit .innerText)
    else
      let characters := text.toList
      .ok (String.ofList (padded specifier (characters.take
        (specifier.precision.getD characters.length))))
  | letter => .error (.misfit (.letter (letter.getD 's') "str"))

/-! ## Numbers -/

/-- The parts of a written number. -/
structure NumberParts where
  /-- Whether a minus stands before it. -/
  negative : Bool
  /-- What stands between the sign and the digits. -/
  base : List Char
  /-- The digits that can be grouped. -/
  digits : List Char
  /-- What stands after the digits. -/
  rest : List Char

/-- The sign of a number. -/
def signText (specifier : Specifier) (negative : Bool) : List Char :=
  if negative then ['-']
  else
    match specifier.sign with
    | some '+' => ['+']
    | some ' ' => [' ']
    | _ => []

/-- Digits from the last to the first, in groups with a mark between them. There are
at least so many characters, zeros being added. The first argument is more than the
number of characters. -/
def groupReversed (mark : Char) (size : Nat) : Nat → List Char → Nat → List Char
  | 0, _, _ => []
  | limit + 1, digits, width =>
    let count := min size (max (max digits.length width) 1)
    let group := digits.take count ++ zeros (count - digits.length)
    if digits.length ≤ count && width ≤ count then
      group
    else
      group ++ mark :: groupReversed mark size limit (digits.drop count) (width - count - 1)

/-- The digits of a number with zeros added and groups marked. -/
def groupedDigits (specifier : Specifier) (digits : List Char) (width : Nat) : List Char :=
  match specifier.groupMark with
  | none => zeros (width - digits.length) ++ digits
  | some mark =>
    let size := if (specifier.letter.map wideGroupLetters.contains).getD false then 4 else 3
    (groupReversed mark size (digits.length + width + 1) digits.reverse width).reverse

/-- Writes a number. -/
def writeNumber (specifier : Specifier) (parts : NumberParts) : String :=
  let sign := signText specifier parts.negative
  let around := sign.length + parts.base.length + parts.rest.length
  let width :=
    if specifier.fill == '0' && specifier.alignment == .inner then specifier.width - around else 0
  let digits :=
    if parts.digits.isEmpty then [] else groupedDigits specifier parts.digits width
  let number := digits ++ parts.rest
  match specifier.alignment with
  | .inner =>
    let missing := specifier.width - (sign.length + parts.base.length + number.length)
    String.ofList (sign ++ parts.base ++ List.replicate missing specifier.fill ++ number)
  | _ => String.ofList (padded specifier (sign ++ parts.base ++ number))

/-- The base of a letter. -/
def baseOf : Option Char → Nat
  | some 'b' => 2
  | some 'o' => 8
  | some 'x' => 16
  | some 'X' => 16
  | _ => 10

/-- A digit in capital letters. -/
def capitalDigit (character : Char) : Char :=
  if 'a' ≤ character && character ≤ 'z' then Char.ofNat (character.toNat - 32) else character

/-- The greatest code of a character. -/
def greatestCode : Int := 0x10FFFF

/-- Writes a whole number as the character with this code. -/
def writeCharacter (specifier : Specifier) (number : Int) : Except FillError String :=
  if specifier.sign.isSome then
    .error (.misfit .signedCharacter)
  else if specifier.alternative then
    .error (.misfit .alternativeCharacter)
  else if Nat.pow 2 63 ≤ number || number < -Nat.pow 2 63 then
    .error (.misfit .largeCharacter)
  else if number < 0 || greatestCode < number then
    .error (.misfit .noCharacter)
  else
    .ok (writeNumber specifier
      { negative := false, base := [], digits := [], rest := [Char.ofNat number.toNat] })

/-- Writes a whole number in a base. -/
def writeInteger (specifier : Specifier) (number : Int) : Except FillError String :=
  if specifier.precision.isSome then
    .error (.misfit .preciseInteger)
  else if specifier.plainZero then
    .error (.misfit .zeroSignInteger)
  else if specifier.letter == some 'c' then
    writeCharacter specifier number
  else
    let base := baseOf specifier.letter
    if base == 10 && !isWritableInteger number then
      .error (.misfit .tooManyDigits)
    else
      let capital := specifier.letter == some 'X'
      let digits := Nat.toDigits base number.natAbs
      let shown := if capital then digits.map capitalDigit else digits
      let mark :=
        match specifier.letter with
        | some letter =>
          if specifier.alternative && base != 10 then ['0', letter] else []
        | none => []
      .ok (writeNumber specifier
        { negative := number < 0, base := mark, digits := shown, rest := [] })

/-- The precision of a style that says nothing about it. -/
def standardPrecision : Nat := 6

/-- The style of floating point numbers of a letter. -/
def styleOf (specifier : Specifier) : FloatStyle :=
  let precision := specifier.precision.getD standardPrecision
  match specifier.letter with
  | none =>
    match specifier.precision with
    | none => .shortest
    | some count => .generalWithPoint (max count 1)
  | some 'e' => .scientific precision
  | some 'E' => .scientific precision
  | some 'f' => .fixed precision
  | some 'F' => .fixed precision
  | some '%' => .fixed precision
  | _ => .general precision

/-- Writes a floating point number. -/
def writeFloat (specifier : Specifier) (number : Float) : String :=
  let percent := specifier.letter == some '%'
  let capital := (specifier.letter.map "EFG".toList.contains).getD false
  let value := if percent then number * 100.0 else number
  let (negative, text) :=
    match FloatParts.ofFloat value with
    | .notANumber => (false, "nan".toList)
    | .infinite negative => (negative, "inf".toList)
    | .finite negative mantissa exponent =>
      let shown := (styleOf specifier).text mantissa exponent specifier.alternative
      (negative && !(specifier.plainZero && shown.2), shown.1)
  let all := (if capital then text.map capitalDigit else text) ++ (if percent then ['%'] else [])
  let digits := all.takeWhile isDigit
  writeNumber specifier { negative, base := [], digits, rest := all.drop digits.length }

/-- The letters of ways to write whole numbers. -/
def integerLetters : List Char := "bcdoxXn".toList

/-- The letters of ways to write floating point numbers. -/
def floatLetters : List Char := "eEfFgGn%".toList

/-- Writes a number that is a whole number in one of its ways. -/
def formatInteger (typeName : String) (specifier : Specifier) (number : Int) :
    Except FillError String :=
  let letter := specifier.letter.getD 'd'
  if integerLetters.contains letter then
    writeInteger specifier number
  else if floatLetters.contains letter then
    let rounded := nearestFloatOfInt number
    if rounded.isInf then .error (.misfit .largeNumber) else .ok (writeFloat specifier rounded)
  else
    .error (.misfit (.letter letter typeName))

/-- Writes a floating point number in one of its ways. -/
def formatFloat (specifier : Specifier) (number : Float) : Except FillError String :=
  match specifier.letter with
  | some letter =>
    if floatLetters.contains letter then .ok (writeFloat specifier number)
    else .error (.misfit (.letter letter "float"))
  | none => .ok (writeFloat specifier number)

/-- Writes a value in the way that a specifier says. An empty specifier writes it
plainly. -/
def format (value : Value) (specifier : List Char) : Except FillError String :=
  if specifier.isEmpty then
    match value with
    | .int number =>
      if !isWritableInteger number then .error (.misfit .tooManyDigits)
      else .ok value.shown
    | value => .ok value.shown
  else
    match value with
    | .text plain => do
      writeText (← Specifier.read
        { typeName := "str", alignment := .left, letter := some 's' } specifier) plain
    | .int number => do
      formatInteger "int" (← Specifier.read
        { typeName := "int", alignment := .right, letter := some 'd' } specifier) number
    | .bool truth => do
      formatInteger "bool" (← Specifier.read
        { typeName := "bool", alignment := .right, letter := some 'd' } specifier)
        (if truth then 1 else 0)
    | .float number => do
      formatFloat (← Specifier.read
        { typeName := "float", alignment := .right, letter := none } specifier) number
    | value => .error (.misfit (.unsupported value.typeName))

end Replacement

end CodeLayout
