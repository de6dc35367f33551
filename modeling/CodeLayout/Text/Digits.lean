import CodeLayout.Text.Blank

/-!
# Digits

Decimal digits and the numbers they write. Besides the ASCII digits every script
has its own, always ten characters in a row from zero to nine; the table lists
the zeros for version 14 of Unicode.

Single underscores may stand between the digits of a number to group them.
-/

set_option autoImplicit false

namespace CodeLayout

/-- The greatest number of decimal digits of a whole number in a text. -/
def digitLimit : Nat := 4300

/-- Whether a whole number can be written in decimal digits. -/
def isWritableInteger (number : Int) : Bool := number.natAbs < Nat.pow 10 digitLimit

/-- Whether a character is a decimal digit of ASCII. -/
def isDigit (character : Char) : Bool :=
  '0' ≤ character && character ≤ '9'

/-- The zeros of the scripts outside of ASCII. -/
def scriptZeros : List Nat :=
  [0x660, 0x6F0, 0x7C0, 0x966, 0x9E6, 0xA66, 0xAE6, 0xB66, 0xBE6, 0xC66, 0xCE6, 0xD66, 0xDE6, 0xE50,
    0xED0, 0xF20, 0x1040, 0x1090, 0x17E0, 0x1810, 0x1946, 0x19D0, 0x1A80, 0x1A90, 0x1B50, 0x1BB0,
    0x1C40, 0x1C50, 0xA620, 0xA8D0, 0xA900, 0xA9D0, 0xA9F0, 0xAA50, 0xABF0, 0xFF10, 0x104A0,
    0x10D30, 0x11066, 0x110F0, 0x11136, 0x111D0, 0x112F0, 0x11450, 0x114D0, 0x11650, 0x116C0,
    0x11730, 0x118E0, 0x11950, 0x11C50, 0x11D50, 0x11DA0, 0x16A60, 0x16AC0, 0x16B50, 0x1D7CE,
    0x1D7D8, 0x1D7E2, 0x1D7EC, 0x1D7F6, 0x1E140, 0x1E2F0, 0x1E950, 0x1FBF0]

/-- A character with every decimal digit replaced by the one of ASCII. -/
def plainDigit (character : Char) : Char :=
  if character.toNat < 0x80 then
    character
  else
    let isNear := fun first => first ≤ character.toNat && character.toNat < first + 10
    match scriptZeros.find? isNear with
    | some first => Char.ofNat ('0'.toNat + (character.toNat - first))
    | none => character

/-- The value of a digit, letters counting on after nine. Other characters have
a value that no base reaches. -/
def digitValue (digit : Char) : Nat :=
  if isDigit digit then digit.toNat - '0'.toNat
  else if 'a' ≤ digit && digit ≤ 'z' then digit.toNat - 'a'.toNat + 10
  else if 'A' ≤ digit && digit ≤ 'Z' then digit.toNat - 'A'.toNat + 10
  else 36

/-- The number written by digits of a base. -/
def digitsValueIn (base : Nat) (digits : List Char) : Nat :=
  digits.foldl (fun value digit => base * value + digitValue digit) 0

/-- The number written by decimal digits. -/
def digitsValue (digits : List Char) : Nat := digitsValueIn 10 digits

/-- The digits of a base in a text in which single underscores may stand between
them. -/
def groupedDigitsIn? (base : Nat) : List Char → Option (List Char)
  | [] => none
  | [digit] => if digitValue digit < base then some [digit] else none
  | digit :: '_' :: rest =>
    if digitValue digit < base then (groupedDigitsIn? base rest).map (digit :: ·) else none
  | digit :: next :: rest =>
    if digitValue digit < base then (groupedDigitsIn? base (next :: rest)).map (digit :: ·)
    else none

/-- A text without its sign, and whether the sign is a minus. -/
def splitSign : List Char → Bool × List Char
  | '-' :: rest => (true, rest)
  | '+' :: rest => (false, rest)
  | rest => (false, rest)

/-- A number with a sign. -/
def signed (negative : Bool) (magnitude : Nat) : Int :=
  if negative then -(magnitude : Int) else magnitude

end CodeLayout
