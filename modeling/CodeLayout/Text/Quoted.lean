import CodeLayout.Text.Printable
import CodeLayout.Text.Surrogate

/-!
# Quoted text

A text or a sequence of bytes in quotes. A single quote is the mark, unless the
text holds single quotes and no double quotes. Inside, the mark, the backslash
and the common control characters are written with a backslash, and all that is
not printable is written by its code in hexadecimal.
-/

set_option autoImplicit false

namespace CodeLayout

/-- A number in hexadecimal with at least so many digits. -/
def hexText (width number : Nat) : List Char :=
  let digits := Nat.toDigits 16 number
  List.replicate (width - digits.length) '0' ++ digits

/-- The mark around a text. -/
def quoteMark (text : List Char) : Char :=
  if text.contains '\'' && !text.contains '"' then '"' else '\''

/-- A character by its code. -/
def escapeCode (code : Nat) : List Char :=
  if code < 0x100 then
    '\\' :: 'x' :: hexText 2 code
  else if code < 0x10000 then
    '\\' :: 'u' :: hexText 4 code
  else
    '\\' :: 'U' :: hexText 8 code

/-- A character inside quotes with this mark. -/
def escapeCharacter (mark character : Char) : List Char :=
  if character == mark || character == '\\' then
    ['\\', character]
  else if character == '\n' then
    ['\\', 'n']
  else if character == '\r' then
    ['\\', 'r']
  else if character == '\t' then
    ['\\', 't']
  else if isPrintable character then
    [character]
  else
    escapeCode (codeOf character)

/-- The wording for characters from a place on that an encoding does not have. -/
def unencodable (codec : String) (place : Nat) (lost : List Char) (reason : String) : String :=
  "'" ++ codec ++ "' codec can't encode " ++
    (match lost with
      | [only] =>
        "character '" ++ String.ofList (escapeCode (codeOf only)) ++ "' in position " ++
          toString place
      | several =>
        "characters in position " ++ toString place ++ "-" ++
          toString (place + several.length - 1)) ++
    ": " ++ reason

/-- A text in quotes. -/
def quoted (text : String) : String :=
  let characters := text.toList
  let mark := quoteMark characters
  String.ofList (mark :: (characters.flatMap (escapeCharacter mark) ++ [mark]))

/-- Bytes in quotes, with a letter before them. All bytes outside the printable
ASCII characters are written by their code. -/
def quotedBytes (bytes : List UInt8) : String :=
  let characters := bytes.map fun byte => Char.ofNat byte.toNat
  let mark := quoteMark characters
  let shown (character : Char) : List Char :=
    if character.toNat < 0x7F then escapeCharacter mark character
    else escapeCode character.toNat
  String.ofList ('b' :: mark :: (characters.flatMap shown ++ [mark]))

end CodeLayout
