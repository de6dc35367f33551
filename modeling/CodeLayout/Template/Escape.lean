import CodeLayout.Text.CharacterName
import CodeLayout.Text.Quoted

/-!
# Escapes in the texts of a template

A text in quotes inside a template may hold escapes: a backslash with a letter,
with up to three octal digits, with a letter and a fixed number of hexadecimal
digits, or with a capital N and the name of a character in braces. A backslash before a line break removes both, and a backslash before any
other character stays.

Characters outside of ASCII are written as escapes first. So a backslash in front
of such a character takes the backslash of its escape, and the digits stay.
-/

set_option autoImplicit false

namespace CodeLayout

namespace Template

/-- A text with every character outside of ASCII written as an escape. -/
def escapeUnicode (text : List Char) : List Char :=
  text.flatMap fun character =>
    if character.toNat < 0x80 then [character] else escapeCode (codeOf character)

/-- The characters that a letter after a backslash stands for. -/
def letterEscapes : List (Char × Char) :=
  [('\\', '\\'), ('\'', '\''), ('"', '"'), ('a', '\x07'), ('b', '\x08'), ('t', '\t'),
    ('n', '\n'), ('v', '\x0b'), ('f', '\x0c'), ('r', '\r')]

/-- The number of hexadecimal digits after a letter. -/
def codeEscapes : List (Char × Nat) := [('x', 2), ('u', 4), ('U', 8)]

/-- Whether a character is an octal digit. -/
def isOctal (character : Char) : Bool := '0' ≤ character && character ≤ '7'

/-- The character of a number, if there is one. -/
def characterOf? (code : Nat) : Option Char :=
  if 0x10FFFF < code then none else some (characterOfCode code)

/-- The character that is named in braces at the front of a text, and what follows. -/
def namedCharacter? : List Char → Option (Char × List Char)
  | '\x7b' :: rest =>
    let name := rest.takeWhile (· != '\x7d')
    match rest.drop name.length with
    | [] => none
    | _ :: rest => (codeOfName? name).map fun code => (Char.ofNat code, rest)
  | _ => none

/-- Resolves the escapes of a text of ASCII characters, or finds one that is not
complete. The first argument is at least the number of characters. -/
def resolveEscapes : Nat → List Char → Option (List Char)
  | 0, _ => some []
  | _, [] => some []
  | _, ['\\'] => none
  | limit + 1, '\\' :: letter :: rest =>
    match letterEscapes.lookup letter with
    | some character => (resolveEscapes limit rest).map (character :: ·)
    | none =>
      match codeEscapes.lookup letter with
      | some count =>
        let digits := rest.take count
        if digits.length == count && digits.all (digitValue · < 16) then
          match characterOf? (digitsValueIn 16 digits) with
          | some character => (resolveEscapes limit (rest.drop count)).map (character :: ·)
          | none => none
        else
          none
      | none =>
        if letter == '\n' then
          resolveEscapes limit rest
        else if letter == 'N' then
          match namedCharacter? rest with
          | some (character, rest) => (resolveEscapes limit rest).map (character :: ·)
          | none => none
        else if isOctal letter then
          let digits := (letter :: rest).takeWhile isOctal |>.take 3
          (resolveEscapes limit ((letter :: rest).drop digits.length)).map
            (Char.ofNat (digitsValueIn 8 digits) :: ·)
        else
          (resolveEscapes limit rest).map (['\\', letter] ++ ·)
  | limit + 1, first :: rest => (resolveEscapes limit rest).map (first :: ·)

/-- The text that a text in quotes stands for, if its escapes are complete. -/
def unescape? (text : List Char) : Option String :=
  let plain := escapeUnicode text
  (resolveEscapes plain.length plain).map String.ofList

end Template

end CodeLayout
