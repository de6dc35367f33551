/-!
# Base 64

Bytes written with 64 characters, four for every three bytes. Characters of no
meaning are skipped. A text that ends inside a group of four has to be filled up
with equals signs, and nothing after them counts.
-/

set_option autoImplicit false

namespace CodeLayout

namespace Base64

/-- The value of a character. -/
def value? (character : Char) : Option Nat :=
  if 'A' ≤ character && character ≤ 'Z' then some (character.toNat - 'A'.toNat)
  else if 'a' ≤ character && character ≤ 'z' then some (character.toNat - 'a'.toNat + 26)
  else if '0' ≤ character && character ≤ '9' then some (character.toNat - '0'.toNat + 52)
  else if character == '+' then some 62
  else if character == '/' then some 63
  else none

/-- The bytes of the values of one group. -/
def groupBytes : List Nat → List UInt8
  | first :: second :: rest =>
    UInt8.ofNat (first * 4 + second / 16) ::
      match rest with
      | [] => []
      | third :: rest =>
        UInt8.ofNat (second % 16 * 16 + third / 4) ::
          match rest with
          | [] => []
          | fourth :: _ => [UInt8.ofNat (third % 4 * 64 + fourth)]
  | _ => []

/-- Reads characters, with the values of the current group and the number of
equals signs after them. -/
def decodeFrom : List Char → List Nat → Nat → Option (List UInt8)
  | [], group, _ => if group.isEmpty then some [] else none
  | character :: rest, group, pads =>
    if character == '=' then
      if 2 ≤ group.length then
        if 4 ≤ group.length + (pads + 1) then some (groupBytes group)
        else decodeFrom rest group (pads + 1)
      else
        decodeFrom rest group pads
    else
      match value? character with
      | none => decodeFrom rest group pads
      | some value =>
        let group := group ++ [value]
        if group.length == 4 then
          (decodeFrom rest [] 0).map (groupBytes group ++ ·)
        else
          decodeFrom rest group 0

/-- Reads a text as bytes. -/
def decode? (text : List Char) : Option (List UInt8) :=
  decodeFrom text [] 0

end Base64

end CodeLayout
