/-!
# UTF-8

Reading bytes as text. The reader either gives the text or says which bytes are
at fault and why: a byte that cannot start a character, a byte that cannot
continue one, or an end in the middle of one.
-/

set_option autoImplicit false

namespace CodeLayout

/-- Why bytes are not text. -/
inductive DecodeCause where
  /-- The byte cannot start a character. -/
  | invalidStart
  /-- The byte after the given ones cannot continue the character. -/
  | invalidContinuation
  /-- The bytes end in the middle of a character. -/
  | unexpectedEnd
deriving DecidableEq, Repr

/-- Where and why bytes are not text. -/
structure DecodeError where
  /-- What is wrong. -/
  cause : DecodeCause
  /-- The first byte at fault. -/
  byte : UInt8
  /-- The position of the first byte at fault. -/
  start : Nat
  /-- The number of bytes at fault. -/
  length : Nat
deriving DecidableEq, Repr

/-- The wording of a cause. -/
def DecodeCause.message : DecodeCause → String
  | .invalidStart => "invalid start byte"
  | .invalidContinuation => "invalid continuation byte"
  | .unexpectedEnd => "unexpected end of data"

/-- The wording of a decoding error. -/
def DecodeError.message (error : DecodeError) : String :=
  let digits := Nat.toDigits 16 error.byte.toNat
  let shown := String.ofList (List.replicate (2 - digits.length) '0' ++ digits)
  if error.length = 1 then
    "'utf-8' codec can't decode byte 0x" ++ shown ++ " in position " ++ toString error.start ++
      ": " ++ error.cause.message
  else
    "'utf-8' codec can't decode bytes in position " ++ toString error.start ++ "-" ++
      toString (error.start + error.length - 1) ++ ": " ++ error.cause.message

namespace Utf8

/-- A character under way. -/
structure Pending where
  /-- Its bits so far. -/
  bits : Nat
  /-- The least next byte. -/
  low : Nat
  /-- The greatest next byte. -/
  high : Nat
  /-- The number of bytes after the next. -/
  more : Nat

/-- What a first byte above the ASCII range begins. -/
def begin? (first : Nat) : Option Pending :=
  if 0xC2 ≤ first && first ≤ 0xDF then
    some { bits := first - 0xC0, low := 0x80, high := 0xBF, more := 0 }
  else if first == 0xE0 then
    some { bits := 0, low := 0xA0, high := 0xBF, more := 1 }
  else if first == 0xED then
    some { bits := 0xD, low := 0x80, high := 0x9F, more := 1 }
  else if 0xE1 ≤ first && first ≤ 0xEF then
    some { bits := first - 0xE0, low := 0x80, high := 0xBF, more := 1 }
  else if first == 0xF0 then
    some { bits := 0, low := 0x90, high := 0xBF, more := 2 }
  else if 0xF1 ≤ first && first ≤ 0xF3 then
    some { bits := first - 0xF0, low := 0x80, high := 0xBF, more := 2 }
  else if first == 0xF4 then
    some { bits := 4, low := 0x80, high := 0x8F, more := 2 }
  else
    none

/-- A character under way. -/
structure Partial where
  /-- Its first byte. -/
  first : UInt8
  /-- The position of the first byte. -/
  start : Nat
  /-- What is still to come. -/
  pending : Pending

/-- Where the reading of bytes stands. -/
structure State where
  /-- The position of the next byte. -/
  position : Nat
  /-- The character under way, if there is one. -/
  under : Option Partial
  /-- The characters that are complete, the last one first. -/
  done : List Char

/-- The reading before the first byte. -/
def State.start : State := { position := 0, under := none, done := [] }

/-- Reads one byte. -/
def State.step (state : State) (byte : UInt8) : Except DecodeError State :=
  let next := state.position + 1
  match state.under with
  | none =>
    if byte.toNat < 0x80 then
      .ok { position := next, under := none, done := Char.ofNat byte.toNat :: state.done }
    else
      match begin? byte.toNat with
      | none => .error { cause := .invalidStart, byte, start := state.position, length := 1 }
      | some pending =>
        let under := some { first := byte, start := state.position, pending }
        .ok { position := next, under, done := state.done }
  | some { first, start, pending } =>
    if pending.low ≤ byte.toNat && byte.toNat ≤ pending.high then
      let bits := pending.bits * 64 + (byte.toNat - 0x80)
      match pending.more with
      | 0 => .ok { position := next, under := none, done := Char.ofNat bits :: state.done }
      | more + 1 =>
        let under := some { first, start, pending := { bits, low := 0x80, high := 0xBF, more } }
        .ok { position := next, under, done := state.done }
    else
      .error { cause := .invalidContinuation, byte := first, start,
               length := state.position - start }

/-- The text after the last byte. -/
def State.finish (state : State) : Except DecodeError String :=
  match state.under with
  | none => .ok (String.ofList state.done.reverse)
  | some { first, start, .. } =>
    .error { cause := .unexpectedEnd, byte := first, start, length := state.position - start }

/-- Reads bytes as text. -/
def decode (bytes : List UInt8) : Except DecodeError String :=
  match bytes.foldlM State.step State.start with
  | .ok state => state.finish
  | .error error => .error error

/-- The reading with positions counted from the character under way, or from the
next byte if there is none. -/
def State.rebase (state : State) : State :=
  match state.under with
  | none => { state with position := 0 }
  | some character =>
    { state with
      position := state.position - character.start
      under := some { character with start := 0 } }

/-- Reads bytes in pieces of a size. The first argument is at least the number of
pieces. -/
def decodePieces (size : Nat) : Nat → State → List UInt8 → Except DecodeError String
  | 0, state, _ => state.finish
  | limit + 1, state, bytes =>
    if bytes.isEmpty then
      state.finish
    else
      match (bytes.take size).foldlM State.step state with
      | .ok state => decodePieces size limit state.rebase (bytes.drop size)
      | .error error => .error error

/-- The number of bytes that are read from a stream at once. -/
def pieceSize : Nat := 8192

/-- Reads bytes as text from a stream. Positions are counted from the beginning of a
piece, with the bytes that the piece before has left. -/
def decodeStream (bytes : List UInt8) : Except DecodeError String :=
  decodePieces pieceSize (bytes.length + 1) State.start bytes

end Utf8

end CodeLayout
