import CodeLayout.Replacement.Error
import CodeLayout.Text.Digits

/-!
# Texts with replacement fields

A replacement field stands in braces: the name of a value, a conversion after an
exclamation mark, and a specifier after a colon. Two braces in a row stand for one
brace. A name begins with a word or a number, and parts follow: names after points
and keys in brackets.

A text is taken apart piece by piece. What is wrong with a piece matters only when
it is reached, so the reading gives the pieces before it as well.
-/

set_option autoImplicit false

namespace CodeLayout

namespace Replacement

/-- A replacement field. -/
structure Field where
  /-- The name of the value. -/
  name : List Char
  /-- The letter of the conversion, if there is one. -/
  conversion : Option Char
  /-- The specifier as it is written. -/
  specifier : List Char
  /-- Whether there are fields in the specifier. -/
  nested : Bool
deriving DecidableEq, Repr

/-- A piece of a text with replacement fields. -/
inductive Piece where
  /-- Plain text. -/
  | text (text : List Char)
  /-- A replacement field. -/
  | field (field : Field)
deriving DecidableEq, Repr

/-- The characters up to a closing bracket, which is left. -/
def toBracket (text : List Char) : List Char := text.takeWhile (· != ']')

/-- The name of a field, the character that ends it, and what follows. Inside
brackets every character belongs to the name. The first argument is at least the
length of the text. -/
def takeName : Nat → List Char → Except Malformation (List Char × Char × List Char)
  | 0, _ => .error .unclosed
  | _, [] => .error .unclosed
  | limit + 1, first :: rest =>
    if first == '\x7b' then
      .error .braceInName
    else if first == '\x7d' || first == ':' || first == '!' then
      .ok ([], first, rest)
    else if first == '[' then
      let key := toBracket rest
      (takeName limit (rest.drop key.length)).map fun name => (first :: key ++ name.1, name.2)
    else
      (takeName limit rest).map fun name => (first :: name.1, name.2)

/-- The specifier up to the closing brace of its field, whether there are braces
inside, and what follows. The first argument counts the open braces. -/
def takeSpecifier : Nat → List Char → Except Malformation (List Char × Bool × List Char)
  | _, [] => .error .unclosedSpecifier
  | opened, first :: rest =>
    if first == '\x7b' then
      (takeSpecifier (opened + 1) rest).map fun found => (first :: found.1, true, found.2.2)
    else if first == '\x7d' then
      if opened ≤ 1 then .ok ([], false, rest)
      else (takeSpecifier (opened - 1) rest).map fun found => (first :: found.1, found.2)
    else
      (takeSpecifier opened rest).map fun found => (first :: found.1, found.2)

/-- A field after its opening brace, and what follows. -/
def takeField (text : List Char) : Except Malformation (Field × List Char) := do
  let (name, ending, rest) ← takeName (text.length + 1) text
  if ending == '\x7d' then
    .ok ({ name, conversion := none, specifier := [], nested := false }, rest)
  else if ending == ':' then
    let (specifier, nested, rest) ← takeSpecifier 1 rest
    .ok ({ name, conversion := none, specifier, nested }, rest)
  else
    match rest with
    | [] => .error .noConversion
    | letter :: '\x7d' :: rest =>
      .ok ({ name, conversion := some letter, specifier := [], nested := false }, rest)
    | letter :: ':' :: rest =>
      let (specifier, nested, rest) ← takeSpecifier 1 rest
      .ok ({ name, conversion := some letter, specifier, nested }, rest)
    | [_] => .error .unclosedSpecifier
    | _ :: _ :: _ => .error .afterConversion

/-- The pieces of a text up to the first one that is malformed. The first argument
is more than the length of the text. -/
def pieces : Nat → List Char → List Piece × Option Malformation
  | 0, _ => ([], none)
  | limit + 1, text =>
    let plain := text.takeWhile fun character => character != '\x7b' && character != '\x7d'
    let before := if plain.isEmpty then [] else [Piece.text plain]
    let follow (piece : Piece) (rest : List Char) : List Piece × Option Malformation :=
      let others := pieces limit rest
      (before ++ piece :: others.1, others.2)
    match text.drop plain.length with
    | [] => (before, none)
    | '\x7b' :: '\x7b' :: rest => follow (.text ['\x7b']) rest
    | '\x7d' :: '\x7d' :: rest => follow (.text ['\x7d']) rest
    | ['\x7b'] => (before, some .loneOpen)
    | '\x7b' :: rest =>
      match takeField rest with
      | .error malformation => (before, some malformation)
      | .ok (field, rest) => follow (.field field) rest
    | _ => (before, some .loneClose)

/-- The pieces of a text. -/
def piecesOf (text : List Char) : List Piece × Option Malformation :=
  pieces (text.length + 1) text

/-! ## Names -/

/-- The greatest position in a sequence. -/
def greatestPosition : Nat := Nat.pow 2 63 - 1

/-- The number that a text stands for, if it consists of digits. -/
def position? (text : List Char) : Except Malformation (Option Nat) :=
  let digits := text.map plainDigit
  if digits.isEmpty || !digits.all isDigit then .ok none
  else if greatestPosition < digitsValue digits then .error .largeNumber
  else .ok (some (digitsValue digits))

/-- A part of a name. -/
inductive Step where
  /-- A name after a point. -/
  | member (name : List Char)
  /-- A number in brackets. -/
  | index (index : Nat)
  /-- A key in brackets. -/
  | key (key : List Char)
deriving DecidableEq, Repr

/-- Whether a character begins a part of a name. -/
def beginsStep (character : Char) : Bool := character == '.' || character == '['

/-- The parts of a name up to the first one that is malformed. The first argument
is at least the length of the text. -/
def steps : Nat → List Char → List Step × Option Malformation
  | 0, _ => ([], none)
  | _, [] => ([], none)
  | limit + 1, '.' :: rest =>
    let name := rest.takeWhile fun character => !beginsStep character
    if name.isEmpty then
      ([], some .emptyPart)
    else
      let others := steps limit (rest.drop name.length)
      (.member name :: others.1, others.2)
  | limit + 1, '[' :: rest =>
    let key := toBracket rest
    match rest.drop key.length with
    | [] => ([], some .unclosedBracket)
    | _ :: rest =>
      match position? key with
      | .error malformation => ([], some malformation)
      | .ok found =>
        if key.isEmpty then
          ([], some .emptyPart)
        else
          let others := steps limit rest
          ((found.elim (.key key) .index) :: others.1, others.2)
  | _ + 1, _ :: _ => ([], some .afterBracket)

/-- A name as its first word and its parts. -/
structure Path where
  /-- The word or number that the name begins with. -/
  first : List Char
  /-- The parts after it. -/
  steps : List Step
  /-- What is wrong after these parts. -/
  malformation : Option Malformation

/-- The path of a name. -/
def Path.ofName (name : List Char) : Path :=
  let first := name.takeWhile fun character => !beginsStep character
  let rest := name.drop first.length
  let parts := Replacement.steps rest.length rest
  { first, steps := parts.1, malformation := parts.2 }

end Replacement

end CodeLayout
