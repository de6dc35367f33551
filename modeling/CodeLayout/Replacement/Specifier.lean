import CodeLayout.Replacement.Field

/-!
# Specifiers

A specifier says how a value is written in a field: the character that fills it up
and the side, the sign, an alternative form, the width, a mark between groups of
digits, the precision and a letter for the way of writing. Every part may be left
out, but their order is fixed.
-/

set_option autoImplicit false

namespace CodeLayout

namespace Replacement

/-- Where a value stands in a field that is wider. -/
inductive Alignment where
  | left
  | right
  | center
  /-- At the right, with its sign at the left. -/
  | inner
deriving DecidableEq, Repr

/-- The alignment of a sign. -/
def Alignment.ofSign? : Char → Option Alignment
  | '<' => some .left
  | '>' => some .right
  | '^' => some .center
  | '=' => some .inner
  | _ => none

/-- How a value is written in a field. -/
structure Specifier where
  /-- The character that fills the field up. -/
  fill : Char
  /-- Where the value stands. -/
  alignment : Alignment
  /-- The sign of numbers: a plus, a minus or a blank. -/
  sign : Option Char
  /-- Whether a rounded zero has no sign. -/
  plainZero : Bool
  /-- Whether the alternative form is asked for. -/
  alternative : Bool
  /-- The least number of characters. -/
  width : Nat
  /-- The mark between groups of digits. -/
  groupMark : Option Char
  /-- The precision. -/
  precision : Option Nat
  /-- The letter for the way of writing. -/
  letter : Option Char
deriving DecidableEq, Repr

/-- What a value does where a specifier says nothing. -/
structure Defaults where
  /-- The name of the value's type. -/
  typeName : String
  /-- Where the value stands. -/
  alignment : Alignment
  /-- The letter for the way of writing. -/
  letter : Option Char

/-- A sign at the front of a text, if it is one of some characters. -/
def takeOneOf (characters : List Char) : List Char → Option Char × List Char
  | [] => (none, [])
  | first :: rest =>
    if characters.contains first then (some first, rest) else (none, first :: rest)

/-- The number at the front of a text. -/
def takeNumber (text : List Char) : Except FillError (Option Nat × List Char) :=
  let digits := text.takeWhile fun character => isDigit (plainDigit character)
  match position? digits with
  | .error malformation => .error (.malformed malformation)
  | .ok number => .ok (number, text.drop digits.length)

/-- The fill character and the alignment at the front of a text. -/
def takeAlignment : List Char → Option Char × Option Alignment × List Char
  | first :: second :: rest =>
    match Alignment.ofSign? second, Alignment.ofSign? first with
    | some alignment, _ => (some first, some alignment, rest)
    | none, some alignment => (none, some alignment, second :: rest)
    | none, none => (none, none, first :: second :: rest)
  | [only] =>
    match Alignment.ofSign? only with
    | some alignment => (none, some alignment, [])
    | none => (none, none, [only])
  | [] => (none, none, [])

/-- The letters of ways of writing that have groups of three digits. -/
def groupLetters : List Char := "defgEG%F".toList

/-- The letters of ways of writing that have groups of four digits. -/
def wideGroupLetters : List Char := "boxX".toList

/-- Whether a mark between groups fits a way of writing. -/
def groupMarkFits (mark : Char) (letter : Option Char) : Bool :=
  match letter with
  | none => true
  | some letter =>
    groupLetters.contains letter || (mark == '_' && wideGroupLetters.contains letter)

/-- The mark between groups of digits at the front of a text. There is only one. -/
def takeGroupMark (text : List Char) : Except FillError (Option Char × List Char) :=
  let first := takeOneOf [','] text
  let second := takeOneOf ['_'] first.2
  match first.1, second.1 with
  | some _, some _ => .error (.misfit .twoGroupMarks)
  | none, some mark =>
    if second.2.head? == some ',' then .error (.misfit .twoGroupMarks)
    else .ok (some mark, second.2)
  | mark, none => .ok (mark, second.2)

/-- The precision at the front of a text, after a point. -/
def takePrecision (text : List Char) : Except FillError (Option Nat × List Char) :=
  match text with
  | '.' :: rest => do
    match ← takeNumber rest with
    | (none, _) => .error (.misfit .noPrecision)
    | (some precision, rest) => .ok (some precision, rest)
  | text => .ok (none, text)

/-- Reads a specifier. -/
def Specifier.read (defaults : Defaults) (text : List Char) : Except FillError Specifier := do
  let (fill, alignment, rest) := takeAlignment text
  let (sign, rest) := takeOneOf ['+', '-', ' '] rest
  let (plainZero, rest) := takeOneOf ['z'] rest
  let (alternative, rest) := takeOneOf ['#'] rest
  let (zero, rest) := if fill.isNone then takeOneOf ['0'] rest else (none, rest)
  let (width, rest) ← takeNumber rest
  let (groupMark, rest) ← takeGroupMark rest
  let (precision, rest) ← takePrecision rest
  let letter ← match rest with
    | [] => .ok defaults.letter
    | [letter] => .ok (some letter)
    | _ => .error (.misfit (.unreadable (String.ofList text) defaults.typeName))
  let standard :=
    if zero.isSome && defaults.alignment == .right then Alignment.inner else defaults.alignment
  match groupMark, letter with
  | some mark, some code =>
    if !groupMarkFits mark letter then
      .error (.misfit (.groupMark mark code))
    else
      .ok ()
  | _, _ => .ok ()
  .ok { fill := (fill.or zero).getD ' ', alignment := alignment.getD standard, sign,
        plainZero := plainZero.isSome, alternative := alternative.isSome, width := width.getD 0,
        groupMark, precision, letter }

end Replacement

end CodeLayout
