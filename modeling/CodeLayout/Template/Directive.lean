import CodeLayout.Decimal.Division
import CodeLayout.Decimal.Reading
import CodeLayout.Decimal.Rounded
import CodeLayout.Replacement.Basic
import CodeLayout.Template.Comparing

/-!
# Directives in texts

A text can have directives, each a percent sign with a letter at its end: the letter says
how an object is written there. Between them may stand a key in parentheses, flags, a
width and a precision. The objects are the items of a tuple in turn, or one object alone,
or the entries of a mapping under the keys.

Two percent signs stand for one. In a text that is safe for markup, what is filled in is
made safe.
-/

set_option autoImplicit false

namespace CodeLayout

namespace Template

/-! ## Numbers as operands -/

/-- A number as an operand. -/
inductive Number where
  | int (number : Int)
  | float (number : Float)

namespace Number

/-- The number of an object. Truth values count as zero and one. -/
def ofObject? : Object → Option Number
  | .float number => some (.float number)
  | object => object.integer?.map .int

/-- A number as a floating point number. -/
def toFloat : Number → Except Fault Float
  | .float number => .ok number
  | .int number =>
    let rounded := nearestFloatOfInt number
    if rounded.isInf then .error (.excess .conversion) else .ok rounded

/-- A number as a whole number, a fraction being cut off. -/
def toInt : Number → Except Fault Int
  | .int number => .ok number
  | .float number =>
    match truncated? number with
    | some whole => .ok whole
    | none => .error (if number.isNaN then .value .notANumber else .excess .infinity)

end Number

/-! ## Reading directives -/

/-- How a number of characters is given: not at all, as digits, or as the next object. -/
inductive Measure where
  | none
  | given (count : Nat)
  | asked
deriving DecidableEq, Repr

/-- What is wrong with a directive. -/
inductive DirectiveProblem where
  /-- The text ends in it. -/
  | incomplete
  /-- The text ends in its key. -/
  | incompleteKey
  /-- Its width is too large. -/
  | width
  /-- Its precision is too large. -/
  | precision
deriving DecidableEq, Repr

/-- The wording of what is wrong with a directive. -/
def DirectiveProblem.message : DirectiveProblem → String
  | .incomplete => "incomplete format"
  | .incompleteKey => "incomplete format key"
  | .width => "width too big"
  | .precision => "precision too big"

/-- A directive after its key. -/
structure Directive where
  /-- Its flags. -/
  flags : List Char
  /-- The least number of characters. -/
  width : Measure
  /-- The precision. -/
  precision : Measure
  /-- The letter. -/
  letter : Char
deriving DecidableEq, Repr

namespace Directive

/-- The characters that are flags. -/
def flagCharacters : List Char := ['-', '+', ' ', '#', '0']

/-- The key up to the closing parenthesis that fits, and what follows. -/
def takeKey? : Nat → List Char → Option (List Char × List Char)
  | _, [] => none
  | opened, ')' :: rest =>
    match opened with
    | 0 => some ([], rest)
    | opened + 1 => (takeKey? opened rest).map fun found => (')' :: found.1, found.2)
  | opened, '(' :: rest => (takeKey? (opened + 1) rest).map fun found => ('(' :: found.1, found.2)
  | opened, first :: rest => (takeKey? opened rest).map fun found => (first :: found.1, found.2)

/-- The number of characters at the front of a text, which may be as large as a limit, and
what follows. -/
def takeMeasure (greatest : Nat) (problem : DirectiveProblem) (text : List Char) :
    Except DirectiveProblem (Measure × List Char) :=
  match text with
  | '*' :: rest => .ok (.asked, rest)
  | text =>
    let digits := text.takeWhile isDigit
    if digits.isEmpty then .ok (.none, text)
    else if greatest < digitsValue digits then .error problem
    else .ok (.given (digitsValue digits), text.drop digits.length)

/-- The precision at the front of a text, after a point. -/
def takePrecision (text : List Char) : Except DirectiveProblem (Measure × List Char) :=
  match text with
  | '.' :: rest =>
    (takeMeasure 2147483647 .precision rest).map fun found =>
      (if found.1 = .none then .given 0 else found.1, found.2)
  | text => .ok (.none, text)

/-- A text without a letter for a size at its front. -/
def dropSize : List Char → List Char
  | 'h' :: rest => rest
  | 'l' :: rest => rest
  | 'L' :: rest => rest
  | text => text

/-- The directive at the front of a text, after its key, and what follows. -/
def take (text : List Char) : Except DirectiveProblem (Directive × List Char) := do
  let flags := text.takeWhile flagCharacters.contains
  let (width, rest) ← takeMeasure greatestLength .width (text.drop flags.length)
  let (precision, rest) ← takePrecision rest
  match dropSize rest with
  | [] => .error .incomplete
  | letter :: rest => .ok ({ flags, width, precision, letter }, rest)

end Directive

/-! ## The objects -/

/-- The objects that are left for directives. -/
structure Fillers where
  /-- The mapping for directives with keys, if there is one. -/
  keyed : Option Object
  /-- The objects for the others. -/
  queue : List Object
  /-- Whether all of them have to be used. -/
  strict : Bool

/-- Whether an object has entries under keys for the directives of a text. -/
def isKeyed : Object → Bool
  | .map _ => true
  | .list _ => true
  | .range _ _ _ => true
  | .bytes _ => true
  | .absent _ => true
  | .blank _ => true
  | _ => false

/-- The fillers that an object stands for. -/
def Fillers.ofObject (object : Object) : Fillers :=
  match object with
  | .tuple items => { keyed := none, queue := items, strict := true }
  | object =>
    { keyed := if isKeyed object then some object else none, queue := [object],
      strict := !isKeyed object }

/-- The next filler and those after it. -/
def Fillers.next (fillers : Fillers) : Run (Object × Fillers) :=
  match fillers.queue with
  | first :: rest => return (first, { fillers with queue := rest })
  | [] => mismatch "not enough arguments for format string"

/-- The entry of an object under the key of a directive. -/
def keyedFiller (object : Object) (key : String) : Run Object := do
  match object with
  | .map address =>
    match ← lookupEntry (.text key) (← mapAt address) with
    | some found => return found
    | none => fail (.key (quoted key))
  | .absent missing => fail (.missing missing)
  | .blank missing => fail (.missing missing)
  | .bytes _ => mismatch "byte indices must be integers or slices, not str"
  | object => mismatch (object.typeName ++ " indices must be integers or slices, not str")

/-- A number of characters of a directive, with a sign, and the fillers that are left. -/
def measured (measure : Measure) (large : Excess) (limit : Nat) (fillers : Fillers) :
    Run (Option Int × Fillers) := do
  match measure with
  | .none => return (none, fillers)
  | .given count => return (some (count : Int), fillers)
  | .asked =>
    let (object, fillers) ← fillers.next
    match object.integer? with
    | none => mismatch "* wants int"
    | some number =>
      if limit < number.natAbs then fail (.excess large) else return (some number, fillers)

/-! ## Writing -/

/-- How an object is written by a directive, all numbers known. -/
structure Form where
  /-- The flags. -/
  flags : List Char
  /-- The least number of characters. -/
  width : Nat
  /-- The precision, if it is given. -/
  precision : Option Nat
  /-- The letter. -/
  letter : Char

/-- Whether a form has a flag. -/
def Form.has (form : Form) (flag : Char) : Bool := form.flags.contains flag

/-- The sign at the front of a written number and what follows. -/
def splitWrittenSign : List Char → Option Char × List Char
  | '-' :: rest => (some '-', rest)
  | '+' :: rest => (some '+', rest)
  | text => (none, text)

/-- A text filled up to the width. -/
def Form.padText (form : Form) (text : List Char) : List Char :=
  let missing := List.replicate (form.width - text.length) ' '
  if form.has '-' then text ++ missing else missing ++ text

/-- A number with its sign and its mark of a base, filled up to the width. -/
def Form.padNumber (form : Form) (mark text : List Char) : List Char :=
  let (written, digits) := splitWrittenSign text
  let sign := match written with
    | some sign => [sign]
    | none => if form.has '+' then ['+'] else if form.has ' ' then [' '] else []
  let missing := form.width - (sign.length + mark.length + digits.length)
  if form.has '-' then sign ++ mark ++ digits ++ List.replicate missing ' '
  else if form.has '0' then sign ++ mark ++ List.replicate missing '0' ++ digits
  else List.replicate missing ' ' ++ sign ++ mark ++ digits

/-- The letters for whole numbers with their bases. -/
def integerBases : List (Char × Nat) :=
  [('d', 10), ('i', 10), ('u', 10), ('o', 8), ('x', 16), ('X', 16)]

/-- The letters for floating point numbers. -/
def floatLetters : List Char := ['e', 'E', 'f', 'F', 'g', 'G']

/-- The whole number at the end of what a text stands for, as a conversion reads it. -/
def integerOfWords (object : Object) (plain : String) : Run Int :=
  match readInteger 10 plain.toList with
  | .number number => return number
  | .tooLong count => fail (.value (.writtenDigits count))
  | .none => do
    badValue ("invalid literal for int() with base 10: " ++ (← writtenOf object))

/-- The whole number that an object stands for in a directive. What is made safe for
markup may be a text of digits. -/
def integerFiller (form : Form) (safe : Bool) (object : Object) : Run Int := do
  let whole := form.letter == 'd' || form.letter == 'i' || form.letter == 'u'
  let kind := if safe then "_MarkupEscapeHelper" else object.typeName
  let wrong := fail (.mismatch (.stated ("%" ++ String.singleton form.letter ++ " format: " ++
    (if whole then "a real number" else "an integer") ++ " is required, not " ++ kind)))
  match object.integer?, object with
  | some number, _ => if safe && !whole then wrong else return number
  | none, .float number => if whole then lift (Number.toInt (.float number)) else wrong
  | none, object =>
    match whole, object.missing?, object.text? with
    | true, some missing, _ => fail (.missing missing)
    | true, none, some plain => if safe then integerOfWords object plain else wrong
    | _, _, _ => wrong

/-- The floating point number that an object stands for in a directive. -/
def floatFiller (safe : Bool) (object : Object) : Run Float := do
  match Number.ofObject? object with
  | some number => lift number.toFloat
  | none =>
    match object.missing?, safe, object.text? with
    | some missing, _, _ => fail (.missing missing)
    | none, true, some plain =>
      match readFloat? plain.toList with
      | some number => return number
      | none => badValue ("could not convert string to float: " ++ (← writtenOf object))
    | none, true, none =>
      mismatch ("float() argument must be a string or a real number, not " ++
        marked object.typeName)
    | none, false, _ => mismatch ("must be real number, not " ++ object.typeName)

/-- The character that an object stands for in a directive. -/
def characterFiller (safe : Bool) (object : Object) : Run Char := do
  match safe, object, object.text?, object.integer? with
  | false, _, some plain, _ =>
    match plain.toList with
    | [only] => return only
    | _ => mismatch "%c requires int or char"
  | false, _, none, some number =>
    if 0 ≤ number && number ≤ 0x10FFFF then return characterOfCode number.toNat
    else fail (.excess .code)
  | _, _, _, _ => mismatch "%c requires int or char"

/-- The digits of a whole number, at least so many as the precision says, after its
sign. -/
def Form.integerText (form : Form) (base : Nat) (number : Int) : Run (List Char) := do
  if base == 10 && !isWritableInteger number then
    fail (.value .digits)
  else
    let digits := Nat.toDigits base number.natAbs
    let shown := if form.letter == 'X' then digits.map Char.toUpper else digits
    let filled := zeros (form.precision.getD 0 - shown.length) ++ shown
    return if number < 0 then '-' :: filled else filled

/-- The style of a floating point number. -/
def Form.style (form : Form) : FloatStyle :=
  let precision := form.precision.getD 6
  match form.letter.toLower with
  | 'e' => .scientific precision
  | 'f' => .fixed precision
  | _ => .general precision

/-- The text of a floating point number. -/
def Form.floatText (form : Form) (number : Float) : List Char :=
  let text := match FloatParts.ofFloat number with
    | .notANumber => "nan".toList
    | .infinite negative => (if negative then "-inf" else "inf").toList
    | .finite negative mantissa exponent =>
      let shown := (form.style.text mantissa exponent (form.has '#')).1
      if negative then '-' :: shown else shown
  if form.letter.isUpper then text.map Char.toUpper else text

/-- The text of an object in a directive with the letter for texts. -/
def Form.plainText (form : Form) (safe : Bool) (object : Object) : Run String := do
  let escape (text : String) : String := if safe then escapeMarkup text else text
  match form.letter with
  | 's' => if safe then escapedText object else shownOf object
  | 'r' => return escape (← writtenOf object)
  | _ => return Replacement.asciiText (escape (← writtenOf object))

/-- An object as it is written by a form at a place of a text. -/
def Form.write (form : Form) (safe : Bool) (place : Nat) (object : Object) :
    Run (List Char) := do
  match form.letter, integerBases.lookup form.letter with
  | _, some base =>
    let text ← form.integerText base (← integerFiller form safe object)
    let mark := if form.has '#' && base != 10 then ['0', form.letter] else []
    return form.padNumber mark text
  | letter, none =>
    if letter == 's' || letter == 'r' || letter == 'a' then
      let text := (← form.plainText safe object).toList
      return form.padText (text.take (form.precision.getD text.length))
    else if floatLetters.contains letter then
      return form.padNumber [] (form.floatText (← floatFiller safe object))
    else if letter == 'c' then
      return form.padText [← characterFiller safe object]
    else
      let code := codeOf letter
      let shown := if 31 ≤ code && code ≤ 126 then letter else '?'
      badValue ("unsupported format character '" ++ String.singleton shown ++ "' (0x" ++
        String.ofList (Nat.toDigits 16 code) ++ ") at index " ++ toString place)

/-- The greatest width that fits into memory. -/
def greatestWidth : Nat := Nat.pow 2 32

/-- A directive with the numbers that it asks for. -/
def Directive.form (directive : Directive) (fillers : Fillers) : Run (Form × Fillers) := do
  let (width, fillers) ← measured directive.width .count greatestLength fillers
  let (precision, fillers) ← measured directive.precision .longCount 2147483647 fillers
  let left : Bool := match width with
    | some number => number < 0
    | none => false
  let width := (width.getD 0).natAbs
  if greatestWidth < width || (greatestWidth : Int) < precision.getD 0 then
    fail .memory
  else
    return ({ flags := if left then '-' :: directive.flags else directive.flags, width,
              precision := precision.map Int.toNat, letter := directive.letter }, fillers)

/-- What is left of the fillers when a directive with a key has taken its entry. -/
def Fillers.under (fillers : Fillers) (key : String) : Run Fillers := do
  match fillers.keyed with
  | none => mismatch "format requires a mapping"
  | some object => return { fillers with queue := [← keyedFiller object key], strict := false }

/-- Fills the directives of a text from a place on. The first argument is more than the
number of characters that are left. -/
def fillFrom (safe : Bool) : Nat → Nat → Fillers → List Char → Run (List Char)
  | 0, _, _, _ => fail .endless
  | limit + 1, place, fillers, text => do
    let plain := text.takeWhile (· != '%')
    match text.drop plain.length with
    | [] =>
      if fillers.strict && !fillers.queue.isEmpty then fail (.mismatch .filled) else return plain
    | _ :: '%' :: rest =>
      return plain ++ '%' :: (← fillFrom safe limit (place + plain.length + 2) fillers rest)
    | _ :: rest =>
      let (fillers, rest) ←
        match rest with
        | '(' :: inner =>
          match fillers.keyed, Directive.takeKey? 0 inner with
          | none, _ => mismatch "format requires a mapping"
          | some _, none => badValue DirectiveProblem.incompleteKey.message
          | some _, some (key, rest) => do
            pure (← fillers.under (String.ofList key), rest)
        | rest => pure (fillers, rest)
      let (directive, after) ←
        match Directive.take rest with
        | .ok found => pure found
        | .error problem => badValue problem.message
      let (form, fillers) ← directive.form fillers
      let (object, fillers) ← fillers.next
      let following := place + (text.length - after.length)
      let written ← form.write safe (following - 1) object
      return plain ++ written ++ (← fillFrom safe limit following fillers after)

/-- A text with its directives filled. -/
def fillDirectives (text : String) (object : Object) (safe : Bool) : Run String := do
  let characters := text.toList
  return String.ofList
    (← fillFrom safe (characters.length + 1) 0 (Fillers.ofObject object) characters)

end Template

end CodeLayout
