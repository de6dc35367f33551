import CodeLayout.Text.Quoted

/-!
# Errors of replacement fields

What can be wrong with a text that has replacement fields, and with the values for
them.
-/

set_option autoImplicit false

namespace CodeLayout

namespace Replacement

/-- What is wrong with the writing of a field. -/
inductive Malformation where
  /-- A closing brace without a field. -/
  | loneClose
  /-- An opening brace at the end. -/
  | loneOpen
  /-- An opening brace in the name of a field. -/
  | braceInName
  /-- A field without its closing brace. -/
  | unclosed
  /-- A field that ends before its conversion. -/
  | noConversion
  /-- Something other than a colon after a conversion. -/
  | afterConversion
  /-- A specifier without the closing brace of its field. -/
  | unclosedSpecifier
  /-- A number that is too large. -/
  | largeNumber
  /-- A part of a name that is empty. -/
  | emptyPart
  /-- Something other than a part after a bracket. -/
  | afterBracket
  /-- A bracket that is not closed. -/
  | unclosedBracket
  /-- A field with a number after fields without. -/
  | numbered
  /-- A field without a number after fields with one. -/
  | unnumbered
  /-- Fields inside the specifiers of specifiers. -/
  | tooDeep
  /-- A conversion that does not exist. -/
  | conversion (letter : Char)
deriving DecidableEq, Repr

/-- What is wrong with a specifier. The name of a type is that of the value. -/
inductive Misfit where
  /-- It cannot be read. -/
  | unreadable (specifier typeName : String)
  /-- There is no such way to write a value of the type. -/
  | letter (letter : Char) (typeName : String)
  /-- Both marks between groups of digits. -/
  | twoGroupMarks
  /-- A mark between groups of digits with a way of writing that has no groups. -/
  | groupMark (mark letter : Char)
  /-- A point without a precision. -/
  | noPrecision
  /-- A sign for a text. -/
  | signedText
  /-- A blank as a sign for a text. -/
  | blankText
  /-- The sign of zero for a text. -/
  | zeroSignText
  /-- The alternative form for a text. -/
  | alternativeText
  /-- Padding after the sign for a text. -/
  | innerText
  /-- A precision for a whole number. -/
  | preciseInteger
  /-- The sign of zero for a whole number. -/
  | zeroSignInteger
  /-- A sign for a character. -/
  | signedCharacter
  /-- The alternative form for a character. -/
  | alternativeCharacter
  /-- A number that is no character. -/
  | noCharacter
  /-- A number that is far from being a character. -/
  | largeCharacter
  /-- A whole number too large for a floating point number. -/
  | largeNumber
  /-- A whole number with too many digits. -/
  | tooManyDigits
  /-- A specifier for a type that has none. -/
  | unsupported (typeName : String)
deriving DecidableEq, Repr

/-- Why a text with fields cannot be filled. -/
inductive FillError where
  /-- A field is not well written. -/
  | malformed (malformation : Malformation)
  /-- A specifier does not fit. -/
  | misfit (misfit : Misfit)
  /-- There is no value at a position. -/
  | noPosition (position : Nat)
  /-- There is no value under a name or key, in its written form. -/
  | noKey (key : String)
  /-- A sequence of a type has no item at an index. -/
  | noItem (typeName : String)
  /-- A value of a type has no part with a name. -/
  | noMember (typeName name : String)
  /-- A type has no part with a name. -/
  | noMemberOfKind (typeName name : String)
  /-- A sequence of a type is asked for an item with a key. -/
  | keyOfList (typeName : String)
  /-- A text is asked for an item with a key. -/
  | keyOfText
  /-- A value of a type has no items. -/
  | noItems (typeName : String)
deriving DecidableEq, Repr

/-- A character as it is named in the wording of an error. -/
def characterName (character : Char) : String :=
  if 32 < character.toNat && character.toNat < 128 then String.singleton character
  else "\\x" ++ String.ofList (hexText 1 character.toNat)

/-- The wording of a malformation. -/
def Malformation.message : Malformation → String
  | .loneClose => "Single '\x7d' encountered in format string"
  | .loneOpen => "Single '\x7b' encountered in format string"
  | .braceInName => "unexpected '\x7b' in field name"
  | .unclosed => "expected '\x7d' before end of string"
  | .noConversion => "end of string while looking for conversion specifier"
  | .afterConversion => "expected ':' after conversion specifier"
  | .unclosedSpecifier => "unmatched '\x7b' in format spec"
  | .largeNumber => "Too many decimal digits in format string"
  | .emptyPart => "Empty attribute in format string"
  | .afterBracket => "Only '.' or '[' may follow ']' in format field specifier"
  | .unclosedBracket => "Missing ']' in format string"
  | .numbered => "cannot switch from automatic field numbering to manual field specification"
  | .unnumbered => "cannot switch from manual field specification to automatic field numbering"
  | .tooDeep => "Max string recursion exceeded"
  | .conversion letter => "Unknown conversion specifier " ++ characterName letter

/-- The wording of a misfit. -/
def Misfit.message : Misfit → String
  | .unreadable specifier typeName =>
    "Invalid format specifier '" ++ specifier ++ "' for object of type '" ++ typeName ++ "'"
  | .letter code typeName =>
    "Unknown format code '" ++ characterName code ++ "' for object of type '" ++ typeName ++ "'"
  | .twoGroupMarks => "Cannot specify both ',' and '_'."
  | .groupMark mark code =>
    "Cannot specify '" ++ String.singleton mark ++ "' with '" ++ characterName code ++ "'."
  | .noPrecision => "Format specifier missing precision"
  | .signedText => "Sign not allowed in string format specifier"
  | .blankText => "Space not allowed in string format specifier"
  | .zeroSignText => "Negative zero coercion (z) not allowed in string format specifier"
  | .alternativeText => "Alternate form (#) not allowed in string format specifier"
  | .innerText => "'=' alignment not allowed in string format specifier"
  | .preciseInteger => "Precision not allowed in integer format specifier"
  | .zeroSignInteger => "Negative zero coercion (z) not allowed in integer format specifier"
  | .signedCharacter => "Sign not allowed with integer format specifier 'c'"
  | .alternativeCharacter => "Alternate form (#) not allowed with integer format specifier 'c'"
  | .noCharacter => "%c arg not in range(0x110000)"
  | .largeCharacter => "Python int too large to convert to C long"
  | .largeNumber => "int too large to convert to float"
  | .tooManyDigits =>
    "Exceeds the limit (4300 digits) for integer string conversion; " ++
      "use sys.set_int_max_str_digits() to increase the limit"
  | .unsupported typeName => "unsupported format string passed to " ++ typeName ++ ".__format__"

/-- The wording of an error. -/
def FillError.message : FillError → String
  | .malformed malformation => malformation.message
  | .misfit wrong => wrong.message
  | .noPosition position =>
    "Replacement index " ++ toString position ++ " out of range for positional args tuple"
  | .noKey key => key
  | .noItem typeName =>
    (if typeName = "str" then "string" else typeName) ++ " index out of range"
  | .noMember typeName name =>
    "'" ++ typeName ++ "' object has no attribute '" ++ name ++ "'"
  | .noMemberOfKind typeName name =>
    "type object '" ++ typeName ++ "' has no attribute '" ++ name ++ "'"
  | .keyOfList typeName => typeName ++ " indices must be integers or slices, not str"
  | .keyOfText => "string indices must be integers, not 'str'"
  | .noItems typeName => "'" ++ typeName ++ "' object is not subscriptable"

end Replacement

end CodeLayout
