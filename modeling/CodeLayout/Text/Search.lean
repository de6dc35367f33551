import CodeLayout.Text.CharacterClass
import CodeLayout.Text.Part
import CodeLayout.Text.Printable

/-!
# Searching texts

The places of a part in a text, the lines of a text, and questions about all of its
characters. A part is looked for between two bounds; bounds below zero count from the
end.
-/

set_option autoImplicit false

namespace CodeLayout

/-! ## Places -/

/-- The first place of a part in a text, when so many characters stand before it. -/
def firstPlace? (part : List Char) : Nat → List Char → Option Nat
  | before, [] => if part.isEmpty then some before else none
  | before, first :: rest =>
    if part.isPrefixOf (first :: rest) then some before else firstPlace? part (before + 1) rest

/-- The last place of a part in a text. -/
def lastPlace? (part text : List Char) : Option Nat :=
  (firstPlace? part.reverse 0 text.reverse).map fun place =>
    text.length - place - part.length

/-- How often a part is in a text. An empty part is at every place. -/
def countOfPart (part text : List Char) : Nat :=
  if part.isEmpty then text.length + 1
  else (cutAt part text.length none text).length - 1

/-- A bound that counts from the end if it is below zero. -/
def fromEnd (length : Nat) (bound : Int) : Int :=
  if bound < 0 then max 0 (bound + length) else bound

/-- What is between two bounds of a text, with the number of characters before it. There
is nothing if the bounds are out of order. -/
def between? (start stop : Option Int) (text : List Char) : Option (Nat × List Char) :=
  let length := text.length
  let start := fromEnd length (start.getD 0)
  let stop := min (length : Int) (fromEnd length (stop.getD length))
  if stop < start then none
  else some (start.toNat, (text.take stop.toNat).drop start.toNat)

/-- What is before a part, and what is after it. -/
def splitAtPlace (part text : List Char) (place : Nat) : List Char × List Char :=
  (text.take place, text.drop (place + part.length))

/-- A text cut at the last places of a part that is not empty. -/
def cutLastAt (part : List Char) (cuts : Option Nat) (text : List Char) : List (List Char) :=
  ((cutAt part.reverse text.length cuts text.reverse).map List.reverse).reverse

/-- A text cut at its last blanks. -/
def cutLastAtBlanks (cuts : Option Nat) (text : List Char) : List (List Char) :=
  ((cutAtBlanks (text.length + 1) cuts text.reverse).map List.reverse).reverse

/-! ## Lines -/

/-- Whether a character ends a line. -/
def endsLine (character : Char) : Bool :=
  inRanges [(0x0A, 0x0D), (0x1C, 0x1E), (0x85, 0x85), (0x2028, 0x2029)] character.toNat

/-- The lines of a text after some characters of the first one, last one first. The ends
of the lines may be kept. -/
def linesAfter (keep : Bool) : List Char → List Char → List (List Char)
  | before, [] => if before.isEmpty then [] else [before.reverse]
  | before, '\r' :: '\n' :: rest =>
    (before.reverse ++ (if keep then ['\r', '\n'] else [])) :: linesAfter keep [] rest
  | before, first :: rest =>
    if endsLine first then
      (before.reverse ++ (if keep then [first] else [])) :: linesAfter keep [] rest
    else
      linesAfter keep (first :: before) rest

/-- A text with blanks instead of tabs, up to the next column that the distance of tabs
divides. The second argument is the column. -/
def withoutTabs (distance : Nat) : Nat → List Char → List Char
  | _, [] => []
  | column, first :: rest =>
    if first == '\t' then
      let count := if distance = 0 then 0 else distance - column % distance
      List.replicate count ' ' ++ withoutTabs distance (column + count) rest
    else
      first :: withoutTabs distance
        (if first == '\n' || first == '\r' then 0 else column + 1) rest

/-! ## Questions -/

/-- Whether a text has characters and all of them are of a kind. -/
def allOf (kind : Char → Bool) (text : List Char) : Bool := !text.isEmpty && text.all kind

/-- Whether a text has small letters and no others. -/
def isSmallText (text : List Char) : Bool :=
  text.any isSmall && text.all fun character => !isCapital character && !isInitial character

/-- Whether a text has capital letters and no others. -/
def isCapitalText (text : List Char) : Bool :=
  text.any isCapital && text.all fun character => !isSmall character && !isInitial character

/-- Whether capital letters are exactly at the starts of words, after a character that is
a letter or not. -/
def isTitleAfter : Bool → List Char → Bool
  | _, [] => true
  | inWord, first :: rest =>
    if isCapital first || isInitial first then !inWord && isTitleAfter true rest
    else if isSmall first then inWord && isTitleAfter true rest
    else isTitleAfter false rest

/-- Whether a text has letters and the words of it begin with capital letters. -/
def isTitleText (text : List Char) : Bool :=
  text.any LetterCase.isCased && isTitleAfter false text

/-- Whether a text is an identifier. -/
def isIdentifierText : List Char → Bool
  | [] => false
  | first :: rest => beginsIdentifier first && rest.all continuesIdentifier

/-- The questions about texts by name. -/
def textQuestions : List (String × (List Char → Bool)) :=
  [("isalnum", allOf fun character => isLetter character || isNumeric character ||
      isAnyDigit character),
    ("isalpha", allOf isLetter), ("isdecimal", allOf isDecimal), ("isdigit", allOf isAnyDigit),
    ("isnumeric", allOf isNumeric), ("isspace", allOf isBlank), ("islower", isSmallText),
    ("isupper", isCapitalText), ("istitle", isTitleText), ("isidentifier", isIdentifierText),
    ("isascii", fun text => text.all fun character => character.toNat < 0x80),
    ("isprintable", fun text => text.all isPrintable)]

/-! ## Widths -/

/-- A text between so many characters before and after it. -/
def widened (fill : Char) (before after : Nat) (text : List Char) : List Char :=
  List.replicate before fill ++ text ++ List.replicate after fill

/-- A text in the middle of a width. -/
def centered (fill : Char) (width : Nat) (text : List Char) : List Char :=
  let room := width - text.length
  let before := room / 2 + (if room % 2 = 1 && width % 2 = 1 then 1 else 0)
  widened fill before (room - before) text

/-- A number in a text filled up with zeros behind its sign. -/
def zeroFilled (width : Nat) (text : List Char) : List Char :=
  let zeros := List.replicate (width - text.length) '0'
  match text with
  | '+' :: rest => '+' :: zeros ++ rest
  | '-' :: rest => '-' :: zeros ++ rest
  | text => zeros ++ text

end CodeLayout
