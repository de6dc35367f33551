/-!
# Blank characters

A character is blank when it shows nothing and separates words. Blank text
decides where a layout drops an indent, and the visible characters of a text
are the ones a layout must never lose.

The blank characters are the Unicode white space characters together with the
four information separators U+001C to U+001F. Zero-width characters such as
U+200B and U+FEFF are not blank.
-/

set_option autoImplicit false

namespace CodeLayout

/-- The blank characters as closed ranges of code points, ascending and apart. -/
def blankRanges : List (Nat × Nat) :=
  [(0x09, 0x0D), (0x1C, 0x20), (0x85, 0x85), (0xA0, 0xA0), (0x1680, 0x1680), (0x2000, 0x200A),
    (0x2028, 0x2029), (0x202F, 0x202F), (0x205F, 0x205F), (0x3000, 0x3000)]

/-- Whether a code point lies in one of the ranges. -/
def inRanges (ranges : List (Nat × Nat)) (code : Nat) : Bool :=
  ranges.any fun range => range.1 ≤ code && code ≤ range.2

/-- Whether a character is blank. -/
def isBlank (character : Char) : Bool :=
  inRanges blankRanges character.toNat

/-- Whether a text holds blank characters only; the empty text does. -/
def isBlankText (text : String) : Bool :=
  text.toList.all isBlank

/-- The visible characters of a text, in order. -/
def visible (text : String) : List Char :=
  text.toList.filter fun character => !isBlank character

/-- A text without its leading blank characters. -/
def dropLeadingBlanks (text : List Char) : List Char :=
  text.dropWhile isBlank

/-- A text without its trailing blank characters. -/
def dropTrailingBlanks (text : List Char) : List Char :=
  (text.reverse.dropWhile isBlank).reverse

/-- A text without the blank characters at both ends. -/
def trimBlanks (text : List Char) : List Char :=
  dropTrailingBlanks (dropLeadingBlanks text)

end CodeLayout
