import CodeLayout.Text.Blank
import CodeLayout.Text.Surrogate

/-!
# A place in a YAML text

A cursor is a place in a text together with its line and column. Line breaks
are made uniform beforehand: a carriage return, a carriage return with a line
feed, and the next-line character all become one line feed. The line and the
paragraph separator are line breaks that stay as they are.
-/

set_option autoImplicit false

namespace CodeLayout

namespace Yaml

/-- The characters that may stand in a YAML text, as closed ranges. -/
def allowedRanges : List (Nat × Nat) :=
  [(0x09, 0x0A), (0x0D, 0x0D), (0x20, 0x7E), (0x85, 0x85), (0xA0, 0xD7FF), (0xE000, 0xFFFD),
    (0x10000, 0x10FFFF)]

/-- Whether a character may stand in a YAML text. -/
def isAllowed (character : Char) : Bool :=
  inRanges allowedRanges (codeOf character)

/-- A text with uniform line breaks. -/
def uniformBreaks : List Char → List Char
  | [] => []
  | '\r' :: '\n' :: rest => '\n' :: uniformBreaks rest
  | '\r' :: rest => '\n' :: uniformBreaks rest
  | '\x85' :: rest => '\n' :: uniformBreaks rest
  | first :: rest => first :: uniformBreaks rest

/-- Whether a character breaks lines. -/
def isBreak (character : Char) : Bool :=
  character == '\n' || character == '\u2028' || character == '\u2029'

/-- The mark at the start of a text that shows its byte order. -/
def byteOrderMark : Char := '\uFEFF'

/-- Whether a line ends here. -/
def endsLine : Option Char → Bool
  | none => true
  | some character => isBreak character

/-- Whether a space or the end of the line is here. -/
def endsField : Option Char → Bool
  | none => true
  | some character => isBreak character || character == ' '

/-- Whether a space, a tab or the end of the line is here. -/
def endsWord : Option Char → Bool
  | none => true
  | some character => isBreak character || character == ' ' || character == '\t'

/-- A place in a text. -/
structure Cursor where
  /-- The characters from here on. -/
  rest : List Char
  /-- The number of characters before. -/
  index : Nat
  /-- The number of lines before. -/
  line : Nat
  /-- The number of characters before in this line. -/
  column : Nat

namespace Cursor

/-- The start of a text. -/
def start (text : List Char) : Cursor where
  rest := text
  index := 0
  line := 0
  column := 0

/-- The place after the next character. A byte order mark takes no column. -/
def next (cursor : Cursor) : Cursor :=
  match cursor.rest with
  | [] => cursor
  | character :: rest =>
    if isBreak character then
      { rest, index := cursor.index + 1, line := cursor.line + 1, column := 0 }
    else if character == byteOrderMark then
      { rest, index := cursor.index + 1, line := cursor.line, column := cursor.column }
    else
      { rest, index := cursor.index + 1, line := cursor.line, column := cursor.column + 1 }

/-- The place so many characters further. -/
def skip : Nat → Cursor → Cursor
  | 0, cursor => cursor
  | count + 1, cursor => skip count cursor.next

/-- The next character. -/
def peek (cursor : Cursor) : Option Char := cursor.rest.head?

/-- The character so many characters further. -/
def peekAt (cursor : Cursor) (count : Nat) : Option Char := cursor.rest[count]?

/-- The next characters of a kind. -/
def run (cursor : Cursor) (belongs : Char → Bool) : List Char :=
  cursor.rest.takeWhile belongs

/-- The place after the next characters of a kind. -/
def skipRun (cursor : Cursor) (belongs : Char → Bool) : Cursor :=
  cursor.skip (cursor.run belongs).length

/-- The place after the spaces that come next. -/
def skipSpaces (cursor : Cursor) : Cursor := cursor.skipRun (· == ' ')

/-- The place at the end of the line. -/
def skipLine (cursor : Cursor) : Cursor := cursor.skipRun fun character => !isBreak character

/-- The place at the end of the line if a comment comes next. -/
def skipComment (cursor : Cursor) : Cursor :=
  if cursor.peek == some '#' then cursor.skipLine else cursor

/-- The line break that comes next, if any, and the place after it. -/
def lineBreak (cursor : Cursor) : List Char × Cursor :=
  match cursor.peek with
  | none => ([], cursor)
  | some character => if isBreak character then ([character], cursor.next) else ([], cursor)

/-- Whether three dashes or three points come next and nothing is joined to
them. -/
def atDocumentMark (cursor : Cursor) : Bool :=
  let three := cursor.rest.take 3
  (three == ['-', '-', '-'] || three == ['.', '.', '.']) && endsWord (cursor.peekAt 3)

end Cursor

end Yaml

end CodeLayout
