import CodeLayout.Yaml.Cursor
import CodeLayout.Yaml.Failure

/-!
# The text of a scalar

A scalar is written plainly, in quotes, or as a block of lines after an
indicator. In the first two forms a single line break counts as a space and
each further one as itself; in a block the lines are kept, or folded in the
same way.

Each function reads from a cursor and gives the text and the place after it.
The loops go at least one character further in each round, so the number of
characters left bounds the number of rounds.
-/

set_option autoImplicit false

namespace CodeLayout

namespace Yaml

/-- The text that a break between lines of a scalar stands for, given the breaks
of the empty lines after it. -/
def foldedBreak (lineBreak breaks : List Char) : List Char :=
  if lineBreak != ['\n'] then
    lineBreak ++ breaks
  else if breaks.isEmpty then
    [' ']
  else
    breaks

/-! ## Plain scalars -/

/-- Whether a plain scalar stops before a character, given the next one. -/
def stopsPlain (inFlow : Bool) (character : Char) (following : Option Char) : Bool :=
  endsWord (some character) ||
    (character == ':' && (endsWord following ||
      (inFlow && (following.any fun next => [',', '[', ']', '\x7b', '\x7d'].contains next)))) ||
    (inFlow && [',', '?', '[', ']', '\x7b', '\x7d'].contains character)

/-- The number of characters of a plain scalar up to the next blank. -/
def plainLength (inFlow : Bool) : List Char → Nat
  | [] => 0
  | character :: rest =>
    if stopsPlain inFlow character rest.head? then 0 else plainLength inFlow rest + 1

/-- The empty lines inside a plain scalar: their breaks, unless a document mark
follows one of them. -/
def plainBreaks : Nat → Cursor → List Char → Option (List Char) × Cursor
  | 0, cursor, breaks => (some breaks, cursor)
  | limit + 1, cursor, breaks =>
    match cursor.peek with
    | none => (some breaks, cursor)
    | some character =>
      if character == ' ' then
        plainBreaks limit cursor.next breaks
      else if isBreak character then
        let after := cursor.next
        if after.atDocumentMark then (none, after)
        else plainBreaks limit after (breaks ++ [character])
      else
        (some breaks, cursor)

/-- What follows a part of a plain scalar. -/
structure PlainGap where
  /-- What the gap stands for if the scalar goes on. It does not go on after an
  empty gap. -/
  text : List Char
  /-- Whether there is a line break in it. -/
  broken : Bool
  /-- The place after it. -/
  after : Cursor

/-- The gap after a part of a plain scalar. -/
def plainGap (limit : Nat) (cursor : Cursor) : PlainGap :=
  let spaces := cursor.run (· == ' ')
  let cursor := cursor.skipSpaces
  match cursor.lineBreak with
  | ([], _) => { text := spaces, broken := false, after := cursor }
  | (lineBreak, after) =>
    if after.atDocumentMark then
      { text := [], broken := true, after }
    else
      match plainBreaks limit after [] with
      | (none, after) => { text := [], broken := true, after }
      | (some breaks, after) => { text := foldedBreak lineBreak breaks, broken := true, after }

/-- The parts of a plain scalar, joined by what the gaps between them stand for. The
text so far and the result have their last character first. The result says whether a
line break follows the last part. -/
def plainParts (inFlow : Bool) (indent : Int) : Nat → Cursor → List Char → List Char → Bool →
    List Char × Bool × Cursor
  | 0, cursor, text, _, broken => (text, broken, cursor)
  | limit + 1, cursor, text, gap, broken =>
    if cursor.peek == some '#' then
      (text, broken, cursor)
    else
      match plainLength inFlow cursor.rest with
      | 0 => (text, broken, cursor)
      | length + 1 =>
        let text := (gap ++ cursor.rest.take (length + 1)).reverse ++ text
        let next := plainGap limit (cursor.skip (length + 1))
        if next.text.isEmpty || next.after.peek == some '#' ||
            (!inFlow && (next.after.column : Int) < indent) then
          (text, next.broken, next.after)
        else
          plainParts inFlow indent limit next.after text next.text next.broken

/-- A plain scalar. -/
def plainScalar (inFlow : Bool) (indent : Int) (cursor : Cursor) : List Char × Bool × Cursor :=
  let (text, broken, after) :=
    plainParts inFlow indent (cursor.rest.length + 1) cursor [] [] false
  (text.reverse, broken, after)

/-! ## Quoted scalars -/

/-- The characters that a letter after a backslash stands for. -/
def escapes : List (Char × Char) :=
  [('0', '\x00'), ('a', '\x07'), ('b', '\x08'), ('t', '\t'), ('\t', '\t'), ('n', '\n'),
    ('v', '\x0b'), ('f', '\x0c'), ('r', '\r'), ('e', '\x1b'), (' ', ' '), ('"', '"'),
    ('\\', '\\'), ('/', '/'), ('N', '\x85'), ('_', '\xa0'), ('L', '\u2028'), ('P', '\u2029')]

/-- The number of hexadecimal digits after a letter. -/
def escapeDigits : List (Char × Nat) := [('x', 2), ('u', 4), ('U', 8)]

/-- Whether a character is a hexadecimal digit. -/
def isHexDigit (character : Char) : Bool :=
  ('0' ≤ character && character ≤ '9') || ('a' ≤ character && character ≤ 'f') ||
    ('A' ≤ character && character ≤ 'F')

/-- The value of a hexadecimal digit. -/
def hexDigitValue (digit : Char) : Nat :=
  if digit ≤ '9' then digit.toNat - '0'.toNat
  else if digit ≤ 'F' then digit.toNat - 'A'.toNat + 10
  else digit.toNat - 'a'.toNat + 10

/-- The value of hexadecimal digits. -/
def hexValue (digits : List Char) : Nat :=
  digits.foldl (fun value digit => 16 * value + hexDigitValue digit) 0

/-- The character of a number. -/
def characterOf (code : Nat) : Except Failure Char :=
  if 0x10FFFF < code then .error (.noCharacter code) else .ok (characterOfCode code)

/-- The breaks of empty lines inside a quoted scalar. A document mark may not
stand there. -/
def quotedBreaks : Nat → Cursor → List Char → Except Failure (List Char × Cursor)
  | 0, _, _ => .error .malformed
  | limit + 1, cursor, breaks =>
    if cursor.atDocumentMark then
      .error .malformed
    else
      match (cursor.skipRun fun character => character == ' ' || character == '\t').lineBreak with
      | ([], after) => .ok (breaks, after)
      | (lineBreak, after) => quotedBreaks limit after (breaks ++ lineBreak)

/-- Reads an escape after its backslash. -/
def escapedText (limit : Nat) (cursor : Cursor) : Except Failure (List Char × Cursor) :=
  match cursor.peek with
  | none => .error .malformed
  | some letter =>
    match escapes.lookup letter with
    | some character => .ok ([character], cursor.next)
    | none =>
      match escapeDigits.lookup letter with
      | some count =>
        let digits := cursor.next.rest.take count
        if digits.length == count && digits.all isHexDigit then
          match characterOf (hexValue digits) with
          | .ok character => .ok ([character], cursor.next.skip count)
          | .error failure => .error failure
        else
          .error .malformed
      | none =>
        if isBreak letter then
          quotedBreaks limit cursor.next []
        else
          .error .malformed

/-- Whether a character ends a run of ordinary characters inside quotes. -/
def isSpecialInQuotes (character : Char) : Bool :=
  character == '\'' || character == '"' || character == '\\' || endsWord (some character)

/-- The characters inside quotes up to a blank or the closing quote, after some text.
The text has its last character first. -/
def quotedWord (double : Bool) : Nat → Cursor → List Char → Except Failure (List Char × Cursor)
  | 0, _, _ => .error .malformed
  | limit + 1, cursor, text =>
    let run := cursor.run fun character => !isSpecialInQuotes character
    let text := run.reverse ++ text
    let cursor := cursor.skip run.length
    match cursor.peek with
    | none => .ok (text, cursor)
    | some character =>
      if !double && character == '\'' && cursor.peekAt 1 == some '\'' then
        quotedWord double limit (cursor.skip 2) ('\'' :: text)
      else if (double && character == '\'') ||
          (!double && (character == '"' || character == '\\')) then
        quotedWord double limit cursor.next (character :: text)
      else if double && character == '\\' then
        match escapedText limit cursor.next with
        | .ok (escaped, after) => quotedWord double limit after (escaped.reverse ++ text)
        | .error failure => .error failure
      else
        .ok (text, cursor)

/-- The blanks inside quotes. -/
def quotedGap (limit : Nat) (cursor : Cursor) : Except Failure (List Char × Cursor) :=
  let isBlank := fun character => character == ' ' || character == '\t'
  let blanks := cursor.run isBlank
  let cursor := cursor.skipRun isBlank
  match cursor.peek with
  | none => .error .malformed
  | some _ =>
    match cursor.lineBreak with
    | ([], _) => .ok (blanks, cursor)
    | (lineBreak, after) =>
      match quotedBreaks limit after [] with
      | .ok (breaks, after) => .ok (foldedBreak lineBreak breaks, after)
      | .error failure => .error failure

/-- The rest of a quoted scalar, after some text: words and gaps up to the closing
quote. The text has its last character first. -/
def quotedParts (double : Bool) : Nat → Cursor → List Char → Except Failure (List Char × Cursor)
  | 0, _, _ => .error .malformed
  | limit + 1, cursor, text =>
    match quotedWord double (limit + 1) cursor text with
    | .error failure => .error failure
    | .ok (text, cursor) =>
      if cursor.peek == some (if double then '"' else '\'') then
        .ok (text, cursor.next)
      else
        match quotedGap (limit + 1) cursor with
        | .error failure => .error failure
        | .ok (gap, cursor) => quotedParts double limit cursor (gap.reverse ++ text)

/-- A quoted scalar, from its opening quote. -/
def quotedScalar (double : Bool) (cursor : Cursor) : Except Failure (List Char × Cursor) :=
  match quotedParts double (cursor.rest.length + 1) cursor.next [] with
  | .ok (text, after) => .ok (text.reverse, after)
  | .error failure => .error failure

/-! ## Block scalars -/

/-- What becomes of the line breaks at the end of a block scalar. -/
inductive Chomping where
  /-- One stays. -/
  | clip
  /-- None stays. -/
  | strip
  /-- All stay. -/
  | keep
deriving DecidableEq, Repr

/-- The chomping a sign stands for. -/
def chompingOf? : Option Char → Option Chomping
  | some '+' => some .keep
  | some '-' => some .strip
  | _ => none

/-- The digit that comes next. -/
def indentDigit? (cursor : Cursor) : Option Nat :=
  match cursor.peek with
  | none => none
  | some digit =>
    if '0' ≤ digit && digit ≤ '9' then some (digit.toNat - '0'.toNat) else none

/-- The chomping and the indentation given after the indicator of a block
scalar, in either order. -/
def blockHeader (cursor : Cursor) : Except Failure (Chomping × Option Nat × Cursor) :=
  let read : Chomping × Option Nat × Cursor :=
    match chompingOf? cursor.peek with
    | some chomping =>
      match indentDigit? cursor.next with
      | some digit => (chomping, some digit, cursor.next.next)
      | none => (chomping, none, cursor.next)
    | none =>
      match indentDigit? cursor with
      | none => (.clip, none, cursor)
      | some digit =>
        match chompingOf? cursor.next.peek with
        | some chomping => (chomping, some digit, cursor.next.next)
        | none => (.clip, some digit, cursor.next)
  if read.2.1 == some 0 || !endsField read.2.2.peek then .error .malformed else .ok read

/-- The rest of a line that may hold a comment only, with its break. -/
def restOfLine (cursor : Cursor) : Except Failure Cursor :=
  let cursor := cursor.skipSpaces.skipComment
  if endsLine cursor.peek then .ok cursor.lineBreak.2 else .error .malformed

/-- The place after spaces, but not beyond a column. -/
def skipToColumn (column : Nat) (cursor : Cursor) : Cursor :=
  cursor.skip (min (cursor.run (· == ' ')).length (column - cursor.column))

/-- The empty lines at the start of a block scalar, and the greatest column of
the spaces in them and before the first text. -/
def leadingBreaks : Nat → Cursor → List Char → Nat → List Char × Nat × Cursor
  | 0, cursor, breaks, widest => (breaks, widest, cursor)
  | limit + 1, cursor, breaks, widest =>
    let cursor := cursor.skipSpaces
    let widest := max widest cursor.column
    match cursor.lineBreak with
    | ([], _) => (breaks, widest, cursor)
    | (lineBreak, after) => leadingBreaks limit after (breaks ++ lineBreak) widest

/-- The empty lines between the lines of a block scalar. -/
def blockBreaks (column : Nat) : Nat → Cursor → List Char → List Char × Cursor
  | 0, cursor, breaks => (breaks, cursor)
  | limit + 1, cursor, breaks =>
    let cursor := skipToColumn column cursor
    match cursor.lineBreak with
    | ([], _) => (breaks, cursor)
    | (lineBreak, after) => blockBreaks column limit after (breaks ++ lineBreak)

/-- Whether a line begins with a blank. -/
def startsBlank (cursor : Cursor) : Bool :=
  cursor.peek == some ' ' || cursor.peek == some '\t'

/-- The lines of a block scalar. The text has its last character first. The result
also has the last line break and the breaks of the empty lines at the end. -/
def blockLines (folded : Bool) (column : Nat) : Nat → Cursor → List Char → List Char → List Char →
    List Char × List Char × List Char × Cursor
  | 0, cursor, text, lineBreak, breaks => (text, lineBreak, breaks, cursor)
  | limit + 1, cursor, text, lineBreak, breaks =>
    if cursor.column != column || cursor.peek.isNone then
      (text, lineBreak, breaks, cursor)
    else
      let line := cursor.run fun character => !isBreak character
      let ended := (cursor.skip line.length).lineBreak
      let text := (breaks ++ line).reverse ++ text
      let next := blockBreaks column (limit + 1) ended.2 []
      if next.2.column != column || next.2.peek.isNone then
        (text, ended.1, next.1, next.2)
      else
        let joint :=
          if folded && ended.1 == ['\n'] && !startsBlank cursor && !startsBlank next.2 then
            if next.1.isEmpty then [' '] else []
          else
            ended.1
        blockLines folded column limit next.2 (joint.reverse ++ text) [] next.1

/-- A block scalar, from its indicator, inside a block with some indentation. -/
def blockScalar (folded : Bool) (indent : Int) (cursor : Cursor) :
    Except Failure (List Char × Cursor) :=
  match blockHeader cursor.next with
  | .error failure => .error failure
  | .ok (chomping, increment, cursor) =>
    match restOfLine cursor with
    | .error failure => .error failure
    | .ok cursor =>
      let least := max 1 (indent + 1).toNat
      let opened : Nat × List Char × Cursor :=
        match increment with
        | some more =>
          let column := least + more - 1
          let breaks := blockBreaks column (cursor.rest.length + 1) cursor []
          (column, breaks.1, breaks.2)
        | none =>
          let breaks := leadingBreaks (cursor.rest.length + 1) cursor [] 0
          (max least breaks.2.1, breaks.1, breaks.2.2)
      let read :=
        blockLines folded opened.1 (opened.2.2.rest.length + 1) opened.2.2 [] [] opened.2.1
      let ending :=
        match chomping with
        | .strip => []
        | .clip => read.2.1
        | .keep => read.2.1 ++ read.2.2.1
      .ok (read.1.reverse ++ ending, read.2.2.2)

end Yaml

end CodeLayout
