import CodeLayout.Text.Digits
import CodeLayout.Text.Utf8
import CodeLayout.Yaml.ScalarText
import CodeLayout.Yaml.Token

/-!
# From characters to tokens

The scanner goes through a text token by token. Two things need memory. The
columns of the open blocks are kept on a stack, so that a smaller column closes
blocks. And a token may turn out to be the key of an entry only when a colon
follows it, so the place of each possible key is remembered, one for every
level of flow collections; when the colon comes, a key token is put in front of
the remembered place.

A key has to be on one line and within 1024 characters. Where a line of a block
can only be an entry, its key is required and must not be given up.
-/

set_option autoImplicit false

namespace CodeLayout

namespace Yaml

/-- A token that may turn out to be the key of an entry. -/
structure PossibleKey where
  /-- The level of flow collections. -/
  level : Nat
  /-- The number of tokens before it. -/
  position : Nat
  /-- Whether it has to be a key. -/
  required : Bool
  /-- The number of characters before it. -/
  index : Nat
  /-- Its line. -/
  line : Nat
  /-- Its column. -/
  column : Nat

/-- The scanner between two tokens. -/
structure Scanner where
  /-- Where the next token begins. -/
  cursor : Cursor
  /-- The number of open flow collections. -/
  flowLevel : Nat
  /-- The column of the innermost block, or -1 outside of all blocks. -/
  indent : Int
  /-- The columns of the blocks around it. -/
  outer : List Int
  /-- The tokens so far. -/
  tokens : Array Token
  /-- Whether the next token may be a key. -/
  allowKey : Bool
  /-- The possible keys. -/
  keys : List PossibleKey

namespace Scanner

/-- The scanner at the start of a text. -/
def start (text : List Char) : Scanner where
  cursor := Cursor.start text
  flowLevel := 0
  indent := -1
  outer := []
  tokens := #[]
  allowKey := true
  keys := []

/-- Whether the scanner is inside a flow collection. -/
def inFlow (scanner : Scanner) : Bool := scanner.flowLevel != 0

/-- Adds a token and goes on from a place. -/
def emit (scanner : Scanner) (token : Token) (cursor : Cursor) : Scanner :=
  { scanner with tokens := scanner.tokens.push token, cursor }

/-! ## Possible keys -/

/-- The greatest length of a key. -/
def keyLimit : Nat := 1024

/-- Whether a possible key is too far back to be one. -/
def isStale (scanner : Scanner) (key : PossibleKey) : Bool :=
  key.line != scanner.cursor.line || keyLimit < scanner.cursor.index - key.index

/-- Gives up the possible keys that are too far back. -/
def dropStaleKeys (scanner : Scanner) : Except Failure Scanner :=
  if scanner.keys.any fun key => scanner.isStale key && key.required then
    .error .malformed
  else
    .ok { scanner with keys := scanner.keys.filter fun key => !scanner.isStale key }

/-- Gives up the possible key of the current level. -/
def dropKey (scanner : Scanner) : Except Failure Scanner :=
  if scanner.keys.any fun key => key.level == scanner.flowLevel && key.required then
    .error .malformed
  else
    .ok { scanner with keys := scanner.keys.filter fun key => key.level != scanner.flowLevel }

/-- Remembers that the next token may be a key. -/
def rememberKey (scanner : Scanner) : Except Failure Scanner :=
  if scanner.allowKey then
    match scanner.dropKey with
    | .error failure => .error failure
    | .ok scanner =>
      let key : PossibleKey :=
        { level := scanner.flowLevel
          position := scanner.tokens.size
          required := !scanner.inFlow && scanner.indent == (scanner.cursor.column : Int)
          index := scanner.cursor.index
          line := scanner.cursor.line
          column := scanner.cursor.column }
      .ok { scanner with keys := key :: scanner.keys }
  else
    .ok scanner

/-! ## Blocks -/

/-- Closes the blocks that are further right than a column. -/
def closeBlocks (column : Int) : List Int → Scanner → Scanner
  | [], scanner => scanner
  | next :: outer, scanner =>
    if column < scanner.indent then
      closeBlocks column outer
        { scanner with indent := next, outer, tokens := scanner.tokens.push .blockEnd }
    else
      scanner

/-- Closes the blocks that end before a column. Inside a flow collection columns
mean nothing. -/
def unwind (scanner : Scanner) (column : Int) : Scanner :=
  if scanner.inFlow then scanner else closeBlocks column scanner.outer scanner

/-- Puts tokens before a position. -/
def insertAt (tokens : Array Token) (position : Nat) (inserted : Array Token) : Array Token :=
  tokens.extract 0 position ++ inserted ++ tokens.extract position tokens.size

/-- Opens a block at a column if it is further right than the innermost one. The
token for it goes before a position. -/
def openBlock (scanner : Scanner) (column position : Nat) (token : Token) : Scanner :=
  if scanner.indent < (column : Int) then
    { scanner with
      indent := column
      outer := scanner.indent :: scanner.outer
      tokens := insertAt scanner.tokens position #[token] }
  else
    scanner

/-! ## Directives and properties -/

/-- Whether a character belongs to a name. -/
def isNameCharacter (character : Char) : Bool :=
  ('0' ≤ character && character ≤ '9') || ('A' ≤ character && character ≤ 'Z') ||
    ('a' ≤ character && character ≤ 'z') || character == '-' || character == '_'

/-- Whether a character belongs to a tag. -/
def isTagCharacter (character : Char) : Bool :=
  ('0' ≤ character && character ≤ '9') || ('A' ≤ character && character ≤ 'Z') ||
    ('a' ≤ character && character ≤ 'z') ||
    "-;/?:@&=+$,_.!~*'()[]".toList.contains character

/-- The bytes written by percent signs and hexadecimal digits. -/
def percentBytes : List Char → Option (List UInt8 × List Char)
  | '%' :: high :: low :: rest =>
    if isHexDigit high && isHexDigit low then
      match percentBytes rest with
      | some (bytes, rest) => some (UInt8.ofNat (hexValue [high, low]) :: bytes, rest)
      | none => none
    else
      none
  | '%' :: _ => none
  | rest => some ([], rest)

/-- The text of a tag, percent signs resolved, and what is left. -/
def tagText : Nat → List Char → List Char → Except Failure (List Char × List Char)
  | 0, _, _ => .error .malformed
  | limit + 1, rest, text =>
    let run := rest.takeWhile isTagCharacter
    let rest := rest.drop run.length
    if rest.head? == some '%' then
      match percentBytes rest with
      | none => .error .malformed
      | some (bytes, after) =>
        match Utf8.decode bytes with
        | .error _ => .error .malformed
        | .ok decoded => tagText limit after (text ++ run ++ decoded.toList)
    else if (text ++ run).isEmpty then
      .error .malformed
    else
      .ok (text ++ run, rest)

/-- Reads the text of a tag. -/
def readTagText (cursor : Cursor) : Except Failure (String × Cursor) :=
  match tagText (cursor.rest.length + 1) cursor.rest [] with
  | .error failure => .error failure
  | .ok (text, rest) =>
    .ok (String.ofList text, cursor.skip (cursor.rest.length - rest.length))

/-- Reads the handle of a tag: one exclamation mark, or a name between two. A
single mark has to be followed by a space here. -/
def readTagHandle (cursor : Cursor) : Except Failure (String × Cursor) :=
  if cursor.peek == some '!' then
    if cursor.peekAt 1 == some ' ' then
      .ok ("!", cursor.next)
    else
      let name := cursor.next.run isNameCharacter
      let after := cursor.next.skip name.length
      if after.peek == some '!' then
        .ok (String.ofList ('!' :: (name ++ ['!'])), after.next)
      else
        .error .malformed
  else
    .error .malformed

/-- Reads a number of a version. -/
def readVersionNumber (cursor : Cursor) : Except Failure (Nat × Cursor) :=
  let digits := cursor.run fun character => '0' ≤ character && character ≤ '9'
  if digits.isEmpty then
    .error .malformed
  else if digitLimit < digits.length then
    .error (.tooManyDigits digits.length)
  else
    .ok (digits.foldl (fun value digit => 10 * value + hexDigitValue digit) 0,
      cursor.skip digits.length)

/-- Reads what follows the name of a directive. -/
def readDirectiveValue (name : String) (cursor : Cursor) : Except Failure (Directive × Cursor) :=
  if name == "YAML" then do
    let (major, cursor) ← readVersionNumber cursor.skipSpaces
    if cursor.peek == some '.' then
      let (minor, cursor) ← readVersionNumber cursor.next
      if endsField cursor.peek then .ok (.version major minor, cursor) else .error .malformed
    else
      .error .malformed
  else if name == "TAG" then do
    let (handle, cursor) ← readTagHandle cursor.skipSpaces
    if cursor.peek == some ' ' then
      let (replacement, cursor) ← readTagText cursor.skipSpaces
      if endsField cursor.peek then .ok (.tagHandle handle replacement, cursor)
      else .error .malformed
    else
      .error .malformed
  else
    .ok (.other, cursor.skipLine)

/-- Reads a directive, from its percent sign. -/
def readDirective (cursor : Cursor) : Except Failure (Directive × Cursor) :=
  let name := cursor.next.run isNameCharacter
  let cursor := cursor.next.skip name.length
  if name.isEmpty || !endsField cursor.peek then
    .error .malformed
  else do
    let (directive, cursor) ← readDirectiveValue (String.ofList name) cursor
    let cursor ← restOfLine cursor
    .ok (directive, cursor)

/-- Reads the name of an anchor or alias, from its mark. -/
def readName (cursor : Cursor) : Except Failure (String × Cursor) :=
  let name := cursor.next.run isNameCharacter
  let cursor := cursor.next.skip name.length
  let ended := endsWord cursor.peek ||
    cursor.peek.any fun character => "?:,]\x7d%@\x60".toList.contains character
  if name.isEmpty || !ended then .error .malformed else .ok (String.ofList name, cursor)

/-- Whether a tag has an exclamation mark after the first. -/
def hasHandle (cursor : Cursor) : Bool :=
  (cursor.next.run fun character => !endsField (some character)).contains '!'

/-- Reads a tag, from its exclamation mark. -/
def readTag (cursor : Cursor) : Except Failure (Token × Cursor) := do
  let (token, cursor) ←
    if cursor.peekAt 1 == some '<' then do
      let (suffix, cursor) ← readTagText (cursor.skip 2)
      if cursor.peek == some '>' then .ok (Token.tag none suffix, cursor.next)
      else .error .malformed
    else if endsWord (cursor.peekAt 1) then
      .ok (Token.tag none "!", cursor.next)
    else if hasHandle cursor then do
      let (handle, cursor) ← readTagHandle cursor
      let (suffix, cursor) ← readTagText cursor
      .ok (Token.tag (some handle) suffix, cursor)
    else do
      let (suffix, cursor) ← readTagText cursor.next
      .ok (Token.tag (some "!") suffix, cursor)
  if endsField cursor.peek then .ok (token, cursor) else .error .malformed

/-! ## Tokens -/

/-- Goes over spaces, comments and line breaks. After a line break outside of
flow collections a key may come. -/
def skipToToken : Nat → Scanner → Scanner
  | 0, scanner => scanner
  | limit + 1, scanner =>
    let cursor := scanner.cursor.skipSpaces.skipComment
    match cursor.lineBreak with
    | ([], _) => { scanner with cursor }
    | (_ :: _, after) =>
      skipToToken limit
        { scanner with cursor := after, allowKey := scanner.allowKey || !scanner.inFlow }

/-- Goes over a byte order mark at the start of the text. -/
def skipMark (scanner : Scanner) : Scanner :=
  if scanner.cursor.index == 0 && scanner.cursor.peek == some byteOrderMark then
    { scanner with cursor := scanner.cursor.next }
  else
    scanner

/-- The token of a directive. -/
def directive (scanner : Scanner) : Except Failure Scanner := do
  let scanner ← (scanner.unwind (-1)).dropKey
  let (read, cursor) ← readDirective scanner.cursor
  .ok ({ scanner with allowKey := false }.emit (.directive read) cursor)

/-- The token of a document mark. -/
def documentMark (scanner : Scanner) (token : Token) : Except Failure Scanner := do
  let scanner ← (scanner.unwind (-1)).dropKey
  .ok ({ scanner with allowKey := false }.emit token (scanner.cursor.skip 3))

/-- The token at the start of a flow collection. -/
def flowStart (scanner : Scanner) (token : Token) : Except Failure Scanner := do
  let scanner ← scanner.rememberKey
  .ok ({ scanner with flowLevel := scanner.flowLevel + 1, allowKey := true }.emit token
    scanner.cursor.next)

/-- The token at the end of a flow collection. -/
def flowEnd (scanner : Scanner) (token : Token) : Except Failure Scanner := do
  let scanner ← scanner.dropKey
  if scanner.inFlow then
    .ok ({ scanner with flowLevel := scanner.flowLevel - 1, allowKey := false }.emit token
      scanner.cursor.next)
  else
    .error .malformed

/-- The token between entries of a flow collection. -/
def flowEntry (scanner : Scanner) : Except Failure Scanner := do
  let scanner ← { scanner with allowKey := true }.dropKey
  .ok (scanner.emit .flowEntry scanner.cursor.next)

/-- Opens a block for an entry that begins here, if that is allowed. -/
def openForEntry (scanner : Scanner) (token : Token) : Except Failure Scanner :=
  if scanner.inFlow then
    .ok scanner
  else if scanner.allowKey then
    .ok (scanner.openBlock scanner.cursor.column scanner.tokens.size token)
  else
    .error .malformed

/-- The token of an entry of a block sequence. -/
def blockEntry (scanner : Scanner) : Except Failure Scanner := do
  let scanner ← scanner.openForEntry .blockSequenceStart
  let scanner ← { scanner with allowKey := true }.dropKey
  .ok (scanner.emit .blockEntry scanner.cursor.next)

/-- The token of a key that is marked by a question mark. -/
def explicitKey (scanner : Scanner) : Except Failure Scanner := do
  let scanner ← scanner.openForEntry .blockMappingStart
  let scanner ← { scanner with allowKey := !scanner.inFlow }.dropKey
  .ok (scanner.emit .key scanner.cursor.next)

/-- The token of a colon. A possible key on this level becomes a key. -/
def value (scanner : Scanner) : Except Failure Scanner :=
  match scanner.keys.find? fun key => key.level == scanner.flowLevel with
  | some key =>
    let scanner := { scanner with
      keys := scanner.keys.filter fun other => other.level != scanner.flowLevel
      tokens := insertAt scanner.tokens key.position #[.key]
      allowKey := false }
    let scanner :=
      if scanner.inFlow then scanner
      else scanner.openBlock key.column key.position .blockMappingStart
    .ok (scanner.emit .value scanner.cursor.next)
  | none => do
    let scanner ← scanner.openForEntry .blockMappingStart
    let scanner ← { scanner with allowKey := !scanner.inFlow }.dropKey
    .ok (scanner.emit .value scanner.cursor.next)

/-- The token of an anchor or alias. -/
def name (scanner : Scanner) (token : String → Token) : Except Failure Scanner := do
  let scanner ← scanner.rememberKey
  let (read, cursor) ← readName scanner.cursor
  .ok ({ scanner with allowKey := false }.emit (token read) cursor)

/-- The token of a tag. -/
def tag (scanner : Scanner) : Except Failure Scanner := do
  let scanner ← scanner.rememberKey
  let (token, cursor) ← readTag scanner.cursor
  .ok ({ scanner with allowKey := false }.emit token cursor)

/-- The token of a block scalar. -/
def block (scanner : Scanner) (folded : Bool) : Except Failure Scanner := do
  let scanner ← { scanner with allowKey := true }.dropKey
  let (text, cursor) ← blockScalar folded scanner.indent scanner.cursor
  .ok (scanner.emit (.scalar (String.ofList text) false) cursor)

/-- The token of a scalar in quotes. -/
def quoted (scanner : Scanner) (double : Bool) : Except Failure Scanner := do
  let scanner ← scanner.rememberKey
  let (text, cursor) ← quotedScalar double scanner.cursor
  .ok ({ scanner with allowKey := false }.emit (.scalar (String.ofList text) false) cursor)

/-- The token of a plain scalar. -/
def plain (scanner : Scanner) : Except Failure Scanner := do
  let scanner ← scanner.rememberKey
  let (text, broken, cursor) :=
    plainScalar scanner.inFlow (scanner.indent + 1) scanner.cursor
  .ok ({ scanner with allowKey := broken }.emit (.scalar (String.ofList text) true) cursor)

/-- The characters that begin something else than a plain scalar. -/
def indicators : List Char := "-?:,[]\x7b\x7d#&*!|>'\"%@\x60".toList

/-- Whether a plain scalar begins with a character. -/
def startsPlain (scanner : Scanner) (character : Char) : Bool :=
  (!endsWord (some character) && !indicators.contains character) ||
    (!endsWord (scanner.cursor.peekAt 1) &&
      (character == '-' || (!scanner.inFlow && (character == '?' || character == ':'))))

/-- Reads the token that begins with a character. -/
def token (scanner : Scanner) (character : Char) : Except Failure Scanner :=
  let cursor := scanner.cursor
  let alone := endsWord (cursor.peekAt 1)
  if character == '%' && cursor.column == 0 then scanner.directive
  else if character == '-' && cursor.column == 0 && cursor.atDocumentMark then
    scanner.documentMark .documentStart
  else if character == '.' && cursor.column == 0 && cursor.atDocumentMark then
    scanner.documentMark .documentEnd
  else if character == '[' then scanner.flowStart .flowSequenceStart
  else if character == '\x7b' then scanner.flowStart .flowMappingStart
  else if character == ']' then scanner.flowEnd .flowSequenceEnd
  else if character == '\x7d' then scanner.flowEnd .flowMappingEnd
  else if character == ',' then scanner.flowEntry
  else if character == '-' && alone then scanner.blockEntry
  else if character == '?' && (scanner.inFlow || alone) then scanner.explicitKey
  else if character == ':' && (scanner.inFlow || alone) then scanner.value
  else if character == '*' then scanner.name .alias
  else if character == '&' then scanner.name .anchor
  else if character == '!' then scanner.tag
  else if character == '|' && !scanner.inFlow then scanner.block false
  else if character == '>' && !scanner.inFlow then scanner.block true
  else if character == '\'' then scanner.quoted false
  else if character == '"' then scanner.quoted true
  else if scanner.startsPlain character then scanner.plain
  else .error .malformed

/-- Reads the next token. The text may end instead. -/
def step (scanner : Scanner) : Except Failure (Scanner ⊕ Scanner) := do
  let scanner := scanner.skipMark
  let scanner := skipToToken (scanner.cursor.rest.length + 1) scanner
  let scanner ← scanner.dropStaleKeys
  let scanner := scanner.unwind scanner.cursor.column
  match scanner.cursor.peek with
  | none => do
    let scanner ← (scanner.unwind (-1)).dropKey
    .ok (.inr scanner)
  | some character => do
    let scanner ← scanner.token character
    .ok (.inl scanner)

/-- Reads tokens to the end of the text. -/
def run : Nat → Scanner → List Token × Option Failure
  | 0, scanner => (scanner.tokens.toList, some .malformed)
  | limit + 1, scanner =>
    match scanner.step with
    | .error failure => (scanner.tokens.toList, some failure)
    | .ok (.inr ended) => (ended.tokens.toList, none)
    | .ok (.inl next) => run limit next

end Scanner

/-- The tokens of a text, and the failure that stands at their end if not all of
the text could be read. -/
def tokens (text : String) : List Token × Option Failure :=
  let characters := text.toList
  if characters.all isAllowed then
    let uniform := uniformBreaks characters
    (Scanner.start uniform).run (uniform.length + 2)
  else
    ([], some .malformed)

end Yaml

end CodeLayout
