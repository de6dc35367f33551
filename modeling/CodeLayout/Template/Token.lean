import CodeLayout.Decimal.Reading
import CodeLayout.Template.Escape
import CodeLayout.Text.CharacterClass
import CodeLayout.Text.LineBreak

/-!
# Template tokens

A template is plain text with expressions in double braces, tags in braces with
percent signs, and comments in braces with number signs. A raw part between two
tags is plain text, whatever it holds.

A minus sign at the inner side of a brace takes away the blanks around the tag.
Inside a tag, closing braces count as its end only where all brackets opened
before are closed again.

The digits of numbers may come from any script. A floating point number has a value
only if its digits are the plain ones.

A text that ends inside a comment, or right after the beginning of a raw part,
ends there; a comment or raw part with something in it has to be closed.
-/

set_option autoImplicit false

namespace CodeLayout

namespace Template

/-- A token of a template. -/
inductive Token where
  /-- Plain text. -/
  | data (text : String)
  /-- The beginning of an expression to be shown. -/
  | openShow
  /-- The end of an expression to be shown. -/
  | closeShow
  /-- The beginning of a tag. -/
  | openTag
  /-- The end of a tag. -/
  | closeTag
  /-- A name. -/
  | name (name : String)
  /-- A text in quotes. -/
  | text (text : String)
  /-- A whole number. -/
  | int (number : Nat)
  /-- A floating point number. -/
  | float (number : Float)
  /-- A bracket, an operator or another sign. -/
  | sign (sign : String)

/-- A token with the number of its line. -/
structure Lexeme where
  /-- The line, from 1. -/
  line : Nat
  /-- The token. -/
  token : Token

/-- The number of line feeds in a text. -/
def lineFeeds (text : List Char) : Nat := text.count '\n'

/-! ## Plain text -/

/-- What begins where plain text ends. -/
inductive Opening where
  | show
  | tag
  | comment
  | raw
deriving DecidableEq, Repr

/-- A text without a sign for the blanks around it, and whether it is a minus. -/
def takeControl : List Char → Bool × List Char
  | '-' :: rest => (true, rest)
  | '+' :: rest => (false, rest)
  | rest => (false, rest)

/-- What follows a word at the front of a text. -/
def afterWord? (word text : List Char) : Option (List Char) :=
  if word.isPrefixOf text then some (text.drop word.length) else none

/-- What follows the end of a tag at the front of a text, blanks taken away after
a minus. -/
def afterTagEnd? (text : List Char) : Option (List Char) :=
  match text with
  | '-' :: '%' :: '\x7d' :: rest => some (dropLeadingBlanks rest)
  | '%' :: '\x7d' :: rest => some rest
  | _ => none

/-- What follows the tag that begins a raw part, after its opening brace and
percent sign, and whether a minus takes blanks away before it. -/
def afterRaw? (text : List Char) : Option (Bool × List Char) :=
  let control := takeControl text
  match afterWord? "raw".toList (dropLeadingBlanks control.2) with
  | none => none
  | some rest =>
    (afterTagEnd? (dropLeadingBlanks rest)).map fun rest => (control.1, rest)

/-- What begins at the front of a text, whether a minus takes blanks away before
it, and what follows. -/
def opening? (text : List Char) : Option (Opening × Bool × List Char) :=
  match text with
  | '\x7b' :: '%' :: rest =>
    match afterRaw? rest with
    | some (minus, rest) => some (.raw, minus, rest)
    | none => let control := takeControl rest; some (.tag, control.1, control.2)
  | '\x7b' :: '\x7b' :: rest =>
    let control := takeControl rest
    some (.show, control.1, control.2)
  | '\x7b' :: '#' :: rest =>
    let control := takeControl rest
    some (.comment, control.1, control.2)
  | _ => none

/-- The plain text at the front of a text, and what begins after it. -/
def plainPart : List Char → List Char × Option (Opening × Bool × List Char)
  | [] => ([], none)
  | first :: rest =>
    match opening? (first :: rest) with
    | some opening => ([], some opening)
    | none =>
      let part := plainPart rest
      (first :: part.1, part.2)

/-- What follows the end of a comment. -/
def afterComment? : List Char → Option (List Char)
  | [] => none
  | '-' :: '#' :: '\x7d' :: rest => some (dropLeadingBlanks rest)
  | '#' :: '\x7d' :: rest => some rest
  | _ :: rest => afterComment? rest

/-- What follows the tag that ends a raw part, and whether a minus takes blanks
away before it. -/
def afterEndRaw? (text : List Char) : Option (Bool × List Char) :=
  match text with
  | '\x7b' :: '%' :: rest =>
    let control := takeControl rest
    match afterWord? "endraw".toList (dropLeadingBlanks control.2) with
    | none => none
    | some rest =>
      match dropLeadingBlanks rest with
      | '+' :: '%' :: '\x7d' :: rest => some (control.1, rest)
      | rest => (afterTagEnd? rest).map fun rest => (control.1, rest)
  | _ => none

/-- The text of a raw part and what follows its end. -/
def rawPart? : List Char → Option (List Char × List Char)
  | [] => none
  | first :: rest =>
    match afterEndRaw? (first :: rest) with
    | some (minus, rest) => some ([], if minus then '-' :: rest else '+' :: rest)
    | none => (rawPart? rest).map fun part => (first :: part.1, part.2)

/-! ## Tags -/

/-- The signs of two characters. -/
def longSigns : List String := ["//", "**", "==", "!=", ">=", "<="]

/-- The signs of one character. -/
def shortSigns : List Char := "+-/*%~[]()\x7b\x7d><=.:|,;".toList

/-- The bracket that closes an opening one. -/
def closing? : Char → Option Char
  | '\x7b' => some '\x7d'
  | '(' => some ')'
  | '[' => some ']'
  | _ => none

/-- The sign at the front of a text. -/
def sign? (text : List Char) : Option String :=
  match longSigns.find? fun sign => sign.toList.isPrefixOf text with
  | some sign => some sign
  | none =>
    match text with
    | [] => none
    | first :: _ => if shortSigns.contains first then some (String.singleton first) else none

/-- The open brackets after a sign. A closing bracket has to fit. -/
def brackets? (sign : String) (opened : List Char) : Option (List Char) :=
  match sign.toList with
  | [bracket] =>
    match closing? bracket with
    | some closes => some (closes :: opened)
    | none =>
      if bracket == '\x7d' || bracket == ')' || bracket == ']' then
        match opened with
        | expected :: outer => if expected == bracket then some outer else none
        | [] => none
      else
        some opened
  | _ => some opened

/-- The digits at the front of a text, with single underscores between them. -/
def digitRun (belongs : Char → Bool) : List Char → List Char
  | '_' :: digit :: rest =>
    if belongs digit then '_' :: digit :: digitRun belongs rest else []
  | digit :: rest => if belongs digit then digit :: digitRun belongs rest else []
  | [] => []

/-- Decimal digits at the front of a text, not beginning with an underscore. -/
def decimals (text : List Char) : List Char :=
  if text.head?.any isDecimal then digitRun isDecimal text else []

/-- The exponent at the front of a text. -/
def exponentRun (text : List Char) : List Char :=
  match text with
  | mark :: rest =>
    if isExponentMark mark then
      let sign := rest.take (if rest.head? == some '+' || rest.head? == some '-' then 1 else 0)
      let digits := decimals (rest.drop sign.length)
      if digits.isEmpty then [] else mark :: (sign ++ digits)
    else
      []
  | [] => []

/-- The fraction at the front of a text. -/
def fractionRun (text : List Char) : List Char :=
  match text with
  | '.' :: rest =>
    let digits := decimals rest
    if digits.isEmpty then [] else '.' :: digits
  | _ => []

/-- The floating point number at the front of a text. It has a fraction or an
exponent, and no point may stand before it. -/
def floatRun (afterPoint : Bool) (text : List Char) : List Char :=
  let whole := decimals text
  let fraction := fractionRun (text.drop whole.length)
  let exponent := exponentRun (text.drop (whole.length + fraction.length))
  if afterPoint || whole.isEmpty || (fraction.isEmpty && exponent.isEmpty) then []
  else whole ++ fraction ++ exponent

/-- The digits after the sign of a base at the front of a text. -/
def basedRun? (base : Nat) (text : List Char) : Option (List Char) :=
  match text with
  | '0' :: letter :: rest =>
    if (baseLetters base).contains letter then
      let digits := digitRun (fun letter => digitValue (plainDigit letter) < base) rest
      if digits.isEmpty then none else some ('0' :: letter :: digits)
    else
      none
  | _ => none

/-- The whole number at the front of a text. A number that begins with a zero is
zero, unless the sign of a base follows. -/
def integerRun (text : List Char) : List Char :=
  match (basedRun? 2 text).or ((basedRun? 8 text).or (basedRun? 16 text)) with
  | some run => run
  | none =>
    if text.head? == some '0' then digitRun (· == '0') text
    else if text.head?.any Char.isDigit then decimals text
    else []

/-- The value of a whole number as written. -/
def integerValue (run : List Char) : Nat :=
  let digits := (run.filter (· != '_')).map plainDigit
  match digits with
  | '0' :: letter :: rest =>
    if (baseLetters 2).contains letter then digitsValueIn 2 rest
    else if (baseLetters 8).contains letter then digitsValueIn 8 rest
    else if (baseLetters 16).contains letter then digitsValueIn 16 rest
    else digitsValue digits
  | _ => digitsValue digits

/-- The text inside quotes and what follows the closing quote. -/
def quotedPart? (mark : Char) : List Char → Option (List Char × List Char)
  | [] => none
  | '\\' :: escaped :: rest =>
    (quotedPart? mark rest).map fun part => ('\\' :: escaped :: part.1, part.2)
  | first :: rest =>
    if first == mark then some ([], rest)
    else if first == '\\' then none
    else (quotedPart? mark rest).map fun part => (first :: part.1, part.2)

/-- Why a text cannot be read as tokens. -/
inductive Unreadable where
  /-- A part of it is no token. -/
  | text
  /-- A whole number has so many digits. -/
  | digits (count : Nat)
  /-- A floating point number has a digit of another script. -/
  | numeral (digit : Char)
  /-- The exponent of a floating point number begins with such a digit. -/
  | exponent
deriving DecidableEq, Repr

/-- The number of decimal digits of a whole number as written. A number in another base
has none. -/
def decimalCount (run : List Char) : Nat :=
  let digits := run.filter (· != '_')
  match digits with
  | '0' :: letter :: _ => if isDecimal letter then digits.length else 0
  | _ => digits.length

/-- The token of a whole number as written. -/
def integerToken (run : List Char) : Except Unreadable Token :=
  if digitLimit < decimalCount run then .error (.digits (decimalCount run))
  else .ok (.int (integerValue run))

/-- The token of a floating point number as written. -/
def floatToken (run : List Char) : Except Unreadable Token :=
  let digits := run.filter (· != '_')
  let before := digits.takeWhile fun character => character.toNat < 0x80
  match digits.drop before.length, readFloat? digits with
  | foreign :: _, _ =>
    let mark := (before.reverse.dropWhile fun character => ['+', '-'].contains character).head?
    if mark.any isExponentMark then .error .exponent else .error (.numeral foreign)
  | [], some number => .ok (.float number)
  | [], none => .error .text

/-- The token of a text in quotes, after its quote, and what follows. -/
def textToken (mark : Char) (text : List Char) : Except Unreadable (Token × List Char) :=
  match quotedPart? mark text with
  | none => .error .text
  | some (inner, rest) =>
    match unescape? inner with
    | none => .error .text
    | some resolved => .ok (.text resolved, rest)

/-- The token at the front of a text that does not begin with a blank, the open
brackets after it, and what follows. -/
def takeToken (afterPoint : Bool) (opened : List Char) (text : List Char) :
    Except Unreadable (Token × List Char × List Char) :=
  let float := floatRun afterPoint text
  let integer := integerRun text
  let name := text.takeWhile continuesIdentifier
  match text with
  | [] => .error .text
  | first :: rest =>
    if !float.isEmpty then
      (floatToken float).map fun token => (token, opened, text.drop float.length)
    else if !integer.isEmpty then
      (integerToken integer).map fun token => (token, opened, text.drop integer.length)
    else if !name.isEmpty then
      if beginsIdentifier first then
        .ok (.name (String.ofList name), opened, text.drop name.length)
      else
        .error .text
    else if first == '\'' || first == '"' then
      (textToken first rest).map fun found => (found.1, opened, found.2)
    else
      match sign? text with
      | none => .error .text
      | some sign =>
        match brackets? sign opened with
        | none => .error .text
        | some opened => .ok (.sign sign, opened, text.drop sign.length)

/-- What follows the end of a shown expression. -/
def afterShowEnd? (text : List Char) : Option (List Char) :=
  match text with
  | '-' :: '\x7d' :: '\x7d' :: rest => some (dropLeadingBlanks rest)
  | '\x7d' :: '\x7d' :: rest => some rest
  | _ => none

/-- What follows the end of a tag. -/
def afterEnd? (shown : Bool) (text : List Char) : Option (List Char) :=
  if shown then afterShowEnd? text
  else
    match text with
    | '+' :: '%' :: '\x7d' :: rest => some rest
    | text => afterTagEnd? text

/-- Where the reading of a template stands. -/
inductive Place where
  /-- In plain text. -/
  | plain
  /-- In a tag or a shown expression, with brackets to be closed, and right after
  a point or not. -/
  | tag (shown : Bool) (opened : List Char) (afterPoint : Bool)
deriving DecidableEq, Repr

/-- The token for the end of a tag. -/
def endToken (shown : Bool) : Token := if shown then .closeShow else .closeTag

/-- The number of line feeds between a text and what is left of it. -/
def linesBetween (text rest : List Char) : Nat :=
  lineFeeds (text.take (text.length - rest.length))

/-- Plain text as tokens: none if it is empty. -/
def dataTokens (line : Nat) (text : List Char) : List Lexeme :=
  if text.isEmpty then [] else [{ line, token := .data (String.ofList text) }]

/-- Reads a template as tokens, or finds that it is not well formed. Each round
takes at least one character, so the first argument bounds the number of
rounds. -/
def scan : Nat → Place → Nat → List Char → Except Unreadable (List Lexeme)
  | 0, _, _, _ => .error .text
  | limit + 1, .plain, line, text =>
    let part := plainPart text
    match part.2 with
    | none => .ok (dataTokens line part.1)
    | some (opening, minus, rest) =>
      let data := dataTokens line (if minus then dropTrailingBlanks part.1 else part.1)
      let line' := line + linesBetween text rest
      let following : Except Unreadable (List Lexeme) :=
        match opening with
        | .show =>
          (scan limit (.tag true [] false) line' rest).map
            ({ line := line', token := .openShow } :: ·)
        | .tag =>
          (scan limit (.tag false [] false) line' rest).map
            ({ line := line', token := .openTag } :: ·)
        | .comment =>
          if rest.isEmpty then
            .ok []
          else
            match afterComment? rest with
            | none => .error .text
            | some after => scan limit .plain (line' + linesBetween rest after) after
        | .raw =>
          if rest.isEmpty then
            .ok []
          else
            match rawPart? rest with
            | none => .error .text
            | some (raw, marked) =>
              let shown := if marked.head? == some '-' then dropTrailingBlanks raw else raw
              let after := marked.drop 1
              (scan limit .plain (line' + linesBetween rest after) after).map
                (dataTokens line' shown ++ ·)
      following.map (data ++ ·)
  | limit + 1, .tag shown opened afterPoint, line, text =>
    match (if opened.isEmpty then afterEnd? shown text else none) with
    | some rest =>
      (scan limit .plain (line + linesBetween text rest) rest).map
        ({ line, token := endToken shown } :: ·)
    | none =>
      match text with
      | [] => .ok []
      | first :: _ =>
        if isBlank first then
          let rest := dropLeadingBlanks text
          scan limit (.tag shown opened false) (line + linesBetween text rest) rest
        else
          match takeToken afterPoint opened text with
          | .error unreadable => .error unreadable
          | .ok (token, opened, rest) =>
            let isPoint := match token with
              | .sign sign => sign == "."
              | _ => false
            (scan limit (.tag shown opened isPoint) (line + linesBetween text rest) rest).map
              ({ line, token } :: ·)

/-- The tokens of a template. -/
def tokens (text : String) : Except Unreadable (List Lexeme) :=
  let characters := uniformLines text.toList
  scan (characters.length + 2) .plain 1 characters

end Template

end CodeLayout
