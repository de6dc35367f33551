import CodeLayout.Template.Directive
import CodeLayout.Template.Fields
import CodeLayout.Text.Search
import CodeLayout.Text.Utf8

/-!
# Functions of texts

A text can be changed, searched, cut, filled up to a width and asked about its characters.
The functions of a text that is safe for markup give texts that are safe again; what is
put into it means nothing in markup.

A text can be encoded as bytes in three ways (`Encoding`). Other encodings have no meaning
here.
-/

set_option autoImplicit false

namespace CodeLayout

namespace Template

/-! ## Arguments -/

/-- An argument at an index, or something else if it is not given. -/
def argument (arguments : List (Option Object)) (index : Nat) (otherwise : Object) : Object :=
  ((arguments[index]?).bind id).getD otherwise

/-- What an argument is called in the wording of a mismatch. -/
def argumentName : Object → String
  | .null => "None"
  | object => object.typeName

/-- A number of things. -/
def countOf (object : Object) : Run Int :=
  match object.integer? with
  | none => fail (.mismatch (.integer object.typeName))
  | some number =>
    if (greatestLength : Int) < number || number < -(greatestLength : Int) - 1 then
      fail (.excess .count)
    else
      return number

/-- A small number of things. -/
def smallCountOf (object : Object) : Run Int :=
  match object.integer? with
  | none => fail (.mismatch (.integer object.typeName))
  | some number =>
    if 2147483647 < number || number < -2147483648 then fail (.excess .longCount)
    else return number

/-- A width that fits into memory. -/
def widthOf (object : Object) : Run Nat := do
  let width := (← countOf object).toNat
  if greatestWidth < width then fail .memory else return width

/-- A number of times, where a number below zero means no limit. -/
def limitOf (object : Object) : Run (Option Nat) := do
  let number ← countOf object
  return if number < 0 then none else some number.toNat

/-- A text as the argument of a function at a place. -/
def textArgument (function : String) (place : Nat) (object : Object) : Run String :=
  match object.text? with
  | some plain => return plain
  | none => fail (.mismatch (.textArgument function place (argumentName object)))

/-- A text as the only argument of a function. -/
def onlyTextArgument (function : String) (object : Object) : Run String :=
  match object.text? with
  | some plain => return plain
  | none => mismatch (function ++ "() argument must be str, not " ++ argumentName object)

/-- A text that is looked for. -/
def soughtText (object : Object) : Run (List Char) :=
  match object.text? with
  | some plain => return plain.toList
  | none => mismatch ("must be str, not " ++ object.typeName)

/-- A character to fill up with. -/
def fillerOf (object : Object) : Run Char :=
  match object.text? with
  | none => mismatch ("The fill character must be a unicode character, not " ++ object.typeName)
  | some plain =>
    match plain.toList with
    | [only] => return only
    | _ => mismatch "The fill character must be exactly one character long"

/-- The characters to be taken away at an end: those of a text, or the blanks. -/
def dropped (function : String) : Object → Run (Char → Bool)
  | .null => return isBlank
  | object =>
    match object.text? with
    | some characters => return fun character => characters.toList.contains character
    | none => fail (.mismatch (.stripped function))

/-! ## Changing -/

/-- A change of the characters of a text. -/
def onCharacters (change : List Char → List Char) (text : String) : String :=
  String.ofList (change text.toList)

/-- The changes of texts by name. -/
def textChanges : List (String × (String → String)) :=
  [("upper", upperText), ("lower", lowerText), ("title", titleText),
    ("capitalize", capitalizedText), ("casefold", foldedText), ("swapcase", swappedText)]

/-- A text without some characters at one end or both. -/
def stripText (name plain : String) (characters : Object) : Run Object := do
  let drops ← dropped name characters
  let change :=
    match name with
    | "lstrip" => trimLeading drops
    | "rstrip" => trimTrailing drops
    | _ => trimTrailing drops ∘ trimLeading drops
  return .text (onCharacters change plain)

/-- A text with a part replaced. -/
def replaceText (plain : String) (old new count : Object) : Run Object := do
  let old ← textArgument "replace" 1 old
  let new ← textArgument "replace" 2 new
  let limit ← limitOf count
  return .text (onCharacters (replacePart old.toList new.toList limit) plain)

/-- A text filled up to a width. -/
def alignText (name plain : String) (width filler : Object) : Run Object := do
  let width ← widthOf width
  let filler ← fillerOf filler
  let characters := plain.toList
  let room := width - characters.length
  return .text (String.ofList (match name with
    | "ljust" => widened filler 0 room characters
    | "rjust" => widened filler room 0 characters
    | _ => centered filler width characters))

/-- The texts of items to be joined, when so many are before them. -/
def textsToJoin : Nat → List Object → Run (List String)
  | _, [] => return []
  | index, first :: rest =>
    match first.text? with
    | some plain => do return plain :: (← textsToJoin (index + 1) rest)
    | none => fail (.mismatch (.joined index first.typeName))

/-- The items of an object with a text between them. -/
def joinText (plain : String) (parts : Object) : Run Object := do
  match ← items? parts with
  | some items => return .text (plain.intercalate (← textsToJoin 0 items))
  | none => fail (.mismatch .joinedItems)

/-! ## Searching -/

/-- The part of a text between two bounds. -/
def boundedText (plain : String) (start stop : Object) : Run (Option (Nat × List Char)) := do
  return between? (← bound? start) (← bound? stop) plain.toList

/-- The place of a part between two bounds, from the left or from the right. -/
def findText (fromLeft : Bool) (plain : String) (part start stop : Object) :
    Run (Option Nat) := do
  let bounds ← boundedText plain start stop
  let part ← soughtText part
  return bounds.bind fun (before, text) =>
    if fromLeft then firstPlace? part before text
    else (lastPlace? part text).map (before + ·)

/-- The place of a part between two bounds, or minus one. -/
def findPlace (fromLeft : Bool) (plain : String) (part start stop : Object) : Run Object := do
  return .int (((← findText fromLeft plain part start stop).map Int.ofNat).getD (-1))

/-- The place of a part that has to be there between two bounds. -/
def indexText (fromLeft : Bool) (plain : String) (part start stop : Object) : Run Object := do
  match ← findText fromLeft plain part start stop with
  | some place => return .int place
  | none => badValue "substring not found"

/-- How often a part is between two bounds. -/
def countText (plain : String) (part start stop : Object) : Run Object := do
  let bounds ← boundedText plain start stop
  let part ← soughtText part
  return .int ((bounds.map fun bounded => countOfPart part bounded.2).getD 0)

/-- Whether one of several texts meets a condition. -/
def anyText (name : String) (meets : List Char → Bool) : List Object → Run Bool
  | [] => return false
  | first :: rest =>
    match first.text? with
    | none =>
      mismatch ("tuple for " ++ name ++ " must only contain str, not " ++ first.typeName)
    | some plain => if meets plain.toList then return true else anyText name meets rest

/-- Whether a text begins or ends with a part between two bounds. -/
def hasAffix (name plain : String) (part start stop : Object) : Run Object := do
  let bounds ← boundedText plain start stop
  let meets (part : List Char) : Bool :=
    match bounds with
    | none => false
    | some (_, text) =>
      if name = "startswith" then part.isPrefixOf text else part.isSuffixOf text
  match part, part.text? with
  | .tuple items, _ => return .bool (← anyText name meets items)
  | _, some plain => return .bool (meets plain.toList)
  | part, none => fail (.mismatch (.affix name part.typeName))

/-! ## Cutting -/

/-- Texts as a list. -/
def textList (pieces : List (List Char)) : Run Object :=
  newList (pieces.map fun piece => .text (String.ofList piece))

/-- A text cut at a separator or at its blanks, from the left or from the right. -/
def splitText (fromLeft : Bool) (plain : String) (separator limit : Object) : Run Object := do
  let limit ← limitOf limit
  let characters := plain.toList
  match separator with
  | .null =>
    textList (if fromLeft then cutAtBlanks (characters.length + 1) limit characters
      else cutLastAtBlanks limit characters)
  | separator =>
    match separator.text? with
    | some "" => fail (.value .separator)
    | some part =>
      textList (if fromLeft then cutAt part.toList characters.length limit characters
        else cutLastAt part.toList limit characters)
    | none => fail (.mismatch (.separator separator.typeName))

/-- What is before a separator, the separator, and what is after it. -/
def partitionText (fromLeft : Bool) (plain : String) (separator : Object) : Run Object := do
  let part ← soughtText separator
  if part.isEmpty then
    fail (.value .separator)
  else
    let text := plain.toList
    let triple (before middle after : List Char) : Object :=
      .tuple ([before, middle, after].map fun piece => .text (String.ofList piece))
    match if fromLeft then firstPlace? part 0 text else lastPlace? part text with
    | some place =>
      let (before, after) := splitAtPlace part text place
      return triple before part after
    | none => return if fromLeft then triple text [] [] else triple [] [] text

/-- A text without a part that it may begin or end with. -/
def removeAffix (name plain : String) (part : Object) : Run Object := do
  let part := (← onlyTextArgument name part).toList
  let text := plain.toList
  return .text (String.ofList
    (if name = "removeprefix" then
      if part.isPrefixOf text then text.drop part.length else text
    else
      if part.isSuffixOf text then text.take (text.length - part.length) else text))

/-! ## Tables -/

/-- What a table has for a character, if it has something. -/
def translateCharacter (table : Object) (character : Char) : Run (List Char) := do
  let code : Int := codeOf character
  match table with
  | .map _ => given (← itemOf? table (.int code))
  | .list _ => given (← itemOf? table (.int code))
  | .tuple _ => given (← itemOf? table (.int code))
  | .text _ => given (← itemOf? table (.int code))
  | .safe _ => given (← itemOf? table (.int code))
  | .range _ _ _ => given (← itemOf? table (.int code))
  | .absent missing => fail (.missing missing)
  | .blank missing => fail (.missing missing)
  | table => fail (.mismatch (.subscripted table.typeName))
where
  /-- The characters that an object of the table stands for. -/
  given : Option Object → Run (List Char)
    | none => return [character]
    | some .null => return []
    | some found =>
      match found.text?, found.integer? with
      | some plain, _ => return plain.toList
      | none, some number =>
        if number < 0 || 0x10FFFF < number then
          badValue "character mapping must be in range(0x110000)"
        else
          return [characterOfCode number.toNat]
      | none, none => mismatch "character mapping must return integer, None or str"

/-- A text with its characters replaced by those of a table. -/
def translateText (table : Object) : List Char → Run (List Char)
  | [] => return []
  | first :: rest => do return (← translateCharacter table first) ++ (← translateText table rest)

/-- The entries of a table with codes of characters as keys. -/
def tableEntries (found : List (Object × Object)) :
    List (Object × Object) → Run (List (Object × Object))
  | [] => return found
  | (key, value) :: rest => do
    let code ←
      match key.text?, key.integer? with
      | some plain, _ =>
        match plain.toList with
        | [only] => pure (Object.int (codeOf only))
        | _ => badValue "string keys in translate table must be of length 1"
      | none, some number => pure (.int number)
      | none, none => mismatch "keys in translate table must be strings or integers"
    tableEntries (← putEntry code value found) rest

/-- A table for the replacement of characters. -/
def makeTable (arguments : List (Option Object)) : Run Object := do
  match arguments with
  | [some (.map address)] => do newMap (← tableEntries [] (← mapAt address))
  | [_] => mismatch "if you give only one argument to maketrans it must be a dict"
  | arguments => do
    let new := (← textArgument "maketrans" 2 (argument arguments 1 .null)).toList
    let removed ←
      match arguments[2]? with
      | some (some object) => textArgument "maketrans" 3 object
      | _ => pure ""
    match (argument arguments 0 .null).text? with
    | none => mismatch "first maketrans argument must be a string if there is a second argument"
    | some old =>
      if old.length ≠ new.length then
        badValue "the first two maketrans arguments must have equal length"
      else
        let code (character : Char) : Object := .int (codeOf character)
        let pairs := (old.toList.zip new).map fun pair => (code pair.1, code pair.2)
        newMap (← tableEntries [] (pairs ++ removed.toList.map fun lost => (code lost, .null)))

/-! ## Encoding -/

/-- The character sets that texts can be encoded in. -/
inductive Encoding where
  /-- Every character, in one byte or several. -/
  | utf8
  /-- The first 128 characters. -/
  | ascii
  /-- The first 256 characters. -/
  | latin
deriving DecidableEq, Repr

namespace Encoding

/-- The name of an encoding in the wording of a fault. -/
def codec : Encoding → String
  | .utf8 => "utf-8"
  | .ascii => "ascii"
  | .latin => "latin-1"

/-- The encodings by name, with small letters and underscores. -/
def names : List (String × Encoding) :=
  [("utf_8", .utf8), ("utf8", .utf8), ("u8", .utf8), ("utf", .utf8), ("ascii", .ascii),
    ("us_ascii", .ascii), ("646", .ascii), ("latin_1", .latin), ("latin1", .latin),
    ("latin", .latin), ("l1", .latin), ("iso_8859_1", .latin), ("iso8859_1", .latin),
    ("8859", .latin), ("cp819", .latin)]

/-- The encoding with a name, if it has a meaning here. Blanks and hyphens are written like
underscores. -/
def find? (name : String) : Option Encoding :=
  names.lookup (name.map fun character =>
    if character == ' ' || character == '-' then '_' else character.toLower)

/-- Whether an encoding has a character. -/
def has (encoding : Encoding) (character : Char) : Bool :=
  match encoding with
  | .utf8 => !isSurrogate character
  | .ascii => codeOf character < 128
  | .latin => codeOf character < 256

/-- Why an encoding does not have a character. -/
def lack : Encoding → String
  | .utf8 => "surrogates not allowed"
  | .ascii => "ordinal not in range(128)"
  | .latin => "ordinal not in range(256)"

/-- The bytes of a character. -/
def bytes (encoding : Encoding) (character : Char) : List UInt8 :=
  match encoding with
  | .utf8 => (String.singleton character).toUTF8.toList
  | _ => [UInt8.ofNat (codeOf character)]

/-- The ways to deal with what an encoding does not have that have no meaning here. -/
def unsupportedHandlers : List String := ["namereplace", "surrogateescape", "surrogatepass"]

/-- What stands for a character that an encoding does not have. -/
def substitute? (errors : String) (character : Char) : Option (List Char) :=
  match errors with
  | "ignore" => some []
  | "replace" => some ['?']
  | "xmlcharrefreplace" => some (("&#" ++ toString (codeOf character) ++ ";").toList)
  | "backslashreplace" => some (escapeCode (codeOf character))
  | _ => none

/-- The bytes of a text from a place on. -/
def encodeFrom (encoding : Encoding) (errors : String) : Nat → List Char → Run (List UInt8)
  | _, [] => return []
  | place, first :: rest => do
    if encoding.has first then
      return encoding.bytes first ++ (← encodeFrom encoding errors (place + 1) rest)
    else
      match substitute? errors first with
      | some others =>
        return others.flatMap encoding.bytes ++ (← encodeFrom encoding errors (place + 1) rest)
      | none =>
        if errors = "strict" then
          let lost := first :: rest.takeWhile fun character => !encoding.has character
          fail (.encoding (unencodable encoding.codec place lost encoding.lack))
        else if unsupportedHandlers.contains errors then
          fail (.unsupported errors)
        else
          fail (.noErrorHandler errors)

end Encoding

/-- The bytes of a text in an encoding. -/
def encodeText (plain : String) (encoding errors : Object) : Run Object := do
  let named (name : String) (object : Object) : Run String :=
    match object.text? with
    | some plain =>
      if hasSurrogates plain || plain.toList.contains '\x00' then
        fail (.unsupported name)
      else
        return plain
    | none =>
      mismatch ("encode() argument '" ++ name ++ "' must be str, not " ++ argumentName object)
  let name ← named "encoding" encoding
  let errors ← named "errors" errors
  match Encoding.find? name with
  | some found => return .bytes (← found.encodeFrom errors 0 plain.toList)
  | none => fail (.unsupported name)

/-! ## Calling -/

/-- The lines of a text as a list. -/
def splitLines (plain : String) (keep : Object) : Run Object := do
  let keep ← smallCountOf keep
  textList (linesAfter (keep != 0) [] plain.toList)

/-- A text with blanks instead of tabs. -/
def expandTabs (plain : String) (distance : Object) : Run Object := do
  let distance ← smallCountOf distance
  return .text (onCharacters (withoutTabs distance.toNat 0) plain)

/-- Calls a function of a text. -/
def callText (plain name : String) (arguments : List (Option Object)) : Run Object := do
  let first := argument arguments 0 .null
  let second := argument arguments 1 .null
  let third := argument arguments 2 .null
  match textChanges.lookup name, textQuestions.lookup name with
  | some change, _ => return .text (change plain)
  | none, some question => return .bool (question plain.toList)
  | none, none =>
    match name with
    | "strip" => stripText name plain first
    | "lstrip" => stripText name plain first
    | "rstrip" => stripText name plain first
    | "replace" => replaceText plain first second (argument arguments 2 (.int (-1)))
    | "center" => alignText name plain first (argument arguments 1 (.text " "))
    | "ljust" => alignText name plain first (argument arguments 1 (.text " "))
    | "rjust" => alignText name plain first (argument arguments 1 (.text " "))
    | "zfill" => do return .text (onCharacters (zeroFilled (← widthOf first)) plain)
    | "join" => joinText plain first
    | "find" => findPlace true plain first second third
    | "rfind" => findPlace false plain first second third
    | "index" => indexText true plain first second third
    | "rindex" => indexText false plain first second third
    | "count" => countText plain first second third
    | "startswith" => hasAffix name plain first second third
    | "endswith" => hasAffix name plain first second third
    | "split" => splitText true plain first (argument arguments 1 (.int (-1)))
    | "rsplit" => splitText false plain first (argument arguments 1 (.int (-1)))
    | "splitlines" => splitLines plain (argument arguments 0 (.bool false))
    | "expandtabs" => expandTabs plain (argument arguments 0 (.int 8))
    | "partition" => partitionText true plain first
    | "rpartition" => partitionText false plain first
    | "removeprefix" => removeAffix name plain first
    | "removesuffix" => removeAffix name plain first
    | "translate" => do return .text (String.ofList (← translateText first plain.toList))
    | "maketrans" => makeTable arguments
    | "encode" =>
      encodeText plain (argument arguments 0 (.text "utf-8")) (argument arguments 1 (.text "strict"))
    | "format_map" => do return .text (← fillFromMapping false plain first)
    | _ => mismatch ("'str' object has no function " ++ quoted name)

/-! ## Texts that are safe for markup -/

/-- Objects as texts in which nothing means markup. -/
def escapedAll : List Object → Run (List Object)
  | [] => return []
  | first :: rest => do return .text (← escapedText first) :: (← escapedAll rest)

/-- Arguments with one of them as a text in which nothing means markup. -/
def escapeArgument (index : Nat) (arguments : List (Option Object)) :
    Run (List (Option Object)) := do
  match arguments[index]? with
  | some (some object) => return arguments.set index (some (.text (← escapedText object)))
  | _ => return arguments

/-- A text, or the texts of a list or tuple, as safe for markup. -/
def markSafe : Object → Run Object
  | .text plain => return .safe plain
  | .tuple items => return .tuple (items.map markItem)
  | .list address => do newList ((← listAt address).map markItem)
  | object => return object
where
  /-- A text as safe for markup. -/
  markItem : Object → Object
    | .text plain => .safe plain
    | object => object

/-- Calls a function of a text that is safe for markup. -/
def callSafe (plain name : String) (arguments : List (Option Object)) : Run Object := do
  match name with
  | "format_map" => return .safe (← fillFromMapping true plain (argument arguments 0 .null))
  | "join" => do
    let items ← itemsOf (argument arguments 0 .null)
    markSafe (← joinText plain (.tuple (← escapedAll items)))
  | name =>
    if (safeFunctions.lookup name).isSome then
      let escaped := name = "replace" || name = "center" || name = "ljust" || name = "rjust"
      let arguments ← if escaped then escapeArgument 1 arguments else pure arguments
      markSafe (← callText plain name arguments)
    else
      callText plain name arguments

end Template

end CodeLayout
