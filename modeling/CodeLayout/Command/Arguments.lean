import CodeLayout.Decimal.Reading
import CodeLayout.Files.Path

/-!
# Command arguments

A command line is a list of words. The first says what to do, and the others are
options and the path of a document in any order. A long option may have its value
after an equals sign, short options may be put together, and an option that takes a
value takes the rest of its word or the next word, whatever that looks like. After
two dashes all words are paths. Of several uses of an option the last one counts.
-/

set_option autoImplicit false

namespace CodeLayout

namespace Command

/-- The options of a command. -/
inductive Flag where
  /-- The file to write to. -/
  | output
  /-- The number of spaces of a level. -/
  | indent
  /-- Tabs instead of spaces. -/
  | tab
  /-- A newline at the end. -/
  | newline
  /-- No newline at the end. -/
  | noNewline
  /-- The file with format options. -/
  | config
  /-- More records in the log. -/
  | verbose
  /-- An explanation of the command. -/
  | help
deriving DecidableEq, Repr

/-- Whether an option takes a value. -/
def Flag.takesValue : Flag → Bool
  | .output => true
  | .indent => true
  | .config => true
  | _ => false

/-- The words for the options of a command. -/
abbrev FlagWords := List (String × Flag)

/-- The options for rendering. -/
def renderFlags : FlagWords :=
  [("-o", .output), ("--output", .output), ("-i", .indent), ("--indent", .indent),
    ("--tab", .tab), ("--trailing-newline", .newline), ("--no-trailing-newline", .noNewline),
    ("-c", .config), ("--config", .config), ("-v", .verbose), ("--verbose", .verbose),
    ("--help", .help)]

/-- The options for checking. -/
def checkFlags : FlagWords := [("-v", .verbose), ("--verbose", .verbose), ("--help", .help)]

/-- An option with its value, if it takes one. -/
structure Setting where
  /-- The option. -/
  flag : Flag
  /-- Its value. -/
  value : Option String
deriving DecidableEq, Repr

/-- The words of a command line, taken apart. -/
structure Words where
  /-- The options in order. -/
  settings : List Setting
  /-- The other words in order. -/
  others : List String
deriving DecidableEq, Repr

/-- The words with more options in front. -/
def Words.withSettings (words : Words) (settings : List Setting) : Words :=
  { words with settings := settings ++ words.settings }

/-- The options in one word. -/
structure OptionWord where
  /-- The options that are complete, in order. -/
  settings : List Setting
  /-- The option after them that takes the next word as its value. -/
  pending : Option Flag
deriving DecidableEq, Repr

/-- A word without what stands after its first equals sign, and that. -/
def splitAtEquals (word : String) : String × Option String :=
  let characters := word.toList
  let name := characters.takeWhile (· != '=')
  match characters.drop name.length with
  | [] => (word, none)
  | _ :: value => (String.ofList name, some (String.ofList value))

/-- Reads a word with a long option. -/
def readLong (flags : FlagWords) (word : String) : Option OptionWord :=
  let (name, value) := splitAtEquals word
  match flags.lookup name with
  | none => none
  | some flag =>
    match flag.takesValue, value with
    | true, none => some { settings := [], pending := some flag }
    | true, some value => some { settings := [{ flag, value := some value }], pending := none }
    | false, none => some { settings := [{ flag, value := none }], pending := none }
    | false, some _ => none

/-- Reads a word with short options, given its letters. -/
def readShort (flags : FlagWords) : List Char → Option OptionWord
  | [] => some { settings := [], pending := none }
  | letter :: rest =>
    match flags.lookup ("-" ++ String.singleton letter) with
    | none => none
    | some flag =>
      if flag.takesValue then
        if rest.isEmpty then
          some { settings := [], pending := some flag }
        else
          some { settings := [{ flag, value := some (String.ofList rest) }], pending := none }
      else
        (readShort flags rest).map fun word =>
          { word with settings := { flag, value := none } :: word.settings }

/-- Reads a word with options. -/
def readOption (flags : FlagWords) (word : String) : Option OptionWord :=
  if "--".toList.isPrefixOf word.toList then readLong flags word
  else readShort flags (word.toList.drop 1)

/-- Whether a word is an option where options may stand. -/
def isOption (word : String) : Bool :=
  word.toList.head? == some '-' && 1 < word.length && word != "--"

/-- Takes a command line apart, if its options exist and have their values. -/
def takeApart (flags : FlagWords) : List String → Option Words
  | [] => some { settings := [], others := [] }
  | word :: rest =>
    if word = "--" then
      some { settings := [], others := rest }
    else if isOption word then
      match readOption flags word, rest with
      | none, _ => none
      | some { settings, pending := none }, rest =>
        (takeApart flags rest).map fun words => words.withSettings settings
      | some { settings, pending := some flag }, value :: rest =>
        (takeApart flags rest).map fun words =>
          words.withSettings (settings ++ [{ flag, value := some value }])
      | some { pending := some _, .. }, [] => none
    else
      (takeApart flags rest).map fun words => { words with others := word :: words.others }

/-- The options for rendering a document. -/
structure RenderRequest where
  /-- The document. -/
  document : FilePath
  /-- The file to write to, instead of the output. -/
  output : Option FilePath
  /-- The number of spaces of a level. -/
  indent : Option Int
  /-- Whether tabs are asked for. -/
  tab : Bool
  /-- Whether the text ends with a newline, if that is said. -/
  trailingNewline : Option Bool
  /-- The file with format options. -/
  config : Option FilePath
  /-- Whether more records are asked for. -/
  verbose : Bool
deriving DecidableEq, Repr

/-- The options for checking a document. -/
structure CheckRequest where
  /-- The document. -/
  document : FilePath
  /-- Whether more records are asked for. -/
  verbose : Bool
deriving DecidableEq, Repr

/-- What a command line asks for. -/
inductive Request where
  /-- The version of the program. -/
  | version
  /-- An explanation. -/
  | help
  /-- The rendered text of a document. -/
  | render (request : RenderRequest)
  /-- A check of a document. -/
  | check (request : CheckRequest)
deriving DecidableEq, Repr

/-- The last value of an option. -/
def lastValue? (settings : List Setting) (flag : Flag) : Option String :=
  ((settings.filter fun setting => setting.flag == flag).getLast?).bind Setting.value

/-- Whether an option is used. -/
def isUsed (settings : List Setting) (flag : Flag) : Bool :=
  settings.any fun setting => setting.flag == flag

/-- What the last of the options for the newline says. -/
def newlineChoice (settings : List Setting) : Option Bool :=
  ((settings.filter fun setting =>
    setting.flag == .newline || setting.flag == .noNewline).getLast?).map fun setting =>
      setting.flag == .newline

/-- The number of spaces that is asked for: nothing, a number, or no number. -/
def indentChoice (settings : List Setting) : Option (Option Int) :=
  match lastValue? settings .indent with
  | none => some none
  | some text =>
    match readInteger 10 text.toList with
    | .number number => some (some number)
    | _ => none

/-- What a command line for rendering asks for, if it is well formed. -/
def renderRequest? (words : List String) : Option Request := do
  let { settings, others } ← takeApart renderFlags words
  if isUsed settings .help then
    some .help
  else
    match others with
    | [document] =>
      let indent ← indentChoice settings
      some (.render {
        document := FilePath.ofText document
        output := (lastValue? settings .output).map FilePath.ofText
        indent
        tab := isUsed settings .tab
        trailingNewline := newlineChoice settings
        config := (lastValue? settings .config).map FilePath.ofText
        verbose := isUsed settings .verbose })
    | _ => none

/-- What a command line for checking asks for, if it is well formed. -/
def checkRequest? (words : List String) : Option Request := do
  let { settings, others } ← takeApart checkFlags words
  if isUsed settings .help then
    some .help
  else
    match others with
    | [document] =>
      some (.check { document := FilePath.ofText document, verbose := isUsed settings .verbose })
    | _ => none

/-- What the name of a command and the words after it ask for. -/
def subcommand? : List String → Option Request
  | "render" :: rest => renderRequest? rest
  | "check" :: rest => checkRequest? rest
  | _ => none

/-- What an option of the whole program asks for. -/
def programRequest? : String → Option Request
  | "--version" => some .version
  | "--help" => some .help
  | _ => none

/-- The words without two dashes in front. -/
def dropDashes : List String → List String
  | "--" :: rest => rest
  | words => words

/-- What a command line asks for, if it is well formed. Options of the whole program
stand before the name of the command, and the first of them decides. -/
def request? (words : List String) : Option Request := do
  match ← (words.takeWhile isOption).mapM programRequest? with
  | request :: _ => some request
  | [] => subcommand? (dropDashes words)

end Command

end CodeLayout
