import CodeLayout.Files.Basic
import CodeLayout.Format.Options
import CodeLayout.Log
import CodeLayout.Text.LineBreak
import CodeLayout.Text.Utf8
import CodeLayout.Yaml.Load

/-!
# Projects

The files of a project may include one with format options, which holds for all
directories below its own. The nearest one counts, unless the caller names
another.

A format is chosen in layers. From the lowest to the highest these are the
defaults, the file of the project, the options of a document, and those of the
caller.
-/

set_option autoImplicit false

namespace CodeLayout

/-- What is wrong with format options. -/
inductive ConfigError where
  /-- The file is not well formed. -/
  | malformed (path : String)
  /-- The file holds no mapping. -/
  | notMapping (path : String)
  /-- The options in the file do not fit. -/
  | invalid (path : String) (report : Report)
  /-- The file that the caller names does not exist. -/
  | notFound (path : String)
  /-- Options of a layer do not fit. -/
  | options (report : Report)
  /-- The caller asks for tabs and for a number of spaces. -/
  | exclusive

/-- The wording of an error in format options. -/
def ConfigError.message : ConfigError → String
  | .malformed path => "Invalid YAML in " ++ path ++ ": " ++ Yaml.Failure.malformed.message
  | .notMapping path => path ++ " must contain a mapping at the top level"
  | .invalid path report => "Invalid config in " ++ path ++ ": " ++ report.text
  | .notFound path => "Config file not found: " ++ path
  | .options report => "Invalid format options: " ++ report.text
  | .exclusive => "--indent and --tab are mutually exclusive"

/-- Why there is no format. -/
inductive ConfigFailure where
  /-- Something is wrong with format options. -/
  | config (error : ConfigError)
  /-- The file does not exist. -/
  | notFound (path : String)
  /-- The file cannot be read. -/
  | file (problem : FileProblem) (path : FilePath)
  /-- A value in the file does not exist. -/
  | value (failure : Yaml.Failure)
  /-- A key in the file is no text. -/
  | key
  /-- The bytes of the file are no text. -/
  | encoding (error : DecodeError)

/-- The wording of a failure. -/
def ConfigFailure.message : ConfigFailure → String
  | .config error => error.message
  | .notFound path => (ConfigError.notFound path).message
  | .file problem path => problem.message path
  | .value failure => failure.message
  | .key => "keywords must be strings"
  | .encoding error => error.message

namespace Project

/-- The name of the file with the options of a project. -/
def fileName : String := "codeshape.yaml"

/-- The nearest file with options for a directory. -/
def findFile? (files : Files) (work : Location) (directory : FilePath) : Option FilePath :=
  (directory.andAbove.map fun above => above.child fileName).find? (files.isFile work)

/-- The path of a place. -/
def pathOf (place : Location) : FilePath := { root := "/", names := place }

/-- Whether a value counts as no options at all: what is null, false, zero or
empty. -/
def isNothing : Value → Bool
  | .null => true
  | .bool truth => !truth
  | .int number => number == 0
  | .float number => number == 0.0
  | .text plain => plain.isEmpty
  | .bytes raw => raw.isEmpty
  | .scalar _ => false
  | .list items => items.isEmpty
  | .tuple items => items.isEmpty
  | .set members => members.isEmpty
  | .map entries => entries.isEmpty
  | .knot _ _ => false
  | .endless => false

/-- The name of the entry with the options. -/
def formatEntry : String := "format"

/-- The options among the entries of a project's file. -/
def readOptions (entries : List (Value × Value)) : Except Report Options :=
  let read := match Value.lookup? formatEntry entries with
    | none => ([], [])
    | some value => Options.ofValue [formatEntry] value
  match Report.ofProblems? "ProjectConfig" (Options.problems [formatEntry] entries read.2) with
  | some report => .error report
  | none => .ok read.1

/-- The format that the value of a project's file chooses. -/
def formatOfValue (path : FilePath) (value : Value) : Except ConfigFailure Format :=
  match (if isNothing value then Value.map [] else value.opened) with
  | .map entries =>
    if entries.all fun entry => entry.1.text?.isSome then
      match readOptions entries with
      | .error report => .error (.config (.invalid path.text report))
      | .ok options =>
        match Format.ofOptions options with
        | .error report => .error (.config (.invalid path.text report))
        | .ok format => .ok format
    else
      .error .key
  | _ => .error (.config (.notMapping path.text))

/-- The format that the text of a project's file chooses. -/
def formatOfText (path : FilePath) (text : String) : Except ConfigFailure Format :=
  match Yaml.load text with
  | .error .malformed => .error (.config (.malformed path.text))
  | .error failure => .error (.value failure)
  | .ok value => formatOfValue path value

/-- The format that a project's file chooses. -/
def readFormat (files : Files) (work : Location) (path : FilePath) :
    Except ConfigFailure Format :=
  if !files.exists? work path then
    .error (.notFound path.text)
  else
    match files.read work path with
    | .error problem => .error (.file problem path)
    | .ok bytes =>
      match Utf8.decodeStream bytes with
      | .error error => .error (.encoding error)
      | .ok text => formatOfText path (String.ofList (uniformLines text.toList))

/-- Where records about options come from. -/
def logSource : String := "codeshape.config"

/-- Where records about the choice of a file come from. -/
def choiceSource : String := "codeshape.cli.main"

/-- The format that a project's file chooses, noted in the log. -/
def loadFormat (files : Files) (work : Location) (path : FilePath) :
    Logging ConfigFailure Format := do
  match readFormat files work path with
  | .error failure => throw failure
  | .ok format =>
    Logging.note .info logSource ("Loaded format from " ++ path.text)
    pure format

/-- The file with options for a place: the one that the caller names, or the nearest
one. -/
def chooseFile (files : Files) (work : Location) (named : Option FilePath) :
    Logging ConfigFailure (Option FilePath) := do
  match named with
  | some path =>
    if files.exists? work path then pure (some path)
    else throw (.config (.notFound path.text))
  | none =>
    match findFile? files work (pathOf work) with
    | none => pure none
    | some path =>
      Logging.note .info choiceSource ("Using config file " ++ path.text)
      pure (some path)

/-- Puts a layer of entries on top of a format. Entries without a value do not
count. -/
def mergeFormat (base : Format) (entries : List (Value × Value)) : Except ConfigFailure Format :=
  match Options.ofTextKeys? (entries.filter fun entry => !entry.2.isNull) with
  | none => .error .key
  | some options =>
    match base.merge options with
    | .ok format => .ok format
    | .error report => .error (.config (.options report))

/-- The format for somebody who works at a place, from all layers. -/
def resolveFormat (files : Files) (work : Location) (named : Option FilePath)
    (document caller : List (Value × Value)) : Logging ConfigFailure Format := do
  let base ← match ← chooseFile files work named with
    | none => pure Format.standard
    | some path => loadFormat files work path
  let format ← ExceptT.mk (pure (mergeFormat base document))
  ExceptT.mk (pure (mergeFormat format caller))

end Project

end CodeLayout
