import CodeLayout.Command.Arguments
import CodeLayout.Command.Outcome
import CodeLayout.Document.Rendering

/-!
# Running a command

A command works on files and gives its outcome with the files as they are
afterwards. Rendering reads the document, chooses the format and makes the text
before anything is written, so a failure on the way leaves all files alone. The
text goes to the output or into a file. Checking reads the document and tries its
format options, and writes no file.
-/

set_option autoImplicit false

namespace CodeLayout

namespace Command

/-- The format options on a command line. -/
def RenderRequest.options (request : RenderRequest) : Options :=
  let indent := if request.tab then some IndentUnit.tabCode else request.indent
  [(Format.indentOption, (indent.map Value.int).getD .null),
    (Format.trailingNewlineOption, (request.trailingNewline.map Value.bool).getD .null)]

/-- The text that is asked for. -/
def rendered (files : Files) (work : Location) (request : RenderRequest) :
    Logging Complaint String := do
  if request.tab && request.indent.isSome then
    throw (Complaint.ofConfig (.config .exclusive))
  let document ← (Document.load files work request.document).mapFailure Complaint.ofDocument
  let format ← (Project.resolveFormat files work request.config
    document.format.toEntries request.options.toEntries).mapFailure Complaint.ofConfig
  (document.render format).mapFailure Complaint.ofLayout

/-- What is said about a document that is well formed. -/
def verdict (path : FilePath) (document : Document) : String :=
  path.text ++ ": ok (" ++ toString document.root.count ++ " fragments, size hint " ++
    toString document.root.sizeHint ++ ")\n"

/-- What is said about a document, if it is well formed. -/
def checked (files : Files) (work : Location) (request : CheckRequest) :
    Logging Complaint String := do
  let document ← (Document.load files work request.document).mapFailure Complaint.ofDocument
  match Project.mergeFormat Format.standard document.format.toEntries with
  | .error failure => throw (Complaint.ofConfig failure)
  | .ok _ => pure (verdict request.document document)

/-- A text with a newline at its end. -/
def endLine (text : String) : String :=
  if text.toList.getLast? = some '\n' then text else text ++ "\n"

/-- The bytes of a text in a file. A text with surrogates has none. -/
def fileBytes (text : String) : List UInt8 :=
  if hasSurrogates text then [] else text.toUTF8.data.toList

/-- Where the record about a written file comes from. -/
def writeSource : String := "codeshape.cli.main"

/-- The record about a written file. -/
def writeRecord (path : FilePath) : LogRecord where
  level := .info
  source := writeSource
  message := "Wrote " ++ path.text

/-- Puts a text where it belongs: into a file or on the output. -/
def deliver (files : Files) (work : Location) (level : LogLevel) (records : List LogRecord)
    (text : String) : Option FilePath → Outcome × Files
  | none =>
    if hasSurrogates text then (.notWritten .surrogates (recordsFrom level records), files)
    else (.printed (endLine text) (recordsFrom level records), files)
  | some path =>
    match files.writeDeep work path (fileBytes text) with
    | .ok written =>
      if hasSurrogates text then (.notWritten .surrogates (recordsFrom level records), written)
      else (.printed "" (recordsFrom level (records ++ [writeRecord path])), written)
    | .error (problem, reached) =>
      (.notWritten (.path problem) (recordsFrom level records), reached)

/-- Renders a document. -/
def runRender (files : Files) (work : Location) (debugging : Bool) (request : RenderRequest) :
    Outcome × Files :=
  let level := logLevel request.verbose debugging
  match (rendered files work request).perform with
  | (.error complaint, records) => (.failed level records complaint, files)
  | (.ok text, records) => deliver files work level records text request.output

/-- Checks a document. -/
def runCheck (files : Files) (work : Location) (debugging : Bool) (request : CheckRequest) :
    Outcome × Files :=
  let level := logLevel request.verbose debugging
  match (checked files work request).perform with
  | (.error complaint, records) => (.failed level records complaint, files)
  | (.ok text, records) => deliver files work level records text none

/-- Runs a command line. -/
def run (files : Files) (work : Location) (debugging : Bool) (words : List String) :
    Outcome × Files :=
  match request? words with
  | none => (.misused, files)
  | some .version => (.printed versionLine [], files)
  | some .help => (.printed usageLine [], files)
  | some (.render request) => runRender files work debugging request
  | some (.check request) => runCheck files work debugging request

end Command

end CodeLayout
