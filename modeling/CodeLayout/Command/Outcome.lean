import CodeLayout.Document.Error
import CodeLayout.Layout
import CodeLayout.Project
import CodeLayout.Text.TerminalSequence

/-!
# Outcomes of a command

What a command leaves behind besides files: an exit code, texts for the output and
for the error output, and the records that the reader of its log sees.

A failure that the program knows is told in its own words and has an exit code of
its own. Any other failure is called unexpected, is noted in the log, and ends with
the exit code 1. A command line that is not well formed ends with the exit code 2.

What is told goes to a file or to another program. A terminal would take the
sequences in it as commands; here they are left out.
-/

set_option autoImplicit false

namespace CodeLayout

/-- A failure as it is told to the reader. -/
inductive Complaint where
  /-- A failure that the program knows. -/
  | known (message : String) (exitCode : Int)
  /-- Any other failure. -/
  | unexpected (message : String)
deriving DecidableEq, Repr

namespace Complaint

/-- The exit code of a failure that has no other. -/
def usualCode : Int := 1

/-- The exit code after a failure. -/
def exitCode : Complaint → Int
  | .known _ code => code
  | .unexpected _ => usualCode

/-- What is told about a failure. -/
def text : Complaint → String
  | .known message _ => "Error: " ++ message ++ "\n"
  | .unexpected message => "Unexpected error: " ++ message ++ "\n"

/-- Where records about unexpected failures come from. -/
def logSource : String := "codeshape.cli"

/-- What is noted about a failure. -/
def records : Complaint → List LogRecord
  | .known _ _ => []
  | .unexpected _ => [{ level := .debug, source := logSource, message := "Unexpected error" }]

/-- How the failure to read a document is told. -/
def ofDocument : DocumentFailure → Complaint
  | .document error => .known error.message usualCode
  | failure => .unexpected failure.message

/-- How the failure to find a format is told. -/
def ofConfig : ConfigFailure → Complaint
  | .config error => .known error.message usualCode
  | failure => .unexpected failure.message

/-- How the failure to render a document is told. -/
def ofLayout (error : LayoutError) : Complaint := .unexpected error.message

end Complaint

/-- Why a result could not be written. -/
inductive WriteProblem where
  /-- The path cannot be used. -/
  | path (problem : FileProblem)
  /-- The text has surrogates, for which there are no bytes. -/
  | surrogates
deriving DecidableEq, Repr

/-- The wording of the problem. -/
def WriteProblem.wording : WriteProblem → String
  | .path problem => problem.wording
  | .surrogates => "surrogates not allowed"

/-- What a command leaves behind besides files. -/
structure Outcome where
  /-- The exit code. -/
  exitCode : Int
  /-- The text on the output. -/
  output : String
  /-- The text on the error output. -/
  errorOutput : String
  /-- The records in the log. -/
  log : List LogRecord
  /-- Why the result could not be written, after which nothing more is told. -/
  unwritten : Option WriteProblem
deriving DecidableEq, Repr

namespace Command

/-- The name of the program. -/
def programName : String := "codeshape"

/-- The version of the program. -/
def version : String := "0.1.0"

/-- The line that tells the version. -/
def versionLine : String := programName ++ " " ++ version ++ "\n"

/-- How the program is used. -/
def usageLine : String :=
  "Usage: " ++ programName ++ " [--version] [--help] (render | check) [OPTIONS] DOCUMENT\n"

/-- The level of the log: everything when debugging, more than usual when asked for. -/
def logLevel (verbose debugging : Bool) : LogLevel :=
  if debugging then .debug else if verbose then .info else .warning

/-- The variable of the environment that turns debugging on. -/
def debugVariable : String := "CODESHAPE_DEBUG"

/-- Whether the value of that variable turns debugging on: any text but the empty
one does. -/
def isDebugging : Option String → Bool
  | none => false
  | some setting => setting != ""

end Command

namespace Outcome

/-- A text with its surrogates written by their numbers. -/
def surrogatesEscaped (text : String) : String :=
  String.ofList (text.toList.flatMap fun character =>
    if isSurrogate character then escapeCode (codeOf character) else [character])

/-- Ends well with a text on the output. -/
def printed (output : String) (log : List LogRecord) : Outcome where
  exitCode := 0
  output := withoutSequences output
  errorOutput := ""
  log
  unwritten := none

/-- Ends with a complaint, after some records. -/
def failed (level : LogLevel) (records : List LogRecord) (complaint : Complaint) : Outcome where
  exitCode := complaint.exitCode
  output := ""
  errorOutput := surrogatesEscaped (withoutSequences complaint.text)
  log := recordsFrom level (records ++ complaint.records)
  unwritten := none

/-- Ends because the result could not be written. -/
def notWritten (problem : WriteProblem) (log : List LogRecord) : Outcome where
  exitCode := 1
  output := ""
  errorOutput := ""
  log
  unwritten := some problem

/-- Ends because the command line is not well formed. -/
def misused : Outcome where
  exitCode := 2
  output := ""
  errorOutput := Command.usageLine
  log := []
  unwritten := none

end Outcome

end CodeLayout
