import CodeLayout.Document.Basic
import CodeLayout.Files.Basic
import CodeLayout.Log
import CodeLayout.Text.LineBreak

/-!
# Document files

A document is read from a file whose bytes are a text. The path of the file is the
name of the document. What the system says about the path is an error of the document; a
path that the system does not take is not.
-/

set_option autoImplicit false

namespace CodeLayout

namespace Document

/-- Where records about documents come from. -/
def logSource : String := "codeshape.document"

/-- Reads the document in a file. -/
def readFile (files : Files) (work : Location) (path : FilePath) :
    Except DocumentFailure Document :=
  match files.read work path with
  | .error (.path fault) => .error (.path fault)
  | .error problem => .error (problemAt path.text (.unreadable (problem.message path)))
  | .ok bytes =>
    match Utf8.decode bytes with
    | .error error => .error (.encoding error)
    | .ok text => parse path.text (String.ofList (uniformLines text.toList))

/-- Reads the document in a file, noted in the log. -/
def load (files : Files) (work : Location) (path : FilePath) :
    Logging DocumentFailure Document := do
  match readFile files work path with
  | .error failure => throw failure
  | .ok document =>
    Logging.note .debug logSource ("Parsed document " ++ path.text ++ " (size hint " ++
      toString document.root.sizeHint ++ ")")
    Logging.note .info logSource ("Loaded document " ++ path.text)
    pure document

end Document

end CodeLayout
