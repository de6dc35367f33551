import CodeLayout.Files.Path
import CodeLayout.Schema.Problem
import CodeLayout.Template.Fault
import CodeLayout.Text.Utf8
import CodeLayout.Yaml.Failure

/-!
# Document errors

What can be wrong with a document, and where. The place of an error is the name of
the document or the path of a node in it, and stands in front of the wording.

Besides these errors a document can fail in ways that are none of its own: a value
of the text may not exist, an operation in a template may not be defined, the bytes of a
file may be no text, and its path may be none for the system.
-/

set_option autoImplicit false

namespace CodeLayout

/-- The kinds of node that a mapping can stand for. -/
inductive NodeKind where
  | block
  | concat
  | line
  | list
deriving DecidableEq, Repr

namespace NodeKind

/-- All kinds of node, ordered by name. -/
def all : List NodeKind := [.block, .concat, .line, .list]

/-- The name of a kind of node. -/
def name : NodeKind → String
  | .block => "block"
  | .concat => "concat"
  | .line => "line"
  | .list => "list"

/-- The names of all kinds of node, written out. -/
def allNames : String := listText (all.map fun kind => quoted kind.name)

/-- The kind of node with a name. -/
def ofName? (name : String) : Option NodeKind := all.find? fun kind => kind.name == name

end NodeKind

/-- What is wrong with a document. -/
inductive DocumentProblem where
  /-- The text is not well formed. -/
  | malformed
  /-- The text is no mapping. -/
  | notMapping
  /-- There is no root node. -/
  | noRoot
  /-- Entries of the document do not fit. -/
  | invalid (report : Report)
  /-- The file cannot be read, for a reason in its own wording. -/
  | unreadable (reason : String)
  /-- A value, written out, where a node is expected. -/
  | notNode (shown : String)
  /-- A mapping with more or fewer keys than one. The keys are sorted. -/
  | notOneKey (keys : List String)
  /-- A kind of node that does not exist. -/
  | unknownKind (name : String)
  /-- A value of a type that is no node. -/
  | unsupported (typeName : String)
  /-- A line that is neither a text nor a number. -/
  | notLine
  /-- A block or list that is not described by a mapping. -/
  | notDescribed
  /-- A concatenation that is no sequence. -/
  | notSequence
  /-- An entry that does not fit. -/
  | entry (cause : Cause)
  /-- A text that is no template, or a template without what it asks for. -/
  | template (fault : Template.Fault)

/-- The wording of what is wrong with a document. -/
def DocumentProblem.message : DocumentProblem → String
  | .malformed => "failed to parse YAML: " ++ Yaml.Failure.malformed.message
  | .notMapping => "document must be a mapping at the top level"
  | .noRoot => "document has no 'root' node"
  | .invalid report => "invalid document: " ++ report.text
  | .unreadable reason => "could not read file: " ++ reason
  | .notNode shown => "expected a node, got " ++ shown
  | .notOneKey keys =>
    "a node mapping needs exactly one of " ++ NodeKind.allNames ++ ", got " ++
      listText (keys.map quoted)
  | .unknownKind name =>
    "unknown node kind '" ++ name ++ "' (expected one of " ++ NodeKind.allNames ++ ")"
  | .unsupported typeName => "unsupported node type " ++ typeName
  | .notLine => "'line' must be a string or a number"
  | .notDescribed => "expected a mapping"
  | .notSequence => "'concat' must be a sequence"
  | .entry cause => cause.message
  | .template fault => "template error: " ++ fault.message

/-- Something wrong with a document, and where. -/
structure DocumentError where
  /-- The name of the document or the path of a node. -/
  place : String
  /-- What is wrong. -/
  problem : DocumentProblem

/-- A wording with a place in front of it, if there is one. -/
def placed (place message : String) : String :=
  if place = "" then message else place ++ ": " ++ message

/-- The wording of a document error. -/
def DocumentError.message (error : DocumentError) : String :=
  placed error.place error.problem.message

/-- Why there is no document. -/
inductive DocumentFailure where
  /-- Something is wrong with the document. -/
  | document (error : DocumentError)
  /-- A value in the text does not exist. -/
  | value (failure : Yaml.Failure)
  /-- An operation in a template is not defined. -/
  | operation (fault : Template.Fault)
  /-- A number has too many digits for a text. -/
  | digits
  /-- The bytes of the file are no text. -/
  | encoding (error : DecodeError)
  /-- The system does not take the path of the file. -/
  | path (fault : PathFault)

/-- The wording of a failure. -/
def DocumentFailure.message : DocumentFailure → String
  | .document error => error.message
  | .value failure => failure.message
  | .operation fault => fault.message
  | .digits => Template.BadValue.digits.message
  | .encoding error => error.message
  | .path fault => fault.message

end CodeLayout
