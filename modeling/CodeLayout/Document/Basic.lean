import CodeLayout.Document.Node
import CodeLayout.Yaml.Load

/-!
# Documents

A document is a YAML text with a root node, and may have format options and
variables for its templates. `Document.parse` reads one.
-/

set_option autoImplicit false

namespace CodeLayout

/-- A document that has been read. -/
structure Document where
  /-- The name of the document. -/
  source : String
  /-- The tree of its root node. -/
  root : DocumentTree
  /-- Its format options. -/
  format : Options
  /-- The variables of its templates. -/
  bindings : Options

namespace Document

/-- The name of a document that has no other. -/
def unnamed : String := "<string>"

/-- The path of the root node. -/
def rootPath : String := "root"

/-- Reads the document that a value describes. -/
def ofValue (name : String) (value : Value) : Except DocumentFailure Document :=
  match value.opened with
  | .map entries =>
    match Value.lookup? DocumentEntries.rootEntry entries with
    | none => .error (problemAt name .noRoot)
    | some root =>
      match DocumentEntries.read entries root with
      | .error report => .error (problemAt name (.invalid report))
      | .ok read =>
        match ((Node.build rootPath read.root).run).run read.bindings.toEntries with
        | (.error failure, _) => .error failure
        | (.ok root, bindings) =>
          .ok { source := name, root, format := read.format,
                bindings := (Options.ofTextKeys? bindings).getD read.bindings }
  | _ => .error (problemAt name .notMapping)

/-- Reads a document from a text. -/
def parse (name text : String) : Except DocumentFailure Document :=
  match Yaml.load text with
  | .error .malformed => .error (problemAt name .malformed)
  | .error failure => .error (.value failure)
  | .ok value => ofValue name value

end Document

end CodeLayout
