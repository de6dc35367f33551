import CodeLayout.Document.File
import CodeLayout.Layout

/-!
# The text of a document

The tree of a document becomes text under a format. How many lines it took, and how
many its size hint allows, is noted in the log.
-/

set_option autoImplicit false

namespace CodeLayout

namespace Document

/-- Where records about rendering come from. -/
def renderSource : String := "codeshape.fragment.renderer"

/-- The record about a fragment that took so many lines. -/
def renderRecord (fragment : Decided) (height : Nat) : String :=
  "Rendered " ++ fragment.kindName ++ " into " ++ toString height ++ " line(s) (size hint " ++
    toString fragment.sizeHint ++ ")"

/-- The text of a document under a format, noted in the log. -/
def render (format : Format) (document : Document) : Logging LayoutError String := do
  let fragment := document.root.sketch.settle
  match fragment.renderLines format with
  | .error error => throw error
  | .ok lines =>
    Logging.note .debug renderSource (renderRecord fragment lines.length)
    pure (format.joinLines lines)

end Document

end CodeLayout
