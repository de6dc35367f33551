import CodeLayout.Text.Blank

/-!
# Line buffers

A layout writes into a buffer of lines with two kinds of edit. The first writes
a text, either on a new line or joined to the last line. The second glues a
text to the last line without any space.

A new line blanks the line before it when that line shows nothing, so the
indent of an empty line never stays in the output. A joined text is separated
from the last line by one space, unless the last line is empty or is no more
than the indent.

Main statements: `Edit.length_apply` says that the number of lines after an edit
depends only on the number before it.
-/

set_option autoImplicit false

namespace CodeLayout

/-- The lines written so far. -/
abbrev Buffer := List String

namespace Buffer

/-- Applies a function to the last line, if there is one. -/
def mapLast (change : String → String) : Buffer → Buffer
  | [] => []
  | [last] => [change last]
  | first :: second :: rest => first :: mapLast change (second :: rest)

@[simp]
theorem length_mapLast (change : String → String) : ∀ buffer : Buffer,
    (mapLast change buffer).length = buffer.length
  | [] => rfl
  | [_] => rfl
  | _ :: second :: rest => by simp [mapLast, length_mapLast change (second :: rest)]

/-- The last line with a text joined to it. -/
def joined (indent last text : String) : String :=
  if last = "" ∨ last = indent then last ++ text else last ++ " " ++ text

/-- A line without its white space, if it has nothing else. -/
def blanked (line : String) : String :=
  if isBlankText line then "" else line

/-- Writes a text onto the last line when it connects and there is a line, and
onto a new line otherwise. -/
def appendLine (buffer : Buffer) (text : String) (connect : Bool) (indent : String) : Buffer :=
  if connect && !buffer.isEmpty then
    buffer.mapLast fun last => joined indent last text
  else
    buffer.mapLast blanked ++ [indent ++ text]

/-- Glues a text to the last line, if there is one. -/
def glue (buffer : Buffer) (text : String) : Buffer :=
  buffer.mapLast fun last => last ++ text

end Buffer

/-- One step of writing into a buffer. -/
inductive Edit where
  /-- Writes a line, joined to the last line when it connects. -/
  | line (text : String) (connect : Bool) (indent : String)
  /-- Glues a text to the last line. -/
  | glue (text : String)
deriving DecidableEq, Repr

namespace Edit

/-- The buffer after an edit. -/
def apply (buffer : Buffer) : Edit → Buffer
  | .line text connect indent => buffer.appendLine text connect indent
  | .glue text => buffer.glue text

/-- The number of lines after an edit. -/
def height (lines : Nat) : Edit → Nat
  | .line _ connect _ => if connect && lines != 0 then lines else lines + 1
  | .glue _ => lines

/-- The number of lines after an edit depends only on the number before it. -/
theorem length_apply (buffer : Buffer) (edit : Edit) :
    (apply buffer edit).length = height buffer.length edit := by
  cases edit with
  | line text connect indent =>
    cases connect <;> cases buffer <;> simp [apply, height, Buffer.appendLine]
  | glue text => simp [apply, height, Buffer.glue]

/-- The buffer after a sequence of edits. -/
def applyAll (buffer : Buffer) (edits : List Edit) : Buffer :=
  edits.foldl apply buffer

/-- The number of lines after a sequence of edits. -/
def heightAfter (lines : Nat) (edits : List Edit) : Nat :=
  edits.foldl height lines

/-- The number of lines after a sequence of edits depends only on the number
before it. -/
theorem length_applyAll (edits : List Edit) : ∀ buffer : Buffer,
    (applyAll buffer edits).length = heightAfter buffer.length edits := by
  induction edits with
  | nil => intro buffer; rfl
  | cons edit rest ih =>
    intro buffer
    simp only [applyAll, heightAfter, List.foldl_cons]
    rw [← length_apply]
    exact ih (apply buffer edit)

end Edit

end CodeLayout
