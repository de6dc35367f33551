import CodeLayout.Value.Basic

/-!
# The text of a value

A value has a written form that shows its structure, with texts in quotes.
Where a value is inserted into a text it is shown plainly: a text is shown as
itself, and any other value by its written form, except that dates and moments
are shown in the usual notation.

A knot is written once; inside of itself dots stand for it.

The written forms of collections are put together by functions on texts, so that
other kinds of collection can use them too.
-/

set_option autoImplicit false

namespace CodeLayout

/-- Texts in brackets. -/
def listText (items : List String) : String :=
  "[" ++ ", ".intercalate items ++ "]"

/-- Texts in parentheses. A single one has a comma after it. -/
def tupleText : List String → String
  | [] => "()"
  | [only] => "(" ++ only ++ ",)"
  | first :: second :: rest => "(" ++ ", ".intercalate (first :: second :: rest) ++ ")"

/-- Texts in braces. -/
def setText : List String → String
  | [] => "set()"
  | first :: rest => "\x7b" ++ ", ".intercalate (first :: rest) ++ "\x7d"

/-- Texts of entries in braces. -/
def mapText (entries : List (String × String)) : String :=
  "\x7b" ++ ", ".intercalate (entries.map fun entry => entry.1 ++ ": " ++ entry.2) ++ "\x7d"

namespace Value

/-- What stands for a collection inside of itself. -/
def knotText : Value → String
  | .map _ => "\x7b...\x7d"
  | .set _ => "set(...)"
  | .tuple _ => "(...)"
  | _ => "[...]"

mutual

/-- The written form of a value inside of knots with some labels. -/
def writtenInside (around : List Nat) : Value → String
  | .scalar plain => plain.written
  | .list items => listText (writtenAll around items)
  | .tuple items => tupleText (writtenAll around items)
  | .set members => setText (writtenAll around members)
  | .map entries => mapText (writtenEntries around entries)
  | .knot label inner =>
    if around.contains label then knotText (inner ())
    else writtenInside (label :: around) (inner ())
  | .endless => "..."

/-- The written forms of values. -/
def writtenAll (around : List Nat) : List Value → List String
  | [] => []
  | first :: rest => writtenInside around first :: writtenAll around rest

/-- The written forms of entries. -/
def writtenEntries (around : List Nat) : List (Value × Value) → List (String × String)
  | [] => []
  | (key, value) :: rest =>
    (writtenInside around key, writtenInside around value) :: writtenEntries around rest

end

/-- The written form of a value. -/
def written (value : Value) : String := writtenInside [] value

mutual

/-- Whether no whole number in a value, inside of knots with some labels, has too
many digits. -/
def writableInside (around : List Nat) : Value → Bool
  | .scalar plain => plain.isWritable
  | .list items => allWritable around items
  | .tuple items => allWritable around items
  | .set members => allWritable around members
  | .map entries => entriesWritable around entries
  | .knot label inner =>
    around.contains label || writableInside (label :: around) (inner ())
  | .endless => true

/-- Whether this holds for all of some values. -/
def allWritable (around : List Nat) : List Value → Bool
  | [] => true
  | first :: rest => writableInside around first && allWritable around rest

/-- Whether this holds for all keys and values of some entries. -/
def entriesWritable (around : List Nat) : List (Value × Value) → Bool
  | [] => true
  | (key, value) :: rest =>
    writableInside around key && writableInside around value && entriesWritable around rest

end

/-- Whether a value has a written form: no whole number in it has too many digits. -/
def isWritable (value : Value) : Bool := writableInside [] value

/-- A value as it is shown inside a text. -/
def shown : Value → String
  | .scalar plain => plain.shown
  | value => value.written

end Value

end CodeLayout
