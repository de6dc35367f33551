/-!
# Formats

A format says how far one level of indentation goes and whether a rendered text
ends with a newline. A level is one tab or a positive number of spaces.
-/

set_option autoImplicit false

namespace CodeLayout

/-- One level of indentation. -/
inductive IndentUnit where
  /-- One tab. -/
  | tab
  /-- So many spaces. -/
  | spaces (count : Nat) (positive : 0 < count)
deriving DecidableEq, Repr

namespace IndentUnit

/-- The number that stands for tabs where a number of spaces is written. -/
def tabCode : Int := -1

/-- The number that stands for a unit of indentation. -/
def code : IndentUnit → Int
  | .tab => tabCode
  | .spaces count _ => count

/-- The unit of indentation that a number stands for. -/
def ofCode? (code : Int) : Option IndentUnit :=
  if code = tabCode then
    some .tab
  else if positive : 0 < code.toNat then
    some (.spaces code.toNat positive)
  else
    none

/-- Reading the number of a unit gives the unit back. -/
theorem ofCode?_code (unit : IndentUnit) : ofCode? unit.code = some unit := by
  cases unit with
  | tab => rfl
  | spaces count positive =>
    have apart : (count : Int) ≠ tabCode := by simp only [tabCode]; omega
    simp [code, ofCode?, apart, positive]

/-- The text of one level of indentation. -/
def text : IndentUnit → String
  | .tab => "\t"
  | .spaces count _ => String.ofList (List.replicate count ' ')

end IndentUnit

/-- How a fragment is rendered. -/
structure Format where
  /-- One level of indentation. -/
  unit : IndentUnit
  /-- Whether the text ends with exactly one newline. -/
  trailingNewline : Bool
deriving DecidableEq, Repr

namespace Format

/-- Four spaces, and no newline at the end. -/
def standard : Format where
  unit := .spaces 4 (by decide)
  trailingNewline := false

/-- The standard format with tabs. -/
def tabs : Format where
  unit := .tab
  trailingNewline := false

/-- The number that stands for the format's indentation. -/
def indent (format : Format) : Int := format.unit.code

/-- Whether the format indents with tabs. -/
def usesTabs (format : Format) : Bool := format.unit == .tab

/-- The indent one level deeper than a base. -/
def indentWith (format : Format) (base : String) : String :=
  base ++ format.unit.text

end Format

end CodeLayout
