import CodeLayout.Format.Basic
import CodeLayout.Schema.Read

/-!
# Format options

A format is chosen by options. Each option has a default, options that do not
exist are refused, and all problems are reported together: first those of the
existing options, then the others in the order given.

Options come in layers. `Format.merge` puts a layer on top of a format; an
option without a value leaves what is below.
-/

set_option autoImplicit false

namespace CodeLayout

namespace Format

/-- The name of the option for the indentation. -/
def indentOption : String := "indent"

/-- The name of the option for the newline at the end. -/
def trailingNewlineOption : String := "trailing_newline"

/-- The names of all options. -/
def optionNames : List String := [indentOption, trailingNewlineOption]

/-- Reads a unit of indentation. -/
def readUnit (value : Value) : Except Cause IndentUnit :=
  match Field.integer value with
  | .error cause => .error cause
  | .ok code =>
    match IndentUnit.ofCode? code with
    | some unit => .ok unit
    | none => .error .indentRange

/-- The format chosen by options. -/
def ofOptions (options : Options) : Except Report Format :=
  let entries := options.toEntries
  let unit := Field.optional entries indentOption standard.unit readUnit
  let newline :=
    Field.optional entries trailingNewlineOption standard.trailingNewline Field.boolean
  match Options.unreadableKey? optionNames entries with
  | some first => .error { model := "Format", first, others := [] }
  | none =>
    match unit, newline, Options.unexpected optionNames entries with
    | .ok unit, .ok trailingNewline, [] => .ok { unit, trailingNewline }
    | .ok _, .ok _, first :: others => .error { model := "Format", first, others }
    | .error first, newline, extra =>
      .error { model := "Format", first, others := Field.problems newline ++ extra }
    | .ok _, .error first, extra => .error { model := "Format", first, others := extra }

/-- The options that choose a format. -/
def toOptions (format : Format) : Options :=
  [(indentOption, .int format.indent), (trailingNewlineOption, .bool format.trailingNewline)]

/-- A layer of options over others. Options without a value are left out. -/
def layer (below above : Options) : Options :=
  above.foldl
    (fun options option =>
      if option.2.isNull then options else options.put option.1 option.2)
    below

/-- Puts a layer of options on top of a format. -/
def merge (base : Format) (above : Options) : Except Report Format :=
  ofOptions (layer base.toOptions above)

/-- A format with another indentation. -/
def withIndent (format : Format) (indent : Value) : Except Report Format :=
  ofOptions [(indentOption, indent), (trailingNewlineOption, .bool format.trailingNewline)]

/-- A format with another choice for the newline at the end. -/
def withTrailingNewline (format : Format) (newline : Value) : Except Report Format :=
  ofOptions [(indentOption, .int format.indent), (trailingNewlineOption, newline)]

/-- The report of an attempt to change a format in place. -/
def frozenReport (name : String) (input : Value) : Report where
  model := "Format"
  first := { place := [name], cause := .frozen, input }
  others := []

end Format

end CodeLayout
