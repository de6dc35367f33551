import CodeLayout.Document.Mode
import CodeLayout.Schema.Read

/-!
# The entries of a document

A block, a list and the document itself are described by mappings with fixed
entries. Some entries are needed and others have defaults, and there may be no
others. The entries of a node are checked in a fixed order up to the first one
that does not fit; those of the document are all checked and reported together.
-/

set_option autoImplicit false

namespace CodeLayout

namespace InlineMode

/-- The name of the entry for a limit. -/
def limitEntry : String := "max_items"

/-- Reads a limit: a mapping with a number that is not negative. -/
def limit? (entries : List (Value × Value)) : Option Nat :=
  if (Options.unexpected [limitEntry] entries).isEmpty then
    match (Value.lookup? limitEntry entries).map Field.integer with
    | some (.ok number) => if number < 0 then none else some number.toNat
    | _ => none
  else
    none

/-- Reads a mode. -/
def read (value : Value) : Except Cause InlineMode :=
  match value.opened with
  | .text word =>
    if hasSurrogates word then .error .unreadableText else
    match ofWord? word with
    | some mode => .ok mode
    | none => .error (.notOneOf words "literal_error")
  | .map entries =>
    match limit? entries with
    | some limit => .ok (.maxItems limit)
    | none => .error (.notOneOf words "literal_error")
  | _ => .error (.notOneOf words "literal_error")

/-- The last part of the place of a mode that cannot be read. -/
def wordPlace : String := "literal[" ++ ",".intercalate (words.map quoted) ++ "]"

end InlineMode

/-- Reads a rule for the separator after the last item. -/
def Trailing.read (value : Value) : Except Cause Trailing :=
  match value.text?.bind Trailing.ofName? with
  | some trailing => .ok trailing
  | none =>
    if (value.text?.map hasSurrogates).getD false then .error .unreadableText
    else .error (.notOneOf (Trailing.all.map Trailing.name) "enum")

/-- The entry of an inlining mode. A mode that cannot be read has a place of its
own. -/
def readMode (entries : List (Value × Value)) : Except Problem InlineMode :=
  match Field.optional entries "inline" .auto InlineMode.read with
  | .ok mode => .ok mode
  | .error problem => .error { problem with place := problem.place ++ [InlineMode.wordPlace] }

/-- Refuses entries that are none of some known ones. -/
def refuseOthers (known : List String) (entries : List (Value × Value)) : Except Problem Unit :=
  match Options.unexpected known entries with
  | [] => .ok ()
  | first :: _ => .error first

/-- Refuses keys that cannot be read as text. -/
def refuseUnreadable (known : List String) (entries : List (Value × Value)) :
    Except Problem Unit :=
  match Options.unreadableKey? known entries with
  | none => .ok ()
  | some problem => .error problem

/-- What a document says about a block besides its children. -/
structure BlockEntries where
  /-- The start line, as a template. -/
  start : String
  /-- The closing line, as a template. -/
  close : String
  /-- Whether the block goes onto the line before it. -/
  connect : Bool
  /-- When the block goes on a single line. -/
  inline : InlineMode

namespace BlockEntries

/-- The name of the entry for the children. -/
def body : String := "body"

/-- The names of all entries. -/
def names : List String := ["start", body, "end", "connect", "inline"]

/-- Reads the entries of a block. -/
def read (entries : List (Value × Value)) : Except Problem BlockEntries := do
  refuseUnreadable names entries
  let start ← Field.required entries "start" Field.text
  let close ← Field.required entries "end" Field.text
  let connect ← Field.optional entries "connect" false Field.boolean
  let inline ← readMode entries
  refuseOthers names entries
  .ok { start, close, connect, inline }

end BlockEntries

/-- What a document says about a list besides its items. -/
structure ListEntries where
  /-- The separator, as a template. -/
  separator : String
  /-- When the separator is written after the last item. -/
  trailing : Trailing
  /-- When the list goes on a single line. -/
  inline : InlineMode

namespace ListEntries

/-- The name of the entry for the items. -/
def items : String := "items"

/-- The names of all entries. -/
def names : List String := ["separator", items, "trailing", "inline"]

/-- Reads the entries of a list. -/
def read (entries : List (Value × Value)) : Except Problem ListEntries := do
  refuseUnreadable names entries
  let separator ← Field.required entries "separator" Field.text
  let trailing ← Field.optional entries "trailing" .ifMultiLine Trailing.read
  let inline ← readMode entries
  refuseOthers names entries
  .ok { separator, trailing, inline }

end ListEntries

/-- The entries of a document. -/
structure DocumentEntries where
  /-- The format options of the document. -/
  format : Options
  /-- The variables of its templates. -/
  bindings : Options
  /-- The root node. -/
  root : Value

namespace DocumentEntries

/-- The name of the entry for the root node. -/
def rootEntry : String := "root"

/-- The names of all entries. -/
def names : List String := ["format", "vars", rootEntry]

/-- Reads an entry with a mapping whose keys are texts. -/
def options (entries : List (Value × Value)) (name : String) : Options × List Problem :=
  match Value.lookup? name entries with
  | none => ([], [])
  | some value => Options.ofValue [name] value

/-- Reads the entries of a document with this root node. -/
def read (entries : List (Value × Value)) (root : Value) : Except Report DocumentEntries :=
  let format := options entries "format"
  let bindings := options entries "vars"
  match Report.ofProblems? "DocumentConfig"
      (Options.problems names entries (format.2 ++ bindings.2)) with
  | some report => .error report
  | none => .ok { format := format.1, bindings := bindings.1, root }

end DocumentEntries

end CodeLayout
