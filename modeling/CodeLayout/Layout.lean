import CodeLayout.Buffer
import CodeLayout.Format.Basic
import CodeLayout.Fragment.Decision

/-!
# Layout

A layout turns a decided fragment into edits of a line buffer. A line writes
itself. A block writes its start, its children and its closing line; the
children join the same line when the block inlines, and are indented on their
own lines otherwise. A concatenation writes its children in order and passes a
wish to connect to the first of them. A list writes the items that are not
empty and glues its separator to the line before each next item.

An item of a list joins the line before it when the list inlines, or when the
item before it took more than one line and the item itself is not a block that
inlines. After the last item the trailing rule decides about one more
separator; whether the list took more than one line is seen from the number of
lines written.

Nothing in a layout depends on the text in the buffer. The edits depend on the
number of lines in it only, and `Edit.heightAfter` carries that number along.
A layout stops at a node that has no layout, or at a condition that failed, and
keeps the edits made before.
-/

set_option autoImplicit false

namespace CodeLayout

/-- Why a layout stopped. -/
inductive LayoutError where
  /-- A node of this kind has no layout. -/
  | foreign (kind : String)
  /-- A condition gave no answer. -/
  | undecided (error : ConditionError)
deriving DecidableEq, Repr

/-- The wording of a layout error. -/
def LayoutError.message : LayoutError → String
  | .foreign kind => "Unknown fragment type: " ++ kind
  | .undecided error => error.message

/-- The edits of a layout, and the error it stopped with. -/
structure Emission where
  /-- The edits in order. -/
  edits : List Edit
  /-- The error after the last edit. -/
  failure : Option LayoutError
deriving DecidableEq, Repr

namespace Emission

/-- No edit. -/
def nothing : Emission where
  edits := []
  failure := none

/-- One edit. -/
def single (edit : Edit) : Emission where
  edits := [edit]
  failure := none

/-- An error without an edit. -/
def failed (error : LayoutError) : Emission where
  edits := []
  failure := some error

/-- Goes on after an emission that did not fail, with the number of lines it
left. -/
def andThen (first : Emission) (height : Nat) (next : Nat → Emission) : Emission :=
  match first.failure with
  | some error => { edits := first.edits, failure := some error }
  | none =>
    let second := next (Edit.heightAfter height first.edits)
    { edits := first.edits ++ second.edits, failure := second.failure }

/-- The first failure is the one that counts. -/
theorem failure_andThen (first : Emission) (height : Nat) (next : Nat → Emission) :
    (first.andThen height next).failure =
      first.failure.or (next (Edit.heightAfter height first.edits)).failure := by
  rw [andThen]
  cases first.failure with
  | none => rfl
  | some error => rfl

/-- Goes on with an answer, or fails where there is none. -/
def decide (decision : Decision) (next : Bool → Emission) : Emission :=
  match decision with
  | .ok answer => next answer
  | .error error => failed (.undecided error)

/-- The buffer an emission leaves. -/
def applyTo (emission : Emission) (buffer : Buffer) : Buffer :=
  Edit.applyAll buffer emission.edits

end Emission

/-- Where a list stands between its items. -/
inductive ItemPlace where
  /-- Before the first item, which connects as the list does. -/
  | first (connect : Bool)
  /-- After an item, which took more than one line or did not. -/
  | after (tall : Bool)
deriving DecidableEq, Repr

/-- Whether an item joins the line of the item before it. -/
def joinsPrevious (inlining tall : Bool) (item : Decided) : Decision :=
  if inlining then
    .ok true
  else if tall then
    match item with
    | .block _ _ _ _ decision => decision.map not
    | .line _ => .ok true
    | .list _ _ _ _ => .ok true
    | .concat _ => .ok true
    | .foreign _ => .ok true
  else
    .ok false

/-- Whether a separator follows the last item of a list that took more than one
line or did not. -/
def Trailing.applies : Trailing → Bool → Bool
  | .ifMultiLine, tall => tall
  | .always, _ => true
  | .never, _ => false

namespace Fragment

mutual

/-- The edits that write a fragment into a buffer with so many lines. -/
def emit (unit : IndentUnit) : Decided → Bool → String → Nat → Emission
  | .line text, connect, indent, _ => .single (.line text connect indent)
  | .block start body close connects inlining, connect, indent, height =>
    (Emission.single (.line start (connects || connect) indent)).andThen height fun opened =>
      Emission.decide inlining fun inline =>
        (emitAll unit body inline (if inline then indent else indent ++ unit.text) opened).andThen
          opened fun _ => .single (.line close inline indent)
  | .list separator body trailing inlining, connect, indent, height =>
    Emission.decide inlining fun inline =>
      (emitItems unit separator inline body (.first connect) indent height).andThen
        height fun grown =>
          if trailing.applies (height + 1 < grown) then .single (.glue separator) else .nothing
  | .concat body, connect, indent, height => emitSequence unit body connect indent height
  | .foreign kind, _, _, _ => .failed (.foreign kind)

/-- Writes the children of a block, all connecting or none. -/
def emitAll (unit : IndentUnit) : List Decided → Bool → String → Nat → Emission
  | [], _, _, _ => .nothing
  | first :: rest, connect, indent, height =>
    (emit unit first connect indent height).andThen height fun grown =>
      emitAll unit rest connect indent grown

/-- Writes the children of a concatenation. Only the first may connect. -/
def emitSequence (unit : IndentUnit) : List Decided → Bool → String → Nat → Emission
  | [], _, _, _ => .nothing
  | first :: rest, connect, indent, height =>
    (emit unit first connect indent height).andThen height fun grown =>
      emitSequence unit rest false indent grown

/-- Writes the items of a list. -/
def emitItems (unit : IndentUnit) (separator : String) (inlining : Bool) :
    List Decided → ItemPlace → String → Nat → Emission
  | [], _, _, _ => .nothing
  | item :: rest, place, indent, height =>
    if item.isEmpty then
      emitItems unit separator inlining rest place indent height
    else
      match place with
      | .first connect =>
        (emit unit item connect indent height).andThen height fun grown =>
          emitItems unit separator inlining rest (.after (height + 1 < grown)) indent grown
      | .after tall =>
        (Emission.single (.glue separator)).andThen height fun _ =>
          Emission.decide (joinsPrevious inlining tall item) fun join =>
            (emit unit item join indent height).andThen height fun grown =>
              emitItems unit separator inlining rest (.after (height + 1 < grown)) indent grown

end

/-- Writes a decided fragment into a buffer. -/
def renderInto (format : Format) (fragment : Decided) (buffer : Buffer) (connect : Bool)
    (indent : String) : Buffer × Option LayoutError :=
  let emission := fragment.emit format.unit connect indent buffer.length
  (emission.applyTo buffer, emission.failure)

/-- The lines of a decided fragment. -/
def renderLines (format : Format) (fragment : Decided) : Except LayoutError (List String) :=
  match renderInto format fragment [] false "" with
  | (lines, none) => .ok lines
  | (_, some error) => .error error

end Fragment

/-- A text without the newlines at its end. -/
def dropTrailingNewlines (text : String) : String :=
  String.ofList (text.toList.reverse.dropWhile (· == '\n')).reverse

/-- The text of rendered lines. With a trailing newline, a text that is not
empty ends with exactly one newline. -/
def Format.joinLines (format : Format) (lines : List String) : String :=
  let text := "\n".intercalate lines
  if format.trailingNewline && text != "" then
    dropTrailingNewlines text ++ "\n"
  else
    text

/-- The text of a decided fragment. -/
def Fragment.render (format : Format) (fragment : Decided) : Except LayoutError String :=
  (fragment.renderLines format).map format.joinLines

end CodeLayout
