import CodeLayout.CalendarText
import CodeLayout.Replacement.Basic
import CodeLayout.Replacement.Writing
import CodeLayout.Template.Part

/-!
# Filling fields with objects

A text with replacement fields is filled with objects. The parts of an object that a field
names have to exist. A specifier writes scalars in its own way, a date by directives, and
no other object.

Where the text is safe for markup, what fills its fields means nothing in markup.
-/

set_option autoImplicit false

namespace CodeLayout

namespace Template

/-- Ends with an error of a field. -/
def fieldFault {α : Type} (error : Replacement.FillError) : Run α := fail (.field error)

/-- The item of an object at an index. -/
def fieldItem (owner : Object) (index : Nat) : Run Object := do
  match owner with
  | .map _ =>
    match ← itemOf? owner (.int index) with
    | some found => return found
    | none => fieldFault (.noKey (toString index))
  | .set _ => fieldFault (.noItems "set")
  | owner =>
    match ← itemOf? owner (.int index), ← sequence? owner with
    | some found, _ => return found
    | none, some kind => fieldFault (.noItem kind)
    | none, none => fieldFault (.noItems owner.typeName)
where
  /-- The type of a sequence in the wording of an index beyond its end. -/
  sequence? (owner : Object) : Run (Option String) := do
    match owner with
    | .text _ => return some "str"
    | .safe _ => return some "str"
    | .list _ => return some "list"
    | .tuple _ => return some "tuple"
    | .range _ _ _ => return some "range object"
    | _ => return none

/-- The object under a text in an object. -/
def fieldEntry (owner : Object) (key : String) : Run Object := do
  match owner with
  | .map _ =>
    match ← itemOf? owner (.text key) with
    | some found => return found
    | none => fieldFault (.noKey (quoted key))
  | .list _ => fieldFault (.keyOfList "list")
  | .tuple _ => fieldFault (.keyOfList "tuple")
  | .range _ _ _ => fieldFault (.keyOfList "range")
  | .text _ => fieldFault .keyOfText
  | .safe _ => fieldFault .keyOfText
  | .absent missing => fail (.missing missing)
  | .blank missing => fail (.missing missing)
  | .kind full => fail (.unsupported full)
  | owner => fieldFault (.noItems owner.typeName)

/-- The part of an object that a step leads to. -/
def followField (owner : Object) : Replacement.Step → Run Object
  | .member name => do
    let name := String.ofList name
    match ← property? owner name with
    | some found => return found
    | none =>
      match owner with
      | .kind full => fieldFault (.noMemberOfKind (Object.lastName full) name)
      | owner => fieldFault (.noMember owner.typeName name)
  | .index index => fieldItem owner index
  | .key key => fieldEntry owner (String.ofList key)

/-- The text of a moment by directives. The system does not take all texts as directives:
those with the character zero or with surrogates have no meaning here. -/
def directedText (moment : Moment) (directives : List Char) : Run String :=
  if directives.any fun character => character == '\x00' || isSurrogate character then
    fail (.unsupported (String.ofList directives))
  else
    return moment.fillDirectives directives

/-- An object in the way that a specifier says. -/
def formatObject (object : Object) (specifier : List Char) : Run String := do
  match object with
  | .safe plain => formatScalar (.text plain)
  | .scalar (.date date) => formatMoment (.ofDate date)
  | .scalar (.moment moment) => formatMoment moment
  | .clock moment => formatMoment moment
  | .scalar plain => formatScalar plain
  | .complex _ _ =>
    if specifier.isEmpty then shownOf object else fail (.unsupported "complex")
  | object =>
    if specifier.isEmpty then shownOf object
    else fieldFault (.misfit (.unsupported object.typeName))
where
  /-- A scalar in the way of the specifier. -/
  formatScalar (plain : Scalar) : Run String :=
    match Replacement.format (.scalar plain) specifier with
    | .ok shown => return shown
    | .error error => fieldFault error
  /-- A moment with the specifier as its directives. -/
  formatMoment (moment : Moment) : Run String := do
    if specifier.isEmpty then shownOf object else directedText moment specifier

/-- An object in the way that a specifier says, as markup. -/
def formatSafely (object : Object) (specifier : List Char) : Run String := do
  match object with
  | .safe plain =>
    if specifier.isEmpty then return plain
    else badValue "Unsupported format specification for Markup."
  | object => return escapeMarkup (← formatObject object specifier)

/-- What can be done with objects that fill fields. -/
def objectAccess (safe : Bool) : Replacement.Access Run Object where
  fail := fieldFault
  follow := followField
  written := writtenOf
  shown := shownOf
  ofText := .text
  format := if safe then formatSafely else formatObject

/-- A text with its fields filled with arguments. -/
def fillFields (safe : Bool) (template : String) (given : Given) : Run String :=
  (objectAccess safe).fill template { positional := given.positional, named := given.named }

/-- Entries with texts as keys. -/
def namedEntries (entries : List (Object × Object)) : List (String × Object) :=
  entries.filterMap fun entry => entry.1.text?.map (·, entry.2)

/-- A text with its fields filled from a mapping. -/
def fillFromMapping (safe : Bool) (template : String) (mapping : Object) : Run String := do
  let named ←
    match mapping with
    | .map address => pure (namedEntries (← mapAt address))
    | _ => pure []
  rescue (fillFields safe template { positional := [], named })
    fun fault =>
      match fault, mapping with
      | .field (.noPosition _), _ =>
        some (badValue "Format string contains positional fields")
      | .field (.noKey _), .map _ => none
      | .field (.noKey _), .absent missing => some (fail (.missing missing))
      | .field (.noKey _), .blank missing => some (fail (.missing missing))
      | .field (.noKey _), .kind full => some (fail (.unsupported full))
      | .field (.noKey _), mapping => some (fail (.mismatch (.subscripted mapping.typeName)))
      | _, _ => none

end Template

end CodeLayout
