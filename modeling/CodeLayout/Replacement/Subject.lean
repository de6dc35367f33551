import CodeLayout.Replacement.Basic
import CodeLayout.Replacement.Writing
import CodeLayout.Value.Equality

/-!
# Filling fields with values

The fields of a text are filled with values of data. A field may also ask for the
type of a value, and for the name of the type.
-/

set_option autoImplicit false

namespace CodeLayout

namespace Replacement

/-- What a field of data stands for. -/
inductive Subject where
  /-- A value. -/
  | value (value : Value)
  /-- A type, by its full name. -/
  | kind (name : String)

/-- The part of a number with a name. A number has a real and an imaginary part, and
a whole number is a fraction. -/
def memberOf? (value : Value) (name : String) : Option Value :=
  let whole (number : Int) : Option Value :=
    match name with
    | "real" => some (.int number)
    | "numerator" => some (.int number)
    | "imag" => some (.int 0)
    | "denominator" => some (.int 1)
    | _ => none
  match value with
  | .int number => whole number
  | .bool truth => whole (if truth then 1 else 0)
  | .float number =>
    match name with
    | "real" => some (.float number)
    | "imag" => some (.float 0.0)
    | _ => none
  | _ => none

/-- The entry under a key in a list of entries. -/
def entryUnder? (key : Value) (entries : List (Value × Value)) : Option Value :=
  (entries.find? fun entry => Value.same entry.1 key).map (·.2)

/-- The part of a value that an index or a key leads to. -/
def itemOf (value : Value) : Step → Except FillError Value
  | .member name => .error (.noMember value.typeName (String.ofList name))
  | .index index =>
    match value with
    | .list items => (items[index]?).elim (.error (.noItem "list")) .ok
    | .tuple items => (items[index]?).elim (.error (.noItem "tuple")) .ok
    | .text plain =>
      (plain.toList[index]?).elim (.error (.noItem "str")) fun character =>
        .ok (.text (String.singleton character))
    | .map entries =>
      (entryUnder? (.int index) entries).elim (.error (.noKey (toString index))) .ok
    | value => .error (.noItems value.typeName)
  | .key key =>
    match value with
    | .list _ => .error (.keyOfList "list")
    | .tuple _ => .error (.keyOfList "tuple")
    | .text _ => .error .keyOfText
    | .map entries =>
      let name := String.ofList key
      (entryUnder? (.text name) entries).elim (.error (.noKey (quoted name))) .ok
    | value => .error (.noItems value.typeName)

/-- The name of a type without the module it is in. -/
def shortName (name : String) : String := String.ofList (afterLastPoint name.toList)
where
  /-- What follows the last point. -/
  afterLastPoint (name : List Char) : List Char :=
    (name.reverse.takeWhile (· != '.')).reverse

/-- The full name of the type of a value. -/
def kindOf : Value → String
  | .scalar (.date _) => "datetime.date"
  | .scalar (.moment _) => "datetime.datetime"
  | value => value.typeName

namespace Subject

/-- The name of a subject's type. -/
def typeName : Subject → String
  | .value held => held.typeName
  | .kind _ => "type"

/-- The plain form of a subject. -/
def shown : Subject → String
  | .value held => held.shown
  | .kind name => "<class " ++ quoted name ++ ">"

/-- The written form of a subject. -/
def written : Subject → String
  | .value held => held.written
  | subject => subject.shown

/-- The part of a subject with a name. -/
def member? (name : String) : Subject → Option Subject
  | .value held =>
    if name = "__class__" then some (.kind (kindOf held))
    else (memberOf? held name).map .value
  | .kind full =>
    match name with
    | "__class__" => some (.kind "type")
    | "__name__" => some (.value (.text (shortName full)))
    | "__qualname__" => some (.value (.text (shortName full)))
    | "__module__" =>
      let short := shortName full
      some (.value (.text (if short = full then "builtins"
        else (full.dropEnd (short.length + 1)).toString)))
    | _ => none

/-- The part of a subject that a step leads to. -/
def follow (subject : Subject) : Step → Except FillError Subject
  | .member name =>
    match subject.member? (String.ofList name) with
    | some part => .ok part
    | none =>
      match subject with
      | .value held => .error (.noMember held.typeName (String.ofList name))
      | .kind full => .error (.noMemberOfKind (shortName full) (String.ofList name))
  | step =>
    match subject with
    | .value held => (itemOf held step).map .value
    | .kind _ => .error (.noItems "type")

/-- A subject in the way that a specifier says. -/
def format (subject : Subject) (specifier : List Char) : Except FillError String :=
  match subject with
  | .value held => Replacement.format held specifier
  | subject =>
    if specifier.isEmpty then .ok subject.shown
    else .error (.misfit (.unsupported subject.typeName))

end Subject

/-- What can be done with subjects. -/
def subjectAccess : Access (Except FillError) Subject where
  fail := Except.error
  follow := Subject.follow
  written subject := .ok subject.written
  shown subject := .ok subject.shown
  ofText plain := .value (.text plain)
  format := Subject.format

/-- A text with its replacement fields filled with values. -/
def fill (template : String) (supply : Supply Value) : Except FillError String :=
  subjectAccess.fill template
    { positional := supply.positional.map .value,
      named := supply.named.map fun entry => (entry.1, .value entry.2) }

end Replacement

end CodeLayout
