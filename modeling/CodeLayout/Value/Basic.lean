import CodeLayout.Value.Scalar

/-!
# Values

The data a document is made of: scalars and collections of values. A mapping
keeps its entries in order, and its keys may be any values.

A collection may contain itself. It is then a knot: it has a label, and it is
opened on demand, down to a great depth.
-/

set_option autoImplicit false

namespace CodeLayout

/-- A value of data. -/
inductive Value where
  /-- A value without parts. -/
  | scalar (scalar : Scalar)
  /-- A sequence of values. -/
  | list (items : List Value)
  /-- A sequence of values of a fixed length. -/
  | tuple (items : List Value)
  /-- A set of values, in the order they were put in. -/
  | set (members : List Value)
  /-- Keys with their values, in the order they were put in. -/
  | map (entries : List (Value × Value))
  /-- A collection that contains itself or is inside of one that does. -/
  | knot (label : Nat) (opened : Unit → Value)
  /-- What lies deeper in a knot than anything can be followed. -/
  | endless
deriving Inhabited

namespace Value

/-- The value that stands for nothing. -/
@[match_pattern] abbrev null : Value := .scalar .null

/-- True or false. -/
@[match_pattern] abbrev bool (truth : Bool) : Value := .scalar (.bool truth)

/-- A whole number. -/
@[match_pattern] abbrev int (number : Int) : Value := .scalar (.int number)

/-- A floating point number. -/
@[match_pattern] abbrev float (number : Float) : Value := .scalar (.float number)

/-- A text. -/
@[match_pattern] abbrev text (text : String) : Value := .scalar (.text text)

/-- A sequence of bytes. -/
@[match_pattern] abbrev bytes (bytes : List UInt8) : Value := .scalar (.bytes bytes)

/-- A value that is no knot: a knot is opened. -/
def opened : Value → Value
  | .knot _ inner => opened (inner ())
  | value => value

/-- The name of a value's type. -/
def typeName : Value → String
  | .scalar plain => plain.typeName
  | .list _ => "list"
  | .tuple _ => "tuple"
  | .set _ => "set"
  | .map _ => "dict"
  | .knot _ inner => typeName (inner ())
  | .endless => "object"

/-- Whether a value is null. -/
def isNull : Value → Bool
  | .null => true
  | _ => false

/-- The text of a value that is a text. -/
def text? : Value → Option String
  | .text written => some written
  | _ => none

/-- The entry under a text in a list of entries. -/
def lookup? (key : String) : List (Value × Value) → Option Value
  | [] => none
  | (.text name, value) :: rest => if name = key then some value else lookup? key rest
  | _ :: rest => lookup? key rest

end Value

end CodeLayout
