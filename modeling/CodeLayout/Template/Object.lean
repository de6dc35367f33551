import CodeLayout.Template.Fault
import CodeLayout.Value.Text

/-!
# Objects of templates

The expressions of a template have objects as their values. Besides the values of
a document there are texts that are safe for markup, ranges of numbers, lengths of
time, listings of the parts of a mapping, iterators, functions, types, and objects
that stand for something missing.

An object that can change has an address only. What is at the address is in the store
of the rendering, so that a change is seen wherever the object is used.

Most uses of a missing object are a fault. There is a lenient kind that counts as
empty; only the choice without a second object makes one.
-/

set_option autoImplicit false

namespace CodeLayout

namespace Template

/-- The place of a changeable object in a store. -/
abbrev Address : Type := Nat

/-- What a listing of the parts of a mapping lists. -/
inductive Listing where
  /-- The keys. -/
  | keys
  /-- The values. -/
  | values
  /-- The entries, as pairs. -/
  | entries
deriving DecidableEq, Repr

/-- The value of an expression. -/
inductive Object where
  /-- A value without parts. -/
  | scalar (scalar : Scalar)
  /-- A text that is safe for markup. -/
  | safe (text : String)
  /-- A tuple. -/
  | tuple (items : List Object)
  /-- The numbers from a start up to a stop, which is not among them. -/
  | range (start stop step : Int)
  /-- A number with an imaginary part. -/
  | complex (real imaginary : Float)
  /-- A length of time in microseconds. -/
  | duration (microseconds : Int)
  /-- The time of day of a moment. -/
  | clock (moment : Moment)
  /-- An offset from universal time in seconds. -/
  | zone (seconds : Int)
  /-- A list. -/
  | list (address : Address)
  /-- A mapping. -/
  | map (address : Address)
  /-- A set. -/
  | set (address : Address)
  /-- A listing of the parts of a mapping. -/
  | listing (kind : Listing) (map : Address)
  /-- Something that gives its items once, with the name of its type. -/
  | iterator (typeName : String) (address : Address)
  /-- The state of a repetition. -/
  | loop (address : Address)
  /-- Names with objects that can be assigned anywhere. -/
  | space (address : Address)
  /-- Something that gives some objects in turn, again and again. -/
  | cycler (address : Address)
  /-- Something that gives a separator from its second use on. -/
  | joiner (address : Address)
  /-- A type, by its full name. -/
  | kind (name : String)
  /-- A function without an owner. -/
  | function (name : String)
  /-- A function of an object. -/
  | method (owner : Object) (name : String)
  /-- Something that is missing. -/
  | absent (missing : Missing)
  /-- Something that is missing and counts as empty. -/
  | blank (missing : Missing)

namespace Object

/-- The object for nothing. -/
@[match_pattern] abbrev null : Object := .scalar .null

/-- True or false. -/
@[match_pattern] abbrev bool (truth : Bool) : Object := .scalar (.bool truth)

/-- A whole number. -/
@[match_pattern] abbrev int (number : Int) : Object := .scalar (.int number)

/-- A floating point number. -/
@[match_pattern] abbrev float (number : Float) : Object := .scalar (.float number)

/-- A text. -/
@[match_pattern] abbrev text (text : String) : Object := .scalar (.text text)

/-- A sequence of bytes. -/
@[match_pattern] abbrev bytes (bytes : List UInt8) : Object := .scalar (.bytes bytes)

/-- The type of the names that can be assigned anywhere. -/
def spaceKind : String := "jinja2.utils.Namespace"

/-- The type of what gives objects in turn. -/
def cyclerKind : String := "jinja2.utils.Cycler"

/-- The type of what gives separators. -/
def joinerKind : String := "jinja2.utils.Joiner"

/-- The type of the state of a repetition. -/
def loopKind : String := "jinja2.runtime.LoopContext"

/-- The type of texts that are safe for markup. -/
def safeKind : String := "markupsafe.Markup"

/-- The name of a listing's type. -/
def listingKind : Listing → String
  | .keys => "dict_keys"
  | .values => "dict_values"
  | .entries => "dict_items"

/-- The full name of an object's type. -/
def kindName : Object → String
  | .scalar (.date _) => "datetime.date"
  | .scalar (.moment _) => "datetime.datetime"
  | .scalar plain => plain.typeName
  | .safe _ => safeKind
  | .tuple _ => "tuple"
  | .range _ _ _ => "range"
  | .complex _ _ => "complex"
  | .duration _ => "datetime.timedelta"
  | .clock _ => "datetime.time"
  | .zone _ => "datetime.timezone"
  | .list _ => "list"
  | .map _ => "dict"
  | .set _ => "set"
  | .listing listed _ => listingKind listed
  | .iterator name _ => name
  | .loop _ => loopKind
  | .space _ => spaceKind
  | .cycler _ => cyclerKind
  | .joiner _ => joinerKind
  | .kind _ => "type"
  | .function _ => "function"
  | .method (.loop _) _ => "method"
  | .method (.cycler _) _ => "method"
  | .method _ _ => "builtin_function_or_method"
  | .absent _ => "jinja2.runtime.StrictUndefined"
  | .blank _ => "jinja2.runtime.Undefined"

/-- The last of the names in a full name. -/
def lastName (name : String) : String :=
  String.ofList (name.toList.reverse.takeWhile (· != '.')).reverse

/-- The name of an object's type in the wording of faults. The types of dates are named
in full. -/
def typeName (object : Object) : String :=
  match object with
  | .scalar _ => object.kindName
  | .duration _ => object.kindName
  | .clock _ => object.kindName
  | .zone _ => object.kindName
  | object => lastName object.kindName

/-- The description of an object whose part is missing. -/
def description : Object → String
  | .null => "None"
  | object => object.kindName ++ " object"

/-- The text of an object that is a text. -/
def text? : Object → Option String
  | .text plain => some plain
  | .safe plain => some plain
  | _ => none

/-- The whole number of an object that is one, or a truth value. -/
def integer? : Object → Option Int
  | .int number => some number
  | .bool truth => some (if truth then 1 else 0)
  | _ => none

/-- What is missing where an object stands for something missing. -/
def missing? : Object → Option Missing
  | .absent missing => some missing
  | .blank missing => some missing
  | _ => none

/-- How many numbers a range has. -/
def rangeSize (start stop step : Int) : Nat :=
  if 0 < step then ((stop - start + step - 1) / step).toNat
  else ((start - stop - step - 1) / (-step)).toNat

/-- The characters of a text as texts. -/
def characters (text : String) : List Object :=
  text.toList.map fun character => .text (String.singleton character)

end Object

end Template

end CodeLayout
