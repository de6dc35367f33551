import CodeLayout.Replacement.Error
import CodeLayout.Template.Tree

/-!
# Faults of templates

Why a template cannot be rendered. A template may not be well formed, it may ask
for something that is missing, and an operation may not be defined for the
objects that it gets.

Some parts of the template language have no meaning here. Their use has a fault of its
own, which says nothing about the template.
-/

set_option autoImplicit false

namespace CodeLayout

namespace Template

/-- What is missing where a template asks for it. -/
inductive Missing where
  /-- A variable. -/
  | variable (name : String)
  /-- A part with a name. The owner is described by its type. -/
  | member (owner name : String)
  /-- A part with an index or key, in its written form. -/
  | item (owner key : String)
  /-- The first item of something empty. -/
  | firstItem
  /-- The last item of something empty. -/
  | lastItem
  /-- The item before the first one. -/
  | previousItem
  /-- The item after the last one. -/
  | nextItem
  /-- The second object of a choice, on a line of the template. -/
  | otherwise (line : Nat)
deriving DecidableEq, Repr

/-- The wording of what is missing. -/
def Missing.message : Missing → String
  | .variable name => quoted name ++ " is undefined"
  | .member owner name => quoted owner ++ " has no attribute " ++ quoted name
  | .item owner key => owner ++ " has no element " ++ key
  | .firstItem => "No first item, sequence was empty."
  | .lastItem => "No last item, sequence was empty."
  | .previousItem => "there is no previous item"
  | .nextItem => "there is no next item"
  | .otherwise line =>
    "the inline if-expression on line " ++ toString line ++
      " evaluated to false and no else section was defined."

/-- The divisions that fail for zero. -/
inductive ZeroDivision where
  | quotient
  | floatQuotient
  | floor
  | floatFloor
  | remainder
  | floatRemainder
  | power
deriving DecidableEq, Repr

/-- The wording of a division by zero. -/
def ZeroDivision.message : ZeroDivision → String
  | .quotient => "division by zero"
  | .floatQuotient => "float division by zero"
  | .floor => "integer division or modulo by zero"
  | .floatFloor => "float floor division by zero"
  | .remainder => "integer modulo by zero"
  | .floatRemainder => "float modulo"
  | .power => "0.0 cannot be raised to a negative power"

/-- The results that are too large for a number or a text. -/
inductive Excess where
  /-- A whole number as a floating point number. -/
  | conversion
  /-- The quotient of two whole numbers. -/
  | quotient
  /-- A power. -/
  | power
  /-- A power with an imaginary part. -/
  | complexPower
  /-- An infinity as a whole number. -/
  | infinity
  /-- A number of things. -/
  | count
  /-- A place in a sequence or a number of repetitions. -/
  | place
  /-- A text that is repeated. -/
  | repeated
  /-- The code of a character. -/
  | code
  /-- A date. -/
  | date
  /-- A length of time in days. -/
  | days (days : Int)
  /-- A number of days or of characters. -/
  | longCount
  /-- An infinity as a quotient of whole numbers. -/
  | infinityRatio
deriving DecidableEq, Repr

/-- The wording of an excess. -/
def Excess.message : Excess → String
  | .conversion => "int too large to convert to float"
  | .quotient => "integer division result too large for a float"
  | .power => "(34, 'Numerical result out of range')"
  | .complexPower => "complex exponentiation"
  | .infinity => "cannot convert float infinity to integer"
  | .count => "Python int too large to convert to C ssize_t"
  | .place => "cannot fit 'int' into an index-sized integer"
  | .repeated => "repeated string is too long"
  | .code => "%c arg not in range(0x110000)"
  | .date => "date value out of range"
  | .days number => "days=" ++ toString number ++ "; must have magnitude <= 999999999"
  | .longCount => "Python int too large to convert to C int"
  | .infinityRatio => "cannot convert Infinity to integer ratio"

/-- What is wrong with the arguments of a call. -/
inductive ArgumentProblem where
  /-- There are so many arguments, and there should be none. -/
  | notEmpty (given : Nat)
  /-- There are so many arguments, and there should be one. -/
  | notOne (given : Nat)
  /-- There are so many arguments, and there should be another number of them. -/
  | notMany (wanted given : Nat)
  /-- There are too few arguments. -/
  | tooFew (least given : Nat)
  /-- There are too many arguments. -/
  | tooMany (most given : Nat)
  /-- There are fewer arguments than a call takes. -/
  | takesMore (least given : Nat)
  /-- There are more arguments than a call takes. -/
  | takesLess (most given : Nat)
  /-- There are more arguments by name than a call takes. -/
  | takesLessNamed (most given : Nat)
  /-- A parameter at a place got no argument. -/
  | unfilled (name : String) (place : Nat)
  /-- There are too many arguments by position for the parameters. -/
  | surplus (least most given : Nat)
  /-- Parameters got no arguments. -/
  | missing (parameters : List String)
  /-- There is no parameter with a name. -/
  | unknownName (name : String)
  /-- There is no argument with a name. -/
  | invalidName (name : String)
  /-- A parameter got two arguments. -/
  | repeatedName (name : String)
  /-- An argument is given by name and at a place. -/
  | placedName (name : String) (place : Nat)
  /-- Parameters that have no names for callers got arguments by name. -/
  | positionalNames (names : List String)
  /-- There are arguments by name, and there should be none. -/
  | names
deriving DecidableEq, Repr

/-- A number of things. -/
def counted (number : Nat) (thing : String) : String :=
  toString number ++ " " ++ thing ++ (if number = 1 then "" else "s")

/-- An argument that cannot be spread out as arguments. -/
def spreadProblem (function stars wanted typeName : String) : String :=
  function ++ "() argument after " ++ stars ++ " must be " ++ wanted ++ ", not " ++ typeName

/-- Names in a row, with a word before the last one. -/
def enumerated : List String → String
  | [] => ""
  | [only] => only
  | [first, second] => first ++ " and " ++ second
  | [first, second, third] => first ++ ", " ++ second ++ ", and " ++ third
  | first :: rest => first ++ ", " ++ enumerated rest

/-- The wording of a problem with the arguments of a function. -/
def ArgumentProblem.message (function : String) : ArgumentProblem → String
  | .notEmpty given => function ++ "() takes no arguments (" ++ toString given ++ " given)"
  | .notOne given => function ++ "() takes exactly one argument (" ++ toString given ++ " given)"
  | .tooFew least given =>
    function ++ " expected at least " ++ counted least "argument" ++ ", got " ++ toString given
  | .tooMany most given =>
    function ++ " expected at most " ++ counted most "argument" ++ ", got " ++ toString given
  | .notMany wanted given =>
    function ++ " expected " ++ counted wanted "argument" ++ ", got " ++ toString given
  | .takesMore least given =>
    function ++ "() takes at least " ++ counted least "argument" ++ " (" ++ toString given ++
      " given)"
  | .takesLess most given =>
    function ++ "() takes at most " ++ counted most "argument" ++ " (" ++ toString given ++
      " given)"
  | .takesLessNamed most given =>
    function ++ "() takes at most " ++ counted most "keyword argument" ++ " (" ++
      toString given ++ " given)"
  | .unfilled name place =>
    function ++ "() missing required argument " ++ quoted name ++ " (pos " ++ toString place ++ ")"
  | .surplus least most given =>
    function ++ "() takes " ++
      (if least = most then counted most "positional argument"
        else "from " ++ toString least ++ " to " ++ counted most "positional argument") ++
      " but " ++ toString given ++ (if given = 1 then " was" else " were") ++ " given"
  | .missing parameters =>
    function ++ "() missing " ++ counted parameters.length "required positional argument" ++ ": " ++
      enumerated (parameters.map quoted)
  | .unknownName name => function ++ "() got an unexpected keyword argument " ++ quoted name
  | .invalidName name => quoted name ++ " is an invalid keyword argument for " ++ function ++ "()"
  | .repeatedName name => function ++ "() got multiple values for argument " ++ quoted name
  | .placedName name place =>
    "argument for " ++ function ++ "() given by name (" ++ quoted name ++ ") and position (" ++
      toString place ++ ")"
  | .positionalNames given =>
    function ++ "() got some positional-only arguments passed as keyword arguments: " ++
      quoted (", ".intercalate given)
  | .names => function ++ "() takes no keyword arguments"

/-- The operations on objects of the wrong type. All types are given by name. -/
inductive Mismatch where
  /-- An operation on two objects. -/
  | operands (operator : Operator) (left right : String)
  /-- A sign before an object. -/
  | sign (sign : Sign) (operand : String)
  /-- The absolute value of an object. -/
  | absolute (operand : String)
  /-- An order of two objects. -/
  | order (comparison : Comparison) (left right : String)
  /-- The order of a day and a moment. -/
  | dayOrder
  /-- The order of a moment with an offset and one without. -/
  | offsetOrder
  /-- A sequence with something else appended. -/
  | appended (sequence other : String)
  /-- Bytes with something else appended. -/
  | appendedBytes (other : String)
  /-- A sequence times something other than a whole number. -/
  | repeated (times : String)
  /-- More values than a text has places for. -/
  | filled
  /-- A call of something that is no function. -/
  | called (operand : String)
  /-- The items of something without items. -/
  | iterated (operand : String)
  /-- The items of something without order from the end. -/
  | reversed (operand : String)
  /-- The length of something without length. -/
  | length (operand : String)
  /-- The parts of something without parts. -/
  | subscripted (operand : String)
  /-- Membership in something without members. -/
  | container (operand : String)
  /-- Membership in a text of something that is no text. -/
  | textMember (operand : String)
  /-- A changeable object as a key. -/
  | key (operand : String)
  /-- A bound of a range of indices. -/
  | bound
  /-- An object where a whole number is needed. -/
  | integer (operand : String)
  /-- The parts of something without parts, assigned to several names. -/
  | unpacked (operand : String)
  /-- Something other than a text among texts to be joined. -/
  | joined (index : Nat) (operand : String)
  /-- A variable whose name is no text. -/
  | variableName
  /-- A variable with a name that is taken. -/
  | takenName
  /-- The items of something that is no sequence, to be joined. -/
  | joinedItems
  /-- A choice among no items by a repetition. -/
  | cycled
  /-- Something other than a text as the characters to be taken away. -/
  | stripped (function : String)
  /-- Something other than texts as the start or end of a text. -/
  | affix (function operand : String)
  /-- Something other than a text as an argument at a place. -/
  | textArgument (function : String) (place : Nat) (operand : String)
  /-- Something other than a text between texts. -/
  | separator (operand : String)
  /-- A call with the wrong arguments. -/
  | arguments (function : String) (problem : ArgumentProblem)
  /-- Something else, in its own wording. -/
  | stated (wording : String)
deriving DecidableEq, Repr

/-- How an operator is written. -/
def Operator.text : Operator → String
  | .add => "+"
  | .subtract => "-"
  | .multiply => "*"
  | .divide => "/"
  | .floorDivide => "//"
  | .remainder => "%"
  | .power => "** or pow()"

/-- How a sign is written. -/
def Sign.text : Sign → String
  | .minus => "-"
  | .plus => "+"

/-- How a comparison is written. -/
def Comparison.text : Comparison → String
  | .equal => "=="
  | .different => "!="
  | .less => "<"
  | .atMost => "<="
  | .greater => ">"
  | .atLeast => ">="
  | .within => "in"
  | .notWithin => "not in"

/-- A name in single quotes. -/
def marked (name : String) : String := "'" ++ name ++ "'"

/-- The wording of a mismatch. -/
def Mismatch.message : Mismatch → String
  | .operands operator left right =>
    "unsupported operand type(s) for " ++ operator.text ++ ": " ++ marked left ++ " and " ++
      marked right
  | .sign before operand => "bad operand type for unary " ++ before.text ++ ": " ++ marked operand
  | .absolute operand => "bad operand type for abs(): " ++ marked operand
  | .order comparison left right =>
    marked comparison.text ++ " not supported between instances of " ++ marked left ++ " and " ++
      marked right
  | .dayOrder => "can't compare datetime.datetime to datetime.date"
  | .offsetOrder => "can't compare offset-naive and offset-aware datetimes"
  | .appended sequence other =>
    "can only concatenate " ++ sequence ++ " (not \"" ++ other ++ "\") to " ++ sequence
  | .appendedBytes other => "can't concat " ++ other ++ " to bytes"
  | .repeated times => "can't multiply sequence by non-int of type " ++ marked times
  | .filled => "not all arguments converted during string formatting"
  | .called operand => marked operand ++ " object is not callable"
  | .iterated operand => marked operand ++ " object is not iterable"
  | .reversed operand => marked operand ++ " object is not reversible"
  | .length operand => "object of type " ++ marked operand ++ " has no len()"
  | .subscripted operand => marked operand ++ " object is not subscriptable"
  | .container operand => "argument of type " ++ marked operand ++ " is not iterable"
  | .textMember operand => "'in <string>' requires string as left operand, not " ++ operand
  | .key operand => "unhashable type: " ++ marked operand
  | .bound => "slice indices must be integers or None or have an __index__ method"
  | .integer operand => marked operand ++ " object cannot be interpreted as an integer"
  | .unpacked operand => "cannot unpack non-iterable " ++ operand ++ " object"
  | .joined index operand =>
    "sequence item " ++ toString index ++ ": expected str instance, " ++ operand ++ " found"
  | .variableName => "keywords must be strings"
  | .takenName => "Template.render() got multiple values for argument 'self'"
  | .joinedItems => "can only join an iterable"
  | .cycled => "no items for cycling given"
  | .stripped function => function ++ " arg must be None or str"
  | .affix function operand =>
    function ++ " first arg must be str or a tuple of str, not " ++ operand
  | .textArgument function place operand =>
    function ++ "() argument " ++ toString place ++ " must be str, not " ++ operand
  | .separator operand => "must be str or None, not " ++ operand
  | .arguments function problem => problem.message function
  | .stated wording => wording

/-- The values that an operation cannot use, though their types fit. -/
inductive BadValue where
  /-- A step of zero between indices. -/
  | indexStep
  /-- A step of zero between numbers. -/
  | rangeStep
  /-- An empty separator. -/
  | separator
  /-- Fewer parts than names. -/
  | tooFew (expected found : Nat)
  /-- More parts than names. -/
  | tooMany (expected : Nat)
  /-- A whole number with too many digits to be shown. -/
  | digits
  /-- A whole number written with so many digits, which are too many. -/
  | writtenDigits (count : Nat)
  /-- Something that cannot be converted to a whole number. -/
  | notANumber
  /-- Something else, in its own wording. -/
  | stated (wording : String)
deriving DecidableEq, Repr

/-- The wording of a bad value. -/
def BadValue.message : BadValue → String
  | .indexStep => "slice step cannot be zero"
  | .rangeStep => "range() arg 3 must not be zero"
  | .separator => "empty separator"
  | .tooFew expected found =>
    "not enough values to unpack (expected " ++ toString expected ++ ", got " ++ toString found ++
      ")"
  | .tooMany expected => "too many values to unpack (expected " ++ toString expected ++ ")"
  | .digits =>
    "Exceeds the limit (4300 digits) for integer string conversion; " ++
      "use sys.set_int_max_str_digits() to increase the limit"
  | .writtenDigits count =>
    "Exceeds the limit (4300 digits) for integer string conversion: value has " ++
      toString count ++ " digits; use sys.set_int_max_str_digits() to increase the limit"
  | .notANumber => "cannot convert float NaN to integer"
  | .stated wording => wording

/-- The uses of a template that it forbids when it is rendered. -/
inductive Refusal where
  /-- An assignment to a part of something that has no parts to be assigned to. -/
  | member
deriving DecidableEq, Repr

/-- The wording of a refusal. -/
def Refusal.message : Refusal → String
  | .member => "cannot assign attribute on non-namespace object"

/-- Why a template cannot be rendered. -/
inductive Fault where
  /-- The template is not well formed. -/
  | malformed
  /-- Something is missing. -/
  | missing (missing : Missing)
  /-- A filter that is used does not exist. -/
  | filter (name : String)
  /-- A test that is used does not exist. -/
  | test (name : String)
  /-- A filter needs an object with items. -/
  | filterItems
  /-- The template does what it may not do. -/
  | refused (refusal : Refusal)
  /-- An operation gets objects of the wrong type. -/
  | mismatch (mismatch : Mismatch)
  /-- An operation gets a bad value. -/
  | value (value : BadValue)
  /-- A division by zero. -/
  | division (division : ZeroDivision)
  /-- A result is too large. -/
  | excess (excess : Excess)
  /-- A mapping has no entry under a key, in its written form. -/
  | key (key : String)
  /-- A sequence has no item at a place, in the wording of its type. -/
  | place (wording : String)
  /-- An object has no part with a name, in the wording of its type. -/
  | member (wording : String)
  /-- A constant has only a word, and nothing has this name. -/
  | unnamed (word : String)
  /-- A filter of a captured text uses a variable that is not known there. -/
  | unknown (name : String)
  /-- A text with replacement fields cannot be filled. -/
  | field (error : Replacement.FillError)
  /-- Something is used in a state that does not allow it. -/
  | state (wording : String)
  /-- A constant cannot be read. -/
  | constant (wording : String)
  /-- A text has no bytes in an encoding. -/
  | encoding (wording : String)
  /-- Some bytes are no text. -/
  | decoding (wording : String)
  /-- There is no way with a name to deal with what an encoding does not have. -/
  | noErrorHandler (name : String)
  /-- A result does not fit into memory. -/
  | memory
  /-- Something goes on without an end. -/
  | endless
  /-- An expression has no value before its template is rendered. -/
  | unsettled
  /-- A part of the template language is used that has no meaning here. -/
  | unsupported (name : String)
deriving DecidableEq, Repr

/-- The wording of a fault. For a template that is not well formed there is only
a word. -/
def Fault.message : Fault → String
  | .malformed => "<syntax>"
  | .missing absent => absent.message
  | .filter name => "No filter named " ++ quoted name ++ " found."
  | .test name => "No test named " ++ quoted name ++ " found."
  | .filterItems => "argument must be iterable"
  | .refused refusal => refusal.message
  | .mismatch wrong => wrong.message
  | .value bad => bad.message
  | .division zero => zero.message
  | .excess large => large.message
  | .key written => written
  | .place wording => wording
  | .member wording => wording
  | .unnamed word => "name " ++ quoted word ++ " is not defined"
  | .unknown name =>
    "Tried to resolve a name to a reference that was unknown to the frame (" ++ quoted name ++ ")"
  | .field error => error.message
  | .state wording => wording
  | .constant wording => wording
  | .encoding wording => wording
  | .decoding wording => wording
  | .noErrorHandler name => "unknown error handler name " ++ quoted name
  | .memory => ""
  | .endless => "maximum recursion depth exceeded"
  | .unsettled => ""
  | .unsupported name => quoted name ++ " is not supported"

/-- Whether the template itself is at fault, and not an operation in it. -/
def Fault.isOfTemplate : Fault → Bool
  | .malformed => true
  | .missing _ => true
  | .filter _ => true
  | .test _ => true
  | .filterItems => true
  | .refused _ => true
  | _ => false

end Template

end CodeLayout
