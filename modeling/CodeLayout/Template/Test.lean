import CodeLayout.Template.Filter

/-!
# Tests

A test asks a question about an object, and perhaps about another one. It has a name and
parameters.

The test whether two objects are the same one has no meaning here
(`Test.unsupportedNames`), and to use it is a fault of its own.
-/

set_option autoImplicit false

namespace CodeLayout

namespace Template

/-- The tests of templates. -/
inductive Test where
  | defined
  | undefined
  | odd
  | even
  | divisible
  | nothing
  | string
  | number
  | integer
  | float
  | boolean
  | truth
  | falsity
  | mapping
  | sequence
  | iterable
  | callable
  | within
  | filterName
  | testName
  | lower
  | upper
  | escaped
  | compared (comparison : Comparison)
deriving DecidableEq, Repr

namespace Test

/-- The tests by name. -/
def names : List (String × Test) :=
  [("defined", .defined), ("undefined", .undefined), ("odd", .odd), ("even", .even),
    ("divisibleby", .divisible), ("none", .nothing), ("string", .string), ("number", .number),
    ("integer", .integer), ("float", .float), ("boolean", .boolean), ("true", .truth),
    ("false", .falsity), ("mapping", .mapping), ("sequence", .sequence), ("iterable", .iterable),
    ("callable", .callable), ("in", .within), ("filter", .filterName),
    ("test", .testName), ("lower", .lower), ("upper", .upper), ("escaped", .escaped),
    ("eq", .compared .equal), ("equalto", .compared .equal), ("==", .compared .equal),
    ("ne", .compared .different), ("!=", .compared .different), ("lt", .compared .less),
    ("lessthan", .compared .less), ("<", .compared .less), ("le", .compared .atMost),
    ("<=", .compared .atMost), ("gt", .compared .greater), ("greaterthan", .compared .greater),
    (">", .compared .greater), ("ge", .compared .atLeast), (">=", .compared .atLeast)]

/-- The names of the tests without a meaning here. -/
def unsupportedNames : List String := ["sameas"]

/-- Whether there is a test with a name. -/
def exists? (name : String) : Bool :=
  (names.lookup name).isSome || unsupportedNames.contains name

/-- The name of the function of a comparison. -/
def comparisonName : Comparison → String
  | .equal => "eq"
  | .different => "ne"
  | .less => "lt"
  | .atMost => "le"
  | .greater => "gt"
  | .atLeast => "ge"
  | .within => "in"
  | .notWithin => "not_in"

/-- The usage of a test of an object by the parameters of its function. -/
def plainUsage (name : String) (besides : Nat) (parameters : List String) : Usage :=
  { home := "jinja2.tests.", function := "test_" ++ name,
    signature := .parameters besides parameters parameters.length 0 }

/-- The usage of a test with a name. -/
def usage (test : Test) (name : String) : Usage :=
  match test with
  | .divisible => plainUsage name 0 ["value", "num"]
  | .within => plainUsage name 0 ["value", "seq"]
  | .filterName => plainUsage name 1 ["value"]
  | .testName => plainUsage name 1 ["value"]
  | .callable => { home := "", function := "callable", signature := .one }
  | .compared comparison =>
    { home := "_operator.", function := comparisonName comparison, signature := .counted 2 2 }
  | _ => plainUsage name 0 ["value"]

/-- Whether an object divided by a number leaves a remainder. -/
def leaves (object divisor : Object) (remainder : Int) : Run Bool := do
  equalObjects (← operate .remainder object divisor) (.int remainder)

/-- Whether an object has a length and items that can be asked for. -/
def isSequence (object : Object) : Run Bool := do
  match object with
  | .text _ => return true
  | .safe _ => return true
  | .bytes _ => return true
  | .tuple _ => return true
  | .list _ => return true
  | .map _ => return true
  | .range _ _ _ => return (← attempt (lengthOf object)).isSome
  | .blank _ => return true
  | _ => return false

/-- Whether an object can be called. -/
def isCallable : Object → Bool
  | .method _ _ => true
  | .function _ => true
  | .kind _ => true
  | .absent _ => true
  | .blank _ => true
  | .loop _ => true
  | .joiner _ => true
  | _ => false

/-- The answer of a test for an object and its other argument. -/
def apply (test : Test) (object other : Object) : Run Bool := do
  match test with
  | .defined => return object.missing?.isNone
  | .undefined => return object.missing?.isSome
  | .odd => leaves object (.int 2) 1
  | .even => leaves object (.int 2) 0
  | .divisible => leaves object other 0
  | .nothing => return match object with | .null => true | _ => false
  | .string => return object.text?.isSome
  | .number =>
    return match object with
      | .complex _ _ => true
      | object => (Number.ofObject? object).isSome
  | .integer => return match object with | .int _ => true | _ => false
  | .float => return match object with | .float _ => true | _ => false
  | .boolean => return match object with | .bool _ => true | _ => false
  | .truth => return match object with | .bool answer => answer | _ => false
  | .falsity => return match object with | .bool answer => !answer | _ => false
  | .mapping => return match object with | .map _ => true | _ => false
  | .sequence => isSequence object
  | .iterable => hasItems object
  | .callable => return isCallable object
  | .within => isMember object other
  | .lower => return isSmallText (← shownOf object).toList
  | .upper => return isCapitalText (← shownOf object).toList
  | .escaped => return match object with | .safe _ => true | _ => false
  | .compared comparison => holds comparison object other
  | .filterName => isNameOf Filter.exists?
  | .testName => isNameOf exists?
where
  /-- Whether the object is a name that belongs to something. -/
  isNameOf (belongs : String → Bool) : Run Bool := do
    requireKey object
    return object.text?.any belongs

end Test

/-- Applies the test of a name to an object with arguments. -/
def applyTest (name : String) (object : Object) (given : Given) : Run Object := do
  match Test.names.lookup name with
  | none => fail (if Test.exists? name then .unsupported name else .test name)
  | some test => do
    let arguments ← lift
      ((test.usage name).take { given with positional := object :: given.positional })
    return .bool (← test.apply object (argument arguments 1 .null))

end Template

end CodeLayout
