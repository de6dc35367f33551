import CodeLayout.Template.Store

/-!
# Arguments of functions

A function takes its arguments in one of a few ways: none, exactly one, a number between
two bounds, or one for each of its parameters, by position or by name. Each way has its
own wording of what is wrong with the arguments of a call.

The tables list the functions of objects with the ways they take their arguments. Other
functions and properties of objects have no meaning here (`unsupportedParts`).
-/

set_option autoImplicit false

namespace CodeLayout

namespace Template

/-- Arguments that have been evaluated: by position and by name. -/
structure Given where
  /-- The arguments by position. -/
  positional : List Object
  /-- The arguments by name. -/
  named : List (String × Object)

/-- A way to take arguments. -/
inductive Signature where
  /-- No arguments. -/
  | nothing
  /-- One argument. -/
  | one
  /-- A number of arguments between two bounds. -/
  | counted (least most : Nat)
  /-- The same with another wording. -/
  | parsed (least most : Nat)
  /-- An argument for each parameter, by position or by name; so many have to be there. -/
  | optional (parameters : List String) (required : Nat)
  /-- An argument for each parameter, by position or by name, besides some that every call
  has. So many have to be there, and so many of the first ones have no names for
  callers. -/
  | parameters (besides : Nat) (names : List String) (required hidden : Nat)
  /-- Any arguments by position. -/
  | positional
  /-- The same with another wording. -/
  | starred
  /-- Any arguments. -/
  | any
deriving DecidableEq, Repr

namespace Signature

/-- What is wrong with the number of some arguments, none of which is given by name. -/
def countProblem? (signature : Signature) (given : Nat) : Option ArgumentProblem :=
  match signature with
  | .nothing => if given = 0 then none else some (.notEmpty given)
  | .one => if given = 1 then none else some (.notOne given)
  | .counted least most =>
    if least = most && given ≠ least then some (.notMany least given)
    else if given < least then some (.tooFew least given)
    else if most < given then some (.tooMany most given)
    else none
  | .parsed least most =>
    if given < least then some (.takesMore least given)
    else if most < given then some (.takesLess most given)
    else none
  | _ => none

/-- The argument for each parameter, if it got one. -/
def assign (names : List String) (given : Given) : List (Option Object) :=
  (List.range names.length).map fun index =>
    (given.positional[index]?).or
      ((names[index]?).bind fun name => given.named.lookup name)

/-- What is wrong with the names of arguments that are optional. -/
def optionalProblem? (names : List String) (required : Nat) (given : Given) :
    Option ArgumentProblem :=
  let count := given.positional.length + given.named.length
  let twice := (names.take given.positional.length).findIdx? fun name =>
    (given.named.lookup name).isSome
  let unknown := given.named.find? fun entry => !names.contains entry.1
  let left := (assign names given).take required |>.findIdx? Option.isNone
  if names.length < count then
    some (if given.positional.isEmpty then .takesLessNamed names.length count
      else .takesLess names.length count)
  else
    match twice, left, unknown with
    | some index, _, _ => some (.placedName ((names[index]?).getD "") (index + 1))
    | none, some index, _ => some (.unfilled ((names[index]?).getD "") (index + 1))
    | none, none, some (name, _) => some (.invalidName name)
    | none, none, none => none

/-- What is wrong with the arguments for parameters. -/
def parameterProblem? (besides : Nat) (names : List String) (required hidden : Nat)
    (given : Given) : Option ArgumentProblem :=
  let hiddenNames := names.take hidden
  let nameProblem := given.named.findSome? fun (name, _) =>
    match (names.drop hidden).findIdx? (· == name) with
    | none =>
      let wrong := (given.named.map (·.1)).filter hiddenNames.contains
      some (if wrong.isEmpty then .unknownName name else .positionalNames wrong)
    | some index =>
      if index + hidden < given.positional.length then some (.repeatedName name) else none
  match nameProblem with
  | some problem => some problem
  | none =>
    if names.length < given.positional.length then
      some (.surplus (besides + required) (besides + names.length)
        (besides + given.positional.length))
    else
      let left := (names.zip (assign names given)).take required |>.filter fun entry =>
        entry.2.isNone
      if left.isEmpty then none else some (.missing (left.map (·.1)))

/-- A fault in the arguments of a function. -/
def argumentFault (function : String) (problem : ArgumentProblem) : Fault :=
  .mismatch (.arguments function problem)

/-- The arguments of a function in the order of its parameters. The function has a full
name, which begins with a type, and a short one. -/
def take (signature : Signature) (full short : String) (given : Given) :
    Except Fault (List (Option Object)) :=
  match signature with
  | .any => .ok (given.positional.map some)
  | .starred =>
    match given.named with
    | [] => .ok (given.positional.map some)
    | (name, _) :: _ => .error (argumentFault full (.unknownName name))
  | .optional names required =>
    match optionalProblem? names required given with
    | some problem => .error (argumentFault short problem)
    | none => .ok (assign names given)
  | .parameters besides names required hidden =>
    match parameterProblem? besides names required hidden given with
    | some problem => .error (argumentFault full problem)
    | none => .ok (assign names given)
  | signature =>
    if !given.named.isEmpty then
      .error (argumentFault
        (match signature with
          | .parsed _ _ => short
          | .positional => short
          | _ => full) .names)
    else
      match signature.countProblem? given.positional.length, signature with
      | some problem, .nothing => .error (argumentFault full problem)
      | some problem, .one => .error (argumentFault full problem)
      | some problem, _ => .error (argumentFault short problem)
      | none, _ => .ok (given.positional.map some)

end Signature

/-! ## The functions of objects -/

/-- Functions without arguments. -/
def plainFunctions (names : List String) : List (String × Signature) :=
  names.map fun name => (name, .nothing)

/-- Functions of one argument. -/
def singleFunctions (names : List String) : List (String × Signature) :=
  names.map fun name => (name, .one)

/-- The functions of texts. -/
def textFunctions : List (String × Signature) :=
  plainFunctions ["capitalize", "casefold", "isalnum", "isalpha", "isascii", "isdecimal",
    "isdigit", "isidentifier", "islower", "isnumeric", "isprintable", "isspace", "istitle",
    "isupper", "lower", "swapcase", "title", "upper"] ++
  singleFunctions ["format_map", "join", "partition", "removeprefix", "removesuffix",
    "rpartition", "translate", "zfill"] ++
  [("center", .counted 1 2), ("ljust", .counted 1 2), ("rjust", .counted 1 2),
    ("lstrip", .counted 0 1), ("rstrip", .counted 0 1), ("strip", .counted 0 1),
    ("replace", .counted 2 3), ("maketrans", .counted 1 3), ("count", .parsed 1 3),
    ("endswith", .parsed 1 3), ("find", .parsed 1 3), ("index", .parsed 1 3),
    ("rfind", .parsed 1 3), ("rindex", .parsed 1 3), ("startswith", .parsed 1 3),
    ("encode", .optional ["encoding", "errors"] 0), ("expandtabs", .optional ["tabsize"] 0),
    ("rsplit", .optional ["sep", "maxsplit"] 0), ("split", .optional ["sep", "maxsplit"] 0),
    ("splitlines", .optional ["keepends"] 0), ("format", .any)]

/-- The functions of texts that are done anew for texts that are safe for markup. -/
def safeFunctions : List (String × Signature) :=
  (["capitalize", "casefold", "lower", "swapcase", "title", "upper"].map fun name =>
    (name, .parameters 1 [] 0 0)) ++
  [("join", .parameters 1 ["iterable"] 1 1), ("partition", .parameters 1 ["sep"] 1 1),
    ("rpartition", .parameters 1 ["sep"] 1 1), ("removeprefix", .parameters 1 ["prefix"] 1 1),
    ("removesuffix", .parameters 1 ["suffix"] 1 1), ("translate", .parameters 1 ["table"] 1 1),
    ("zfill", .parameters 1 ["width"] 1 1), ("format_map", .parameters 1 ["mapping"] 1 1),
    ("center", .parameters 1 ["width", "fillchar"] 1 2),
    ("ljust", .parameters 1 ["width", "fillchar"] 1 2),
    ("rjust", .parameters 1 ["width", "fillchar"] 1 2),
    ("lstrip", .parameters 1 ["chars"] 0 1), ("rstrip", .parameters 1 ["chars"] 0 1),
    ("strip", .parameters 1 ["chars"] 0 1),
    ("replace", .parameters 1 ["old", "new", "count"] 2 3),
    ("expandtabs", .parameters 1 ["tabsize"] 0 0),
    ("rsplit", .parameters 1 ["sep", "maxsplit"] 0 0),
    ("split", .parameters 1 ["sep", "maxsplit"] 0 0),
    ("splitlines", .parameters 1 ["keepends"] 0 0), ("format", .any)]

/-- The functions of sequences of bytes. -/
def bytesFunctions : List (String × Signature) :=
  [("decode", .optional ["encoding", "errors"] 0),
    ("hex", .optional ["sep", "bytes_per_sep"] 0)]

/-- The functions of lists. -/
def listFunctions : List (String × Signature) :=
  plainFunctions ["clear", "copy", "reverse"] ++
  singleFunctions ["append", "count", "extend", "remove"] ++
  [("index", .counted 1 3), ("insert", .counted 2 2), ("pop", .counted 0 1),
    ("sort", .optional ["key", "reverse"] 0)]

/-- The functions of tuples. -/
def tupleFunctions : List (String × Signature) := [("count", .one), ("index", .counted 1 3)]

/-- The functions of mappings. -/
def mapFunctions : List (String × Signature) :=
  plainFunctions ["clear", "copy", "items", "keys", "popitem", "values"] ++
  [("get", .counted 1 2), ("pop", .counted 1 2), ("setdefault", .counted 1 2),
    ("fromkeys", .counted 1 2), ("update", .any)]

/-- The functions of sets. -/
def setFunctions : List (String × Signature) :=
  plainFunctions ["clear", "copy", "pop"] ++
  singleFunctions ["add", "discard", "isdisjoint", "issubset", "issuperset", "remove",
    "symmetric_difference", "symmetric_difference_update"] ++
  [("difference", .positional), ("difference_update", .positional),
    ("intersection", .positional), ("intersection_update", .positional),
    ("union", .positional), ("update", .positional)]

/-- The functions of whole numbers. -/
def integerFunctions : List (String × Signature) :=
  plainFunctions ["as_integer_ratio", "bit_count", "bit_length", "conjugate"]

/-- The functions of floating point numbers. -/
def floatFunctions : List (String × Signature) :=
  plainFunctions ["as_integer_ratio", "conjugate", "hex", "is_integer"]

/-- The functions of ranges. -/
def rangeFunctions : List (String × Signature) := singleFunctions ["count", "index"]

/-- The functions of dates. -/
def dateFunctions : List (String × Signature) :=
  plainFunctions ["ctime", "isoformat", "isoweekday", "toordinal", "weekday"] ++
  [("strftime", .optional ["format"] 1), ("replace", .optional ["year", "month", "day"] 0)]

/-- The functions of moments. -/
def momentFunctions : List (String × Signature) :=
  plainFunctions ["ctime", "date", "isoweekday", "time", "timestamp", "toordinal", "tzname",
    "utcoffset", "dst", "weekday"] ++
  [("isoformat", .optional ["sep", "timespec"] 0), ("strftime", .optional ["format"] 1),
    ("replace", .optional ["year", "month", "day", "hour", "minute", "second", "microsecond",
      "tzinfo", "fold"] 0)]

/-- The functions of times of day. -/
def clockFunctions : List (String × Signature) :=
  plainFunctions ["tzname", "utcoffset", "dst"] ++
  [("isoformat", .optional ["timespec"] 0), ("strftime", .optional ["format"] 1)]

/-- The functions of lengths of time. -/
def durationFunctions : List (String × Signature) := plainFunctions ["total_seconds"]

/-- The functions of listings. -/
def listingFunctions : List (String × Signature) := singleFunctions ["isdisjoint"]

/-- The functions of the state of a repetition. -/
def loopFunctions : List (String × Signature) := [("cycle", .starred), ("changed", .starred)]

/-- The functions of what gives objects in turn. -/
def cyclerFunctions : List (String × Signature) :=
  [("next", .parameters 1 [] 0 0), ("reset", .parameters 1 [] 0 0)]

/-- The functions of an object. -/
def functionsOf : Object → List (String × Signature)
  | .text _ => textFunctions
  | .safe _ => safeFunctions ++ textFunctions
  | .bytes _ => bytesFunctions
  | .int _ => integerFunctions
  | .bool _ => integerFunctions
  | .float _ => floatFunctions
  | .scalar (.date _) => dateFunctions
  | .scalar (.moment _) => momentFunctions
  | .clock _ => clockFunctions
  | .duration _ => durationFunctions
  | .list _ => listFunctions
  | .tuple _ => tupleFunctions
  | .map _ => mapFunctions
  | .set _ => setFunctions
  | .range _ _ _ => rangeFunctions
  | .listing .keys _ => listingFunctions
  | .listing .entries _ => listingFunctions
  | .loop _ => loopFunctions
  | .cycler _ => cyclerFunctions
  | _ => []

/-- The names of the functions and properties of an object that have no meaning here. -/
def unsupportedParts : Object → List String
  | .safe _ => ["escape", "striptags", "unescape"]
  | .bytes _ =>
    ["capitalize", "center", "count", "endswith", "expandtabs", "find", "fromhex", "index",
      "isalnum", "isalpha", "isascii", "isdigit", "islower", "isspace", "istitle", "isupper",
      "join", "ljust", "lower", "lstrip", "maketrans", "partition", "removeprefix",
      "removesuffix", "replace", "rfind", "rindex", "rjust", "rpartition", "rsplit", "rstrip",
      "split", "splitlines", "startswith", "strip", "swapcase", "title", "translate", "upper",
      "zfill"]
  | .int _ => ["from_bytes", "to_bytes"]
  | .bool _ => ["from_bytes", "to_bytes"]
  | .float _ => ["fromhex"]
  | .complex _ _ => ["conjugate"]
  | .scalar (.date _) =>
    ["fromisocalendar", "fromisoformat", "fromordinal", "fromtimestamp", "isocalendar",
      "timetuple", "today"]
  | .scalar (.moment _) =>
    ["astimezone", "combine", "fromisocalendar", "fromisoformat", "fromordinal",
      "fromtimestamp", "isocalendar", "now", "strptime", "timetuple", "timetz", "today",
      "utcfromtimestamp", "utcnow", "utctimetuple"]
  | .clock _ => ["fromisoformat", "max", "min", "replace", "resolution"]
  | .zone _ => ["dst", "fromutc", "max", "min", "tzname", "utc", "utcoffset"]
  | .duration _ => ["max", "min", "resolution"]
  | .listing _ _ => ["mapping"]
  | .iterator _ _ =>
    ["close", "gi_code", "gi_frame", "gi_running", "gi_suspended", "gi_yieldfrom", "send", "throw"]
  | .loop _ =>
    ["_after", "_before", "_current", "_iterable", "_iterator", "_last_changed_value", "_length",
      "_peek_next", "_recurse", "_to_iterator", "_undefined"]
  | .space _ => ["_Namespace__attrs"]
  | .absent _ => missingParts
  | .blank _ => missingParts
  | _ => []
where
  /-- The names of what something missing knows about itself. -/
  missingParts : List String :=
    ["_fail_with_undefined_error", "_undefined_exception", "_undefined_hint",
      "_undefined_message", "_undefined_name", "_undefined_obj"]

end Template

end CodeLayout
