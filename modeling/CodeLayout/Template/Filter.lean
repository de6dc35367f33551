import CodeLayout.Decimal.Reading
import CodeLayout.Template.Call

/-!
# Filters

A filter makes an object from another one and from further arguments. It has a name, or
several, and parameters of which some may be left out.

Many filters have no meaning here (`Filter.unsupportedNames`): those that round or sum up
numbers, choose, sort and group items, or lay out, mark up and measure texts. To name one
is no mistake in a template, and to use one is a fault of its own.
-/

set_option autoImplicit false

namespace CodeLayout

namespace Template

/-- The filters of templates. -/
inductive Filter where
  | upper
  | lower
  | title
  | capitalize
  | join
  | length
  | default
  | first
  | last
  | replace
  | trim
  | escape
  | abs
  | int
  | float
  | string
  | reverse
  | list
deriving DecidableEq, Repr

/-- How a filter or a test takes its arguments. -/
structure Usage where
  /-- The module of the function in the wording of faults. -/
  home : String
  /-- The name of the function in the wording of faults. -/
  function : String
  /-- The way it takes its arguments. The first one is the object itself. -/
  signature : Signature

/-- The full name of a function in the wording of faults. It does not say that items are
taken one after the other. -/
def Usage.fullName (usage : Usage) : String :=
  usage.home ++
    (if usage.function.startsWith "sync_" then (usage.function.drop 5).toString
      else usage.function)

/-- The arguments for the parameters. -/
def Usage.take (usage : Usage) (given : Given) : Except Fault (List (Option Object)) :=
  usage.signature.take usage.function usage.function given

namespace Filter

/-- The filters by name. -/
def names : List (String × Filter) :=
  [("upper", .upper), ("lower", .lower), ("title", .title), ("capitalize", .capitalize),
    ("join", .join), ("length", .length), ("count", .length), ("default", .default),
    ("d", .default), ("first", .first), ("last", .last), ("replace", .replace), ("trim", .trim),
    ("e", .escape), ("escape", .escape), ("abs", .abs), ("int", .int), ("float", .float),
    ("string", .string), ("reverse", .reverse), ("list", .list)]

/-- The names of the filters without a meaning here. -/
def unsupportedNames : List String :=
  ["attr", "batch", "center", "dictsort", "filesizeformat", "forceescape", "format", "groupby",
    "indent", "items", "map", "max", "min", "pprint", "random", "reject", "rejectattr", "round",
    "safe", "select", "selectattr", "slice", "sort", "striptags", "sum", "tojson", "truncate",
    "unique", "urlencode", "urlize", "wordcount", "wordwrap", "xmlattr"]

/-- Whether there is a filter with a name. -/
def exists? (name : String) : Bool :=
  (names.lookup name).isSome || unsupportedNames.contains name

/-- The usage of a filter whose object has a name. -/
def plainUsage (function : String) (besides : Nat) (parameters : List String)
    (required : Nat) : Usage :=
  { home := "jinja2.filters.", function, signature := .parameters besides parameters required 0 }

/-- The usage of a filter whose object has no name for callers. -/
def markupUsage (function : String) : Usage :=
  { home := "markupsafe.", function, signature := .parameters 0 ["s"] 1 1 }

/-- The usage of a filter that takes only its object. -/
def singleUsage (function : String) : Usage := { home := "", function, signature := .one }

/-- The usage of a filter. -/
def usage : Filter → Usage
  | .upper => plainUsage "do_upper" 0 ["s"] 1
  | .lower => plainUsage "do_lower" 0 ["s"] 1
  | .title => plainUsage "do_title" 0 ["s"] 1
  | .capitalize => plainUsage "do_capitalize" 0 ["s"] 1
  | .join => plainUsage "sync_do_join" 1 ["value", "d", "attribute"] 1
  | .length => singleUsage "len"
  | .default => plainUsage "do_default" 0 ["value", "default_value", "boolean"] 1
  | .first => plainUsage "sync_do_first" 1 ["seq"] 1
  | .last => plainUsage "do_last" 1 ["seq"] 1
  | .replace => plainUsage "do_replace" 1 ["s", "old", "new", "count"] 3
  | .trim => plainUsage "do_trim" 0 ["value", "chars"] 1
  | .escape => markupUsage "escape"
  | .abs => singleUsage "abs"
  | .int => plainUsage "do_int" 0 ["value", "default", "base"] 1
  | .float => plainUsage "do_float" 0 ["value", "default"] 1
  | .string => markupUsage "soft_str"
  | .reverse => plainUsage "do_reverse" 0 ["value"] 1
  | .list => plainUsage "sync_do_list" 0 ["value"] 1

end Filter

/-! ## Texts -/

/-- A text made from the text of an object, safe if the object is. -/
def changeText (change : String → String) (object : Object) : Run Object := do
  match object with
  | .safe plain => return .safe (change plain)
  | object => return .text (change (← shownOf object))

/-- Whether a character separates words in a title. -/
def separatesWords (character : Char) : Bool :=
  isBlank character || "-(\x7b[<".toList.contains character

/-- A text with a capital at the start of every word and small letters after it. -/
def titleWords : Nat → List Char → String
  | 0, _ => ""
  | _, [] => ""
  | limit + 1, first :: rest =>
    if separatesWords first then
      String.singleton first ++ titleWords limit rest
    else
      let word := rest.takeWhile fun character => !separatesWords character
      upperText (String.singleton first) ++ lowerText (String.ofList word) ++
        titleWords limit (rest.drop word.length)

/-- A text as an object of markup in which nothing means markup. -/
def escapeObject (object : Object) : Run Object := do return .safe (← escapedText object)

/-! ## Items -/

/-- Names and indices as steps of a path: an index has digits only. -/
def stepsOf : List (List Char) → Run (List Object)
  | [] => return []
  | first :: rest => do
    let text := String.ofList first
    let step ← if !first.isEmpty && first.all isAnyDigit then do
        pure (Object.int (← integerOfWords (.text text) text))
      else pure (.text text)
    return step :: (← stepsOf rest)

/-- The steps of a path of names and indices with points between them. Any object but a text
is a single step. -/
def pathSteps (path : Object) : Run (List Object) :=
  match path, path.text? with
  | .null, _ => return []
  | _, some plain => stepsOf (cutAt ['.'] plain.length none plain.toList)
  | path, none => return [path]

/-- The texts of the parts of items that some steps lead to. -/
def followAll (steps : List Object) : List Object → Run (List String)
  | [] => return []
  | first :: rest => do
    let shown ← shownOf (← steps.foldlM partOf first)
    return shown :: (← followAll steps rest)

/-- The texts of the items of an object in a row, with another text between them. -/
def joinItems (object between path : Object) : Run Object := do
  let steps ← pathSteps path
  match path with
  | .null => do
    let separator ← shownOf between
    let items ← itemsOf object
    return .text (separator.intercalate (← followAll steps items))
  | _ => do
    let items ← itemsOf object
    let separator ← shownOf between
    return .text (separator.intercalate (← followAll steps items))

/-- The first item of an object, or something missing. -/
def firstItem (object : Object) : Run Object := do
  return (← takeItem (← iterate object)).getD (.absent .firstItem)

/-- The last item of an object, or something missing. -/
def lastItem (object : Object) : Run Object := do
  match ← reversed? object with
  | some (.iterator _ address) => return (← takeItem address).getD (.absent .lastItem)
  | _ => fail (.mismatch (.reversed object.typeName))

/-- The items of an object from the last to the first. A text stays a text. -/
def reverseObject (object : Object) : Run Object := do
  match object.text? with
  | some _ => changeText (onCharacters List.reverse) object
  | none =>
    match ← reversed? object with
    | some iterator => return iterator
    | none =>
      match ← items? object with
      | some items => newList items.reverse
      | none => fail .filterItems

/-! ## Numbers -/

/-- The whole number that a text stands for in a base, if it is one. Base 0 means that the
text begins with a sign of its base, or is a number of base ten without zeros before
it. -/
def integerIn? (base : Int) (text : String) : Option Int :=
  let number? (base : Nat) : Option Int :=
    match readInteger base text.toList with
    | .number number => some number
    | _ => none
  if 2 ≤ base && base ≤ 36 then
    number? base.toNat
  else if base = 0 then
    match (splitSign (trimBlanks text.toList)).2 with
    | '0' :: letter :: rest =>
      match [2, 8, 16].find? fun base => (baseLetters base).contains letter with
      | some base => number? base
      | none =>
        if (letter :: rest).all fun digit => digit == '0' || digit == '_' then number? 10
        else none
    | _ => number? 10
  else
    none

/-- The text of bytes that are ASCII characters. -/
def asciiText? (raw : List UInt8) : Option String :=
  if raw.all (· < 0x80) then some (String.ofList (raw.map fun byte => Char.ofNat byte.toNat))
  else none

/-- The whole number that a text stands for, a fraction being cut off, or something else. -/
def integerOr (otherwise : Object) (base : Option Int) (plain : String) : Object :=
  let read := base.bind fun base => integerIn? base plain
  ((read.or ((readFloat? plain.toList).bind truncated?)).map .int).getD otherwise

/-- An object as a whole number, or something else if it is none. A fraction is cut
off. -/
def toInteger (object otherwise base : Object) : Run Object :=
  match object with
  | .absent missing => fail (.missing missing)
  | .blank missing => fail (.missing missing)
  | .float number =>
    if number.isInf then fail (.excess .infinity)
    else return ((truncated? number).map .int).getD otherwise
  | .bytes raw => return ((asciiText? raw).map (integerOr otherwise (some 10))).getD otherwise
  | object =>
    match object.text?, object.integer? with
    | some plain, _ => return integerOr otherwise base.integer? plain
    | none, some number => return .int number
    | none, none => return otherwise

/-- An object as a floating point number, or something else if it is none. -/
def toFloating (object otherwise : Object) : Run Object :=
  match object with
  | .absent missing => fail (.missing missing)
  | .blank missing => fail (.missing missing)
  | .bytes raw =>
    return (((asciiText? raw).bind fun plain => readFloat? plain.toList).map .float).getD otherwise
  | object =>
    match object.text?, Number.ofObject? object with
    | some plain, _ => return ((readFloat? plain.toList).map .float).getD otherwise
    | none, some number => do return .float (← lift number.toFloat)
    | none, none => return otherwise

/-! ## Applying -/

/-- An object, or something else in place of what is missing, or in place of what is false
too. -/
def orDefault (object otherwise falseToo : Object) : Run Object := do
  if object.missing?.isSome then return otherwise
  else if (← truthOf falseToo) && !(← truthOf object) then return otherwise
  else return object

/-- A text with a part replaced. All are texts of objects. -/
def replaceShown (object old new count : Object) : Run Object := do
  let plain ← shownOf object
  let old ← shownOf old
  let new ← shownOf new
  let limit ← match count with
    | .null => pure none
    | count => limitOf count
  return .text (onCharacters (replacePart old.toList new.toList limit) plain)

/-- Applies a filter to an object and the arguments for its other parameters. -/
def Filter.apply (filter : Filter) (object : Object) (arguments : List (Option Object)) :
    Run Object := do
  match filter with
  | .upper => changeText upperText object
  | .lower => changeText lowerText object
  | .title => do
    let plain ← shownOf object
    return .text (titleWords plain.length plain.toList)
  | .capitalize => changeText capitalizedText object
  | .join => joinItems object (argument arguments 0 (.text "")) (argument arguments 1 .null)
  | .length => return .int (← lengthOf object)
  | .default =>
    orDefault object (argument arguments 0 (.text "")) (argument arguments 1 (.bool false))
  | .first => firstItem object
  | .last => lastItem object
  | .replace =>
    replaceShown object (argument arguments 0 .null) (argument arguments 1 .null)
      (argument arguments 2 .null)
  | .trim => do
    let text ← changeText id object
    let drops ← dropped "strip" (argument arguments 0 .null)
    changeText (onCharacters (trimTrailing drops ∘ trimLeading drops)) text
  | .escape => escapeObject object
  | .abs => absolute object
  | .int => toInteger object (argument arguments 0 (.int 0)) (argument arguments 1 (.int 10))
  | .float => toFloating object (argument arguments 0 (.float 0.0))
  | .string => changeText id object
  | .reverse => reverseObject object
  | .list => do newList (← itemsOf object)

/-- Applies the filter of a name to an object with arguments. -/
def applyFilter (name : String) (object : Object) (given : Given) : Run Object := do
  match Filter.names.lookup name with
  | none => fail (if Filter.exists? name then .unsupported name else .filter name)
  | some filter => do
    let all : Given := { given with positional := object :: given.positional }
    filter.apply object ((← lift (filter.usage.take all)).drop 1)

end Template

end CodeLayout
