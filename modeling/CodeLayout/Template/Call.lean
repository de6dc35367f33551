import CodeLayout.Template.CollectionFunction
import CodeLayout.Template.NumberFunction

/-!
# Calls in templates

A template can call the functions of objects, and types, which make ranges, mappings and
other objects. The state of a repetition can be called with another source to do the
repetition again.

Further arguments can be spread out of an object: its items are arguments by position, its
entries arguments by name.

The function that makes a text at random has no meaning here, and neither have types that
are no part of the template language.
-/

set_option autoImplicit false

namespace CodeLayout

namespace Template

/-! ## Arguments that are spread out -/

/-- The items of an object as arguments of a function. -/
def spreadItems (function : String) (object : Object) : Run (List Object) := do
  match ← items? object with
  | some items => return items
  | none => mismatch (spreadProblem function "*" "an iterable" object.typeName)

/-- Arguments by name with the entries of a mapping behind them. -/
def addNamed (function : String) (named : List (String × Object)) :
    List (Object × Object) → Run (List (String × Object))
  | [] => return named
  | (key, value) :: rest =>
    match key.text? with
    | none => mismatch "keywords must be strings"
    | some name =>
      if reservedArguments.contains name then
        fail (.unsupported name)
      else if (named.lookup name).isSome then
        mismatch (function ++ "() got multiple values for keyword argument " ++ quoted name)
      else
        addNamed function (named ++ [(name, value)]) rest

/-- Arguments by name with the entries of an object behind them. -/
def spreadEntries (function : String) (named : List (String × Object)) (object : Object) :
    Run (List (String × Object)) := do
  match object with
  | .map address => addNamed function named (← mapAt address)
  | .absent missing => fail (.missing missing)
  | .blank missing => fail (.missing missing)
  | other => mismatch (spreadProblem function "**" "a mapping" other.typeName)

/-! ## Types -/

/-- The numbers of the arguments of a range. -/
def integersOf : List Object → Run (List Int)
  | [] => return []
  | first :: rest =>
    match first.integer? with
    | some number => do return number :: (← integersOf rest)
    | none => fail (.mismatch (.integer first.typeName))

/-- Makes a range. -/
def makeRange (given : Given) : Run Object := do
  let arguments ← lift ((Signature.counted 1 3).take "range" "range" given)
  match ← integersOf (arguments.filterMap id) with
  | [] => return .range 0 0 1
  | [stop] => return .range 0 stop 1
  | [start, stop] => return .range start stop 1
  | start :: stop :: step :: _ =>
    if step = 0 then fail (.value .rangeStep) else return .range start stop step

/-- Makes something that gives objects in turn. -/
def makeCycler (given : Given) : Run Object := do
  let _ ← lift (Signature.starred.take "Cycler.__init__" "__init__" given)
  if given.positional.isEmpty then
    fail (.state "at least one item has to be provided")
  else
    return .cycler (← allocate (.cycler given.positional 0))

/-- Makes something that gives separators. -/
def makeJoiner (given : Given) : Run Object := do
  let arguments ← lift
    ((Signature.parameters 1 ["sep"] 0 0).take "Joiner.__init__" "__init__" given)
  return .joiner (← allocate (.joiner (argument arguments 0 (.text ", ")) false))

/-- The types that can be called, with what they make. -/
def makers : List (String × (Given → Run Object)) :=
  [("range", makeRange),
    ("dict", fun given => do newMap (← mergeGiven "dict" [] given)),
    (Object.spaceKind, fun given => do
      return .space (← allocate (.map (← mergeGiven "dict" [] given)))),
    (Object.cyclerKind, makeCycler), (Object.joinerKind, makeJoiner)]

/-- The name of the function that makes a text at random. -/
def sampleTextName : String := "generate_lorem_ipsum"

/-- The types and functions that can be used without a variable. -/
def globals : List (String × Object) :=
  [("range", .kind "range"), ("dict", .kind "dict"), ("lipsum", .function sampleTextName),
    ("cycler", .kind Object.cyclerKind), ("joiner", .kind Object.joinerKind),
    ("namespace", .kind Object.spaceKind)]

/-! ## Functions of objects -/

/-- Calls a function of the state of a repetition. -/
def callLoop (address : Address) (name : String) (arguments : List Object) : Run Object := do
  let state ← loopAt address
  match name with
  | "cycle" =>
    match arguments[(state.begun - 1) % arguments.length]? with
    | some chosen => return chosen
    | none => fail (.mismatch .cycled)
  | _ => do
    let same ←
      match state.asked with
      | none => pure false
      | some asked => equalLists equalParts asked arguments
    let state ← loopAt address
    assignCell address (.loop { state with asked := if same then state.asked else some arguments })
    return .bool !same

/-- Calls a function of something that gives objects in turn. -/
def callCycler (address : Address) (name : String) : Run Object := do
  match ← cellAt address, name with
  | .cycler items place, "next" => do
    assignCell address (.cycler items ((place + 1) % items.length))
    return (items[place]?).getD .null
  | .cycler items _, _ => do
    assignCell address (.cycler items 0)
    return .null
  | _, _ => return .null

/-- Whether none of several objects is a member of another one. -/
def areDisjoint (container : Object) : List Object → Run Bool
  | [] => return true
  | first :: rest => do
    if ← isMember first container then return false else areDisjoint container rest

/-- Calls a function of an object with the arguments for its parameters. -/
def callFunction (owner : Object) (name : String) (given : Given)
    (arguments : List (Option Object)) : Run Object := do
  match owner with
  | .text plain =>
    if name = "format" then return .text (← fillFields false plain given)
    else callText plain name arguments
  | .safe plain =>
    if name = "format" then return .safe (← fillFields true plain given)
    else callSafe plain name arguments
  | .bytes raw => callBytes raw name arguments
  | .int number => return callInteger number name
  | .bool truth => return callInteger (if truth then 1 else 0) name
  | .float number => callFloat number name
  | .scalar (.date date) => callDate date name arguments
  | .scalar (.moment moment) => callMoment moment name arguments
  | .clock moment => callClock moment name arguments
  | .duration microseconds => lift (Number.quotient microseconds 1000000)
  | .list address =>
    if name = "sort" && !given.positional.isEmpty then
      mismatch "sort() takes no positional arguments"
    else
      callList address name arguments
  | .tuple items => callTuple items name arguments
  | .map address =>
    if name = "update" then do
      changeCell address (.map (← mergeGiven name (← mapAt address) given))
      return .null
    else
      callMap address name arguments
  | .set address => callSet address name given.positional
  | .range start stop step => callRangeFunction start stop step name (argument arguments 0 .null)
  | .listing _ _ => do
    return .bool (← areDisjoint owner (← itemsOf (argument arguments 0 .null)))
  | .loop address => callLoop address name given.positional
  | .cycler address => callCycler address name
  | other => fail (.mismatch (.called other.typeName))

/-- Does a repetition again for another source. -/
def callAgain (address : Address) (given : Given) : Run Object := do
  let arguments ← lift
    ((Signature.parameters 1 ["iterable"] 1 0).take "LoopContext.__call__" "__call__" given)
  let state ← loopAt address
  match state.again with
  | none =>
    mismatch "The loop must have the 'recursive' marker to be called recursively."
  | some (repetition, scope) => do
    let machine ← read
    liftM (machine.again repetition scope (argument arguments 0 .null) (state.depth + 1))

/-- Asks for a separator. -/
def callJoiner (address : Address) (given : Given) : Run Object := do
  let _ ← lift ((Signature.parameters 1 [] 0 0).take "Joiner.__call__" "__call__" given)
  match ← cellAt address with
  | .joiner separator false => do
    assignCell address (.joiner separator true)
    return .text ""
  | .joiner separator true => return separator
  | _ => return .null

/-- Calls an object. -/
def callObject (function : Object) (given : Given) : Run Object := do
  match function with
  | .absent missing => fail (.missing missing)
  | .blank missing => fail (.missing missing)
  | .kind name =>
    match makers.lookup name with
    | some make => make given
    | none => fail (.unsupported name)
  | .function name => fail (.unsupported name)
  | .method owner name =>
    match (functionsOf owner).lookup name with
    | some signature => do
      let arguments ← lift
        (signature.take (Object.lastName owner.kindName ++ "." ++ name) name given)
      callFunction owner name given arguments
    | none => fail (.mismatch (.called owner.typeName))
  | .loop address => callAgain address given
  | .joiner address => callJoiner address given
  | other => fail (.mismatch (.called other.typeName))

end Template

end CodeLayout
