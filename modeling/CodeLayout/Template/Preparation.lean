import CodeLayout.Template.Evaluation
import CodeLayout.Template.Names

/-!
# Preparing templates

Before a template is rendered, what has a value already is evaluated. Output that does not
depend on variables becomes plain text. The value of any other such expression is written
down as a constant; that fails for whole numbers with too many digits, and infinities and
what is not a number become words without meaning.

A template that names a filter or test that does not exist is not well formed, except
inside of a choice: there the name matters only when the filter or test is used. A
repetition may not assign to the name of its own state. The filters of a captured text may
use only names that are used around them.
-/

set_option autoImplicit false

namespace CodeLayout

namespace Template

/-! ## Expressions -/

/-- The value of an expression before the rendering, if it has one then. -/
def Expression.settled? (expression : Expression) : Run (Option Object) :=
  rescue (some <$> expression.value .before) fun fault =>
    if fault = .unsettled then some (return none) else none

/-- Whether all of several objects meet a condition. -/
def allMeet (condition : Object → Run Bool) : List Object → Run Bool
  | [] => return true
  | first :: rest => do
    if ← condition first then allMeet condition rest else return false

/-- The items, or the keys and values, of a collection. -/
def partsOf (object : Object) : Run (List Object) := do
  match object with
  | .tuple items => return items
  | .list address => listAt address
  | .set address => setAt address
  | .map address => return (← mapAt address).flatMap fun entry => [entry.1, entry.2]
  | _ => return []

/-- Whether an object can be written down as a constant. The first argument bounds how deep
it is nested. -/
def canBeWritten : Nat → Object → Run Bool
  | 0, _ => fail .endless
  | depth + 1, object => do
    match object with
    | .scalar _ => return true
    | .safe _ => return true
    | .range _ _ _ => return true
    | .complex _ _ => return true
    | .tuple _ => allMeet (canBeWritten depth) (← partsOf object)
    | .list _ => allMeet (canBeWritten depth) (← partsOf object)
    | .set _ => allMeet (canBeWritten depth) (← partsOf object)
    | .map _ => allMeet (canBeWritten depth) (← partsOf object)
    | _ => return false

/-- The word that a floating point number without a numeral is written as. -/
def wordOfFloat? (number : Float) : Option String :=
  if number.isNaN then some "nan" else if number.isInf then some "inf" else none

/-- The first result of several objects. -/
def firstFound (find : Object → Run (Option String)) : List Object → Run (Option String)
  | [] => return none
  | first :: rest => do
    match ← find first with
    | some found => return some found
    | none => firstFound find rest

/-- The first word without meaning in a constant. The first argument bounds how deep it is
nested. -/
def meaninglessWord? : Nat → Object → Run (Option String)
  | 0, _ => fail .endless
  | depth + 1, object => do
    match object with
    | .float number => return wordOfFloat? number
    | .complex real imaginary => return (wordOfFloat? real).or (wordOfFloat? imaginary)
    | object => firstFound (meaninglessWord? depth) (← partsOf object)

/-- A constant expression, or the word that it is written as if that has no meaning. -/
def Expression.written (expression : Expression) (object : Object) : Run Expression := do
  let _ ← writtenOf object
  match ← meaninglessWord? greatestNesting object with
  | some word => return .unnamed word
  | none => return expression

/-- Whether an expression is an operation, which is evaluated ahead if it can be. -/
def Expression.isOperation : Expression → Bool
  | .constant _ => false
  | .unnamed _ => false
  | .unsupported _ => false
  | .variable _ => false
  | .list _ => false
  | .tuple _ => false
  | .map _ => false
  | _ => true

/-- An expression that is written down as a constant if it has a value already. -/
def Expression.orConstant (inside : Bool) (expression : Expression)
    (otherwise : Run Expression) : Run Expression := do
  if inside || expression.isOperation then
    match ← expression.settled? with
    | some object =>
      if ← canBeWritten greatestNesting object then expression.written object else otherwise
    | none => otherwise
  else
    otherwise

/-- Fails if a name is needed and there is nothing of that name. -/
def requireName (soft there : Bool) : Run Unit :=
  if soft || there then return () else fail .malformed

mutual

/-- An expression made ready for the rendering. It may be inside of an operation, and it may
be in a choice, where it may name filters and tests that do not exist. -/
def Expression.prepared (inside soft : Bool) : Expression → Run Expression
  | .constant scalar => Expression.written (.constant scalar) (.scalar scalar)
  | .unnamed word => return .unnamed word
  | .unsupported name => fail (.unsupported name)
  | .variable name => return .variable name
  | .list items => Expression.orConstant inside (.list items) do
    return .list (← Expression.allPrepared inside soft items)
  | .tuple items => Expression.orConstant inside (.tuple items) do
    return .tuple (← Expression.allPrepared inside soft items)
  | .map entries => Expression.orConstant inside (.map entries) do
    return .map (← Expression.entriesPrepared inside soft entries)
  | .member owner name => Expression.orConstant inside (.member owner name) do
    return .member (← owner.prepared true soft) name
  | .item owner key => Expression.orConstant inside (.item owner key) do
    return .item (← owner.prepared true soft) (← key.prepared true soft)
  | .slice owner start stop step =>
    Expression.orConstant inside (.slice owner start stop step) do
      return .slice (← owner.prepared true soft) (← Expression.optionalPrepared soft start)
        (← Expression.optionalPrepared soft stop) (← Expression.optionalPrepared soft step)
  | .call function arguments => do
    return .call (← function.prepared true soft) (← Expression.argumentsPrepared soft arguments)
  | .filter operand name arguments =>
    Expression.orConstant inside (.filter operand name arguments) do
      requireName soft (Filter.exists? name)
      return .filter (← operand.prepared true soft) name
        (← Expression.argumentsPrepared soft arguments)
  | .test operand name arguments =>
    Expression.orConstant inside (.test operand name arguments) do
      requireName soft (Test.exists? name)
      return .test (← operand.prepared true soft) name
        (← Expression.argumentsPrepared soft arguments)
  | .sign before operand => Expression.orConstant inside (.sign before operand) do
    return .sign before (← operand.prepared true soft)
  | .operation operator left right =>
    Expression.orConstant inside (.operation operator left right) do
      return .operation operator (← left.prepared true soft) (← right.prepared true soft)
  | .row parts => Expression.orConstant inside (.row parts) do
    return .row (← Expression.allPrepared true soft parts)
  | .comparison first rest => Expression.orConstant inside (.comparison first rest) do
    return .comparison (← first.prepared true soft) (← Expression.comparedPrepared soft rest)
  | .negation operand => Expression.orConstant inside (.negation operand) do
    return .negation (← operand.prepared true soft)
  | .both left right => Expression.orConstant inside (.both left right) do
    return .both (← left.prepared true soft) (← right.prepared true soft)
  | .either left right => Expression.orConstant inside (.either left right) do
    return .either (← left.prepared true soft) (← right.prepared true soft)
  | .choice line condition whenTrue otherwise =>
    Expression.orConstant inside (.choice line condition whenTrue otherwise) do
      return .choice line (← condition.prepared true true) (← whenTrue.prepared true true)
        (← Expression.optionalPrepared true otherwise)

/-- Several expressions made ready. -/
def Expression.allPrepared (inside soft : Bool) : List Expression → Run (List Expression)
  | [] => return []
  | first :: rest => do
    let expression ← first.prepared inside soft
    return expression :: (← Expression.allPrepared inside soft rest)

/-- The entries of a mapping made ready. -/
def Expression.entriesPrepared (inside soft : Bool) :
    List (Expression × Expression) → Run (List (Expression × Expression))
  | [] => return []
  | (key, value) :: rest => do
    let key ← key.prepared inside soft
    let value ← value.prepared inside soft
    return (key, value) :: (← Expression.entriesPrepared inside soft rest)

/-- Arguments by name made ready. -/
def Expression.namedPrepared (soft : Bool) :
    List (String × Expression) → Run (List (String × Expression))
  | [] => return []
  | (name, value) :: rest => do
    let value ← value.prepared true soft
    return (name, value) :: (← Expression.namedPrepared soft rest)

/-- The operands of comparisons made ready. -/
def Expression.comparedPrepared (soft : Bool) :
    List (Comparison × Expression) → Run (List (Comparison × Expression))
  | [] => return []
  | (asked, operand) :: rest => do
    let operand ← operand.prepared true soft
    return (asked, operand) :: (← Expression.comparedPrepared soft rest)

/-- An expression that may be missing made ready. -/
def Expression.optionalPrepared (soft : Bool) : Option Expression → Run (Option Expression)
  | none => return none
  | some expression => do return some (← expression.prepared true soft)

/-- The arguments of a call made ready. -/
def Expression.argumentsPrepared (soft : Bool) :
    Arguments Expression → Run (Arguments Expression)
  | ⟨positional, named, spread, namedSpread⟩ => do
    let positional ← Expression.allPrepared true soft positional
    let named ← Expression.namedPrepared soft named
    let spread ← Expression.optionalPrepared soft spread
    let namedSpread ← Expression.optionalPrepared soft namedSpread
    return ⟨positional, named, spread, namedSpread⟩

end

/-! ## Statements -/

/-- The name of the state of a repetition. -/
def loopName : String := "loop"

/-- Whether something gives the state of its repetition a name. -/
def Repetition.hasState (repetition : Repetition) : Bool :=
  repetition.reentrant || (Statement.allDeepReads repetition.body).contains loopName

/-- The text of an expression that is shown, if it has a value already. -/
def Expression.settledText? (expression : Expression) : Run (Option String) :=
  attempt do
    match ← expression.settled? with
    | some object => shownOf object
    | none => fail .unsettled

/-- The filters of a text made ready. -/
def filtersPrepared : List FilterUse → Run (List FilterUse)
  | [] => return []
  | use :: rest => do
    requireName false (Filter.exists? use.name)
    let arguments ← Expression.argumentsPrepared false use.arguments
    return { use with arguments } :: (← filtersPrepared rest)

/-- Fails if a filter of a captured text uses a name that is not known. -/
def requireKnown (known : List String) (filters : List FilterUse) : Run Unit :=
  match (filterReads filters).find? fun name => !known.contains name with
  | some name => fail (.unknown name)
  | none => return ()

/-- Values with names made ready. -/
def bindingsPrepared (soft : Bool) :
    List (Target × Expression) → Run (List (Target × Expression))
  | [] => return []
  | (target, value) :: rest => do
    let value ← value.prepared false soft
    return (target, value) :: (← bindingsPrepared soft rest)

/-- A condition of a repetition made ready. -/
def conditionPrepared : Option Expression → Run (Option Expression)
  | none => return none
  | some condition => do return some (← condition.prepared false false)

/-- The body of a frame with parameters, in frames that use some names, when it is made
ready with the names in use. -/
def framed (known parameters : List String) (body : List Statement)
    (prepare : List String → Run (List Statement)) : Run (List Statement) := do
  let used := known ++ parameters
  let hidden := hiddenAfter used body
  let body ← prepare (used ++ Statement.allFrameNames body)
  return if hidden.isEmpty then body else .hiding hidden :: body

mutual

/-- A statement made ready for the rendering, in a choice or not. Some names are used in its
frame and around it. -/
def Statement.prepared (soft : Bool) (known : List String) : Statement → Run Statement
  | .text plain => return .text plain
  | .show expression => do
    match ← expression.settledText? with
    | some plain => return .text plain
    | none => return .show (← expression.prepared false soft)
  | .choice condition body otherwise => do
    let condition ← condition.prepared false true
    let body ← Statement.allPrepared true known body
    return .choice condition body (← Statement.allPrepared true known otherwise)
  | .repetition target source condition reentrant body otherwise => do
    let condition ← conditionPrepared condition
    if target.names.contains loopName || (Statement.allDeepWrites body).contains loopName ||
        (Statement.allDeepWrites otherwise).contains loopName then
      fail .malformed
    else
      let source ← source.prepared false soft
      let state := if (Statement.allDeepReads body).contains loopName || reentrant then [loopName]
        else []
      let body ← framed known (state ++ target.names) body fun names =>
        Statement.allPrepared false names body
      let otherwise ← framed known [] otherwise fun names =>
        Statement.allPrepared false names otherwise
      return .repetition target source condition reentrant body otherwise
  | .assignment target value => do return .assignment target (← value.prepared false soft)
  | .capture target filters body => do
    let inner := known ++ Statement.allFrameNames body
    let body ← framed known [] body fun names => Statement.allPrepared false names body
    requireKnown inner filters
    return .capture target (← filtersPrepared filters) body
  | .binding targets body => do
    let names := targets.flatMap fun entry => entry.1.names
    let targets ← bindingsPrepared soft targets
    return .binding targets
      (← framed known names body fun names => Statement.allPrepared false names body)
  | .filtered filters body => do
    let body ← framed (known ++ filterReads filters) [] body fun names =>
      Statement.allPrepared false names body
    return .filtered (← filtersPrepared filters) body
  | .hiding names => return .hiding names

/-- Statements made ready in turn. -/
def Statement.allPrepared (soft : Bool) (known : List String) :
    List Statement → Run (List Statement)
  | [] => return []
  | first :: rest => do
    let statement ← first.prepared soft known
    return statement :: (← Statement.allPrepared soft known rest)

end

/-- The body of a frame with parameters made ready, in frames that use some names. -/
def Statement.framePrepared (known parameters : List String) (body : List Statement) :
    Run (List Statement) :=
  framed known parameters body fun names => Statement.allPrepared false names body

end Template

end CodeLayout
