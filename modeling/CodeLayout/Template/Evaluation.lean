import CodeLayout.Template.Test

/-!
# Evaluating expressions

An expression has a value where variables have values. Operands are evaluated from
the left, and only as far as they are needed: the second operand of `and` and `or`,
the objects of a choice, and the rest of a chain of comparisons may be skipped.

An expression can also be evaluated before its template is rendered. Then variables and
calls have no value yet, and neither has an operation that fails: it is left for the
rendering.

The template itself has a name. As an object it has no meaning here, and what the template
assigns to its name takes its place.
-/

set_option autoImplicit false

namespace CodeLayout

namespace Template

/-- When an expression is evaluated. -/
inductive Stage where
  /-- Before the rendering. -/
  | before
  /-- While a template is rendered, with variables. -/
  | during (scope : Scope)

/-- The value of a variable. -/
def Scope.find (scope : Scope) (name : String) : Object :=
  ((scope.lookup name).or (globals.lookup name)).getD (.absent (.variable name))

/-- The name of the template, which no variable of it may have. -/
def takenName : String := "self"

namespace Stage

/-- The value of a variable at a stage. -/
def find (name : String) : Stage → Run Object
  | .before => fail .unsettled
  | .during scope =>
    if name = takenName && (scope.lookup name).isNone then fail (.unsupported name)
    else return scope.find name

/-- A step that may fail at a stage. Before the rendering its faults are left for later. -/
def settle {α : Type} (step : Run α) : Stage → Run α
  | .before => do
    match ← attempt step with
    | some result => return result
    | none => fail .unsettled
  | .during _ => step

/-- A step that is possible only at the rendering. -/
def postpone {α : Type} (step : Run α) : Stage → Run α
  | .before => fail .unsettled
  | .during _ => step

/-- A step that is possible before the rendering on a condition. -/
def postponeUnless {α : Type} (condition : Bool) (step : Run α) (stage : Stage) : Run α :=
  if condition then step else stage.postpone step

end Stage

/-- The function in whose name templates call objects. -/
def callerName : String := "jinja2.runtime.Context.call"

/-- The function in whose name a filter takes arguments. -/
def filterFunction (name : String) : String :=
  ((Filter.names.lookup name).map fun filter => filter.usage.fullName).getD name

/-- The function in whose name a test takes arguments. -/
def testFunction (name : String) : String :=
  ((Test.names.lookup name).map fun test => (test.usage name).fullName).getD name

/-- The parts of an object in a range of indices. Before the rendering an object without
such parts has something missing instead. -/
def sliceAt (stage : Stage) (owner start stop step : Object) : Run Object := do
  match stage with
  | .during _ => sliceOf owner start stop step
  | .before =>
    match ← attempt (sliceOf owner start stop step) with
    | some found => return found
    | none => do
      let written ← writtenAll writtenOf [start, stop, step]
      if step.integer? = some 0 then fail (.value .indexStep)
      else return .absent (.item owner.description ("slice" ++ tupleText written))

/-- Entries that are put into a mapping in turn. -/
def mapOfEntries (found : List (Object × Object)) :
    List (Object × Object) → Run (List (Object × Object))
  | [] => return found
  | (key, value) :: rest => do mapOfEntries (← insertEntry key value found) rest

mutual

/-- The value of an expression. -/
def Expression.value (stage : Stage) : Expression → Run Object
  | .constant scalar => return .scalar scalar
  | .unnamed word => fail (.unnamed word)
  | .unsupported name => fail (.unsupported name)
  | .variable name => stage.find name
  | .list items => do newList (← Expression.values stage items)
  | .tuple items => do return .tuple (← Expression.values stage items)
  | .map entries => do newMap (← mapOfEntries [] (← Expression.entryValues stage entries))
  | .member owner name => stage.settle do memberOf (← owner.value stage) name
  | .item owner key => stage.settle do partOf (← owner.value stage) (← key.value stage)
  | .slice owner start stop step => stage.settle do
    sliceAt stage (← owner.value stage) (← Expression.boundValue stage start)
      (← Expression.boundValue stage stop) (← Expression.boundValue stage step)
  | .call function arguments => stage.postpone do
    let function ← function.value stage
    callObject function (← Expression.given stage callerName arguments)
  | .filter operand name arguments =>
    stage.postponeUnless (Filter.names.lookup name).isSome do
      let object ← operand.value stage
      let given ← Expression.given stage (filterFunction name) arguments
      stage.settle (applyFilter name object given)
  | .test operand name arguments =>
    stage.postponeUnless (Test.names.lookup name).isSome do
      let object ← operand.value stage
      let given ← Expression.given stage (testFunction name) arguments
      stage.settle (applyTest name object given)
  | .sign before operand => stage.settle do applySign before (← operand.value stage)
  | .operation operator left right => stage.settle do
    operate operator (← left.value stage) (← right.value stage)
  | .row parts => do
    return .text (String.join (← shownAll (← Expression.values stage parts)))
  | .comparison first rest => do
    let left ← first.value stage
    stage.settle do return .bool (← Expression.chainHolds stage left rest)
  | .negation operand => stage.settle do return .bool !(← truthOf (← operand.value stage))
  | .both left right => do
    let first ← left.value stage
    if ← truthOf first then right.value stage else return first
  | .either left right => do
    let first ← left.value stage
    if ← truthOf first then return first else right.value stage
  | .choice line condition whenTrue otherwise => do
    if ← truthOf (← condition.value stage) then whenTrue.value stage
    else Expression.otherwiseValue stage line otherwise

/-- The values of several expressions. -/
def Expression.values (stage : Stage) : List Expression → Run (List Object)
  | [] => return []
  | first :: rest => do
    let value ← first.value stage
    return value :: (← Expression.values stage rest)

/-- The values of arguments by name. -/
def Expression.namedValues (stage : Stage) :
    List (String × Expression) → Run (List (String × Object))
  | [] => return []
  | (name, first) :: rest => do
    let value ← first.value stage
    return (name, value) :: (← Expression.namedValues stage rest)

/-- The values of the entries of a mapping. -/
def Expression.entryValues (stage : Stage) :
    List (Expression × Expression) → Run (List (Object × Object))
  | [] => return []
  | (key, value) :: rest => do
    let key ← key.value stage
    let value ← value.value stage
    return (key, value) :: (← Expression.entryValues stage rest)

/-- Whether the comparisons after an object hold. -/
def Expression.chainHolds (stage : Stage) (left : Object) :
    List (Comparison × Expression) → Run Bool
  | [] => return true
  | (asked, operand) :: rest => do
    let right ← operand.value stage
    if ← holds asked left right then Expression.chainHolds stage right rest else return false

/-- The value of a bound that may be missing. -/
def Expression.boundValue (stage : Stage) : Option Expression → Run Object
  | none => return .null
  | some bound => bound.value stage

/-- The value of the second object of a choice on a line, which may be missing. -/
def Expression.otherwiseValue (stage : Stage) (line : Nat) : Option Expression → Run Object
  | none => stage.postpone (return .blank (.otherwise line))
  | some otherwise => otherwise.value stage

/-- Arguments by position with those of something that is spread out. -/
def Expression.spreadValues (stage : Stage) (function : String) (positional : List Object) :
    Option Expression → Run (List Object)
  | none => return positional
  | some spread => stage.settle do
    return positional ++ (← spreadItems function (← spread.value stage))

/-- Arguments by name with those of something that is spread out. -/
def Expression.namedSpreadValues (stage : Stage) (function : String)
    (named : List (String × Object)) : Option Expression → Run (List (String × Object))
  | none => return named
  | some spread => stage.settle do spreadEntries function named (← spread.value stage)

/-- The values of the arguments of a call in the name of a function. -/
def Expression.given (stage : Stage) (function : String) : Arguments Expression → Run Given
  | ⟨positional, named, spread, namedSpread⟩ => do
    let positional ← Expression.values stage positional
    let positional ← Expression.spreadValues stage function positional spread
    let named ← Expression.namedValues stage named
    let named ← Expression.namedSpreadValues stage function named namedSpread
    return { positional, named }

end

end Template

end CodeLayout
