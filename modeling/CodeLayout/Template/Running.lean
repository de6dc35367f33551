import CodeLayout.Template.Preparation

/-!
# Running statements

Statements are run in turn, each with the variables that the ones before it have left. A
choice shares its variables with the statements around it. The body of a repetition starts
with the outer variables for every item, and what it assigns is gone after the item; so is
what the body of a captured text assigns.

A repetition takes the items of its source one by one, and it looks at its condition when
it needs the next item. It may be done again for another source from within; how deep this
goes is bounded.
-/

set_option autoImplicit false

namespace CodeLayout

namespace Template

/-! ## Assigning -/

mutual

/-- Assigns an object to a target. A part is assigned to an object with names or to a
mapping. -/
def Target.assign (object : Object) (scope : Scope) : Target → Run Scope
  | .name only => return (only, object) :: scope
  | .member owner part => do
    match scope.find owner with
    | .space address => setEntry address part
    | .map address => setEntry address part
    | .list _ => mismatch "list indices must be integers or slices, not str"
    | .absent _ => mismatch "'MissingType' object does not support item assignment"
    | other => mismatch (marked other.typeName ++ " object does not support item assignment")
  | .tuple targets => do
    match ← items? object with
    | none => fail (.mismatch (.unpacked object.typeName))
    | some items =>
      if items.length < targets.length then
        fail (.value (.tooFew targets.length items.length))
      else if targets.length < items.length then
        fail (.value (.tooMany targets.length))
      else
        Target.assignAll items scope targets
where
  /-- Puts the object into a mapping under a name. -/
  setEntry (address : Address) (part : String) : Run Scope := do
    changeCell address (.map (← putEntry (.text part) object (← mapAt address)))
    return scope

/-- Assigns objects to targets, in turn. -/
def Target.assignAll (objects : List Object) (scope : Scope) : List Target → Run Scope
  | [] => return scope
  | first :: rest =>
    match objects with
    | [] => return scope
    | object :: objects => do Target.assignAll objects (← first.assign object scope) rest

end

mutual

/-- What a target stands for after an assignment. -/
def Target.value (scope : Scope) : Target → Object
  | .name only => scope.find only
  | .member owner _ => scope.find owner
  | .tuple targets => .tuple (Target.values scope targets)

/-- What targets stand for. -/
def Target.values (scope : Scope) : List Target → List Object
  | [] => []
  | first :: rest => first.value scope :: Target.values scope rest

end

/-- Fails if a part of something else than an object with names is assigned to. -/
def requireSpaces (scope : Scope) : List String → Run Unit
  | [] => return ()
  | first :: rest =>
    match scope.find first with
    | .space _ => requireSpaces scope rest
    | _ => fail (.refused .member)

/-- The item if it meets the condition of a repetition, put together again from its
targets. -/
def Repetition.keeps (repetition : Repetition) (scope : Scope) (item : Object) :
    Run (Option Object) := do
  let inner ← repetition.target.assign item scope
  match repetition.condition with
  | none => return some item
  | some condition =>
    if ← truthOf (← condition.value (.during inner)) then
      return some (repetition.target.value inner)
    else
      return none

/-! ## Repeating -/

/-- What a repetition does for items that are left: their number may be bounded. The text so
far is given back with what the body shows. -/
def repeatBody (target : Target) (scope : Scope) (next : Run (Option (Object × Scope)))
    (body : Scope → Run (String × Scope)) : Nat → Bool → String → Run (Bool × String)
  | 0, _, _ => fail .endless
  | rounds + 1, begun, shown => do
    match ← next with
    | none => return (begun, shown)
    | some (item, state) => do
      let inner ← target.assign item (state ++ scope)
      let (text, _) ← body inner
      repeatBody target scope next body rounds true (shown ++ text)

/-- The address of what gives the items of a source that meet the condition of a
repetition, and what this is as an object. -/
def Repetition.itemsFrom (repetition : Repetition) (scope : Scope) (source : Object) :
    Run (Object × Address) := do
  let address ← iterate source
  match repetition.condition with
  | none => return (source, address)
  | some _ => do
    let kept ← allocate (.iterator (.kept address repetition scope))
    return (.iterator "generator" kept, kept)

/-- Does a repetition for a source, at a depth. -/
def Repetition.run (repetition : Repetition) (scope : Scope)
    (body otherwise : Scope → Run (String × Scope)) (source : Object) (depth : Nat) :
    Run String := do
  let (source, iterator) ← repetition.itemsFrom scope source
  let next ←
    if repetition.hasState then do
      let state ← allocate (.loop
        { source, iterator, begun := 0, before := none, current := none, after := none,
          asked := none, length := none, depth,
          again := if repetition.reentrant then some (repetition, scope) else none })
      pure do
        match ← takeItem state with
        | some (.tuple [item, _]) => return some (item, [(loopName, Object.loop state)])
        | _ => return none
    else
      pure do return (← takeItem iterator).map fun item => (item, [])
  let (begun, shown) ← repeatBody repetition.target scope next body greatestCount false ""
  if begun then
    return shown
  else
    let (text, _) ← otherwise scope
    return text

/-! ## Running -/

/-- A text after filters. -/
def filterText (scope : Scope) (object : Object) : List FilterUse → Run Object
  | [] => return object
  | use :: rest => do
    let given ← Expression.given (.during scope) (filterFunction use.name) use.arguments
    filterText scope (← applyFilter use.name object given) rest

/-- Values with names, all evaluated with the same variables. -/
def bindAll (scope inner : Scope) : List (Target × Expression) → Run Scope
  | [] => return inner
  | (target, value) :: rest => do
    bindAll scope (← target.assign (← value.value (.during scope)) inner) rest

/-- The text of an object that has to be one already. -/
def plainText (object : Object) : Run String :=
  match object.text? with
  | some plain => return plain
  | none => fail (.mismatch (.joined 0 object.typeName))

mutual

/-- Runs a statement: the text that it shows, and the variables after it. -/
def Statement.run (scope : Scope) : Statement → Run (String × Scope)
  | .text plain => return (plain, scope)
  | .show expression => do
    return (← shownOf (← expression.value (.during scope)), scope)
  | .choice condition body otherwise => do
    if ← truthOf (← condition.value (.during scope)) then Statement.runAll scope body
    else Statement.runAll scope otherwise
  | .repetition target source condition reentrant body otherwise => do
    let repetition : Repetition := { target, condition, reentrant, body, otherwise }
    let source ← source.value (.during scope)
    let shown ← repetition.run scope (fun inner => Statement.runAll inner body)
      (fun inner => Statement.runAll inner otherwise) source 0
    return (shown, scope)
  | .assignment target value => do
    requireSpaces scope target.owners
    return ("", ← target.assign (← value.value (.during scope)) scope)
  | .capture target filters body => do
    let (shown, inner) ← Statement.runAll scope body
    return ("", ← target.assign (← filterText inner (.text shown) filters) scope)
  | .binding targets body => do
    let (shown, _) ← Statement.runAll (← bindAll scope scope targets) body
    return (shown, scope)
  | .filtered filters body => do
    let (shown, inner) ← Statement.runAll scope body
    return (← plainText (← filterText inner (.text shown) filters), scope)
  | .hiding names =>
    return ("", (names.map fun name => (name, .absent (.variable name))) ++ scope)

/-- Runs statements in turn. -/
def Statement.runAll (scope : Scope) : List Statement → Run (String × Scope)
  | [] => return ("", scope)
  | first :: rest => do
    let (shown, scope) ← first.run scope
    let (others, scope) ← Statement.runAll scope rest
    return (shown ++ others, scope)

end

/-! ## Repeating again -/

/-- How steps are done that lead back to statements, so many times inside of each other. -/
def machineOf : Nat → Machine
  | 0 =>
    { again := fun _ _ _ _ => throw .endless
      keeps := fun _ _ _ => throw .endless }
  | depth + 1 =>
    { again := fun repetition scope source level => do
        let shown ← (repetition.run scope (fun inner => Statement.runAll inner repetition.body)
          (fun inner => Statement.runAll inner repetition.otherwise) source level).run
          (machineOf depth)
        return .text shown
      keeps := fun repetition scope item => (repetition.keeps scope item).run (machineOf depth) }

/-- How often repetitions can be done again inside of themselves. -/
def greatestReentry : Nat := 240

/-- The result of a step with a store, and the store after it. -/
def runFrom {α : Type} (store : Store) (step : Run α) : Except Fault α × Store :=
  ((step.run (machineOf greatestReentry)).run).run store

end Template

end CodeLayout
