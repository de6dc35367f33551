import CodeLayout.Value.Scalar

/-!
# Template trees

A template is a sequence of statements: plain text, expressions to be shown,
choices, repetitions and assignments. Expressions are built from constants and
variables by operators, access to parts, calls, filters and tests.
-/

set_option autoImplicit false

namespace CodeLayout

namespace Template

/-- The operators with one operand. -/
inductive Sign where
  | minus
  | plus
deriving DecidableEq, Repr

/-- The arithmetical operators with two operands. -/
inductive Operator where
  | add
  | subtract
  | multiply
  | divide
  | floorDivide
  | remainder
  | power
deriving DecidableEq, Repr

/-- The ways to compare two objects. -/
inductive Comparison where
  | equal
  | different
  | less
  | atMost
  | greater
  | atLeast
  | within
  | notWithin
deriving DecidableEq, Repr

/-- The names under which a call in a template gets arguments of its own. -/
def reservedArguments : List String :=
  ["_loop_vars", "_block_vars", "_Context__self", "_Context__obj"]

/-- The arguments of a call. -/
structure Arguments (α : Type) where
  /-- The arguments by position. -/
  positional : List α
  /-- The arguments by name. -/
  named : List (String × α)
  /-- Something whose items are further arguments by position. -/
  spread : Option α
  /-- Something whose entries are further arguments by name. -/
  namedSpread : Option α

/-- No arguments. -/
def Arguments.empty {α : Type} : Arguments α :=
  { positional := [], named := [], spread := none, namedSpread := none }

/-- An expression. -/
inductive Expression where
  /-- A constant. -/
  | constant (scalar : Scalar)
  /-- The word of a constant that cannot be written as a number. Nothing has this name. -/
  | unnamed (word : String)
  /-- Something that has no meaning here. -/
  | unsupported (name : String)
  /-- The value of a variable. -/
  | variable (name : String)
  /-- A list. -/
  | list (items : List Expression)
  /-- A tuple. -/
  | tuple (items : List Expression)
  /-- A mapping. -/
  | map (entries : List (Expression × Expression))
  /-- A part with a name. -/
  | member (owner : Expression) (name : String)
  /-- A part with an index or a key. -/
  | item (owner key : Expression)
  /-- The parts from one index up to another, with a step. -/
  | slice (owner : Expression) (start stop step : Option Expression)
  /-- A call. -/
  | call (function : Expression) (arguments : Arguments Expression)
  /-- A filter on an expression. -/
  | filter (operand : Expression) (name : String) (arguments : Arguments Expression)
  /-- A test of an expression. -/
  | test (operand : Expression) (name : String) (arguments : Arguments Expression)
  /-- A number with a sign. -/
  | sign (sign : Sign) (operand : Expression)
  /-- An operation on two numbers or sequences. -/
  | operation (operator : Operator) (left right : Expression)
  /-- The texts of several objects in a row. -/
  | row (parts : List Expression)
  /-- A chain of comparisons. -/
  | comparison (first : Expression) (rest : List (Comparison × Expression))
  /-- The opposite truth value. -/
  | negation (operand : Expression)
  /-- The first of two objects that is false, or the second. -/
  | both (left right : Expression)
  /-- The first of two objects that is true, or the second. -/
  | either (left right : Expression)
  /-- One of two objects by a condition, on a line of the template. -/
  | choice (line : Nat) (condition whenTrue : Expression) (otherwise : Option Expression)

/-- What a value is assigned to: a name, a part of the object with a name, or targets
for the parts of the value. -/
inductive Target where
  | name (name : String)
  | member (owner name : String)
  | tuple (targets : List Target)

/-- A filter with its arguments. -/
structure FilterUse where
  /-- The name of the filter. -/
  name : String
  /-- Its arguments. -/
  arguments : Arguments Expression

/-- A statement. -/
inductive Statement where
  /-- Plain text. -/
  | text (text : String)
  /-- An expression to be shown. -/
  | show (expression : Expression)
  /-- A choice by a condition. -/
  | choice (condition : Expression) (body otherwise : List Statement)
  /-- A repetition for the items of a source that meet a condition. What is done
  otherwise is done if there are none. A repetition may be open to be done again for
  other sources while it is done. -/
  | repetition (target : Target) (source : Expression) (condition : Option Expression)
    (reentrant : Bool) (body otherwise : List Statement)
  /-- An assignment. -/
  | assignment (target : Target) (value : Expression)
  /-- An assignment of the text that a body shows, after filters. -/
  | capture (target : Target) (filters : List FilterUse) (body : List Statement)
  /-- Values with names for a body. -/
  | binding (targets : List (Target × Expression)) (body : List Statement)
  /-- The text that a body shows, after filters. -/
  | filtered (filters : List FilterUse) (body : List Statement)
  /-- Names have no values from here on, until something is assigned to them. -/
  | hiding (names : List String)

/-- What a repetition does for its items. -/
structure Repetition where
  /-- What the items are assigned to. -/
  target : Target
  /-- The condition that the items have to meet. -/
  condition : Option Expression
  /-- Whether the repetition can be done again while it is done. -/
  reentrant : Bool
  /-- What is done for each item. -/
  body : List Statement
  /-- What is done if there are no items. -/
  otherwise : List Statement

mutual

/-- The names in a target. -/
def Target.names : Target → List String
  | .name only => [only]
  | .member _ _ => []
  | .tuple targets => Target.allNames targets

/-- The names in targets. -/
def Target.allNames : List Target → List String
  | [] => []
  | first :: rest => first.names ++ Target.allNames rest

/-- The names in a target of the objects whose parts are assigned to. -/
def Target.owners : Target → List String
  | .name _ => []
  | .member owner _ => [owner]
  | .tuple targets => Target.allOwners targets

/-- The same for several targets. -/
def Target.allOwners : List Target → List String
  | [] => []
  | first :: rest => first.owners ++ Target.allOwners rest

end

end Template

end CodeLayout
