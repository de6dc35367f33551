import CodeLayout.Template.Tree

/-!
# Names in templates

The body of a repetition, of a captured text and of values with names is a frame: what is
assigned in it is gone after it. Within a frame a name has one place. If the first use of
a name in a frame assigns to it, and no frame around uses the name, it has no value before
the assignment, not even that of a variable from outside. An assignment in a branch of a
choice may not happen, so it hides nothing.
-/

set_option autoImplicit false

namespace CodeLayout

namespace Template

/-! ## Names that are read -/

mutual

/-- The variables in an expression. -/
def Expression.reads : Expression → List String
  | .constant _ => []
  | .unnamed _ => []
  | .unsupported _ => []
  | .variable name => [name]
  | .list items => Expression.allReads items
  | .tuple items => Expression.allReads items
  | .map entries => Expression.entryReads entries
  | .member owner _ => owner.reads
  | .item owner key => owner.reads ++ key.reads
  | .slice owner start stop step =>
    owner.reads ++ Expression.optionalReads start ++ Expression.optionalReads stop ++
      Expression.optionalReads step
  | .call function arguments => function.reads ++ Expression.argumentReads arguments
  | .filter operand _ arguments => operand.reads ++ Expression.argumentReads arguments
  | .test operand _ arguments => operand.reads ++ Expression.argumentReads arguments
  | .sign _ operand => operand.reads
  | .operation _ left right => left.reads ++ right.reads
  | .row parts => Expression.allReads parts
  | .comparison first rest => first.reads ++ Expression.comparedReads rest
  | .negation operand => operand.reads
  | .both left right => left.reads ++ right.reads
  | .either left right => left.reads ++ right.reads
  | .choice _ condition whenTrue otherwise =>
    condition.reads ++ whenTrue.reads ++ Expression.optionalReads otherwise

/-- The variables in several expressions. -/
def Expression.allReads : List Expression → List String
  | [] => []
  | first :: rest => first.reads ++ Expression.allReads rest

/-- The variables in the entries of a mapping. -/
def Expression.entryReads : List (Expression × Expression) → List String
  | [] => []
  | (key, value) :: rest => key.reads ++ value.reads ++ Expression.entryReads rest

/-- The variables in arguments by name. -/
def Expression.namedReads : List (String × Expression) → List String
  | [] => []
  | (_, value) :: rest => value.reads ++ Expression.namedReads rest

/-- The variables in the operands of comparisons. -/
def Expression.comparedReads : List (Comparison × Expression) → List String
  | [] => []
  | (_, operand) :: rest => operand.reads ++ Expression.comparedReads rest

/-- The variables in an expression that may be missing. -/
def Expression.optionalReads : Option Expression → List String
  | none => []
  | some expression => expression.reads

/-- The variables in the arguments of a call. -/
def Expression.argumentReads : Arguments Expression → List String
  | ⟨positional, named, spread, namedSpread⟩ =>
    Expression.allReads positional ++ Expression.namedReads named ++
      Expression.optionalReads spread ++ Expression.optionalReads namedSpread

end

/-- The variables in the arguments of filters. -/
def filterReads (filters : List FilterUse) : List String :=
  filters.flatMap fun use => Expression.argumentReads use.arguments

/-! ## Deep uses -/

mutual

/-- The variables that a statement and those inside of it read. -/
def Statement.deepReads : Statement → List String
  | .text _ => []
  | .show expression => expression.reads
  | .choice condition body otherwise =>
    condition.reads ++ Statement.allDeepReads body ++ Statement.allDeepReads otherwise
  | .repetition _ source condition _ body otherwise =>
    source.reads ++ Expression.optionalReads condition ++ Statement.allDeepReads body ++
      Statement.allDeepReads otherwise
  | .assignment _ value => value.reads
  | .capture _ filters body => filterReads filters ++ Statement.allDeepReads body
  | .binding targets body =>
    (targets.flatMap fun entry => entry.2.reads) ++ Statement.allDeepReads body
  | .filtered filters body => filterReads filters ++ Statement.allDeepReads body
  | .hiding _ => []

/-- The variables that statements and those inside of them read. -/
def Statement.allDeepReads : List Statement → List String
  | [] => []
  | first :: rest => first.deepReads ++ Statement.allDeepReads rest

end

mutual

/-- The names that a statement and those inside of it assign to. -/
def Statement.deepWrites : Statement → List String
  | .choice _ body otherwise => Statement.allDeepWrites body ++ Statement.allDeepWrites otherwise
  | .repetition target _ _ _ body otherwise =>
    target.names ++ Statement.allDeepWrites body ++ Statement.allDeepWrites otherwise
  | .assignment target _ => target.names
  | .capture target _ body => target.names ++ Statement.allDeepWrites body
  | .binding _ body => Statement.allDeepWrites body
  | .filtered _ body => Statement.allDeepWrites body
  | _ => []

/-- The names that statements and those inside of them assign to. -/
def Statement.allDeepWrites : List Statement → List String
  | [] => []
  | first :: rest => first.deepWrites ++ Statement.allDeepWrites rest

end

/-! ## Frames -/

mutual

/-- The names that a statement uses in its frame. -/
def Statement.frameNames : Statement → List String
  | .text _ => []
  | .show expression => expression.reads
  | .choice condition body otherwise =>
    condition.reads ++ Statement.allFrameNames body ++ Statement.allFrameNames otherwise
  | .repetition _ source _ _ _ _ => source.reads
  | .assignment target value => value.reads ++ target.names ++ target.owners
  | .capture target _ _ => target.names ++ target.owners
  | .binding targets _ => targets.flatMap fun entry => entry.2.reads
  | .filtered filters _ => filterReads filters
  | .hiding _ => []

/-- The names that statements use in their frame. -/
def Statement.allFrameNames : List Statement → List String
  | [] => []
  | first :: rest => first.frameNames ++ Statement.allFrameNames rest

end

/-- The names that a statement assigns to whenever it is done, and those that it reads
before. -/
def Statement.uses : Statement → List String × List String
  | .assignment target value => (target.names, value.reads ++ target.owners)
  | .capture target _ _ => (target.names, target.owners)
  | statement => ([], statement.frameNames)

/-- The names without values at the start of a frame, after some names were used. -/
def hiddenAfter (used : List String) : List Statement → List String
  | [] => []
  | first :: rest =>
    let (written, read) := first.uses
    let fresh := written.filter fun name => !used.contains name && !read.contains name
    fresh ++ hiddenAfter (used ++ read ++ written) rest

end Template

end CodeLayout
