import CodeLayout.Fragment.Condition

/-!
# Changed copies of a fragment

A modifier gives a changed copy of a block or a list. It fits some kinds of
node and not others, and gives no result where it does not fit.
-/

set_option autoImplicit false

namespace CodeLayout

/-- The ways to change a node. -/
inductive Modifier where
  /-- A block that goes onto the line before it. -/
  | connected
  /-- A block or list with a condition of its own. -/
  | inlineWhen (condition : Condition)
  /-- A list with another rule for its last separator. -/
  | trail (trailing : Trailing)

/-- The modifier for nodes that always go on a single line. -/
def Modifier.inlined : Modifier := .inlineWhen Condition.always

/-- The modifier for nodes that never go on a single line. -/
def Modifier.neverInline : Modifier := .inlineWhen Condition.never

namespace Fragment

/-- A copy of a block that goes onto the line before it. -/
def connected? : Sketch → Option Sketch
  | .block start body close _ condition => some (.block start body close true condition)
  | _ => none

/-- A copy of a block or list with this condition. -/
def inlineWhen? (condition : Condition) : Sketch → Option Sketch
  | .block start body close connect _ => some (.block start body close connect (some condition))
  | .list separator body trailing _ => some (.list separator body trailing (some condition))
  | _ => none

/-- A copy of a list with this rule for its last separator. -/
def trail? (trailing : Trailing) : Sketch → Option Sketch
  | .list separator body _ condition => some (.list separator body trailing condition)
  | _ => none

/-- The changed copy of a node, if the modifier fits its kind. -/
def modify? (fragment : Sketch) : Modifier → Option Sketch
  | .connected => fragment.connected?
  | .inlineWhen condition => fragment.inlineWhen? condition
  | .trail trailing => fragment.trail? trailing

end Fragment

end CodeLayout
