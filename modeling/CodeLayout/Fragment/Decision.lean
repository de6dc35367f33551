import CodeLayout.Fragment.Basic

/-!
# Inlining decisions

A block or a list goes on a single line when its decision says so. A caller may
attach a condition to a node. Without a condition a node follows what is inside
it: a block inlines when its only child inlines, and a list inlines when its
only item that is not empty inlines.

A sketch is a fragment with these optional conditions. `Fragment.settle` goes
through a sketch from the leaves to the root and replaces every condition by
its answer, so a condition is asked about a node whose children are decided
already. A condition may fail to answer. The failure is kept at the node and
takes effect only where somebody needs the decision.
-/

set_option autoImplicit false

namespace CodeLayout

/-- Why a condition gave no answer. -/
inductive ConditionError where
  /-- The condition needs a member that nodes of this kind do not have. -/
  | noAttribute (kind member : String)
deriving DecidableEq, Repr

/-- The wording of a condition's failure. -/
def ConditionError.message : ConditionError → String
  | .noAttribute kind member =>
    "'" ++ kind ++ "' object has no attribute '" ++ member ++ "'"

/-- The answer to the question whether a node goes on a single line. -/
abbrev Decision := Except ConditionError Bool

/-- A fragment in which every block and list knows its decision. -/
abbrev Decided := Fragment Decision

/-- A rule that decides for one node. The node it is asked about has decided
children, and carries the decision it would have without a condition. -/
abbrev Condition := Decided → Decision

/-- A fragment as a caller builds it. -/
abbrev Sketch := Fragment (Option Condition)

namespace Fragment

/-- The decision of a node. Only blocks and lists can inline. -/
def decision : Decided → Decision
  | .line _ => .ok false
  | .block _ _ _ _ inlining => inlining
  | .list _ _ _ inlining => inlining
  | .concat _ => .ok false
  | .foreign _ => .ok false

/-- The decision of the only node of a body. A body of any other length does not
inline. -/
def soleDecision : List Decided → Decision
  | [] => .ok false
  | [only] => only.decision
  | _ :: _ :: _ => .ok false

/-- The decision of a node that follows what is inside it. -/
def intrinsicDecision : Decided → Decision
  | .line _ => .ok false
  | .block _ body _ _ _ => soleDecision body
  | .list _ body _ _ => soleDecision (nonempty body)
  | .concat _ => .ok false
  | .foreign _ => .ok false

/-- The decision of a node under an optional condition. -/
def decisionUnder (condition : Option Condition) (node : Decided) : Decision :=
  match condition with
  | none => intrinsicDecision node
  | some asked => asked node

mutual

/-- Decides every node of a sketch, children before their parents. -/
def settle : Sketch → Decided
  | .line text => .line text
  | .block start body close connect condition =>
    let undecided : Decided :=
      .block start (settleBody body) close connect (soleDecision (settleBody body))
    .block start (settleBody body) close connect (decisionUnder condition undecided)
  | .list separator body trailing condition =>
    let undecided : Decided :=
      .list separator (settleBody body) trailing (soleDecision (nonempty (settleBody body)))
    .list separator (settleBody body) trailing (decisionUnder condition undecided)
  | .concat body => .concat (settleBody body)
  | .foreign kind => .foreign kind

/-- Decides every node of a body. -/
def settleBody : List Sketch → List Decided
  | [] => []
  | first :: rest => settle first :: settleBody rest

end

/-- A sketch that answers every question with a decision made before. -/
def freeze (fragment : Decided) : Sketch :=
  fragment.map fun decision => some fun _ => decision

end Fragment

end CodeLayout
