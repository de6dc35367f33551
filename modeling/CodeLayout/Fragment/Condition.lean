import CodeLayout.Fragment.Decision

/-!
# Conditions for inlining

The conditions that callers commonly attach to blocks and lists. All of them
look at the node itself and at its children only.
-/

set_option autoImplicit false

namespace CodeLayout

namespace Condition

/-- Always on a single line. -/
def always : Condition := fun _ => .ok true

/-- Never on a single line. -/
def never : Condition := fun _ => .ok false

/-- What the node would do without a condition. -/
def intrinsic : Condition := Fragment.intrinsicDecision

/-- The opposite of what the node would do without a condition. -/
def notIntrinsic : Condition := fun node => node.intrinsicDecision.map not

/-- The body is not empty. -/
def hasBody : Condition := fun node => .ok !node.children.isEmpty

/-- The first child is a line with a text. -/
def startsWithText : Condition := fun node =>
  match node.children with
  | .line text :: _ => .ok (text != "")
  | _ => .ok false

/-- The body has exactly so many children. -/
def bodyLengthIs (length : Int) : Condition := fun node =>
  .ok (Int.ofNat node.children.length == length)

/-- The body has at most so many children. -/
def bodyLengthAtMost (length : Int) : Condition := fun node =>
  .ok (Int.ofNat node.children.length ≤ length)

/-- Whether a fragment is a line of at most so many characters. -/
def isLineAtMost (length : Int) : Decided → Bool
  | .line text => Int.ofNat text.length ≤ length
  | .block _ _ _ _ _ => false
  | .list _ _ _ _ => false
  | .concat _ => false
  | .foreign _ => false

/-- All children are lines of at most so many characters. -/
def textLengthAtMost (length : Int) : Condition := fun node =>
  .ok (node.children.all (isLineAtMost length))

/-- A list has at most so many items. Nodes of other kinds have no items. -/
def itemsAtMost (limit : Int) : Condition := fun node =>
  match node with
  | .list _ body _ _ => .ok (Int.ofNat (Fragment.nonempty body).length ≤ limit)
  | .line _ => .error (.noAttribute "Line" "items")
  | .block _ _ _ _ _ => .error (.noAttribute "Block" "items")
  | .concat _ => .error (.noAttribute "Concat" "items")
  | .foreign kind => .error (.noAttribute kind "items")

/-- At most so many children are not empty. -/
def nonemptyAtMost (limit : Nat) : Condition := fun node =>
  .ok ((Fragment.nonempty node.children).length ≤ limit)

/-- The bound on the number of lines is at most so large. -/
def sizeHintAtMost (limit : Int) : Condition := fun node =>
  .ok (Int.ofNat node.sizeHint ≤ limit)

end Condition

end CodeLayout
