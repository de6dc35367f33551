import CodeLayout.Value.Basic

/-!
# Equality of values

Collections are equal when they are of one kind and have equal parts; the order
counts in lists and tuples only. A mapping has one entry for equal keys, so the
keys 1, 1.0 and true are one key.
-/

set_option autoImplicit false

namespace CodeLayout

namespace Value

mutual

/-- Whether two values are equal. -/
def same : Value → Value → Bool
  | .scalar left, .scalar right => left.same right
  | .list left, .list right => sameAll left right
  | .tuple left, .tuple right => sameAll left right
  | .set left, .set right => left.length == right.length && membersIn left right
  | .map left, .map right => left.length == right.length && entriesIn left right
  | .knot left _, .knot right _ => left == right
  | _, _ => false

/-- Whether two sequences are equal. -/
def sameAll : List Value → List Value → Bool
  | [], [] => true
  | left :: lefts, right :: rights => same left right && sameAll lefts rights
  | _, _ => false

/-- Whether all members of a sequence are in another. -/
def membersIn : List Value → List Value → Bool
  | [], _ => true
  | left :: lefts, rights => rights.any (fun right => same left right) && membersIn lefts rights

/-- Whether all entries of a mapping are in another. -/
def entriesIn : List (Value × Value) → List (Value × Value) → Bool
  | [], _ => true
  | (key, value) :: rest, others =>
    others.any (fun other => same key other.1 && same value other.2) && entriesIn rest others

end

/-- Puts an entry into a mapping. A key that is there already keeps its place
and its form and gets the new value. -/
def insert (key value : Value) : List (Value × Value) → List (Value × Value)
  | [] => [(key, value)]
  | (other, old) :: rest =>
    if same other key then (other, value) :: rest else (other, old) :: insert key value rest

end Value

end CodeLayout
