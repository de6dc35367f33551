import CodeLayout.Template.Written
import CodeLayout.Text.Part

/-!
# Comparing objects

Objects of any types can be equal or different. Numbers are ordered, texts, bytes,
dates, lengths of time, sequences by their first difference, and sets by inclusion.
Membership asks for an equal item, in a mapping for an equal key, and in a text for a
part.

A collection at one address is equal to itself without a look at its items. In a
collection, what is not a number counts as equal to itself.
-/

set_option autoImplicit false

namespace CodeLayout

namespace Template

/-- Whether an order between two things, if they can be compared, is as asked. -/
def Comparison.holds : Comparison → Option Ordering → Bool
  | .less, some order => order == .lt
  | .atMost, some order => order != .gt
  | .greater, some order => order == .gt
  | .atLeast, some order => order != .lt
  | _, _ => false

/-- The order of two lists by their first difference. -/
def orderOfLists {α : Type} (order : α → α → Ordering) : List α → List α → Ordering
  | [], [] => .eq
  | [], _ => .lt
  | _, [] => .gt
  | left :: lefts, right :: rights =>
    match order left right with
    | .eq => orderOfLists order lefts rights
    | decided => decided

/-- The order of two numbers. -/
def orderOf (left right : Nat) : Ordering := compare left right

/-! ## Equality -/

/-- Whether two lists have as many items and these are equal one by one. -/
def equalLists (equal : Object → Object → Run Bool) : List Object → List Object → Run Bool
  | [], [] => return true
  | left :: lefts, right :: rights => do
    if ← equal left right then equalLists equal lefts rights else return false
  | _, _ => return false

/-- Whether an object is equal to one of several. -/
def isAmong (equal : Object → Object → Run Bool) (object : Object) : List Object → Run Bool
  | [] => return false
  | first :: rest => do
    if ← equal first object then return true else isAmong equal object rest

/-- Whether all objects of a list are equal to objects of another one. -/
def areAmong (equal : Object → Object → Run Bool) (others : List Object) :
    List Object → Run Bool
  | [] => return true
  | first :: rest => do
    if ← isAmong equal first others then areAmong equal others rest else return false

/-- The object under a key. -/
def findEntry (equal : Object → Object → Run Bool) (key : Object) :
    List (Object × Object) → Run (Option Object)
  | [] => return none
  | (other, value) :: rest => do
    if ← equal other key then return some value else findEntry equal key rest

/-- Whether all entries of a mapping are in another one. -/
def entriesAmong (equal : Object → Object → Run Bool) (others : List (Object × Object)) :
    List (Object × Object) → Run Bool
  | [] => return true
  | (key, value) :: rest => do
    match ← findEntry equal key others with
    | none => return false
    | some other =>
      if ← equal value other then entriesAmong equal others rest else return false

/-- The members of a set, or the keys or entries of a mapping, which are compared as
sets. -/
def setMembers? (object : Object) : Run (Option (List Object)) := do
  match object with
  | .set address => return some (← setAt address)
  | .listing .keys address => return some (listedParts .keys (← mapAt address))
  | .listing .entries address => return some (listedParts .entries (← mapAt address))
  | _ => return none

/-- Whether two objects without changeable parts are equal. -/
def equalPlain : Object → Object → Bool
  | .scalar left, .scalar right => left.same right
  | .safe left, .safe right => left == right
  | .safe left, .scalar right => Scalar.same (.text left) right
  | .scalar left, .safe right => left.same (.text right)
  | .range start stop step, .range start' stop' step' =>
    let size := Object.rangeSize start stop step
    size == Object.rangeSize start' stop' step' &&
      (size == 0 || (start == start' && (size == 1 || step == step')))
  | .duration left, .duration right => left == right
  | .clock left, .clock right => left.timeOfDay == right.timeOfDay
  | .zone left, .zone right => left == right
  | .complex real imaginary, .complex real' imaginary' => real == real' && imaginary == imaginary'
  | .complex real imaginary, .scalar right => imaginary == 0.0 && Scalar.same (.float real) right
  | .scalar left, .complex real imaginary => imaginary == 0.0 && left.same (.float real)
  | .iterator _ left, .iterator _ right => left == right
  | .loop left, .loop right => left == right
  | .space left, .space right => left == right
  | .cycler left, .cycler right => left == right
  | .joiner left, .joiner right => left == right
  | .listing .values left, .listing .values right => left == right
  | .blank _, .blank _ => true
  | .kind left, .kind right => left == right
  | .function left, .function right => left == right
  | .method left name, .method right name' => name == name' && equalPlain left right
  | _, _ => false

/-- Whether an object is no number in its kind of number. -/
def isNotANumber : Object → Bool
  | .float number => number.isNaN
  | _ => false

/-- Whether two objects are equal. Inside of collections what is not a number is equal
to itself. The first argument bounds how deep they are nested. -/
def equalIn : Nat → Bool → Object → Object → Run Bool
  | 0, _, _, _ => fail .endless
  | depth + 1, inside, left, right => do
    if inside && isNotANumber left && isNotANumber right then
      return true
    else
      match left, right with
      | .absent missing, _ => fail (.missing missing)
      | _, .absent missing => fail (.missing missing)
      | .tuple left, .tuple right => equalLists (equalIn depth true) left right
      | .list left, .list right =>
        if left == right then return true
        else equalLists (equalIn depth true) (← listAt left) (← listAt right)
      | .map left, .map right =>
        if left == right then return true
        else
          let left ← mapAt left
          let right ← mapAt right
          if left.length ≠ right.length then return false
          else entriesAmong (equalIn depth true) right left
      | left, right =>
        match ← setMembers? left, ← setMembers? right with
        | some left, some right =>
          if left.length ≠ right.length then return false
          else areAmong (equalIn depth true) right left
        | _, _ => return equalPlain left right

/-- Whether two objects are equal. -/
def equalObjects (left right : Object) : Run Bool := equalIn greatestNesting false left right

/-- Whether two parts of collections are equal. -/
def equalParts (left right : Object) : Run Bool := equalIn greatestNesting true left right

/-- The members that are among others, or those that are not. -/
def membersAmong (others : List Object) (wanted : Bool) : List Object → Run (List Object)
  | [] => return []
  | first :: rest => do
    let kept ← membersAmong others wanted rest
    return if (← isAmong equalParts first others) == wanted then first :: kept else kept

/-! ## Keys -/

mutual

/-- Why an object cannot be a key, if it cannot. -/
def keyFault? : Object → Option Fault
  | .list _ => some (.mismatch (.key "list"))
  | .set _ => some (.mismatch (.key "set"))
  | .map _ => some (.mismatch (.key "dict"))
  | .listing .keys _ => some (.mismatch (.key "dict_keys"))
  | .listing .entries _ => some (.mismatch (.key "dict_items"))
  | .tuple items => keyFaultIn? items
  | .absent missing => some (.missing missing)
  | _ => none

/-- Why one of several objects cannot be a key. -/
def keyFaultIn? : List Object → Option Fault
  | [] => none
  | first :: rest => (keyFault? first).or (keyFaultIn? rest)

end

/-- Fails if an object cannot be a key. -/
def requireKey (key : Object) : Run Unit :=
  match keyFault? key with
  | some fault => fail fault
  | none => return ()

/-- Entries with one more. A key that is there already keeps its place and its form and
gets the new object. -/
def putEntry (key value : Object) : List (Object × Object) → Run (List (Object × Object))
  | [] => return [(key, value)]
  | (other, old) :: rest => do
    if ← equalParts other key then return (other, value) :: rest
    else return (other, old) :: (← putEntry key value rest)

/-- Entries with one more under a key that may be one. -/
def insertEntry (key value : Object) (entries : List (Object × Object)) :
    Run (List (Object × Object)) := do
  requireKey key
  putEntry key value entries

/-- The object under a key that may be one. -/
def lookupEntry (key : Object) (entries : List (Object × Object)) : Run (Option Object) := do
  requireKey key
  findEntry equalParts key entries

/-- Members with one more, if it is new. -/
def insertMember (member : Object) (members : List Object) : Run (List Object) := do
  requireKey member
  if ← isAmong equalParts member members then return members else return members ++ [member]

/-- Members with several more. -/
def insertMembers (members : List Object) : List Object → Run (List Object)
  | [] => return members
  | first :: rest => do insertMembers (← insertMember first members) rest

/-! ## Order -/

/-- The fault of an order of two objects that have none. -/
def orderFault {α : Type} (comparison : Comparison) (left right : Object) : Run α :=
  fail (.mismatch (.order comparison left.typeName right.typeName))

/-- Whether the order of two scalars is as asked. -/
def compareScalars (comparison : Comparison) (left right : Scalar) : Run Bool :=
  match left, right with
  | .text left, .text right =>
    return comparison.holds
      (some (orderOfLists orderOf (left.toList.map codeOf) (right.toList.map codeOf)))
  | .bytes left, .bytes right =>
    return comparison.holds
      (some (orderOfLists orderOf (left.map UInt8.toNat) (right.map UInt8.toNat)))
  | .date left, .date right =>
    return comparison.holds (some (orderOf left.dayNumber right.dayNumber))
  | .moment left, .moment right =>
    if left.offset.isSome == right.offset.isSome then
      return comparison.holds (some (compare left.instant right.instant))
    else
      fail (.mismatch .offsetOrder)
  | .date _, .moment _ => fail (.mismatch .dayOrder)
  | .moment _, .date _ => fail (.mismatch .dayOrder)
  | left, right =>
    match left.magnitude?, right.magnitude? with
    | some number, some number' => return comparison.holds (number.compare? number')
    | _, _ => orderFault comparison (.scalar left) (.scalar right)

/-- Whether the inclusion of two sets is as asked. -/
def compareSets (comparison : Comparison) (left right : List Object) : Run Bool :=
  match comparison with
  | .less => do return left.length < right.length && (← areAmong equalParts right left)
  | .atMost => areAmong equalParts right left
  | .greater => do return right.length < left.length && (← areAmong equalParts left right)
  | .atLeast => areAmong equalParts left right
  | _ => return false

/-- Whether the order of two sequences is as asked: it is that of the first items that
differ, or that of the lengths. -/
def compareLists (comparison : Comparison) (compare : Object → Object → Run Bool) :
    List Object → List Object → Run Bool
  | [], [] => return comparison.holds (some .eq)
  | [], _ => return comparison.holds (some .lt)
  | _, [] => return comparison.holds (some .gt)
  | left :: lefts, right :: rights => do
    if ← equalParts left right then compareLists comparison compare lefts rights
    else compare left right

/-- Whether the order of two objects is as asked. The first argument bounds how deep they
are nested. -/
def compareIn (comparison : Comparison) : Nat → Object → Object → Run Bool
  | 0, _, _ => fail .endless
  | depth + 1, left, right => do
    match left, right with
    | .absent missing, _ => fail (.missing missing)
    | .blank missing, _ => fail (.missing missing)
    | _, .absent missing => fail (.missing missing)
    | _, .blank missing => fail (.missing missing)
    | .scalar left, .scalar right => compareScalars comparison left right
    | .safe left, .safe right => compareScalars comparison (.text left) (.text right)
    | .safe left, .text right => compareScalars comparison (.text left) (.text right)
    | .text left, .safe right => compareScalars comparison (.text left) (.text right)
    | .duration left, .duration right => return comparison.holds (some (compare left right))
    | .clock left, .clock right =>
      return comparison.holds (some (compare left.timeOfDay right.timeOfDay))
    | .tuple left, .tuple right => compareLists comparison (compareIn comparison depth) left right
    | .list left, .list right =>
      compareLists comparison (compareIn comparison depth) (← listAt left) (← listAt right)
    | left, right =>
      match ← setMembers? left, ← setMembers? right with
      | some lefts, some rights => compareSets comparison lefts rights
      | _, _ => orderFault comparison left right

/-- Whether the order of two objects is as asked. -/
def compareObjects (comparison : Comparison) (left right : Object) : Run Bool :=
  compareIn comparison greatestNesting left right

/-! ## Membership -/

/-- Whether one of the items that are left at an address is equal to an object. The items
up to that one are taken. -/
def takeUntil (object : Object) (address : Address) : Nat → Run Bool
  | 0 => fail .endless
  | rounds + 1 => do
    match ← takeItem address with
    | none => return false
    | some item =>
      if ← equalParts item object then return true else takeUntil object address rounds

/-- Whether a number is among those of a range. -/
def inRange (start stop step number : Int) : Bool :=
  let place := (number - start).fdiv step
  (number - start).fmod step == 0 && 0 ≤ place && place < Object.rangeSize start stop step

/-- Whether an object is a member of a sequence of bytes. -/
def inBytes (object : Object) (raw : List UInt8) : Run Bool :=
  match object, object.integer? with
  | .bytes part, _ =>
    return isPartOf (part.map fun byte => Char.ofNat byte.toNat)
      (raw.map fun byte => Char.ofNat byte.toNat)
  | _, some number =>
    if 0 ≤ number && number < 256 then return raw.any fun byte => (byte.toNat : Int) == number
    else badValue "byte must be in range(0, 256)"
  | object, none => mismatch ("a bytes-like object is required, not " ++ marked object.typeName)

/-- Whether an object is a member of another one. -/
def isMember (object container : Object) : Run Bool := do
  match container with
  | .map address => return (← lookupEntry object (← mapAt address)).isSome
  | .listing .keys address => return (← lookupEntry object (← mapAt address)).isSome
  | .listing .entries address =>
    match object with
    | .tuple [key, value] => do
      match ← lookupEntry key (← mapAt address) with
      | some found => equalParts found value
      | none => return false
    | _ => return false
  | .set address => do
    requireKey object
    isAmong equalParts object (← setAt address)
  | .bytes raw => inBytes object raw
  | container =>
    match container.text?, object.text? with
    | some whole, some part => return isPartOf part.toList whole.toList
    | some _, none => fail (.mismatch (.textMember object.typeName))
    | none, _ =>
      match container, object.integer? with
      | .range start stop step, some number => return inRange start stop step number
      | container, _ =>
        match ← iterate? container with
        | some address => takeUntil object address greatestCount
        | none => fail (.mismatch (.container container.typeName))

/-- Whether a comparison of two objects holds. -/
def holds (comparison : Comparison) (left right : Object) : Run Bool := do
  match comparison with
  | .equal => equalObjects left right
  | .different => return !(← equalObjects left right)
  | .within => isMember left right
  | .notWithin => return !(← isMember left right)
  | comparison => compareObjects comparison left right

end Template

end CodeLayout
