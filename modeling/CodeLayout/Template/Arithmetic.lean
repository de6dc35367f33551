import CodeLayout.Decimal.Division
import CodeLayout.Template.Directive

/-!
# Arithmetic of objects

Numbers are added, subtracted, multiplied, divided and raised to powers. Whole
numbers are exact; together with a floating point number they are rounded first.
The quotient of two whole numbers is a floating point number, and a power of a number
below zero may have an imaginary part. Lengths of time are added to dates and to each
other, and two dates differ by one. Sequences can be put together and repeated, and a
text that is safe for markup stays safe. A text can be filled by its directives.

A number with an imaginary part is not an operand here.
-/

set_option autoImplicit false

namespace CodeLayout

namespace Template

namespace Number

/-- The quotient of two whole numbers. -/
def quotient (left right : Int) : Except Fault Object :=
  if right = 0 then
    .error (.division .quotient)
  else
    let rounded := nearestFloat ((left < 0) != (right < 0))
      { numerator := left.natAbs, denominator := right.natAbs }
    if rounded.isInf then .error (.excess .quotient) else .ok (.float rounded)

/-- A power of floating point numbers. -/
def floatPower (left right : Float) : Except Fault Object :=
  if left == 0.0 && right < 0.0 then
    .error (.division .power)
  else
    let result := left.pow right
    if left < 0.0 && right.floor != right && !right.isNaN && !left.isInf && !right.isInf then
      let size := (-left).pow right
      let angle := Float.atan2 0.0 left * right
      if size.isInf then .error (.excess .complexPower)
      else .ok (.complex (size * angle.cos) (size * angle.sin))
    else if result.isInf && !left.isInf && !right.isInf then .error (.excess .power)
    else .ok (.float result)

/-- An operation on whole numbers. -/
def integerOperation (operator : Operator) (left right : Int) : Except Fault Object :=
  match operator with
  | .add => .ok (.int (left + right))
  | .subtract => .ok (.int (left - right))
  | .multiply => .ok (.int (left * right))
  | .divide => quotient left right
  | .floorDivide =>
    if right = 0 then .error (.division .floor) else .ok (.int (left.fdiv right))
  | .remainder =>
    if right = 0 then .error (.division .remainder) else .ok (.int (left.fmod right))
  | .power =>
    if 0 ≤ right then
      .ok (.int (Int.pow left right.toNat))
    else do
      floatPower (← toFloat (.int left)) (← toFloat (.int right))

/-- An operation on floating point numbers. -/
def floatOperation (operator : Operator) (left right : Float) : Except Fault Object :=
  match operator with
  | .add => .ok (.float (left + right))
  | .subtract => .ok (.float (left - right))
  | .multiply => .ok (.float (left * right))
  | .divide =>
    if right == 0.0 then .error (.division .floatQuotient) else .ok (.float (left / right))
  | .floorDivide =>
    if right == 0.0 then .error (.division .floatFloor)
    else .ok (.float (flooredQuotient left right))
  | .remainder =>
    if right == 0.0 then .error (.division .floatRemainder)
    else .ok (.float (flooredRemainder left right))
  | .power => floatPower left right

/-- An operation on numbers. -/
def operation (operator : Operator) : Number → Number → Except Fault Object
  | .int left, .int right => integerOperation operator left right
  | left, right => do floatOperation operator (← left.toFloat) (← right.toFloat)

end Number

/-! ## Sequences -/

/-- Whether an object is a number with an imaginary part. -/
def isComplex : Object → Bool
  | .complex _ _ => true
  | _ => false

/-- What is wrong with an operand, where numbers with an imaginary part have no meaning. -/
def operandProblem (operands : List Object) (wrong : Mismatch) : Fault :=
  if operands.any isComplex then .unsupported "complex" else .mismatch wrong

/-- What is wrong with an operation on two objects. -/
def operandFault {α : Type} (operator : Operator) (left right : Object) : Run α :=
  fail (operandProblem [left, right] (.operands operator left.typeName right.typeName))

/-- Puts two texts together, of which one is safe. -/
def addSafe? (left right : Object) : Option Object :=
  match left, right with
  | .safe left, .safe right => some (.safe (left ++ right))
  | .safe left, .text right => some (.safe (left ++ escapeMarkup right))
  | .text left, .safe right => some (.safe (escapeMarkup left ++ right))
  | _, _ => none

/-- The most items that a sequence can have in memory. -/
def greatestSize : Nat := Nat.pow 2 32

/-- A list so many times in a row. -/
def timesInRow {α : Type} (count : Nat) (items : List α) : List α :=
  (List.replicate count items).flatten

/-- A number of times that a sequence of a length can be repeated. -/
def repetitions (length : Nat) (ofText : Bool) (count : Int) : Run Nat :=
  if (greatestLength : Int) < count || count < -(greatestLength : Int) - 1 then
    fail (.excess .place)
  else if ofText && greatestLength < length * count.toNat then
    fail (.excess .repeated)
  else if greatestSize < length * count.toNat then
    fail .memory
  else
    return count.toNat

/-- Whether an object is a sequence that can be repeated. -/
def isRepeatable : Object → Bool
  | .text _ => true
  | .bytes _ => true
  | .list _ => true
  | .tuple _ => true
  | _ => false

/-- A sequence so many times in a row. -/
def repeatSequence (sequence : Object) (count : Int) : Run Object := do
  match sequence with
  | .text plain =>
    let count ← repetitions plain.length true count
    return .text (String.ofList (timesInRow count plain.toList))
  | .bytes raw => return .bytes (timesInRow (← repetitions raw.length true count) raw)
  | .tuple items => return .tuple (timesInRow (← repetitions items.length false count) items)
  | .list address => do
    let items ← listAt address
    newList (timesInRow (← repetitions items.length false count) items)
  | other => return other

/-- A text that is safe so many times in a row. -/
def repeatSafe (plain : String) (count : Object) : Run Object := do
  match count.integer? with
  | some number =>
    let count ← repetitions plain.length true number
    return .safe (String.ofList (timesInRow count plain.toList))
  | none => fail (.mismatch (.integer count.typeName))

/-- A sequence times a whole number, in either order. -/
def multiplyObjects (left right : Object) : Run Object := do
  match left, right with
  | .safe plain, other => repeatSafe plain other
  | other, .safe plain => repeatSafe plain other
  | left, right =>
    if isRepeatable left then
      match right.integer? with
      | some count => repeatSequence left count
      | none => fail (.mismatch (.repeated right.typeName))
    else if isRepeatable right then
      match left.integer? with
      | some count => repeatSequence right count
      | none => fail (.mismatch (.repeated left.typeName))
    else
      operandFault .multiply left right

/-- Puts two sequences together. -/
def appendObjects (left right : Object) : Run Object := do
  match addSafe? left right with
  | some text => return text
  | none =>
    match left, right with
    | .text left, .text right => return .text (left ++ right)
    | .list left, .list right => do newList ((← listAt left) ++ (← listAt right))
    | .tuple left, .tuple right => return .tuple (left ++ right)
    | .bytes left, .bytes right => return .bytes (left ++ right)
    | .safe _, _ => operandFault .add left right
    | .text _, _ => fail (.mismatch (.appended "str" right.typeName))
    | .list _, _ => fail (.mismatch (.appended "list" right.typeName))
    | .tuple _, _ => fail (.mismatch (.appended "tuple" right.typeName))
    | .bytes _, _ => fail (.mismatch (.appendedBytes right.typeName))
    | _, _ => operandFault .add left right

/-- Whether an object is a listing that is compared as a set. -/
def isSetListing : Object → Bool
  | .listing .keys _ => true
  | .listing .entries _ => true
  | _ => false

/-- The items of an object as the members of a set. -/
def itemsAsMembers (object : Object) : Run (List Object) := do
  insertMembers [] (← itemsOf object)

/-- The members of a set that are not among those of another one. A listing that is compared
as a set makes any object with items a set. -/
def subtractSets? (left right : Object) : Run (Option Object) := do
  match left, right with
  | .set left, .set right =>
    return some (← newSet (← membersAmong (← setAt right) false (← setAt left)))
  | left, right =>
    if isSetListing left || isSetListing right then do
      let lefts ← itemsAsMembers left
      return some (← newSet (← membersAmong (← itemsAsMembers right) false lefts))
    else
      return none

/-! ## Lengths of time -/

/-- The number of microseconds of a day. -/
def dayMicroseconds : Int := 86400000000

/-- A length of time, unless it is too long. -/
def makeDuration (microseconds : Int) : Run Object :=
  let days := microseconds.fdiv dayMicroseconds
  if 2147483647 < days || days < -2147483648 then fail (.excess .longCount)
  else if 999999999 < days || days < -999999999 then fail (.excess (.days days))
  else return .duration microseconds

/-- A quotient of whole numbers rounded to the nearest one, ties to the even one. -/
def roundedQuotient (numerator : Int) (denominator : Nat) : Int :=
  let rounded : Nat := roundQuotient numerator.natAbs denominator
  if numerator < 0 then -(rounded : Int) else rounded

/-- A floating point number as a fraction with a sign. -/
def fractionOf (number : Float) : Run (Int × Nat) :=
  match FloatParts.ofFloat number with
  | .notANumber => badValue "cannot convert NaN to integer ratio"
  | .infinite _ => fail (.excess .infinityRatio)
  | .finite negative mantissa exponent =>
    let ratio := FloatParts.magnitude mantissa exponent
    return (if negative then -(ratio.numerator : Int) else ratio.numerator, ratio.denominator)

/-- The date so many microseconds later; only whole days count. -/
def laterDate (date : Date) (microseconds : Int) : Run Object :=
  match Date.ofDayNumber? (date.dayNumber + microseconds.fdiv dayMicroseconds) with
  | some later => return .scalar (.date later)
  | none => fail (.excess .date)

/-- The moment so many microseconds later. -/
def laterMoment (moment : Moment) (microseconds : Int) : Run Object :=
  match moment.later? microseconds with
  | some later => return .scalar (.moment later)
  | none => fail (.excess .date)

/-- The quotient, floored quotient or remainder of a length of time and another object. -/
def divideDuration (operator : Operator) (microseconds : Int) (right : Object) : Run Object := do
  match operator, right, right.integer? with
  | .divide, .duration other, _ => lift (Number.quotient microseconds other)
  | .floorDivide, .duration other, _ =>
    if other = 0 then fail (.division .floor) else return .int (microseconds.fdiv other)
  | .remainder, .duration other, _ =>
    if other = 0 then fail (.division .remainder) else return .duration (microseconds.fmod other)
  | .divide, .float number, _ => do
    let (numerator, denominator) ← fractionOf number
    if numerator = 0 then fail (.division .floor)
    else
      let scaled := microseconds * denominator
      makeDuration (roundedQuotient (if numerator < 0 then -scaled else scaled) numerator.natAbs)
  | .divide, _, some number =>
    if number = 0 then fail (.division .floor)
    else
      makeDuration
        (roundedQuotient (if number < 0 then -microseconds else microseconds) number.natAbs)
  | .floorDivide, _, some number =>
    if number = 0 then fail (.division .floor) else makeDuration (microseconds.fdiv number)
  | _, _, _ => operandFault operator (.duration microseconds) right

/-- A length of time times a number. -/
def multiplyDuration? (microseconds : Int) (number : Object) : Option (Run Object) :=
  match number, number.integer? with
  | _, some count => some (makeDuration (microseconds * count))
  | .float number, _ => some do
    let (numerator, denominator) ← fractionOf number
    makeDuration (roundedQuotient (microseconds * numerator) denominator)
  | _, _ => none

/-- The difference of two dates or two moments. -/
def subtractDates? (left right : Object) : Option (Run Object) :=
  match left, right with
  | .scalar (.date left), .scalar (.date right) =>
    some (return .duration (((left.dayNumber : Int) - right.dayNumber) * dayMicroseconds))
  | .scalar (.moment left), .scalar (.moment right) =>
    some (if left.offset.isSome == right.offset.isSome then
        return .duration (left.instant - right.instant)
      else
        mismatch "can't subtract offset-naive and offset-aware datetimes")
  | _, _ => none

/-- An operation with dates and lengths of time, if it is one. -/
def timeOperation? (operator : Operator) (left right : Object) : Option (Run Object) :=
  match operator, left, right with
  | .add, .duration left, .duration right => some (makeDuration (left + right))
  | .add, .scalar (.date date), .duration time => some (laterDate date time)
  | .add, .duration time, .scalar (.date date) => some (laterDate date time)
  | .add, .scalar (.moment moment), .duration time => some (laterMoment moment time)
  | .add, .duration time, .scalar (.moment moment) => some (laterMoment moment time)
  | .subtract, .duration left, .duration right => some (makeDuration (left - right))
  | .subtract, .scalar (.date date), .duration time => some (laterDate date (-time))
  | .subtract, .scalar (.moment moment), .duration time => some (laterMoment moment (-time))
  | .subtract, left, right => subtractDates? left right
  | .multiply, .duration time, number => multiplyDuration? time number
  | .multiply, number, .duration time => multiplyDuration? time number
  | .divide, .duration time, other => some (divideDuration .divide time other)
  | .floorDivide, .duration time, other => some (divideDuration .floorDivide time other)
  | .remainder, .duration time, other => some (divideDuration .remainder time other)
  | _, _, _ => none

/-! ## Operations -/

/-- An operation on two objects that are not both numbers. -/
def operateOther (operator : Operator) (left right : Object) : Run Object := do
  match operator with
  | .add => appendObjects left right
  | .multiply => multiplyObjects left right
  | .remainder =>
    match left with
    | .text plain => return .text (← fillDirectives plain right false)
    | .safe plain => return .safe (← fillDirectives plain right true)
    | left => operandFault .remainder left right
  | .subtract =>
    match ← subtractSets? left right with
    | some difference => return difference
    | none => operandFault .subtract left right
  | operator => operandFault operator left right

/-- An operation on two objects. What is missing cannot be an operand; a text with
directives and a text that something is added to come first. -/
def operate (operator : Operator) (left right : Object) : Run Object := do
  match left.missing?, right.missing? with
  | some missing, _ => fail (.missing missing)
  | none, some missing =>
    match operator, left.text? with
    | .remainder, some _ => operateOther operator left right
    | _, _ => fail (.missing missing)
  | none, none =>
    match Number.ofObject? left, Number.ofObject? right with
    | some left, some right => lift (Number.operation operator left right)
    | _, _ =>
      match timeOperation? operator left right with
      | some step => step
      | none => operateOther operator left right

/-- An object with a sign. -/
def applySign (sign : Sign) (object : Object) : Run Object :=
  match object with
  | .absent missing => fail (.missing missing)
  | .blank missing => fail (.missing missing)
  | .duration microseconds => makeDuration (if sign = .minus then -microseconds else microseconds)
  | object =>
    match Number.ofObject? object with
    | some (.int number) => return .int (if sign = .minus then -number else number)
    | some (.float number) => return .float (if sign = .minus then -number else number)
    | none => fail (operandProblem [object] (.sign sign object.typeName))

/-- The absolute value of an object. -/
def absolute (object : Object) : Run Object :=
  match object with
  | .duration microseconds => makeDuration microseconds.natAbs
  | object =>
    match Number.ofObject? object with
    | some (.int number) => return .int number.natAbs
    | some (.float number) => return .float number.abs
    | none => fail (operandProblem [object] (.absolute object.typeName))

end Template

end CodeLayout
