import CodeLayout.Template.Comparing
import CodeLayout.Template.Signature

/-!
# Parts of objects

An object has parts with an index, with a key and with a name. A name asks for a
property of the object first and for an entry under that text after it; an index
or key asks for an item first, and a text also for a property. A part that does
not exist is something missing, which is a fault only when it is used. A part that
exists but has no meaning here is a fault at once.

A range of indices takes a part of a sequence. Indices below zero count from the
end, and bounds beyond an end stop there.
-/

set_option autoImplicit false

namespace CodeLayout

namespace Template

/-! ## Properties -/

/-- A property of a whole number. -/
def integerProperty? (number : Int) (name : String) : Option Object :=
  match name with
  | "real" => some (.int number)
  | "imag" => some (.int 0)
  | "numerator" => some (.int number)
  | "denominator" => some (.int 1)
  | _ => none

/-- A property of a date. -/
def dateProperty? (date : Date) (name : String) : Option Object :=
  match name with
  | "year" => some (.int date.year)
  | "month" => some (.int date.month)
  | "day" => some (.int date.day)
  | _ => none

/-- A property of a time of day. -/
def clockProperty? (moment : Moment) (name : String) : Option Object :=
  match name with
  | "hour" => some (.int moment.hour)
  | "minute" => some (.int moment.minute)
  | "second" => some (.int moment.second)
  | "microsecond" => some (.int moment.microsecond)
  | "fold" => some (.int 0)
  | "tzinfo" => some ((moment.offset.map Object.zone).getD .null)
  | _ => none

/-- The first and the last date, and the length of time between two dates. -/
def dateBounds : List (String × Object) :=
  [("min", .scalar (.date { year := 1, month := 1, day := 1 })),
    ("max", .scalar (.date { year := 9999, month := 12, day := 31 })),
    ("resolution", .duration 86400000000)]

/-- The same for moments. -/
def momentBounds : List (String × Object) :=
  let moment (year month day hour minute second microsecond : Nat) : Object :=
    .scalar (.moment
      { date := { year, month, day }, hour, minute, second, microsecond, offset := none })
  [("min", moment 1 1 1 0 0 0 0), ("max", moment 9999 12 31 23 59 59 999999),
    ("resolution", .duration 1)]

/-- The module of a type with a full name. -/
def moduleName (name : String) : String :=
  let short := Object.lastName name
  if short = name then "builtins" else (name.dropEnd (short.length + 1)).toString

/-- A property of a type. -/
def kindProperty? (full name : String) : Option Object :=
  match name with
  | "__name__" => some (.text (Object.lastName full))
  | "__qualname__" => some (.text (Object.lastName full))
  | "__module__" => some (.text (moduleName full))
  | _ => none

/-- A property of an object that does not change. -/
def plainProperty? (owner : Object) (name : String) : Option Object :=
  match owner with
  | .int number => integerProperty? number name
  | .bool truth => integerProperty? (if truth then 1 else 0) name
  | .float number =>
    match name with
    | "real" => some (.float number)
    | "imag" => some (.float 0.0)
    | _ => none
  | .complex real imaginary =>
    match name with
    | "real" => some (.float real)
    | "imag" => some (.float imaginary)
    | _ => none
  | .range start stop step =>
    match name with
    | "start" => some (.int start)
    | "stop" => some (.int stop)
    | "step" => some (.int step)
    | _ => none
  | .scalar (.date date) => (dateProperty? date name).or (dateBounds.lookup name)
  | .scalar (.moment moment) =>
    (dateProperty? moment.date name).or
      ((clockProperty? moment name).or (momentBounds.lookup name))
  | .clock moment => clockProperty? moment name
  | .duration microseconds =>
    let parts := durationParts microseconds
    match name with
    | "days" => some (.int parts.1)
    | "seconds" => some (.int parts.2.1)
    | "microseconds" => some (.int parts.2.2)
    | _ => none
  | .kind full => kindProperty? full name
  | .function function => if name = "__name__" then some (.text function) else none
  | _ => none

/-- A property of the repetition at an address. -/
def loopProperty? (address : Address) (name : String) : Run (Option Object) := do
  let state ← loopAt address
  let index : Int := state.begun
  match name with
  | "index" => return some (.int index)
  | "index0" => return some (.int (index - 1))
  | "revindex" => return some (.int ((← loopLength address) - (index - 1)))
  | "revindex0" => return some (.int ((← loopLength address) - index))
  | "first" => return some (.bool (index == 1))
  | "last" => return some (.bool (← peekItem address).isNone)
  | "length" => return some (.int (← loopLength address))
  | "depth" => return some (.int (state.depth + 1))
  | "depth0" => return some (.int state.depth)
  | "previtem" =>
    return some (if index == 1 then .absent .previousItem
      else state.before.getD (.absent .previousItem))
  | "nextitem" => return some ((← peekItem address).getD (.absent .nextItem))
  | _ => return none

/-- A property of something that gives objects in turn. -/
def cyclerProperty? (address : Address) (name : String) : Run (Option Object) := do
  match ← cellAt address, name with
  | .cycler items _, "items" => return some (.tuple items)
  | .cycler _ place, "pos" => return some (.int place)
  | .cycler items place, "current" => return items[place]?
  | _, _ => return none

/-- A property of something that gives separators. -/
def joinerProperty? (address : Address) (name : String) : Run (Option Object) := do
  match ← cellAt address, name with
  | .joiner separator _, "sep" => return some separator
  | .joiner _ used, "used" => return some (.bool used)
  | _, _ => return none

/-- Whether a name is one that every object has a meaning for by itself. -/
def isReserved (name : String) : Bool := name.startsWith "__" && name.endsWith "__"

/-- Whether an object may have a part with a name that has no meaning here. Of the reserved
names only a few have one, and of a type nothing but its name is known. -/
def isUnsupported (owner : Object) (name : String) : Bool :=
  (plainProperty? owner name).isNone &&
    match owner with
    | .kind _ => true
    | owner => isReserved name || (unsupportedParts owner).contains name

/-- A property of an object. -/
def property? (owner : Object) (name : String) : Run (Option Object) := do
  if name = "__class__" then
    return some (.kind owner.kindName)
  else if isUnsupported owner name then
    fail (.unsupported name)
  else
    let found ←
      match owner with
      | .absent missing => fail (.missing missing)
      | .blank missing => fail (.missing missing)
      | .loop address => loopProperty? address name
      | .cycler address => cyclerProperty? address name
      | .joiner address => joinerProperty? address name
      | .space address => do findEntry equalParts (.text name) (← mapAt address)
      | owner => pure (plainProperty? owner name)
    match found with
    | some found => return some found
    | none =>
      return if ((functionsOf owner).lookup name).isSome then some (.method owner name) else none

/-! ## Items -/

/-- The place that an index stands for, if there is one. -/
def place? (length : Nat) (index : Int) : Option Nat :=
  let place := if index < 0 then index + length else index
  if 0 ≤ place && place < length then some place.toNat else none

/-- The item of a list at an index. -/
def itemAt? {α : Type} (items : List α) (index : Int) : Option α :=
  (place? items.length index).bind fun place => items[place]?

/-- The item of a sequence at an index, if there is one. -/
def sequenceItem? (owner : Object) (index : Int) : Run (Option Object) := do
  match owner with
  | .text plain =>
    return (itemAt? plain.toList index).map fun character => .text (String.singleton character)
  | .safe plain =>
    return (itemAt? plain.toList index).map fun character => .safe (String.singleton character)
  | .bytes raw => return (itemAt? raw index).map fun byte => .int byte.toNat
  | .tuple items => return itemAt? items index
  | .list address => return itemAt? (← listAt address) index
  | .range start stop step =>
    return (place? (Object.rangeSize start stop step) index).map fun place =>
      .int (start + place * step)
  | _ => return none

/-- The item of an object with an index or a key, if there is one. -/
def itemOf? (owner key : Object) : Run (Option Object) := do
  match owner with
  | .absent missing => fail (.missing missing)
  | .blank missing => fail (.missing missing)
  | .kind full => fail (.unsupported full)
  | .map address =>
    match keyFault? key with
    | some (.missing missing) => fail (.missing missing)
    | some _ => return none
    | none => findEntry equalParts key (← mapAt address)
  | owner =>
    match key.integer? with
    | some index => sequenceItem? owner index
    | none => return none

/-- The part of an object with a name. -/
def memberOf (owner : Object) (name : String) : Run Object := do
  match ← property? owner name with
  | some found => return found
  | none =>
    match ← itemOf? owner (.text name) with
    | some found => return found
    | none => return .absent (.member owner.description name)

/-- The part of an object with an index or a key. -/
def partOf (owner key : Object) : Run Object := do
  match ← itemOf? owner key with
  | some found => return found
  | none =>
    match key.text? with
    | some name =>
      return (← property? owner name).getD (.absent (.member owner.description name))
    | none => missingItem owner key

/-! ## Ranges of indices -/

/-- A bound of a range of indices as a number, if it is given. -/
def bound? : Object → Run (Option Int)
  | .null => return none
  | object =>
    match object.integer? with
    | some number => return some number
    | none => fail (.mismatch .bound)

/-- A bound that counts from the end if it is below zero, kept between two others. -/
def limited (length : Nat) (least greatest bound : Int) : Int :=
  max least (min greatest (if bound < 0 then bound + length else bound))

/-- The first index of a range of indices and the one at which it ends. -/
def indexRange (length : Nat) (start stop : Option Int) (step : Int) : Int × Int :=
  let ascending := 0 < step
  let least : Int := if ascending then 0 else -1
  let greatest : Int := if ascending then length else length - 1
  (match start with
    | some bound => limited length least greatest bound
    | none => if ascending then least else greatest,
   match stop with
    | some bound => limited length least greatest bound
    | none => if ascending then greatest else least)

/-- The indices from one index up to another in steps. -/
def indicesOf (range : Int × Int) (step : Int) : List Nat :=
  (List.range (Object.rangeSize range.1 range.2 step)).map fun (index : Nat) =>
    (range.1 + index * step).toNat

/-- The items of a list at some indices. -/
def pick {α : Type} (items : List α) (indices : List Nat) : List α :=
  let found := items.toArray
  indices.filterMap fun index => found[index]?

/-- A range of indices for a length, and its step. -/
def boundsOf (start stop step : Object) (length : Nat) : Run ((Int × Int) × Int) := do
  let step ← bound? step
  if step = some 0 then
    fail (.value .indexStep)
  else
    let step := step.getD 1
    return (indexRange length (← bound? start) (← bound? stop) step, step)

/-- The part of a sequence in a range of indices. -/
def sliceOf (owner start stop step : Object) : Run Object := do
  let take {α : Type} (items : List α) : Run (List α) := do
    let (bounds, step) ← boundsOf start stop step items.length
    return pick items (indicesOf bounds step)
  match owner with
  | .text plain => return .text (String.ofList (← take plain.toList))
  | .safe plain => return .safe (String.ofList (← take plain.toList))
  | .bytes raw => return .bytes (← take raw)
  | .list address => do newList (← take (← listAt address))
  | .tuple items => return .tuple (← take items)
  | .range first stop' difference => do
    let (bounds, step) ← boundsOf start stop step (Object.rangeSize first stop' difference)
    return .range (first + bounds.1 * difference) (first + bounds.2 * difference)
      (step * difference)
  | .absent missing => fail (.missing missing)
  | .blank missing => fail (.missing missing)
  | .kind full => fail (.unsupported full)
  | .map _ => fail (.mismatch (.key "slice"))
  | owner => fail (.mismatch (.subscripted owner.typeName))

end Template

end CodeLayout
