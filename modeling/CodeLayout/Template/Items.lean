import CodeLayout.Template.Store

/-!
# Items of objects

Many objects have items: the characters of a text, the numbers of a range, the keys of
a mapping. Some give their items once: an iterator goes on where it stopped. The items of
a list or a mapping are looked up when they are asked for, so a change in between is
seen.

The state of a repetition gives the items that are left, together with itself. It can
look one item ahead, and counting its items takes all of them first.
-/

set_option autoImplicit false

namespace CodeLayout

namespace Template

/-- The number of items that an iterator gives at most. -/
def greatestCount : Nat := 100000000

/-- How deep iterators may be nested. -/
def greatestDepthOfIterators : Nat := 200

/-- The greatest number that the length of something can be. -/
def greatestLength : Nat := Nat.pow 2 63 - 1

/-- The state of the repetition at an address. -/
def loopAt (address : Address) : Run LoopState := do
  match ← cellAt address with
  | .loop state => return state
  | _ =>
    return { source := .null, iterator := 0, begun := 0, before := none, current := none,
             after := none, asked := none, length := none, depth := 0, again := none }

/-- The first item that meets a condition, of items that are taken one by one. The last
argument bounds their number. -/
def firstKept (take : Run (Option Object)) (keeps : Object → Run (Option Object)) :
    Nat → Run (Option Object)
  | 0 => fail .endless
  | rounds + 1 => do
    match ← take with
    | none => return none
    | some item =>
      match ← keeps item with
      | some kept => return some kept
      | none => firstKept take keeps rounds

/-- The extent of a mapping or set with so many items. -/
def extentAt (address : Address) (size : Nat) : Run Extent := do
  return { size, shrinkings := ← shrinkingsAt address }

/-- Fails if a mapping or set has another number of items now. Where something else is in
the place of what was taken out of it, the next item has no meaning here. -/
def Extent.require (extent : Extent) (address : Address) (name : String) (size : Nat) :
    Run Unit := do
  if size ≠ extent.size then
    fail (.state (name ++ " changed size during iteration"))
  else if (← shrinkingsAt address) ≠ extent.shrinkings then
    fail (.unsupported (name ++ " changed during iteration"))
  else
    return ()

/-- The item that a source gives next, and the source after it. -/
def Source.next (take : Address → Run (Option Object)) :
    Source → Run (Option (Object × Source))
  | .items [] => return none
  | .items (first :: rest) => return some (first, .items rest)
  | .forward list index => do
    return ((← listAt list)[index]?).map fun item => (item, .forward list (index + 1))
  | .backward list index => do
    match index with
    | 0 => return none
    | index + 1 => return ((← listAt list)[index]?).map fun item => (item, .backward list index)
  | .numbers next step count => do
    match count with
    | 0 => return none
    | count + 1 => return some (.int next, .numbers (next + step) step count)
  | .parts kind map falling place extent => do
    let entries ← mapAt map
    extent.require map "dictionary" entries.length
    let parts := listedParts kind entries
    if falling then
      match place with
      | 0 => return none
      | place + 1 =>
        return (parts[place]?).map fun part => (part, .parts kind map true place extent)
    else
      return (parts[place]?).map fun part => (part, .parts kind map false (place + 1) extent)
  | .members set place extent => do
    let members ← setAt set
    extent.require set "Set" members.length
    return (members[place]?).map fun member => (member, .members set (place + 1) extent)
  | .kept inner repetition scope => do
    let machine ← read
    let found ← firstKept (take inner)
      (fun item => liftM (machine.keeps repetition scope item)) greatestCount
    return found.map fun item => (item, .kept inner repetition scope)

/-- The item that a repetition takes next. An item that was looked at already comes
first. -/
def LoopState.take (take : Address → Run (Option Object)) (state : LoopState) :
    Run (Option Object) :=
  match state.after with
  | some item => return some item
  | none => take state.iterator

/-- The state of a repetition when an item begins. -/
def LoopState.begin (state : LoopState) (item : Object) : LoopState :=
  { state with
    begun := state.begun + 1, before := state.current, current := some item, after := none }

/-- The next item of the iterator or the repetition at an address. The first argument
bounds how deep iterators are nested. -/
def nextItem : Nat → Address → Run (Option Object)
  | 0, _ => fail .endless
  | depth + 1, address => do
    match ← cellAt address with
    | .iterator source =>
      match ← source.next (nextItem depth) with
      | some (item, source) => do
        assignCell address (.iterator source)
        return some item
      | none => do
        assignCell address (.iterator (.items []))
        return none
    | .loop state =>
      match ← state.take (nextItem depth) with
      | some item => do
        let state ← loopAt address
        assignCell address (.loop (state.begin item))
        return some (.tuple [item, .loop address])
      | none => return none
    | _ => return none

/-- The next item of an iterator. -/
def takeItem (address : Address) : Run (Option Object) :=
  nextItem greatestDepthOfIterators address

/-- What gives the items of an object that has items of its own. -/
def sourceOf? (object : Object) : Run (Option Source) := do
  match object with
  | .text plain => return some (.items (Object.characters plain))
  | .safe plain => return some (.items (Object.characters plain))
  | .bytes raw => return some (.items (raw.map fun byte => .int byte.toNat))
  | .tuple items => return some (.items items)
  | .range start stop step =>
    return some (.numbers start step (Object.rangeSize start stop step))
  | .list address => return some (.forward address 0)
  | .map address => partsFrom .keys address
  | .listing kind address => partsFrom kind address
  | .set address => do
    return some (.members address 0 (← extentAt address (← setAt address).length))
  | .absent missing => fail (.missing missing)
  | .blank _ => return some (.items [])
  | _ => return none
where
  /-- All parts of a mapping. -/
  partsFrom (kind : Listing) (map : Address) : Run (Option Source) := do
    return some (.parts kind map false 0 (← extentAt map (← mapAt map).length))

/-- The address of something that gives the items of an object, if it has items. -/
def iterate? (object : Object) : Run (Option Address) := do
  match object with
  | .iterator _ address => return some address
  | .loop address => return some address
  | object =>
    match ← sourceOf? object with
    | some source => return some (← allocate (.iterator source))
    | none => return none

/-- The address of something that gives the items of an object. -/
def iterate (object : Object) : Run Address := do
  match ← iterate? object with
  | some address => return address
  | none => fail (.mismatch (.iterated object.typeName))

/-- The items that are left at an address, behind some others from the last to the first.
The first argument bounds their number. -/
def collect : Nat → List Object → Address → Run (List Object)
  | 0, _, _ => fail .endless
  | rounds + 1, found, address => do
    match ← takeItem address with
    | some item => collect rounds (item :: found) address
    | none => return found.reverse

/-- The items of an object, if it has items. -/
def items? (object : Object) : Run (Option (List Object)) := do
  match object with
  | .tuple items => return some items
  | .list address => return some (← listAt address)
  | .map address => return some ((← mapAt address).map (·.1))
  | .listing kind address => return some (listedParts kind (← mapAt address))
  | object =>
    match ← iterate? object with
    | some address => return some (← collect greatestCount [] address)
    | none => return none

/-- The items of an object. -/
def itemsOf (object : Object) : Run (List Object) := do
  match ← items? object with
  | some items => return items
  | none => fail (.mismatch (.iterated object.typeName))

/-- Whether an object has items. -/
def hasItems (object : Object) : Run Bool := do
  return (← iterate? object).isSome

/-! ## Length -/

/-- The length of an object that knows it without giving its items, if it has one. -/
def knownLength? (object : Object) : Run (Option Nat) := do
  match object with
  | .text plain => return some plain.length
  | .safe plain => return some plain.length
  | .bytes raw => return some raw.length
  | .tuple items => return some items.length
  | .range start stop step =>
    let size := Object.rangeSize start stop step
    if greatestLength < size then fail (.excess .count) else return some size
  | .list address => return some (← listAt address).length
  | .map address => return some (← mapAt address).length
  | .listing _ address => return some (← mapAt address).length
  | .set address => return some (← setAt address).length
  | .absent missing => fail (.missing missing)
  | .blank _ => return some 0
  | _ => return none

/-- The number of items of the repetition at an address. -/
def loopLength (address : Address) : Run Nat := do
  let state ← loopAt address
  match state.length with
  | some length => return length
  | none =>
    match ← knownLength? state.source with
    | some length => do
      assignCell address (.loop { state with length := some length })
      return length
    | none => do
      let rest ← collect greatestCount [] state.iterator
      let iterator ← allocate (.iterator (.items rest))
      let length := rest.length + state.begun + (if state.after.isSome then 1 else 0)
      assignCell address (.loop { state with iterator, length := some length })
      return length

/-- The item after the current one of the repetition at an address, if there is one. It
stays to be taken. -/
def peekItem (address : Address) : Run (Option Object) := do
  let state ← loopAt address
  match state.after with
  | some item => return some item
  | none =>
    let after ← takeItem state.iterator
    let state ← loopAt address
    assignCell address (.loop { state with after })
    return after

/-- The length of an object. -/
def lengthOf (object : Object) : Run Nat := do
  match object with
  | .loop address => loopLength address
  | object =>
    match ← knownLength? object with
    | some length => return length
    | none => fail (.mismatch (.length object.typeName))

/-- The truth of an object: what is zero or empty is false. -/
def truthOf (object : Object) : Run Bool := do
  match object with
  | .null => return false
  | .bool truth => return truth
  | .int number => return number != 0
  | .float number => return number != 0.0
  | .complex real imaginary => return real != 0.0 || imaginary != 0.0
  | .duration microseconds => return microseconds != 0
  | .range start stop step => return Object.rangeSize start stop step != 0
  | .loop address => return (← loopLength address) != 0
  | object =>
    match ← knownLength? object with
    | some length => return length != 0
    | none => return true

/-! ## From the last to the first -/

/-- An iterator over the items of an object from the last to the first, if it has an
order. -/
def reversed? (object : Object) : Run (Option Object) := do
  match object with
  | .list address =>
    return some (← newIterator "list_reverseiterator"
      (.backward address (← listAt address).length))
  | .map address => reversedParts .keys address
  | .listing kind address => reversedParts kind address
  | .range start stop step =>
    let size := Object.rangeSize start stop step
    return some (← newIterator (if size ≤ greatestLength then "range_iterator"
      else "longrange_iterator") (.numbers (start + step * (size - 1)) (-step) size))
  | .set _ => return none
  | .loop _ => return none
  | .iterator _ _ => return none
  | object =>
    match ← sourceOf? object with
    | some (.items items) => return some (← newIterator "reversed" (.items items.reverse))
    | _ => return none
where
  /-- An iterator over the parts of a mapping from the last to the first. -/
  reversedParts (kind : Listing) (map : Address) : Run (Option Object) := do
    let size := (← mapAt map).length
    let name := match kind with
      | .keys => "dict_reversekeyiterator"
      | .values => "dict_reversevalueiterator"
      | .entries => "dict_reverseitemiterator"
    return some (← newIterator name (.parts kind map true size (← extentAt map size)))

end Template

end CodeLayout
