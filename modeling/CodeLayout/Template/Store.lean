import CodeLayout.Template.Object

/-!
# The store of a rendering

What is at the addresses of changeable objects: the items of lists, the entries of
mappings, the progress of iterators and repetitions. A rendering begins with an empty
store and puts there what it makes.

A collection of the given data is put into the store unopened; its items become objects
when it is used first. So a collection that contains itself is one object: its label
leads to its address.

A step of the rendering may read and change the store, and it may fail; what it changed
before it failed stays changed. Some steps lead
back to statements: repetitions can be done again, and the items of a repetition can have
a condition. The machine of a rendering says how these are done.
-/

set_option autoImplicit false

namespace CodeLayout

namespace Template

/-- The variables with their values, the innermost first. -/
abbrev Scope : Type := List (String × Object)

/-- What has to stay as it is in a mapping or set while its items are taken. -/
structure Extent where
  /-- The number of items. -/
  size : Nat
  /-- How often something has been taken out of it. -/
  shrinkings : Nat
deriving DecidableEq, Repr

/-- What an iterator still has to give. -/
inductive Source where
  /-- Some items. -/
  | items (items : List Object)
  /-- The items of a list from an index on. -/
  | forward (list : Address) (index : Nat)
  /-- The items of a list before an index, from the last to the first. -/
  | backward (list : Address) (index : Nat)
  /-- So many numbers in steps. -/
  | numbers (next step : Int) (count : Nat)
  /-- The parts of a mapping from a place on, or before a place and backward. -/
  | parts (kind : Listing) (map : Address) (backward : Bool) (place : Nat) (state : Extent)
  /-- The members of a set from a place on. -/
  | members (set : Address) (place : Nat) (state : Extent)
  /-- The items of another iterator that meet the condition of a repetition. -/
  | kept (inner : Address) (repetition : Repetition) (scope : Scope)

/-- The state of a repetition. -/
structure LoopState where
  /-- What it is done for. -/
  source : Object
  /-- What gives its items. -/
  iterator : Address
  /-- The number of items begun. -/
  begun : Nat
  /-- The item before the current one. -/
  before : Option Object
  /-- The current item. -/
  current : Option Object
  /-- The next item, if it has been taken already. -/
  after : Option Object
  /-- The objects of the last question for a change. -/
  asked : Option (List Object)
  /-- The number of items, if it has been found out. -/
  length : Option Nat
  /-- How many repetitions of the same kind are around. -/
  depth : Nat
  /-- The repetition itself and its variables, if it can be done again. -/
  again : Option (Repetition × Scope)

/-- What is at an address. -/
inductive Cell where
  /-- A collection of the given data, not opened yet. -/
  | given (value : Value)
  /-- The items of a list. -/
  | list (items : List Object)
  /-- The entries of a mapping, in order. -/
  | map (entries : List (Object × Object))
  /-- The members of a set, in order. -/
  | set (members : List Object)
  /-- What an iterator still has to give. -/
  | iterator (source : Source)
  /-- The state of a repetition. -/
  | loop (state : LoopState)
  /-- Objects to be given in turn, and the place of the next one. -/
  | cycler (items : List Object) (place : Nat)
  /-- A separator, and whether it has been asked for. -/
  | joiner (separator : Object) (used : Bool)

/-- What is at all addresses, and the addresses of the knots of the data. -/
structure Store where
  /-- The cells by address. -/
  cells : Array Cell
  /-- The addresses of knots by label. -/
  knots : List (Nat × Address)
  /-- Whether a collection has been changed. -/
  changed : Bool
  /-- The mappings and sets that something has been taken out of, once for each time. -/
  shrunk : List Address

/-- A store with nothing in it. -/
def Store.empty : Store := { cells := #[], knots := [], changed := false, shrunk := [] }

/-- A step of a rendering that changes the store or fails. -/
abbrev Change : Type → Type := ExceptT Fault (StateM Store)

/-- How those steps are done that lead back to statements. -/
structure Machine where
  /-- Does a repetition with its variables again for another source at some depth. -/
  again : Repetition → Scope → Object → Nat → Change Object
  /-- The item if it meets the condition of a repetition, put together again from its
  targets. -/
  keeps : Repetition → Scope → Object → Change (Option Object)

/-- A step of a rendering. -/
abbrev Run : Type → Type := ReaderT Machine Change

/-- Ends with a fault. -/
def fail {α : Type} (fault : Fault) : Run α := throw fault

/-- The result of something that needs no store. -/
def lift {α : Type} : Except Fault α → Run α
  | .ok result => return result
  | .error fault => fail fault

/-- Ends with the wording of a mismatch. -/
def mismatch {α : Type} (wording : String) : Run α := fail (.mismatch (.stated wording))

/-- Ends with the wording of a bad value. -/
def badValue {α : Type} (wording : String) : Run α := fail (.value (.stated wording))

/-- The result of a step, or that of another step if the fault of the first can be
mended. -/
def rescue {α : Type} (step : Run α) (mend : Fault → Option (Run α)) : Run α :=
  tryCatch step fun fault => (mend fault).getD (fail fault)

/-- The result of a step, or nothing if it fails. -/
def attempt {α : Type} (step : Run α) : Run (Option α) :=
  rescue (some <$> step) fun _ => some (return none)

/-- Puts a cell into the store. -/
def allocate (cell : Cell) : Run Address :=
  modifyGet fun store => (store.cells.size, { store with cells := store.cells.push cell })

/-- Replaces the cell at an address. -/
def assignCell (address : Address) (cell : Cell) : Run Unit :=
  modify fun store => { store with cells := store.cells.setIfInBounds address cell }

/-- Replaces the collection at an address. -/
def changeCell (address : Address) (cell : Cell) : Run Unit := do
  assignCell address cell
  modify fun store => { store with changed := true }

/-- Replaces the mapping or set at an address, out of which something is taken. -/
def shrinkCell (address : Address) (cell : Cell) : Run Unit := do
  changeCell address cell
  modify fun store => { store with shrunk := address :: store.shrunk }

/-- How often something has been taken out of the mapping or set at an address. -/
def shrinkingsAt (address : Address) : Run Nat := do return (← get).shrunk.count address

/-- A new list. -/
def newList (items : List Object) : Run Object := do return .list (← allocate (.list items))

/-- A new mapping. -/
def newMap (entries : List (Object × Object)) : Run Object := do
  return .map (← allocate (.map entries))

/-- A new set. -/
def newSet (members : List Object) : Run Object := do return .set (← allocate (.set members))

/-- A new iterator over fixed items. -/
def newIterator (typeName : String) (source : Source) : Run Object := do
  return .iterator typeName (← allocate (.iterator source))

/-! ## Values of the data -/

namespace Object

/-- The object for a collection at an address. -/
def ofCollection (address : Address) : Value → Object
  | .map _ => .map address
  | .set _ => .set address
  | _ => .list address

mutual

/-- A value of the data as an object. -/
def ofValue : Value → Run Object
  | .scalar plain => pure (.scalar plain)
  | .tuple items => do return .tuple (← ofValues items)
  | .knot label inner => do
    match (← get).knots.lookup label, inner () with
    | _, .tuple _ => ofValue (inner ())
    | some address, value => return ofCollection address value
    | none, value => do
      let address ← allocate (.given value)
      modify fun store => { store with knots := (label, address) :: store.knots }
      return ofCollection address value
  | .endless => fail .endless
  | .list items => do return .list (← allocate (.given (.list items)))
  | .set members => do return .set (← allocate (.given (.set members)))
  | .map entries => do return .map (← allocate (.given (.map entries)))

/-- Values of the data as objects. -/
def ofValues : List Value → Run (List Object)
  | [] => pure []
  | first :: rest => do
    let object ← ofValue first
    return object :: (← ofValues rest)

end

/-- Entries of the data as objects. -/
def ofEntries : List (Value × Value) → Run (List (Object × Object))
  | [] => pure []
  | (key, value) :: rest => do
    let key ← ofValue key
    let value ← ofValue value
    return (key, value) :: (← ofEntries rest)

end Object

/-- A cell in which nothing is left unopened. -/
def openedCell : Cell → Run Cell
  | .given (.list items) => do return .list (← Object.ofValues items)
  | .given (.set members) => do return .set (← Object.ofValues members)
  | .given (.map entries) => do return .map (← Object.ofEntries entries)
  | .given _ => pure (.list [])
  | cell => pure cell

/-- The cell at an address, opened. -/
def cellAt (address : Address) : Run Cell := do
  let store ← get
  match (store.cells[address]?).getD (.list []) with
  | .given value => do
    let cell ← openedCell (.given value)
    assignCell address cell
    return cell
  | cell => return cell

/-- The items of the list at an address. -/
def listAt (address : Address) : Run (List Object) := do
  match ← cellAt address with
  | .list items => return items
  | _ => return []

/-- The entries of the mapping at an address. -/
def mapAt (address : Address) : Run (List (Object × Object)) := do
  match ← cellAt address with
  | .map entries => return entries
  | _ => return []

/-- The members of the set at an address. -/
def setAt (address : Address) : Run (List Object) := do
  match ← cellAt address with
  | .set members => return members
  | _ => return []

/-- The parts of a mapping that a listing lists. -/
def listedParts (kind : Listing) (entries : List (Object × Object)) : List Object :=
  match kind with
  | .keys => entries.map (·.1)
  | .values => entries.map (·.2)
  | .entries => entries.map fun entry => .tuple [entry.1, entry.2]

/-- How deep objects may be nested in others where all of them are looked at. -/
def greatestNesting : Nat := 1000

/-! ## Values again -/

mutual

/-- An object as a value of the data again, inside of some collections. The last but one
argument bounds how deep it is nested. What is no data is nothing. -/
def Store.valueOf (store : Store) (around : List Address) : Nat → Object → Value
  | 0, _ => .endless
  | depth + 1, object =>
    match object with
    | .scalar plain => .scalar plain
    | .safe plain => .text plain
    | .tuple items => .tuple (items.map (store.valueOf around depth))
    | .list address => store.valueAt around depth address
    | .map address => store.valueAt around depth address
    | .set address => store.valueAt around depth address
    | _ => .null

/-- The collection at an address as a value again. -/
def Store.valueAt (store : Store) (around : List Address) : Nat → Address → Value
  | 0, _ => .endless
  | depth + 1, address =>
    let inner := store.valueOf (address :: around) depth
    if around.contains address then
      .endless
    else
      match store.cells[address]? with
      | some (.given value) => value
      | some (.list items) => .list (items.map inner)
      | some (.set members) => .set (members.map inner)
      | some (.map entries) => .map (entries.map fun entry => (inner entry.1, inner entry.2))
      | _ => .null

end

end Template

end CodeLayout
