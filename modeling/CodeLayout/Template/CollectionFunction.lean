import CodeLayout.Template.Arithmetic
import CodeLayout.Template.TextFunction

/-!
# Functions of collections

The functions of lists, tuples, mappings, sets, ranges and listings. Most functions of
lists, mappings and sets change what is at their address and give nothing.
-/

set_option autoImplicit false

namespace CodeLayout

namespace Template

/-! ## Sequences -/

/-- A bound of a search in a sequence. -/
def searchBound (object : Object) : Run Int :=
  match object.integer? with
  | some number => return number
  | none => mismatch "slice indices must be integers or have an __index__ method"

/-- The place of the first item that is equal to an object, when so many are before it. -/
def placeAmong (object : Object) : Nat → List Object → Run (Option Nat)
  | _, [] => return none
  | before, first :: rest => do
    if ← equalParts first object then return some before
    else placeAmong object (before + 1) rest

/-- How many items are equal to an object. -/
def countAmong (object : Object) : List Object → Run Nat
  | [] => return 0
  | first :: rest => do
    let equal ← equalParts first object
    return (← countAmong object rest) + (if equal then 1 else 0)

/-- The place of an object among items between the bounds of a search. -/
def searchItems (items : List Object) (arguments : List (Option Object)) :
    Run (Option Nat) := do
  let start ← searchBound (argument arguments 1 (.int 0))
  let stop ← searchBound (argument arguments 2 (.int greatestLength))
  let first := (fromEnd items.length start).toNat
  let last := (fromEnd items.length stop).toNat
  placeAmong (argument arguments 0 .null) first ((items.take last).drop first)

/-- The items without the one at a place. -/
def withoutPlace (items : List Object) (place : Nat) : List Object :=
  items.take place ++ items.drop (place + 1)

/-! ## Sorting -/

/-- Whether an object comes before another one. -/
def comesBefore (left right : Object) : Run Bool := compareObjects .less left right

/-- How many items after a first one go on in one direction, and the rest. -/
def runAfter (falling : Bool) : Object → List Object → Run (List Object × List Object)
  | _, [] => return ([], [])
  | last, first :: rest => do
    if (← comesBefore first last) == falling then
      let (run, others) ← runAfter falling first rest
      return (first :: run, others)
    else
      return ([], first :: rest)

/-- The place of an object among sorted items, behind those that are equal. The first
argument bounds the number of steps. -/
def sortedPlace (object : Object) (sorted : Array Object) : Nat → Nat → Nat → Run Nat
  | 0, low, _ => return low
  | steps + 1, low, high => do
    if high ≤ low then
      return low
    else
      let middle := low + (high - low) / 2
      match sorted[middle]? with
      | none => return low
      | some other =>
        if ← comesBefore object other then sortedPlace object sorted steps low middle
        else sortedPlace object sorted steps (middle + 1) high

/-- Sorted items with more items among them. -/
def insertSorted (sorted : List Object) : List Object → Run (List Object)
  | [] => return sorted
  | first :: rest => do
    let place ← sortedPlace first sorted.toArray (sorted.length + 1) 0 sorted.length
    insertSorted (sorted.take place ++ first :: sorted.drop place) rest

/-- The items in order. -/
def sortItems : List Object → Run (List Object)
  | first :: second :: rest => do
    let falling ← comesBefore second first
    let (run, others) ← runAfter falling second rest
    let run := first :: second :: run
    insertSorted (if falling then run.reverse else run) others
  | items => return items

/-! ## Lists and tuples -/

/-- The place that an item is put before. -/
def insertionPlace (length : Nat) (index : Int) : Nat :=
  min length (fromEnd length index).toNat

/-- The fault of something that is not in a list. -/
def notInList {α : Type} (object : Object) : Run α := do
  badValue ((← writtenOf object) ++ " is not in list")

/-- Takes an item out of a list. -/
def popItem (address : Address) (items : List Object) (index : Object) : Run Object := do
  let index ← countOf index
  if items.isEmpty then
    fail (.place "pop from empty list")
  else
    match place? items.length index with
    | some place => do
      changeCell address (.list (withoutPlace items place))
      return (items[place]?).getD .null
    | none => fail (.place "pop index out of range")

/-- Sorts a list. -/
def sortList (address : Address) (items : List Object) (key reverse : Object) :
    Run Object := do
  let falling := (← smallCountOf reverse) != 0
  match key with
  | .null => do
    let sorted ← sortItems (if falling then items.reverse else items)
    changeCell address (.list (if falling then sorted.reverse else sorted))
    return .null
  | key => fail (.mismatch (.called key.typeName))

/-- Calls a function of a list. -/
def callList (address : Address) (name : String) (arguments : List (Option Object)) :
    Run Object := do
  let first := argument arguments 0 .null
  let items ← listAt address
  let change (items : List Object) : Run Object := do
    changeCell address (.list items)
    return .null
  match name with
  | "append" => change (items ++ [first])
  | "clear" => change []
  | "copy" => newList items
  | "count" => return .int (← countAmong first items)
  | "extend" => do
    let others ← itemsOf first
    change ((← listAt address) ++ others)
  | "index" => do
    match ← searchItems items arguments with
    | some place => return .int place
    | none => notInList first
  | "insert" => do
    let place := insertionPlace items.length (← countOf first)
    change (items.take place ++ argument arguments 1 .null :: items.drop place)
  | "pop" => popItem address items (argument arguments 0 (.int (-1)))
  | "remove" => do
    match ← placeAmong first 0 items with
    | some place => change (withoutPlace items place)
    | none => badValue "list.remove(x): x not in list"
  | "reverse" => change items.reverse
  | _ => sortList address items first (argument arguments 1 (.bool false))

/-- Calls a function of a tuple. -/
def callTuple (items : List Object) (name : String) (arguments : List (Option Object)) :
    Run Object := do
  match name with
  | "count" => return .int (← countAmong (argument arguments 0 .null) items)
  | _ =>
    match ← searchItems items arguments with
    | some place => return .int place
    | none => badValue "tuple.index(x): x not in tuple"

/-- Calls a function of a range. -/
def callRangeFunction (start stop step : Int) (name : String) (object : Object) : Run Object := do
  let range := Object.range start stop step
  match name, object.integer? with
  | "count", some number => return .int (if inRange start stop step number then 1 else 0)
  | "count", none => return .int (← countAmong object (← itemsOf range))
  | _, some number =>
    if inRange start stop step number then return .int ((number - start).fdiv step)
    else badValue ((← writtenOf object) ++ " is not in range")
  | _, none =>
    match ← placeAmong object 0 (← itemsOf range) with
    | some place => return .int place
    | none => badValue "sequence.index(x): x not in sequence"

/-! ## Mappings -/

/-- Entries with those of pairs, counted from a number on. -/
def mergePairs (entries : List (Object × Object)) (index : Nat) :
    List Object → Run (List (Object × Object))
  | [] => return entries
  | first :: rest => do
    match ← items? first with
    | none =>
      mismatch ("cannot convert dictionary update sequence element #" ++ toString index ++
        " to a sequence")
    | some [key, value] => mergePairs (← insertEntry key value entries) (index + 1) rest
    | some parts =>
      badValue ("dictionary update sequence element #" ++ toString index ++ " has length " ++
        toString parts.length ++ "; 2 is required")

/-- Entries with some others. -/
def mergeEntries (entries : List (Object × Object)) :
    List (Object × Object) → Run (List (Object × Object))
  | [] => return entries
  | (key, value) :: rest => do mergeEntries (← putEntry key value entries) rest

/-- Entries with those of an argument, which is a mapping or has pairs as items, and with
arguments by name. -/
def mergeGiven (function : String) (entries : List (Object × Object)) (given : Given) :
    Run (List (Object × Object)) := do
  let merged ←
    match given.positional with
    | [] => pure entries
    | [.map address] => do mergeEntries entries (← mapAt address)
    | [.blank missing] => fail (.missing missing)
    | [other] => do mergePairs entries 0 (← itemsOf other)
    | several =>
      fail (.mismatch (.arguments function (.tooMany 1 several.length)))
  mergeEntries merged (given.named.map fun entry => (.text entry.1, entry.2))

/-- The fault of a key that a mapping does not have. -/
def noKey {α : Type} (key : Object) : Run α := do fail (.key (← writtenOf key))

/-- Entries without the one under a key. -/
def withoutKey (key : Object) : List (Object × Object) → Run (List (Object × Object))
  | [] => return []
  | entry :: rest => do
    if ← equalParts entry.1 key then return rest else return entry :: (← withoutKey key rest)

/-- Keys with one object for all. -/
def entriesFor (value : Object) (entries : List (Object × Object)) :
    List Object → Run (List (Object × Object))
  | [] => return entries
  | first :: rest => do entriesFor value (← insertEntry first value entries) rest

/-- Calls a function of a mapping. -/
def callMap (address : Address) (name : String) (arguments : List (Option Object)) :
    Run Object := do
  let key := argument arguments 0 .null
  let other := argument arguments 1 .null
  let entries ← mapAt address
  match name with
  | "keys" => return .listing .keys address
  | "values" => return .listing .values address
  | "items" => return .listing .entries address
  | "get" => return (← lookupEntry key entries).getD other
  | "clear" => do
    shrinkCell address (.map [])
    return .null
  | "copy" => newMap entries
  | "pop" => do
    let found ← if entries.isEmpty then pure none else lookupEntry key entries
    match found, arguments[1]? with
    | some value, _ => do
      shrinkCell address (.map (← withoutKey key entries))
      return value
    | none, some (some otherwise) => return otherwise
    | none, _ => noKey key
  | "popitem" =>
    match entries.getLast? with
    | some (key, value) => do
      shrinkCell address (.map entries.dropLast)
      return .tuple [key, value]
    | none => fail (.key (quoted "popitem(): dictionary is empty"))
  | "setdefault" => do
    match ← lookupEntry key entries with
    | some value => return value
    | none => do
      changeCell address (.map (entries ++ [(key, other)]))
      return other
  | _ => do newMap (← entriesFor other [] (← itemsOf key))

/-! ## Sets -/

/-- The items of several objects that can be members. -/
def allMembers : List Object → Run (List (List Object))
  | [] => return []
  | first :: rest => do
    let members ← itemsAsMembers first
    return members :: (← allMembers rest)

/-- What a function makes of members and other ones. -/
def combineMembers (name : String) (members others : List Object) : Run (List Object) := do
  if name.startsWith "difference" then
    membersAmong others false members
  else if name.startsWith "intersection" then
    membersAmong others true members
  else if name.startsWith "symmetric" then do
    return (← membersAmong others false members) ++ (← membersAmong members false others)
  else
    insertMembers members others

/-- Calls a function of a set. -/
def callSet (address : Address) (name : String) (arguments : List Object) : Run Object := do
  let members ← setAt address
  let first := arguments.head?.getD .null
  let grow (members : List Object) : Run Object := do
    changeCell address (.set members)
    return .null
  let shrink (members : List Object) : Run Object := do
    shrinkCell address (.set members)
    return .null
  match name with
  | "add" => do grow (← insertMember first members)
  | "clear" => shrink []
  | "copy" => newSet members
  | "discard" => do
    requireKey first
    if ← isAmong equalParts first members then shrink (← membersAmong [first] false members)
    else return .null
  | "remove" => do
    requireKey first
    if ← isAmong equalParts first members then shrink (← membersAmong [first] false members)
    else noKey first
  | "pop" =>
    match members with
    | member :: rest => do
      shrinkCell address (.set rest)
      return member
    | [] => fail (.key (quoted "pop from an empty set"))
  | "isdisjoint" => do
    return .bool (← membersAmong (← itemsAsMembers first) true members).isEmpty
  | "issubset" => do
    return .bool (← areAmong equalParts (← itemsAsMembers first) members)
  | "issuperset" => do
    return .bool (← areAmong equalParts members (← itemsAsMembers first))
  | name => do
    let combined ← (← allMembers arguments).foldlM (combineMembers name) members
    if name = "update" then grow combined
    else if name.endsWith "update" then shrink combined
    else newSet combined

end Template

end CodeLayout
