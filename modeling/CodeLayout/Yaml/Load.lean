import CodeLayout.Decimal.Reading
import CodeLayout.Text.Base64
import CodeLayout.Text.LetterCase
import CodeLayout.Value.Equality
import CodeLayout.Yaml.Node

/-!
# The value of a node

Every node stands for a value according to its tag. In a mapping, the entries of
merged mappings come first and the mapping's own entries after them, and of two
equal keys the later entry gives the value.

A tree is gone through level by level: all of one level is done before the next
begins. This shows only in which of several failures counts. So a failure
carries its level, and the least level wins, the first in the text among equals.
-/

set_option autoImplicit false

namespace CodeLayout

namespace Yaml

/-- A failure at a level of the tree. -/
structure Fault where
  /-- The level. -/
  level : Nat
  /-- The failure. -/
  failure : Failure
deriving DecidableEq, Repr

/-- A value, or a failure somewhere in the tree. -/
abbrev Loaded (α : Type) := Except Fault α

namespace Loaded

/-- A failure at a level. -/
def fail {α : Type} (level : Nat) (failure : Failure) : Loaded α :=
  .error { level, failure }

/-- Two results together. Of two failures the one of the lesser level counts. -/
def both {α β : Type} : Loaded α → Loaded β → Loaded (α × β)
  | .ok left, .ok right => .ok (left, right)
  | .ok _, .error fault => .error fault
  | .error fault, .ok _ => .error fault
  | .error left, .error right => .error (if right.level < left.level then right else left)

/-- Results together in a list. -/
def all {α : Type} : List (Loaded α) → Loaded (List α)
  | [] => .ok []
  | first :: rest => (both first (all rest)).map fun pair => pair.1 :: pair.2

end Loaded

/-! ## Scalars -/

/-- The whole number of a text that may have a sign of its base. -/
def integerIn (base : Nat) (text : List Char) : Except Failure Int :=
  match readInteger base text with
  | .number number => .ok number
  | .tooLong count => .error (.tooManyDigits count)
  | .none => .error (.notInteger base (String.ofList text))

/-- The parts of a text between colons. -/
def splitColons : List Char → List (List Char)
  | [] => [[]]
  | ':' :: rest => [] :: splitColons rest
  | first :: rest =>
    match splitColons rest with
    | [] => [[first]]
    | part :: parts => (first :: part) :: parts

/-- The number written by groups of base sixty. -/
def sixtyInteger (parts : List (List Char)) : Except Failure Int := do
  let digits ← parts.mapM (integerIn 10)
  .ok (digits.foldl (fun value digit => 60 * value + digit) 0)

/-- The whole number of a text without sign and underscores. -/
def unsignedInteger : List Char → Except Failure Int
  | [] => .error .emptyNumber
  | ['0'] => .ok 0
  | '0' :: 'b' :: rest => integerIn 2 rest
  | '0' :: 'x' :: rest => integerIn 16 rest
  | '0' :: rest => integerIn 8 ('0' :: rest)
  | digits =>
    if digits.contains ':' then sixtyInteger (splitColons digits) else integerIn 10 digits

/-- The whole number of a text tagged as one. -/
def integerOf (text : String) : Except Failure Int :=
  let split := splitSign (text.toList.filter (· != '_'))
  (unsignedInteger split.2).map fun number => if split.1 then -number else number

/-- The floating point number of a text. -/
def floatIn (text : List Char) : Except Failure Float :=
  match readFloat? text with
  | some number => .ok number
  | none => .error (.notFloat (String.ofList text))

/-- The number written by groups of base sixty, the last with a fraction. -/
def sixtyFloat (parts : List (List Char)) : Except Failure Float := do
  let digits ← parts.mapM floatIn
  .ok (digits.reverse.foldl
    (fun (state : Float × Nat) digit =>
      (state.1 + digit * nearestFloatOfInt state.2, state.2 * 60)) (0.0, 1)).1

/-- The floating point number of a text tagged as one. -/
def floatOf (text : String) : Except Failure Float :=
  let digits := (lowerText (String.ofList (text.toList.filter (· != '_')))).toList
  match digits with
  | [] => .error .emptyNumber
  | _ :: _ =>
    let split := splitSign digits
    let sign : Float := if split.1 then -1.0 else 1.0
    if split.2 == ".inf".toList then
      .ok (FloatParts.infinite split.1).toFloat
    else if split.2 == ".nan".toList then
      .ok FloatParts.notANumber.toFloat
    else if split.2.contains ':' then
      (sixtyFloat (splitColons split.2)).map (sign * ·)
    else
      (floatIn split.2).map (sign * ·)

/-- The truth value of a text tagged as one. -/
def boolOf (text : String) : Except Failure Bool :=
  let word := lowerText text
  if ["yes", "true", "on"].contains word then .ok true
  else if ["no", "false", "off"].contains word then .ok false
  else .error (.notBoolean word)

/-- The offset in seconds of a written zone. -/
def zoneOffset (zone : Bool × List Char × List Char) : Int :=
  signed zone.1 (digitsValue zone.2.1 * 3600 + digitsValue zone.2.2 * 60)

/-- The number of microseconds of a written fraction. -/
def microseconds (fraction : List Char) : Nat :=
  let digits := fraction.take 6
  digitsValue (digits ++ List.replicate (6 - digits.length) '0')

/-- The date or moment of a text tagged as one. -/
def momentOf (text : String) : Except Failure Scalar :=
  let characters := if text.endsWith "\n" then text.toList.dropLast else text.toList
  match Tag.moment? characters with
  | none => .error .notMoment
  | some (date, none) =>
    match Date.make (digitsValue date.year) (digitsValue date.month) (digitsValue date.day) with
    | .ok day => .ok (.date day)
    | .error error => .error (.calendar error)
  | some (date, some time) =>
    match Moment.make (digitsValue date.year) (digitsValue date.month) (digitsValue date.day)
      (digitsValue time.hour) (digitsValue time.minute) (digitsValue time.second)
      (microseconds time.fraction) (time.zone.map zoneOffset) with
    | .ok moment => .ok (.moment moment)
    | .error error => .error (.calendar error)

/-- The bytes of a text tagged as base 64. -/
def binaryOf (text : String) : Except Failure (List UInt8) :=
  match Base64.decode? text.toList with
  | some bytes => if text.toList.all (·.toNat < 0x80) then .ok bytes else .error .malformed
  | none => .error .malformed

/-- Whether a tag stands for a scalar value. -/
def Tag.isScalar : Tag → Bool
  | .null | .bool | .int | .float | .binary | .timestamp | .text => true
  | .merge | .default | .sequence | .mapping | .set | .orderedMap | .pairs | .unknown => false

/-- Whether a tag stands for a collection. A collection is no key. -/
def Tag.isCollection : Tag → Bool
  | .sequence | .mapping | .set | .orderedMap | .pairs => true
  | .null | .bool | .int | .float | .binary | .timestamp | .text | .merge | .default
  | .unknown => false

/-- The value of a text under a tag for scalars. -/
def scalarOf (tag : Tag) (text : String) : Except Failure Scalar :=
  match tag with
  | .null => .ok .null
  | .bool => (boolOf text).map .bool
  | .int => (integerOf text).map .int
  | .float => (floatOf text).map .float
  | .binary => (binaryOf text).map .bytes
  | .timestamp => momentOf text
  | .text => .ok (.text text)
  | .merge | .default | .sequence | .mapping | .set | .orderedMap | .pairs | .unknown =>
    .error .malformed

/-! ## Nodes -/

namespace Node

/-- The tag of a node. Only a collection can be met again. -/
def tag : Node → Tag
  | .scalar tag _ => tag
  | .sequence tag _ _ => tag
  | .mapping tag _ _ => tag
  | .again _ => .sequence

mutual

/-- The text of a node where a scalar is wanted: its own text, or that of the
default value of a mapping. -/
def text? : Node → Option String
  | .scalar _ text => some text
  | .sequence _ _ _ => none
  | .mapping _ _ entries => defaultText? entries
  | .again _ => none

/-- The text of the default value among entries. -/
def defaultText? : List (Node × Node) → Option String
  | [] => none
  | (key, value) :: rest => if key.tag == .default then text? value else defaultText? rest

end

mutual

/-- Whether a node that contains this one is met again inside of it. -/
def returns : Node → Bool
  | .scalar _ _ => false
  | .sequence _ _ items => anyReturns items
  | .mapping _ _ entries => anyEntryReturns entries
  | .again _ => true

/-- Whether one of some nodes returns. -/
def anyReturns : List Node → Bool
  | [] => false
  | first :: rest => returns first || anyReturns rest

/-- Whether one of some keys and values returns. -/
def anyEntryReturns : List (Node × Node) → Bool
  | [] => false
  | (key, value) :: rest => returns key || returns value || anyEntryReturns rest

end

/-- The place of a node. A scalar has none. -/
def place : Node → Nat
  | .sequence _ place _ => place
  | .mapping _ place _ => place
  | _ => 0

/-- The value of a node under a tag for scalars. -/
def asScalar (level : Nat) (tag : Tag) (node : Node) : Loaded Value :=
  match node.text? with
  | none => .fail level .malformed
  | some text =>
    match scalarOf tag text with
    | .ok plain => .ok (.scalar plain)
    | .error failure => .fail level failure

/-- An entry of a mapping with its results. -/
abbrev Entry := Loaded Value × Loaded Value

/-- The entries of a mapping, the merged ones apart from its own. -/
structure Entries where
  /-- The merged entries. -/
  merged : List Entry
  /-- The mapping's own entries. -/
  own : List Entry

/-- All entries, merged ones first. -/
def Entries.all (entries : Entries) : List Entry := entries.merged ++ entries.own

/-- Adds an own entry in front. -/
def Entries.cons (entry : Entry) (entries : Entries) : Entries :=
  { entries with own := entry :: entries.own }

/-- Adds merged entries in front. -/
def Entries.merge (merged : List Entry) (entries : Entries) : Entries :=
  { entries with merged := merged ++ entries.merged }

/-- A mapping of entries. -/
def mapOf (entries : List Entry) : Loaded (List (Value × Value)) :=
  (Loaded.all (entries.map fun entry => Loaded.both entry.1 entry.2)).map fun pairs =>
    pairs.foldl (fun entries pair => Value.insert pair.1 pair.2 entries) []

/-- The result of a key whose node has a tag. -/
def keyOf (level : Nat) (tag : Tag) (result : Loaded Value) : Loaded Value :=
  if tag.isCollection then .fail level .malformed else result

/-- What the nodes are that are met again inside of themselves. -/
structure Returns where
  /-- The value of the node with an anchor. -/
  value : String → Value
  /-- The entries at a level that the mapping with an anchor brings to a mapping that
  it is merged into, while the mappings at some places are being merged. -/
  merged : List Nat → Nat → String → Except Failure (List Entry)

/-- The value of a collection. One that returns is a knot. -/
def tied (node : Node) (result : Loaded Value) : Loaded Value :=
  if node.returns then result.map fun value => .knot node.place fun _ => value else result

mutual

/-- The value of a node at a level. -/
def load (again : Returns) (level : Nat) : Node → Loaded Value
  | .scalar tag text =>
    if tag.isScalar then asScalar level tag (.scalar tag text)
    else .fail (if tag.isCollection then level + 1 else level) .malformed
  | .sequence tag place items =>
    match tag with
    | .sequence =>
      tied (.sequence tag place items) ((Loaded.all (loadAll again (level + 1) items)).map .list)
    | .orderedMap | .pairs =>
      tied (.sequence tag place items) ((Loaded.all (loadPairs again (level + 1) items)).map .list)
    | .mapping | .set => .fail (level + 1) .malformed
    | .null | .bool | .int | .float | .binary | .timestamp | .text | .merge | .default
    | .unknown => .fail level .malformed
  | .mapping tag place entries =>
    match tag with
    | .mapping =>
      match loadEntries again [place] (level + 1) entries with
      | .ok loaded => tied (.mapping tag place entries) ((mapOf loaded.all).map .map)
      | .error failure => .fail (level + 1) failure
    | .set =>
      match loadEntries again [place] (level + 1) entries with
      | .ok loaded =>
        tied (.mapping tag place entries)
          ((mapOf loaded.all).map fun entries => .set (entries.map Prod.fst))
      | .error failure => .fail (level + 1) failure
    | .sequence | .orderedMap | .pairs => .fail (level + 1) .malformed
    | .null | .bool | .int | .float | .binary | .timestamp | .text =>
      asScalar level tag (.mapping tag place entries)
    | .merge | .default | .unknown => .fail level .malformed
  | .again anchor => .ok (again.value anchor)

/-- The values of nodes. -/
def loadAll (again : Returns) (level : Nat) : List Node → List (Loaded Value)
  | [] => []
  | first :: rest => load again level first :: loadAll again level rest

/-- The pairs of a sequence of mappings with one entry each. -/
def loadPairs (again : Returns) (level : Nat) : List Node → List (Loaded Value)
  | [] => []
  | .mapping _ _ [(key, value)] :: rest =>
    (Loaded.both (load again level key) (load again level value)).map (fun pair =>
      Value.tuple [pair.1, pair.2]) :: loadPairs again level rest
  | _ :: rest => .fail level .malformed :: loadPairs again level rest

/-- The entries of a mapping, while the mappings at some places are being merged. -/
def loadEntries (again : Returns) (merging : List Nat) (level : Nat) :
    List (Node × Node) → Except Failure Entries
  | [] => .ok { merged := [], own := [] }
  | (.scalar .merge _, value) :: rest =>
    match loadMerged again merging level value, loadEntries again merging level rest with
    | .ok merged, .ok entries => .ok (entries.merge merged)
    | .error failure, _ => .error failure
    | .ok _, .error failure => .error failure
  | (.scalar .default text, value) :: rest =>
    match loadEntries again merging level rest with
    | .ok entries => .ok (entries.cons (.ok (.text text), load again level value))
    | .error failure => .error failure
  | (key, value) :: rest =>
    match loadEntries again merging level rest with
    | .ok entries =>
      .ok (entries.cons (keyOf level key.tag (load again level key), load again level value))
    | .error failure => .error failure

/-- The entries that a merged node brings: those of a mapping, or those of a
sequence of mappings, the last mapping first. -/
def loadMerged (again : Returns) (merging : List Nat) (level : Nat) :
    Node → Except Failure (List Entry)
  | .scalar _ _ => .error .malformed
  | .sequence _ _ items =>
    (loadMergedItems again merging level items).map fun parts => parts.reverse.flatten
  | .mapping _ place entries =>
    (loadEntries again (place :: merging) level entries).map Entries.all
  | .again anchor => again.merged merging level anchor

/-- The entries of the mappings of a merged sequence. -/
def loadMergedItems (again : Returns) (merging : List Nat) (level : Nat) :
    List Node → Except Failure (List (List Entry))
  | [] => .ok []
  | .mapping _ place entries :: rest =>
    match loadEntries again (place :: merging) level entries,
      loadMergedItems again merging level rest with
    | .ok entries, .ok parts => .ok (entries.all :: parts)
    | .error failure, _ => .error failure
    | .ok _, .error failure => .error failure
  | .again anchor :: rest =>
    match again.merged merging level anchor, loadMergedItems again merging level rest with
    | .ok entries, .ok parts => .ok (entries :: parts)
    | .error failure, _ => .error failure
    | .ok _, .error failure => .error failure
  | _ :: _ => .error .malformed

end

/-- The value of a node that is loaded when it is wanted. -/
def deferred (again : Returns) (node : Node) : Value :=
  .knot node.place fun _ =>
    match node.load again 0 with
    | .ok value => value.opened
    | .error _ => .endless

/-- An entry whose value is loaded when it is wanted. -/
def deferredEntry (again : Returns) (level : Nat) (entry : Node × Node) : Entry :=
  let value := match entry.2 with
    | .scalar tag text => load again level (.scalar tag text)
    | node => .ok (node.deferred again)
  (keyOf level entry.1.tag (entry.1.load again level), value)

/-- The entries that are not merged ones. -/
def ownEntries (entries : List (Node × Node)) : List (Node × Node) :=
  entries.filter fun entry => entry.1.tag != .merge

mutual

/-- The entries that are merged into a mapping with these entries, given what an anchor
brings while the mappings at some places are being merged. -/
def mergedInto (brought : List Nat → String → List (Node × Node)) (merging : List Nat) :
    List (Node × Node) → List (Node × Node)
  | [] => []
  | (.scalar .merge _, value) :: rest =>
    broughtBy brought merging value ++ mergedInto brought merging rest
  | _ :: rest => mergedInto brought merging rest

/-- The entries that a merged node brings. -/
def broughtBy (brought : List Nat → String → List (Node × Node)) (merging : List Nat) :
    Node → List (Node × Node)
  | .scalar _ _ => []
  | .sequence _ _ items => broughtByAll brought merging items
  | .mapping _ place entries => mergedInto brought (place :: merging) entries ++ ownEntries entries
  | .again anchor => brought merging anchor

/-- The entries that the mappings of a sequence bring, the last mapping first. -/
def broughtByAll (brought : List Nat → String → List (Node × Node)) (merging : List Nat) :
    List Node → List (Node × Node)
  | [] => []
  | first :: rest => broughtByAll brought merging rest ++ broughtBy brought merging first

end

end Node

namespace Graph

/-- The node with an anchor. -/
def find? (graph : Graph) (anchor : String) : Option Node :=
  (graph.anchors.lookup anchor).join

/-- The entries that the mapping with an anchor brings to one that it is merged into.
While it is being merged itself, it brings its own entries only. -/
def brought (graph : Graph) : Nat → List Nat → String → List (Node × Node)
  | 0, _, _ => []
  | depth + 1, merging, anchor =>
    match graph.find? anchor with
    | some (.mapping _ place entries) =>
      let merged := if merging.contains place then []
        else Node.mergedInto (graph.brought depth) (place :: merging) entries
      merged ++ Node.ownEntries entries
    | _ => []

/-- What the nodes of a document are inside of themselves, down to a depth. -/
def returns (graph : Graph) : Nat → Node.Returns
  | 0 => { value := fun _ => .endless, merged := fun _ _ _ => .ok [] }
  | depth + 1 =>
    { value := fun anchor =>
        ((graph.find? anchor).map (Node.deferred (graph.returns depth))).getD .endless
      merged := fun merging level anchor =>
        match graph.find? anchor with
        | some (.mapping _ _ _) =>
          .ok ((graph.brought (graph.anchors.length + 1) merging anchor).map
            (Node.deferredEntry (graph.returns depth) level))
        | _ => .error .malformed }

/-- How deep a collection that contains itself is followed. -/
def greatestDepth : Nat := 1000

/-- The value of a document. -/
def load (graph : Graph) : Except Failure Value :=
  match graph.root.load (graph.returns greatestDepth) 0 with
  | .ok value => .ok value
  | .error fault => .error fault.failure

end Graph

/-- The value of a text. A text without a document stands for null. -/
def load (text : String) : Except Failure Value :=
  match Graph.ofText? text with
  | .error failure => .error failure
  | .ok none => .ok .null
  | .ok (some graph) => graph.load

end Yaml

end CodeLayout
