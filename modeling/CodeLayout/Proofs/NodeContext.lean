import CodeLayout.Proofs.ChildEntry
import CodeLayout.Proofs.DocumentFailure

/-!
# Nodes with a hole

A node context is a node with one hole. The hole is an element of a sequence: of a
sequence that is a node itself, of that of a concatenation, of the children of a block
or of the items of a list. The sequence may be in the hole of another such node, and so
on to any depth, from the outermost layer to the innermost.

The node in the hole is built at a path of its own (`NodeContext.holePath`), after the
nodes before the hole and before all the rest (`Node.build_fill`). So its failure is the
failure of the whole node, and the nodes after the hole and the texts around it do not
matter then. If nothing fails, the tree of the node in the hole stands in the hole of a
tree context, which the rest of the node makes.

A template may change the variables that it is filled in with: a list among them can
lose an item. So the node in the hole is built with the variables that the nodes before
the hole have left. With the variables of the whole node it may be built otherwise
(`Node.fill_after_change`).

Main statement: `Node.outcome_fill`.
-/

set_option autoImplicit false

namespace CodeLayout

namespace Node

/-! ## Contexts of nodes -/

/-- The entries of a description around the one with this name, which is for the
children. The description fits, and `said` is what it says besides the children. -/
structure Description {ε : Type} (name : String)
    (read : List (Value × Value) → Except Problem ε) where
  /-- The entries before the one for the children. -/
  before : List (Value × Value)
  /-- The entries after it. -/
  after : List (Value × Value)
  /-- What is said besides the children. -/
  said : ε
  /-- There is no other entry for the children. -/
  once : ∀ entry ∈ before, entry.1.text? ≠ some name
  /-- The description fits. -/
  fits : read (before ++ (.text name, .list []) :: after) = .ok said

/-- The description with these children. -/
def Description.entries {ε : Type} {name : String}
    {read : List (Value × Value) → Except Problem ε} (description : Description name read)
    (children : List Value) : List (Value × Value) :=
  description.before ++ (.text name, .list children) :: description.after

/-- What holds a sequence of nodes. -/
inductive Holder where
  /-- A node that is a sequence. -/
  | sequence
  /-- A concatenation. -/
  | concat
  /-- A block. -/
  | block (description : Description BlockEntries.body BlockEntries.read)
  /-- A list. -/
  | list (description : Description ListEntries.items ListEntries.read)

namespace Holder

/-- The mapping that describes a node of a kind. -/
def described (kind : NodeKind) (description : Value) : Value :=
  .map [(.text kind.name, description)]

/-- The node with these nodes in its sequence. -/
def node (children : List Value) : Holder → Value
  | .sequence => .list children
  | .concat => described .concat (.list children)
  | .block description => described .block (.map (description.entries children))
  | .list description => described .list (.map (description.entries children))

/-- The path of the sequence in a node at a path. -/
def sequencePath (path : String) : Holder → String
  | .sequence => path
  | .concat => entryPath path NodeKind.concat.name
  | .block _ => entryPath (entryPath path NodeKind.block.name) BlockEntries.body
  | .list _ => entryPath (entryPath path NodeKind.list.name) ListEntries.items

end Holder

/-- One layer around a hole. -/
structure Layer where
  /-- What holds the sequence with the hole. -/
  holder : Holder
  /-- The nodes before the hole. -/
  before : List Value
  /-- The nodes after the hole. -/
  after : List Value

/-- The node with another one in the hole of a layer. -/
def Layer.fill (layer : Layer) (node : Value) : Value :=
  layer.holder.node (layer.before ++ node :: layer.after)

/-- The path of the hole of a layer, whose node is at a path. -/
def Layer.holePath (layer : Layer) (path : String) : String :=
  elementPath (layer.holder.sequencePath path) layer.before.length

/-- A node with one hole: the layers around the hole from the outside in. -/
abbrev Context := List Layer

namespace Context

/-- The node with another one in the hole. -/
def fill (context : Context) (node : Value) : Value :=
  context.foldr Layer.fill node

/-- The path of the hole in a node at a path. -/
def holePath (context : Context) (path : String) : String :=
  context.foldl (fun path layer => layer.holePath path) path

end Context

/-! ## Contexts of trees -/

/-- What a node with children says besides them, with its texts filled in. -/
inductive Frame where
  /-- A concatenation. -/
  | concat
  /-- A block. -/
  | block (start close : String) (connect : Bool) (inline : InlineMode)
  /-- A list. -/
  | list (separator : String) (trailing : Trailing) (inline : InlineMode)

/-- The tree with these children. -/
def Frame.tree (children : List DocumentTree) : Frame → DocumentTree
  | .concat => .concat children
  | .block start close connect inline => .block start children close connect inline
  | .list separator trailing inline => .list separator children trailing inline

/-- One layer of a tree around a hole. -/
structure TreeLayer where
  /-- What is said besides the children. -/
  frame : Frame
  /-- The children before the hole. -/
  before : List DocumentTree
  /-- The children after the hole. -/
  after : List DocumentTree

/-- The tree with another one in the hole of a layer. -/
def TreeLayer.fill (layer : TreeLayer) (tree : DocumentTree) : DocumentTree :=
  layer.frame.tree (layer.before ++ tree :: layer.after)

/-- A tree with one hole: the layers around the hole from the outside in. -/
abbrev TreeContext := List TreeLayer

/-- The tree with another one in the hole. -/
def TreeContext.fill (context : TreeContext) (tree : DocumentTree) : DocumentTree :=
  context.foldr TreeLayer.fill tree

/-! ## Building around a hole -/

/-- Builds what a node at a path says besides its children. -/
def Holder.frame (path : String) : Holder → Build Frame
  | .sequence => return .concat
  | .concat => return .concat
  | .block description => do
    let path := entryPath path NodeKind.block.name
    let start ← fillText description.said.start (entryPath path "start")
    let close ← fillText description.said.close (entryPath path "end")
    return .block start close description.said.connect description.said.inline
  | .list description => do
    let path := entryPath path NodeKind.list.name
    let separator ← fillText description.said.separator (entryPath path "separator")
    return .list separator description.said.trailing description.said.inline

namespace Context

/-- Builds the nodes before the hole, from the outside in. -/
def enter (path : String) : Context → Build (List (Layer × List DocumentTree))
  | [] => return []
  | layer :: rest => do
    let before ← buildAll (layer.holder.sequencePath path) 0 layer.before
    return (layer, before) :: (← enter (layer.holePath path) rest)

/-- Builds the nodes after the hole and the texts around it, from the inside out. -/
def leave (path : String) : List (Layer × List DocumentTree) → Build TreeContext
  | [] => return []
  | (layer, before) :: rest => do
    let inner ← leave (layer.holePath path) rest
    let after ← buildAll (layer.holder.sequencePath path) (layer.before.length + 1) layer.after
    return { frame := ← layer.holder.frame path, before, after } :: inner

end Context

/-! ## Building a filled context -/

/-- The nodes of two sequences are built one after the other. -/
theorem buildAll_append (path : String) (rest : List Value) :
    ∀ (first : List Value) (index : Nat), buildAll path index (first ++ rest) = do
      let before ← buildAll path index first
      let after ← buildAll path (index + first.length) rest
      return before ++ after
  | [], index => by simp [buildAll]
  | node :: others, index => by
    have later := buildAll_append path rest others (index + 1)
    rw [Nat.add_right_comm] at later
    simp [buildAll, later, Nat.add_assoc]

/-- A node with a sequence is built from its sequence and from what else it says. -/
theorem build_holder (holder : Holder) (path : String) (children : List Value) :
    build path (holder.node children) = do
      let trees ← buildAll (holder.sequencePath path) 0 children
      return (← holder.frame path).tree trees := by
  cases holder with
  | sequence => simp [Holder.node, Holder.frame, Holder.sequencePath, Frame.tree, build]
  | concat =>
    have kind : kindOf? (.text NodeKind.concat.name) = some .concat := by decide
    simp [Holder.node, Holder.described, Holder.frame, Holder.sequencePath, Frame.tree, build,
      buildMapping, kind, buildKind]
  | block description =>
    have kind : kindOf? (.text NodeKind.block.name) = some .block := by decide
    have fits : BlockEntries.read (description.entries children) = .ok description.said :=
      BlockEntries.read_replaced _ _ _ _ description.fits
    have body := buildEntry_append_cons
      (entryPath (entryPath path NodeKind.block.name) BlockEntries.body) BlockEntries.body
      (.list children) description.before description.after description.once
    simp only [Holder.node, Holder.described, Holder.frame, Holder.sequencePath, build,
      buildMapping, kind, buildKind, fits]
    rw [Description.entries, body]
    simp [buildChildren, Frame.tree]
  | list description =>
    have kind : kindOf? (.text NodeKind.list.name) = some .list := by decide
    have fits : ListEntries.read (description.entries children) = .ok description.said :=
      ListEntries.read_replaced _ _ _ _ description.fits
    have items := buildEntry_append_cons
      (entryPath (entryPath path NodeKind.list.name) ListEntries.items) ListEntries.items
      (.list children) description.before description.after description.once
    simp only [Holder.node, Holder.described, Holder.frame, Holder.sequencePath, build,
      buildMapping, kind, buildKind, fits]
    rw [Description.entries, items]
    simp [buildChildren, Frame.tree]

/-- A layer is built from the nodes before its hole, the node in it and the rest. -/
theorem build_layer (layer : Layer) (path : String) (node : Value) :
    build path (layer.fill node) = do
      let before ← buildAll (layer.holder.sequencePath path) 0 layer.before
      let tree ← build (layer.holePath path) node
      let after ← buildAll (layer.holder.sequencePath path) (layer.before.length + 1) layer.after
      return TreeLayer.fill { frame := ← layer.holder.frame path, before, after } tree := by
  rw [Layer.fill, build_holder, buildAll_append]
  simp [buildAll, Layer.holePath, TreeLayer.fill]

/-- A filled context is built from the nodes before its hole, the node in it and the
rest. -/
theorem build_fill (node : Value) : ∀ (context : Context) (path : String),
    build path (context.fill node) = do
      let entered ← context.enter path
      let tree ← build (context.holePath path) node
      return (← Context.leave path entered).fill tree
  | [], path => by simp [Context.fill, Context.enter, Context.holePath, Context.leave,
      TreeContext.fill]
  | layer :: rest, path => by
    have inner := build_fill node rest (layer.holePath path)
    have filled : Context.fill (layer :: rest) node = layer.fill (Context.fill rest node) := rfl
    have place : Context.holePath (layer :: rest) path =
        Context.holePath rest (layer.holePath path) := rfl
    rw [filled, build_layer, inner, place]
    simp [Context.enter, Context.leave, TreeContext.fill]

/-! ## Outcomes -/

section Outcomes

variable {α β : Type} {step : Build α} {bindings after : Variables}

/-- What comes after a failure does not matter. -/
theorem outcome_bind_error {failure : DocumentFailure} (next : α → Build β)
    (failed : step.outcome bindings = (.error failure, after)) :
    (step >>= next : Build β).outcome bindings = (.error failure, after) := by
  rw [outcome_bind, failed]

theorem outcome_bind_ok {result : α} (next : α → Build β)
    (done : step.outcome bindings = (.ok result, after)) :
    (step >>= next : Build β).outcome bindings = (next result).outcome after := by
  rw [outcome_bind, done]

end Outcomes

/-- Of the nodes of a sequence that fail the first one decides: the nodes after it and what
else the node with the sequence says do not matter. -/
theorem outcome_holder_error (holder : Holder) (path : String) {first : List Value}
    {node : Value} (rest : List Value) {bindings inner last : Variables}
    {trees : List DocumentTree} {failure : DocumentFailure}
    (before : (buildAll (holder.sequencePath path) 0 first).outcome bindings = (.ok trees, inner))
    (failed : (build (elementPath (holder.sequencePath path) first.length) node).outcome inner =
      (.error failure, last)) :
    (build path (holder.node (first ++ node :: rest))).outcome bindings =
      (.error failure, last) := by
  have sequence : (buildAll (holder.sequencePath path) first.length (node :: rest)).outcome inner =
      (.error failure, last) := by
    rw [buildAll]
    exact outcome_bind_error _ failed
  rw [build_holder, buildAll_append, Nat.zero_add]
  refine outcome_bind_error _ ((outcome_bind_ok _ before).trans ?_)
  exact outcome_bind_error _ sequence

/-- **The building of a node goes through its contexts.** Where the nodes before a hole
can be built, a failure of the node in the hole, built at the path of the hole, is the
failure of the whole node. Where the rest can be built too, the tree of the node in the
hole stands in the hole of the tree that the rest makes. And of several nodes of one
sequence that fail, the first one decides, at any depth. -/
theorem outcome_fill (context : Context) (path : String) (node : Value)
    {bindings inner : Variables} {entered : List (Layer × List DocumentTree)}
    (before : (context.enter path).outcome bindings = (.ok entered, inner)) :
    (∀ failure last,
      (build (context.holePath path) node).outcome inner = (.error failure, last) →
        (build path (context.fill node)).outcome bindings = (.error failure, last)) ∧
    (∀ tree after around last,
      (build (context.holePath path) node).outcome inner = (.ok tree, after) →
      (Context.leave path entered).outcome after = (.ok around, last) →
        (build path (context.fill node)).outcome bindings = (.ok (around.fill tree), last)) ∧
    ∀ (holder : Holder) (first rest : List Value) (trees : List DocumentTree)
      (middle last : Variables) (failure : DocumentFailure),
      (buildAll (holder.sequencePath (context.holePath path)) 0 first).outcome inner =
        (.ok trees, middle) →
      (build (elementPath (holder.sequencePath (context.holePath path)) first.length)
        node).outcome middle = (.error failure, last) →
        (build path (context.fill (holder.node (first ++ node :: rest)))).outcome bindings =
          (.error failure, last) := by
  have fails : ∀ (inside : Value) (failure : DocumentFailure) (last : Variables),
      (build (context.holePath path) inside).outcome inner = (.error failure, last) →
        (build path (context.fill inside)).outcome bindings = (.error failure, last) := by
    intro inside failure last failed
    rw [build_fill, outcome_bind_ok _ before]
    exact outcome_bind_error _ failed
  refine ⟨fails node, ?_, ?_⟩
  · intro tree after around last done left
    rw [build_fill, outcome_bind_ok _ before, outcome_bind_ok _ done, outcome_bind_ok _ left]
    rfl
  · intro holder first rest trees middle last failure others failed
    exact fails _ failure last (outcome_holder_error holder _ rest others failed)

/-- A block with a line and a hole for its children. -/
def outerLayer : Layer where
  holder := .block {
    before := [(.text "start", .text "f(")]
    after := [(.text "end", .text ")")]
    said := { start := "f(", close := ")", connect := false, inline := .auto }
    once := by decide
    fits := rfl }
  before := [.text "a"]
  after := []

/-- A list with a hole and a line for its items. -/
def innerLayer : Layer where
  holder := .list {
    before := []
    after := [(.text "separator", .text ",")]
    said := { separator := ",", trailing := .ifMultiLine, inline := .auto }
    once := nofun
    fits := rfl }
  before := []
  after := [.text "c"]

/-- Nothing, and a line, in the hole of a list in a block. -/
theorem outcome_fill_call :
    let context : Context := [outerLayer, innerLayer]
    (context.enter "root").outcome [] =
        (.ok [(outerLayer, [.line "a"]), (innerLayer, [])], []) ∧
      context.holePath "root" = "root.block.body[1].list.items[0]" ∧
      (build "root" (context.fill .null)).outcome [] =
        (.error (problemAt (context.holePath "root") (.notNode "None")), []) ∧
      (build "root" (context.fill (.text "b"))).outcome [] =
        (.ok (.block "f(" [.line "a", .list "," [.line "b", .line "c"] .ifMultiLine .auto] ")"
          false .auto), []) := by
  intro context
  have entered : (context.enter "root").outcome [] =
      (.ok [(outerLayer, [.line "a"]), (innerLayer, [])], []) := rfl
  refine ⟨entered, by decide +kernel, ?_, ?_⟩
  · exact (outcome_fill context "root" .null entered).1 _ _ rfl
  · exact (outcome_fill context "root" (.text "b") entered).2.1 (.line "b") []
      [{ frame := .block "f(" ")" false .auto, before := [.line "a"], after := [] },
        { frame := .list "," .ifMultiLine .auto, before := [], after := [.line "c"] }] [] rfl rfl

/-- The outline of the tree that is built, if there is one. -/
def Build.outline? (step : Build DocumentTree) (bindings : Variables) : Option (Fragment Unit) :=
  (step.outcome bindings).1.toOption.map Fragment.outline

set_option maxRecDepth 100000 in
/-- A template takes the last item off a list, at two places of a sequence. With the
variables of the whole node both show the same item, but the second is built after the
first has taken it. -/
theorem fill_after_change :
    let taking : Value := .text "\x7b\x7b xs.pop() \x7d\x7d"
    let bindings : Variables := [(.text "xs", .list [.text "a", .text "b"])]
    let context : Context := [{ holder := .sequence, before := [taking], after := [] }]
    (build (elementPath "root" 0) taking).outline? bindings = some (.line "b") ∧
      (build (context.holePath "root") taking).outline? bindings = some (.line "b") ∧
      (build "root" (context.fill taking)).outline? bindings ≠
        some (.concat [.line "b", .line "b"]) :=
  ⟨by decide +kernel, by decide +kernel, by decide +kernel⟩

end Node

end CodeLayout
