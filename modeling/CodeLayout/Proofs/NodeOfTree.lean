import CodeLayout.Fragment.Condition
import CodeLayout.Layout
import CodeLayout.Proofs.NodeContext

/-!
# Every tree has a node

The node of a tree says everything about it: it is a mapping at every place where a tree
has a fragment, all entries are there, and nothing is left to a default. If no text of
the tree is a template, the building of its node gives the tree back, with any variables
and at any path, and leaves the variables as they are (`Node.outcome_build_toNode`).

A caller's fragment has conditions where the tree of a document has modes. A mode
expresses a condition that answers as the mode says for every node. So the documents
express exactly the fragments whose conditions are expressed by modes.

Main statement: `Node.build_toNode`.
-/

set_option autoImplicit false

namespace CodeLayout

open Node (Holder Frame Build)

/-! ## Fragments with conditions that modes express -/

/-- Whether a mode expresses a caller's condition. -/
def InlineMode.Expresses : InlineMode → Option Condition → Prop
  | .auto, condition => condition = none
  | .always, condition => ∃ asked : Condition, condition = some asked ∧
    ∀ node, asked node = .ok true
  | .never, condition => ∃ asked : Condition, condition = some asked ∧
    ∀ node, asked node = .ok false
  | .maxItems limit, condition => ∃ asked : Condition, condition = some asked ∧
    ∀ node, asked node = .ok (decide ((Fragment.nonempty node.children).length ≤ limit))

/-- A mode expresses one condition only. -/
theorem InlineMode.Expresses.unique {mode : InlineMode} {condition : Option Condition}
    (same : mode.Expresses condition) : mode.condition = condition := by
  cases mode with
  | auto => exact same.symm
  | always =>
    obtain ⟨asked, rfl, answers⟩ := same
    exact congrArg some (funext fun node => (answers node).symm)
  | never =>
    obtain ⟨asked, rfl, answers⟩ := same
    exact congrArg some (funext fun node => (answers node).symm)
  | maxItems limit =>
    obtain ⟨asked, rfl, answers⟩ := same
    exact congrArg some (funext fun node => (answers node).symm)

namespace Fragment

mutual

/-- A tree of a document expresses a caller's fragment: they are the same but for the
conditions, and the modes express those. -/
inductive Expresses : DocumentTree → Sketch → Prop where
  | line (text : String) : Expresses (.line text) (.line text)
  | block (start close : String) (connect : Bool) {body : List DocumentTree}
      {sketches : List Sketch} {mode : InlineMode} {condition : Option Condition}
      (bodies : AllExpress body sketches) (inline : mode.Expresses condition) :
      Expresses (.block start body close connect mode)
        (.block start sketches close connect condition)
  | list (separator : String) (trailing : Trailing) {body : List DocumentTree}
      {sketches : List Sketch} {mode : InlineMode} {condition : Option Condition}
      (bodies : AllExpress body sketches) (inline : mode.Expresses condition) :
      Expresses (.list separator body trailing mode)
        (.list separator sketches trailing condition)
  | concat {body : List DocumentTree} {sketches : List Sketch}
      (bodies : AllExpress body sketches) : Expresses (.concat body) (.concat sketches)

/-- The same for two bodies, child by child. -/
inductive AllExpress : List DocumentTree → List Sketch → Prop where
  | nil : AllExpress [] []
  | cons {first : DocumentTree} {sketch : Sketch} {rest : List DocumentTree}
      {sketches : List Sketch} (heads : Expresses first sketch)
      (tails : AllExpress rest sketches) : AllExpress (first :: rest) (sketch :: sketches)

end

mutual

/-- The sketch of a tree is the fragment that it expresses. -/
theorem Expresses.sketch_eq : ∀ {tree : DocumentTree} {original : Sketch},
    Expresses tree original → tree.sketch = original
  | _, _, .line _ => rfl
  | _, _, .block _ _ _ bodies inline => by
    rw [DocumentTree.sketch, map, AllExpress.sketches_eq bodies, inline.unique]
  | _, _, .list _ _ bodies inline => by
    rw [DocumentTree.sketch, map, AllExpress.sketches_eq bodies, inline.unique]
  | _, _, .concat bodies => by
    rw [DocumentTree.sketch, map, AllExpress.sketches_eq bodies]

theorem AllExpress.sketches_eq : ∀ {body : List DocumentTree} {originals : List Sketch},
    AllExpress body originals → mapBody InlineMode.condition body = originals
  | _, _, .nil => rfl
  | _, _, .cons heads tails => by
    have first := Expresses.sketch_eq heads
    rw [DocumentTree.sketch] at first
    rw [mapBody, first, AllExpress.sketches_eq tails]

end

section Counting

variable {δ ε : Type} (f : δ → ε)

mutual

/-- What is said about inlining does not count. -/
theorem count_map : ∀ fragment : Fragment δ, (fragment.map f).count = fragment.count
  | .line _ => rfl
  | .block _ body _ _ _ => congrArg (· + 1) (bodyCount_mapBody body)
  | .list _ body _ _ => congrArg (· + 1) (bodyCount_mapBody body)
  | .concat body => congrArg (· + 1) (bodyCount_mapBody body)
  | .foreign _ => rfl

theorem bodyCount_mapBody : ∀ body : List (Fragment δ), bodyCount (mapBody f body) = bodyCount body
  | [] => rfl
  | first :: rest => by rw [mapBody, bodyCount, bodyCount, count_map first, bodyCount_mapBody rest]

end

end Counting

end Fragment

/-! ## Nodes of trees -/

/-- The value that says a mode. -/
def InlineMode.toValue : InlineMode → Value
  | .auto => .text "auto"
  | .always => .text "always"
  | .never => .text "never"
  | .maxItems limit => .map [(.text limitEntry, .int limit)]

namespace Fragment

mutual

/-- Whether a tree has a node and none of its texts is a template. -/
def isPlain : DocumentTree → Bool
  | .line text => !Template.isTemplate text
  | .block start body close _ _ =>
    !Template.isTemplate start && allPlain body && !Template.isTemplate close
  | .list separator body _ _ => !Template.isTemplate separator && allPlain body
  | .concat body => allPlain body
  | .foreign _ => false

/-- Whether the same holds for all trees of a body. -/
def allPlain : List DocumentTree → Bool
  | [] => true
  | first :: rest => isPlain first && allPlain rest

end

mutual

/-- The node of a tree. A fragment of another kind has none. -/
def toNode : DocumentTree → Value
  | .line text => .map [(.text "line", .text text)]
  | .block start body close connect inline =>
    .map [(.text "block", .map [(.text "start", .text start), (.text "body", .list (toNodes body)),
      (.text "end", .text close), (.text "connect", .bool connect),
      (.text "inline", inline.toValue)])]
  | .list separator body trailing inline =>
    .map [(.text "list", .map [(.text "separator", .text separator),
      (.text "items", .list (toNodes body)), (.text "trailing", .text trailing.name),
      (.text "inline", inline.toValue)])]
  | .concat body => .map [(.text "concat", .list (toNodes body))]
  | .foreign _ => .null

/-- The nodes of the trees of a body. -/
def toNodes : List DocumentTree → List Value
  | [] => []
  | first :: rest => toNode first :: toNodes rest

end

end Fragment

/-! ## Reading what a node says -/

/-- The value of a mode is read as the mode. -/
theorem InlineMode.read_toValue (mode : InlineMode) : read mode.toValue = .ok mode := by
  cases mode with
  | auto => rfl
  | always => rfl
  | never => rfl
  | maxItems limit =>
    have enough : ¬(limit : Int) < 0 := by omega
    have limits : limit? [(.text limitEntry, .int limit)] = some limit := by
      have found : (Value.lookup? limitEntry [(.text limitEntry, .int limit)]).map Field.integer =
          some (.ok (limit : Int)) := rfl
      have known : (Options.unexpected [limitEntry]
          [(.text limitEntry, .int limit)]).isEmpty = true := rfl
      simp only [limit?, known, if_true, found, if_neg enough, Int.toNat_natCast]
    simp only [toValue, read, Value.opened, limits]

/-- What the node of a block says besides the children. -/
theorem BlockEntries.read_node (start close : String) (connect : Bool) (inline : InlineMode)
    (children : Value) :
    read [(.text "start", .text start), (.text body, children), (.text "end", .text close),
      (.text "connect", .bool connect), (.text "inline", inline.toValue)] =
      .ok { start, close, connect, inline } := by
  have mode : readMode [(.text "start", .text start), (.text body, children),
      (.text "end", .text close), (.text "connect", .bool connect),
      (.text "inline", inline.toValue)] = .ok inline := by
    have found : Value.lookup? "inline" [(.text "start", .text start), (.text body, children),
        (.text "end", .text close), (.text "connect", .bool connect),
        (.text "inline", inline.toValue)] = some inline.toValue := rfl
    rw [readMode, Field.optional, found]
    simp only [inline.read_toValue]
  rw [read, mode]
  rfl

/-- What the node of a list says besides the items. -/
theorem ListEntries.read_node (separator : String) (trailing : Trailing) (inline : InlineMode)
    (children : Value) :
    read [(.text "separator", .text separator), (.text items, children),
      (.text "trailing", .text trailing.name), (.text "inline", inline.toValue)] =
      .ok { separator, trailing, inline } := by
  have mode : readMode [(.text "separator", .text separator), (.text items, children),
      (.text "trailing", .text trailing.name), (.text "inline", inline.toValue)] = .ok inline := by
    have found : Value.lookup? "inline" [(.text "separator", .text separator),
        (.text items, children), (.text "trailing", .text trailing.name),
        (.text "inline", inline.toValue)] = some inline.toValue := rfl
    rw [readMode, Field.optional, found]
    simp only [inline.read_toValue]
  rw [read, mode]
  cases trailing <;> rfl

namespace Node

/-- The holder of the children of a block with these texts and choices. -/
def blockHolder (start close : String) (connect : Bool) (inline : InlineMode) : Holder :=
  .block {
    before := [(.text "start", .text start)]
    after := [(.text "end", .text close), (.text "connect", .bool connect),
      (.text "inline", inline.toValue)]
    said := { start, close, connect, inline }
    once := by simp [Value.text?, BlockEntries.body]
    fits := BlockEntries.read_node start close connect inline (.list []) }

/-- The holder of the items of a list with this separator and these choices. -/
def listHolder (separator : String) (trailing : Trailing) (inline : InlineMode) : Holder :=
  .list {
    before := [(.text "separator", .text separator)]
    after := [(.text "trailing", .text trailing.name), (.text "inline", inline.toValue)]
    said := { separator, trailing, inline }
    once := by simp [Value.text?, ListEntries.items]
    fits := ListEntries.read_node separator trailing inline (.list []) }

/-! ## Building the node of a tree -/

/-- A text that is no template stands for itself. -/
theorem outcome_fillText {text : String} (plain : (!Template.isTemplate text) = true)
    (path : String) (bindings : Variables) :
    (fillText text path).outcome bindings = (.ok text, bindings) := by
  rw [Bool.not_eq_true'] at plain
  have filled : Template.fill bindings text = { result := .ok text, bindings } := by
    rw [Template.fill, plain]
    rfl
  simp only [fillText, outcome_bind, outcome_get, outcome_set, filled]
  rfl

/-- A node with a sequence whose nodes and texts can be built. -/
theorem outcome_holder (holder : Holder) {path : String} {children : List Value}
    {bindings : Variables} {trees : List DocumentTree} {frame : Frame}
    (built : (buildAll (holder.sequencePath path) 0 children).outcome bindings =
      (.ok trees, bindings))
    (said : (holder.frame path).outcome bindings = (.ok frame, bindings)) :
    (build path (holder.node children)).outcome bindings = (.ok (frame.tree trees), bindings) := by
  rw [build_holder, outcome_bind_ok _ built, outcome_bind_ok _ said]
  rfl

mutual

/-- **The node of a plain tree is built into the tree**, with any variables and at any
path, and the variables stay as they are. -/
theorem outcome_build_toNode (bindings : Variables) : ∀ (tree : DocumentTree) (path : String),
    tree.isPlain = true → (build path tree.toNode).outcome bindings = (.ok tree, bindings)
  | .line text, path, plain => by
    have line : build path (Fragment.toNode (.line text)) =
        fillLine (entryPath path NodeKind.line.name) (.ok text) := rfl
    rw [line, fillLine, outcome_bind_ok _ (outcome_fillText plain _ bindings)]
    rfl
  | .block start body close connect inline, path, plain => by
    simp only [Fragment.isPlain, Bool.and_eq_true] at plain
    obtain ⟨⟨startPlain, bodyPlain⟩, closePlain⟩ := plain
    -- The node of a block is the holder of its children with all entries said.
    have said : ((blockHolder start close connect inline).frame path).outcome bindings =
        (.ok (.block start close connect inline), bindings) := by
      rw [blockHolder, Holder.frame, outcome_bind_ok _ (outcome_fillText startPlain _ bindings),
        outcome_bind_ok _ (outcome_fillText closePlain _ bindings)]
      rfl
    exact outcome_holder (blockHolder start close connect inline)
      (outcome_buildAll_toNodes bindings body _ 0 bodyPlain) said
  | .list separator body trailing inline, path, plain => by
    simp only [Fragment.isPlain, Bool.and_eq_true] at plain
    have said : ((listHolder separator trailing inline).frame path).outcome bindings =
        (.ok (.list separator trailing inline), bindings) := by
      rw [listHolder, Holder.frame, outcome_bind_ok _ (outcome_fillText plain.1 _ bindings)]
      rfl
    exact outcome_holder (listHolder separator trailing inline)
      (outcome_buildAll_toNodes bindings body _ 0 plain.2) said
  | .concat body, path, plain =>
    outcome_holder .concat (outcome_buildAll_toNodes bindings body _ 0 plain) rfl
  | .foreign _, _, plain => by cases plain

theorem outcome_buildAll_toNodes (bindings : Variables) : ∀ (body : List DocumentTree)
    (path : String) (index : Nat), Fragment.allPlain body = true →
      (buildAll path index (Fragment.toNodes body)).outcome bindings = (.ok body, bindings)
  | [], path, index, _ => rfl
  | first :: rest, path, index, plain => by
    simp only [Fragment.allPlain, Bool.and_eq_true] at plain
    have head := outcome_build_toNode bindings first (elementPath path index) plain.1
    have tail := outcome_buildAll_toNodes bindings rest path (index + 1) plain.2
    rw [Fragment.toNodes, buildAll, outcome_bind_ok _ head, outcome_bind_ok _ tail]
    rfl

end

/-- **Documents express every fragment whose conditions are expressed by modes and whose
texts are no templates.** The node of a tree that expresses it is built into that tree,
which has the same conditions, so every node of it is decided in the same way, it has as
many nodes, and its text is the same under every format. -/
theorem build_toNode {tree : DocumentTree} {original : Sketch}
    (expressed : tree.Expresses original) (plain : tree.isPlain = true) (bindings : Variables)
    (path : String) :
    ∃ built : DocumentTree, (build path tree.toNode).outcome bindings = (.ok built, bindings) ∧
      built = tree ∧ built.sketch = original ∧ built.sketch.settle = original.settle ∧
      built.count = original.count ∧
      ∀ format : Format, built.sketch.settle.render format = original.settle.render format := by
  have same := expressed.sketch_eq
  refine ⟨tree, outcome_build_toNode bindings tree path plain, rfl, same, ?_, ?_, ?_⟩
  · rw [same]
  · rw [← same, DocumentTree.sketch, Fragment.count_map]
  · intro format
    rw [same]

/-- A block with a bound on its children, two of which are not empty. -/
def boundedTree : DocumentTree :=
  .block "f("
    [.concat [], .line "a", .list "," [.line "b", .list "" [] .never .auto] .always .always]
    ")" true (.maxItems 2)

/-- The fragment of a caller with the same children and the same conditions. -/
def boundedSketch : Sketch :=
  .block "f("
    [.concat [], .line "a",
      .list "," [.line "b", .list "" [] .never none] .always (some Condition.always)]
    ")" true (some (Condition.nonemptyAtMost 2))

theorem boundedTree_expresses : boundedTree.Expresses boundedSketch :=
  .block _ _ _
    (.cons (.concat .nil) <| .cons (.line _) <| .cons
      (.list _ _ (.cons (.line _) <| .cons (.list _ _ .nil rfl) .nil) ⟨_, rfl, fun _ => rfl⟩)
      .nil)
    ⟨_, rfl, fun _ => rfl⟩

/-- The children of a bounded block are counted without the empty ones, so it stays on a
line. -/
theorem build_toNode_bounded :
    boundedTree.Expresses boundedSketch ∧ boundedTree.isPlain = true ∧
      ∃ built : DocumentTree, (build "root" boundedTree.toNode).outcome [] = (.ok built, []) ∧
        built = boundedTree ∧ built.sketch = boundedSketch ∧
        built.sketch.settle = boundedSketch.settle ∧ built.count = boundedSketch.count ∧
        ∀ format : Format, built.sketch.settle.render format = boundedSketch.settle.render format :=
  ⟨boundedTree_expresses, by decide, build_toNode boundedTree_expresses (by decide) [] "root"⟩

end Node

end CodeLayout
