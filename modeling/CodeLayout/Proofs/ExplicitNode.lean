import CodeLayout.Proofs.NodeOfTree

/-!
# Nodes in full

A node may be short. A text or a number stands for a line, a sequence for a concatenation,
nothing stands for no text, no children or no parts, and one child needs no sequence around
it. `Node.explicit` writes a node in full: every line and every concatenation is a mapping
with its kind, and all children stand in sequences. What is no node stays as it is.

Both forms are built by different steps and at different paths: the text of a short line is
at the path of the node, that of a line in full one step further. A path shows in failures
only. So what is compared is what a step gives if it does not fail, with the variables that
it leaves (`Node.Build.success?`), and in this the two forms agree at every place, from the
children of a node to the node.

Main statement: `Node.build_explicit`.
-/

set_option autoImplicit false

namespace CodeLayout

namespace Node

open Holder (described)

/-! ## Writing nodes in full -/

/-- The node of a value without parts in full: a text or a number is a line. -/
def explicitScalar (plain : Scalar) : Value :=
  match lineText? (.scalar plain) with
  | some _ => described .line (.scalar plain)
  | none => .scalar plain

mutual

/-- A node in full. -/
def explicit : Value → Value
  | .list items => described .concat (.list (allExplicit items))
  | .map entries => .map (explicitMapping entries)
  | .scalar plain => explicitScalar plain
  | .tuple items => .tuple items
  | .set members => .set members
  | .knot _ inner => explicit (inner ())
  | .endless => .endless

/-- The mapping of a node in full: its only key names the kind. -/
def explicitMapping : List (Value × Value) → List (Value × Value)
  | [(key, value)] =>
    match kindOf? key with
    | some kind => [(key, explicitDescription kind value)]
    | none => [(key, value)]
  | entries => entries

/-- The description of a node of a kind in full. -/
def explicitDescription (kind : NodeKind) : Value → Value
  | .map entries =>
    match kind with
    | .block => .map (explicitEntry BlockEntries.body entries)
    | .list => .map (explicitEntry ListEntries.items entries)
    | .line => .map entries
    | .concat => .map entries
  | .list items =>
    match kind with
    | .concat => .list (allExplicit items)
    | .line => .list items
    | .block => .list items
    | .list => .list items
  | .knot _ inner => explicitDescription kind (inner ())
  | .null =>
    match kind with
    | .line => .text ""
    | .concat => .list []
    | .block => .null
    | .list => .null
  | value => value

/-- Entries of which the one with a name holds the children in full. -/
def explicitEntry (name : String) : List (Value × Value) → List (Value × Value)
  | [] => []
  | (key, value) :: rest =>
    if key.text? = some name then (key, .list (explicitChildren value)) :: rest
    else (key, value) :: explicitEntry name rest

/-- The children that a value describes, in full. Nothing is no child, and what is no
sequence is one child. -/
def explicitChildren : Value → List Value
  | .null => []
  | .list items => allExplicit items
  | .map entries => [.map (explicitMapping entries)]
  | .scalar plain => [explicitScalar plain]
  | .tuple items => [.tuple items]
  | .set members => [.set members]
  | .knot _ inner => explicitChildren (inner ())
  | .endless => [.endless]

/-- The nodes of a sequence in full. -/
def allExplicit : List Value → List Value
  | [] => []
  | first :: rest => explicit first :: allExplicit rest

end

/-! ## What a step gives -/

/-- What a step of building gives if it does not fail, and the variables after it. -/
def Build.success? {α : Type} (step : Build α) (bindings : Variables) : Option (α × Variables) :=
  match step.outcome bindings with
  | (.ok result, after) => some (result, after)
  | (.error _, _) => none

section Steps

variable {α β : Type}

theorem success?_eq_some {step : Build α} {bindings : Variables} {result : α}
    {after : Variables} :
    step.success? bindings = some (result, after) ↔
      step.outcome bindings = (.ok result, after) := by
  rw [Build.success?]
  rcases step.outcome bindings with ⟨failure | given, later⟩
  · constructor <;> rintro ⟨⟩
  · constructor
    · intro same
      cases same
      rfl
    · intro same
      cases same
      rfl

theorem success?_bind (step : Build α) (next : α → Build β) :
    (step >>= next : Build β).success? = fun bindings =>
      (step.success? bindings).bind fun given => (next given.1).success? given.2 := by
  funext bindings
  rw [Build.success?, Build.success?, outcome_bind]
  rcases step.outcome bindings with ⟨failure | result, after⟩ <;> rfl

/-- Steps that give the same go on to the same. -/
theorem success?_bind_congr {step other : Build α} {next later : α → Build β}
    (same : step.success? = other.success?)
    (onward : ∀ result, (next result).success? = (later result).success?) :
    (step >>= next : Build β).success? = (other >>= later : Build β).success? := by
  rw [success?_bind, success?_bind, same]
  funext bindings
  congr 1
  funext given
  rw [onward]

/-- The path of a text does not matter to what it is filled in to. -/
theorem success?_fillText (text path other : String) :
    (fillText text path).success? = (fillText text other).success? := by
  refine success?_bind_congr rfl fun bindings => success?_bind_congr rfl fun _ => ?_
  cases (Template.fill bindings text).result with
  | ok filled => rfl
  | error fault => rfl

theorem success?_fillLine (line : Except DocumentFailure String) (path other : String) :
    (fillLine path line).success? = (fillLine other line).success? := by
  cases line with
  | ok text => exact success?_bind_congr (success?_fillText text path other) fun _ => rfl
  | error failure => rfl

end Steps

/-! ## Values without parts -/

section Scalars

variable {plain : Scalar} {line : Except DocumentFailure String}

theorem buildScalar_of_lineText (taken : lineText? (.scalar plain) = some line) (path : String) :
    buildScalar path plain = fillLine path line := by
  cases plain with
  | text _ | int _ | float _ => simp only [buildScalar, taken]
  | null | bool _ | date _ | moment _ | bytes _ => cases taken

theorem buildLine_of_lineText (taken : lineText? (.scalar plain) = some line) (path : String) :
    buildLine path (.scalar plain) = fillLine path line := by
  cases plain with
  | text _ | int _ | float _ => simp only [buildLine, taken]
  | null | bool _ | date _ | moment _ | bytes _ => cases taken

/-- What has no text of a line is no node. -/
theorem success?_buildScalar_of_none (untaken : lineText? (.scalar plain) = none)
    (path : String) : (buildScalar path plain).success? = fun _ => none := by
  cases plain with
  | text _ | int _ | float _ => cases untaken
  | null | bool _ | date _ | moment _ | bytes _ => rfl

/-- A node with a kind is built from its description. -/
theorem build_described (path : String) (kind : NodeKind) (description : Value) :
    build path (described kind description) =
      buildKind (entryPath path kind.name) kind description := by
  have named : kindOf? (.text kind.name) = some kind := by cases kind <;> decide
  rw [described, build, buildMapping, named]

/-- A description of a line that has no parts. -/
theorem buildKind_line (path : String) (plain : Scalar) :
    buildKind path .line (.scalar plain) = buildLine path (.scalar plain) := by
  rw [buildKind]
  · rintro entries ⟨⟩
  · rintro items ⟨⟩
  · rintro label inner ⟨⟩

theorem success?_build_explicitScalar (plain : Scalar) (path other : String) :
    (build other (explicitScalar plain)).success? = (buildScalar path plain).success? := by
  rw [explicitScalar]
  cases taken : lineText? (.scalar plain) with
  | none =>
    have scalar : build other (.scalar plain) = buildScalar other plain := by rw [build]
    simp only
    rw [scalar, success?_buildScalar_of_none taken, success?_buildScalar_of_none taken]
  | some line =>
    simp only
    rw [build_described, buildKind_line, buildLine_of_lineText taken,
      buildScalar_of_lineText taken]
    exact success?_fillLine line _ path

/-- A description without parts in full. -/
theorem success?_buildKind_explicitScalar (kind : NodeKind) (plain : Scalar)
    (path other : String) :
    (buildKind other kind (explicitDescription kind (.scalar plain))).success? =
      (buildKind path kind (.scalar plain)).success? := by
  cases kind with
  | line =>
    cases taken : lineText? (.scalar plain) with
    | some line =>
      have same : explicitDescription .line (.scalar plain) = .scalar plain := by
        cases plain with
        | null => cases taken
        | bool _ | int _ | float _ | text _ | date _ | moment _ | bytes _ =>
          rw [explicitDescription]
          · rintro entries ⟨⟩
          · rintro items ⟨⟩
          · rintro label inner ⟨⟩
          · rintro ⟨⟩
      rw [same, buildKind_line, buildKind_line, buildLine_of_lineText taken,
        buildLine_of_lineText taken]
      exact success?_fillLine line other path
    | none =>
      cases plain with
      | text _ | int _ | float _ => cases taken
      | null | bool _ | date _ | moment _ | bytes _ => rfl
  | concat => cases plain <;> rfl
  | block => cases plain <;> rfl
  | list => cases plain <;> rfl

end Scalars

/-! ## Entries -/

/-- The entry for the children in full, if there is one, stands at the same place. -/
theorem explicitEntry_cases (name : String) (entries : List (Value × Value)) :
    explicitEntry name entries = entries ∨
      ∃ before after value, entries = before ++ (.text name, value) :: after ∧
        explicitEntry name entries =
          before ++ (.text name, .list (explicitChildren value)) :: after := by
  induction entries with
  | nil => exact .inl (by rw [explicitEntry])
  | cons entry rest ih =>
    obtain ⟨key, value⟩ := entry
    rw [explicitEntry]
    split
    · next named =>
      have text : key = .text name := Value.eq_text_of_text? named
      exact .inr ⟨[], rest, value, by rw [text]; rfl, by rw [text]; rfl⟩
    · obtain same | ⟨before, after, inner, split, full⟩ := ih
      · exact .inl (by rw [same])
      · exact .inr ⟨(key, value) :: before, after, inner, by rw [split]; rfl, by rw [full]; rfl⟩

/-- In full a description says the same besides the children, or fits as little. -/
theorem read_explicitEntry {ε : Type} {name : String}
    {read : List (Value × Value) → Except Problem ε}
    (replaced : ∀ (before after : List (Value × Value)) (first second : Value) {said : ε},
      read (before ++ (.text name, first) :: after) = .ok said →
        read (before ++ (.text name, second) :: after) = .ok said)
    (entries : List (Value × Value)) :
    (∃ said, read (explicitEntry name entries) = .ok said ∧ read entries = .ok said) ∨
      ∃ problem other, read (explicitEntry name entries) = .error problem ∧
        read entries = .error other := by
  obtain same | ⟨before, after, value, split, full⟩ := explicitEntry_cases name entries
  · rw [same]
    cases read entries with
    | ok said => exact .inl ⟨said, rfl, rfl⟩
    | error problem => exact .inr ⟨problem, problem, rfl, rfl⟩
  · rw [full, split]
    cases short : read (before ++ (.text name, value) :: after) with
    | ok said => exact .inl ⟨said, replaced _ _ _ _ short, rfl⟩
    | error other =>
      cases long : read (before ++ (.text name, .list (explicitChildren value)) :: after) with
      | error problem => exact .inr ⟨problem, other, rfl, rfl⟩
      | ok said =>
        rw [replaced _ _ _ _ long] at short
        cases short

/-! ## Building nodes in full -/

mutual

/-- A node in full gives what the short one gives, at whatever path each of them is. -/
theorem success?_build_explicit : ∀ (node : Value) (path other : String),
    (build other (explicit node)).success? = (build path node).success?
  | .list items, path, other => by
    rw [explicit, build_described, buildKind, build]
    exact success?_bind_congr (success?_buildAll_allExplicit items path _ 0 0) fun _ => rfl
  | .map entries, path, other => by
    rw [explicit, build, build]
    exact success?_buildMapping_explicitMapping entries path other
  | .scalar plain, path, other => by
    rw [explicit, build, success?_build_explicitScalar plain path other]
  | .tuple _, _, _ => by
    rw [explicit, build, build]
    rfl
  | .set _, _, _ => by
    rw [explicit, build, build]
    rfl
  | .knot _ inner, path, other => by
    rw [explicit, build]
    exact success?_build_explicit (inner ()) path other
  | .endless, _, _ => by
    rw [explicit, build, build]

theorem success?_buildMapping_explicitMapping : ∀ (entries : List (Value × Value))
    (path other : String),
    (buildMapping other (explicitMapping entries)).success? = (buildMapping path entries).success?
  | [], _, _ => rfl
  | [(key, value)], path, other => by
    rw [explicitMapping, buildMapping]
    cases named : kindOf? key with
    | none =>
      simp only
      rw [buildMapping, named]
      rfl
    | some kind =>
      simp only
      rw [buildMapping, named]
      exact success?_buildKind_explicitDescription kind value _ _
  | _ :: _ :: _, _, _ => rfl

theorem success?_buildKind_explicitDescription (kind : NodeKind) : ∀ (value : Value)
    (path other : String),
    (buildKind other kind (explicitDescription kind value)).success? =
      (buildKind path kind value).success?
  | .map entries, path, other => by
    cases kind with
    | block =>
      rw [explicitDescription, buildKind, buildKind]
      obtain ⟨block, full, short⟩ | ⟨problem, other, full, short⟩ :=
        read_explicitEntry BlockEntries.read_replaced entries
      · rw [full, short]
        refine success?_bind_congr (success?_buildEntry_explicitEntry _ entries _ _) fun body => ?_
        refine success?_bind_congr (success?_fillText _ _ _) fun start => ?_
        exact success?_bind_congr (success?_fillText _ _ _) fun close => rfl
      · rw [full, short]
        rfl
    | list =>
      rw [explicitDescription, buildKind, buildKind]
      obtain ⟨list, full, short⟩ | ⟨problem, other, full, short⟩ :=
        read_explicitEntry ListEntries.read_replaced entries
      · rw [full, short]
        refine success?_bind_congr (success?_buildEntry_explicitEntry _ entries _ _) fun items => ?_
        exact success?_bind_congr (success?_fillText _ _ _) fun separator => rfl
      · rw [full, short]
        rfl
    | line => rfl
    | concat => rfl
  | .list items, path, other => by
    cases kind with
    | concat =>
      rw [explicitDescription, buildKind, buildKind]
      exact success?_bind_congr (success?_buildAll_allExplicit items path other 0 0) fun _ => rfl
    | line => rfl
    | block => rfl
    | list => rfl
  | .knot _ inner, path, other => by
    rw [explicitDescription, buildKind]
    exact success?_buildKind_explicitDescription kind (inner ()) path other
  | .scalar plain, path, other => success?_buildKind_explicitScalar kind plain path other
  | .tuple items, path, other => by cases kind <;> rfl
  | .set members, path, other => by cases kind <;> rfl
  | .endless, path, other => by cases kind <;> rfl

theorem success?_buildEntry_explicitEntry (name : String) : ∀ (entries : List (Value × Value))
    (path other : String),
    (buildEntry other name (explicitEntry name entries)).success? =
      (buildEntry path name entries).success?
  | [], _, _ => rfl
  | (key, value) :: rest, path, other => by
    rw [explicitEntry, buildEntry]
    split
    · next named =>
      rw [buildEntry, if_pos named, buildChildren]
      exact success?_buildAll_explicitChildren value path other
    · next differs =>
      rw [buildEntry, if_neg differs]
      exact success?_buildEntry_explicitEntry name rest path other

theorem success?_buildAll_explicitChildren : ∀ (value : Value) (path other : String),
    (buildAll other 0 (explicitChildren value)).success? = (buildChildren path value).success?
  | .list items, path, other => by
    rw [explicitChildren, buildChildren]
    exact success?_buildAll_allExplicit items path other 0 0
  | .map entries, path, other => by
    rw [explicitChildren, buildChildren, buildAll, build]
    exact success?_bind_congr (success?_buildMapping_explicitMapping entries _ _) fun _ => rfl
  | .scalar plain, path, other => by
    by_cases nothing : plain = .null
    · rw [nothing]
      rfl
    · rw [explicitChildren, buildChildren, buildAll]
      · exact success?_bind_congr (success?_build_explicitScalar plain _ _) fun _ => rfl
      · exact nothing
      · exact nothing
  | .tuple _, _, _ => rfl
  | .set _, _, _ => rfl
  | .knot _ inner, path, other => by
    rw [explicitChildren, buildChildren]
    exact success?_buildAll_explicitChildren (inner ()) path other
  | .endless, _, _ => rfl

theorem success?_buildAll_allExplicit : ∀ (items : List Value) (path other : String)
    (index place : Nat),
    (buildAll other place (allExplicit items)).success? = (buildAll path index items).success?
  | [], _, _, _, _ => rfl
  | first :: rest, path, other, index, place => by
    rw [allExplicit, buildAll, buildAll]
    refine success?_bind_congr (success?_build_explicit first _ _) fun node => ?_
    exact success?_bind_congr
      (success?_buildAll_allExplicit rest path other (index + 1) (place + 1)) fun _ => rfl

end

mutual

/-- The node that says everything about a tree is in full. -/
theorem explicit_toNode : ∀ tree : DocumentTree, explicit tree.toNode = tree.toNode
  | .line _ => rfl
  | .block start body close connect inline => by
    have children := allExplicit_toNodes body
    have kind : kindOf? (.text "block") = some .block := by decide
    simp [Fragment.toNode, explicit, explicitMapping, kind, explicitDescription, explicitEntry,
      Value.text?, BlockEntries.body, explicitChildren, children]
  | .list separator body trailing inline => by
    have children := allExplicit_toNodes body
    have kind : kindOf? (.text "list") = some .list := by decide
    simp [Fragment.toNode, explicit, explicitMapping, kind, explicitDescription, explicitEntry,
      Value.text?, ListEntries.items, explicitChildren, children]
  | .concat body => by
    have children := allExplicit_toNodes body
    have kind : kindOf? (.text "concat") = some .concat := by decide
    simp [Fragment.toNode, explicit, explicitMapping, kind, explicitDescription, children]
  | .foreign _ => rfl

theorem allExplicit_toNodes : ∀ body : List DocumentTree,
    allExplicit (Fragment.toNodes body) = Fragment.toNodes body
  | [] => rfl
  | first :: rest => by
    rw [Fragment.toNodes, allExplicit, explicit_toNode first, allExplicit_toNodes rest]

end

/-- **A short node and the same node in full mean the same.** One of them can be built
exactly when the other one can, with any variables and at any path, and they are built into
the same tree, of which every node is decided in the same way. -/
theorem build_explicit (path : String) (node : Value) (bindings : Variables) :
    ((∃ tree after, (build path node).outcome bindings = (.ok tree, after)) ↔
      ∃ tree after, (build path (explicit node)).outcome bindings = (.ok tree, after)) ∧
    ∀ tree after full later, (build path node).outcome bindings = (.ok tree, after) →
      (build path (explicit node)).outcome bindings = (.ok full, later) →
        full = tree ∧ later = after ∧ full.sketch.settle = tree.sketch.settle := by
  have same := success?_build_explicit node path path
  have agree : ∀ tree after, (build path node).outcome bindings = (.ok tree, after) ↔
      (build path (explicit node)).outcome bindings = (.ok tree, after) := by
    intro tree after
    rw [← success?_eq_some, ← success?_eq_some, same]
  refine ⟨exists_congr fun tree => exists_congr fun after => agree tree after, ?_⟩
  intro tree after full later short long
  rw [(agree tree after).mp short] at long
  cases long
  exact ⟨rfl, rfl, rfl⟩

/-- A block with short nodes of every kind. -/
def shortNode : Value :=
  .map [(.text "block", .map [(.text "start", .text "f("),
    (.text "body", .list [.text "a", .list [.text "b", .map [(.text "concat", .null)]],
      .map [(.text "line", .null)],
      .map [(.text "list", .map [(.text "separator", .text ","), (.text "items", .text "x"),
        (.text "inline", .text "always")])],
      .map [(.text "block", .map [(.text "start", .text "g("), (.text "body", .null),
        (.text "end", .text ")")])]]),
    (.text "end", .text ")")])]

/-- The tree that it is built into. -/
def shortNodeTree : DocumentTree :=
  .block "f(" [.line "a", .concat [.line "b", .concat []], .line "",
    .list "," [.line "x"] .ifMultiLine .always, .block "g(" [] ")" false .auto] ")" false .auto

theorem build_explicit_short :
    (build "root" shortNode).outcome [] = (.ok shortNodeTree, []) ∧
      ∃ full later, (build "root" (explicit shortNode)).outcome [] = (.ok full, later) ∧
        full = shortNodeTree ∧ later = [] ∧
          full.sketch.settle = shortNodeTree.sketch.settle := by
  have short : (build "root" shortNode).outcome [] = (.ok shortNodeTree, []) := rfl
  obtain ⟨both, agree⟩ := build_explicit "root" shortNode []
  obtain ⟨full, later, long⟩ := both.mp ⟨_, _, short⟩
  exact ⟨short, full, later, long, agree _ _ full later short long⟩

end Node

end CodeLayout
