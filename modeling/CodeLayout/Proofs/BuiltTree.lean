import CodeLayout.Proofs.DocumentFailure
import CodeLayout.Proofs.Script

/-!
# The trees of documents have a layout

The nodes of a document are lines, blocks, lists and concatenations, so the tree of a
document consists of the four kinds that have a layout (`Fragment.formed`). Every step of
the building of nodes gives such trees if it gives anything (`Node.Gives`).

A mode of inlining is a condition that always answers, or leaves the answer to what is
inside the node. So from the leaves to the root every decision of the tree is made, and the
tree is regular.

Main statement: `Document.regular_readFile`. A document that was read has a text under every
format (`Document.exists_render`).
-/

set_option autoImplicit false

namespace CodeLayout

/-! ## Decisions by modes -/

namespace Fragment

section Formed

variable {δ : Type}

mutual

/-- Whether a fragment consists of the four kinds that have a layout. -/
def formed : Fragment δ → Bool
  | .line _ => true
  | .block _ body _ _ _ => allFormed body
  | .list _ body _ _ => allFormed body
  | .concat body => allFormed body
  | .foreign _ => false

/-- Whether every fragment of a body consists of these kinds. -/
def allFormed : List (Fragment δ) → Bool
  | [] => true
  | first :: rest => formed first && allFormed rest

end

end Formed

theorem made_decision {node : Decided} (regular : node.regular = true) :
    node.decision.made = true := by
  cases node with
  | line text => rfl
  | block start body close connect inlining => exact (Bool.and_eq_true_iff.mp regular).1
  | list separator body trailing inlining => exact (Bool.and_eq_true_iff.mp regular).1
  | concat body => rfl
  | foreign kind => rfl

theorem made_soleDecision : ∀ {body : List Decided}, allRegular body = true →
    (soleDecision body).made = true
  | [], _ => rfl
  | [_], regular => made_decision (Bool.and_eq_true_iff.mp regular).1
  | _ :: _ :: _, _ => rfl

theorem allRegular_nonempty {body : List Decided} (regular : allRegular body = true) :
    allRegular (nonempty body) = true := by
  rw [allRegular_iff] at regular ⊢
  exact fun child inside => regular child (List.mem_filter.mp inside).1

/-- A mode decides where the node itself does. -/
theorem made_decisionUnder (mode : InlineMode) {node : Decided}
    (intrinsic : node.intrinsicDecision.made = true) :
    (decisionUnder mode.condition node).made = true := by
  cases mode with
  | auto => exact intrinsic
  | always => rfl
  | never => rfl
  | maxItems limit => rfl

mutual

/-- In a tree of a document every decision is made. -/
theorem regular_settle : ∀ tree : DocumentTree, tree.formed = true →
    (tree.map InlineMode.condition).settle.regular = true
  | .line _, _ => rfl
  | .block start body close connect mode, formed => by
    have inside := allRegular_settleBody body formed
    rw [map, settle, regular, inside, Bool.and_true]
    exact made_decisionUnder mode (made_soleDecision inside)
  | .list separator body trailing mode, formed => by
    have inside := allRegular_settleBody body formed
    rw [map, settle, regular, inside, Bool.and_true]
    exact made_decisionUnder mode (made_soleDecision (allRegular_nonempty inside))
  | .concat body, formed => allRegular_settleBody body formed
  | .foreign _, formed => by cases formed

theorem allRegular_settleBody : ∀ body : List DocumentTree, allFormed body = true →
    allRegular (settleBody (mapBody InlineMode.condition body)) = true
  | [], _ => rfl
  | first :: rest, formed => by
    rw [allFormed, Bool.and_eq_true] at formed
    rw [mapBody, settleBody, allRegular, regular_settle first formed.1,
      allRegular_settleBody rest formed.2]
    rfl

end

end Fragment

/-! ## What the building of nodes gives -/

namespace Node

/-- Whatever a step gives is good. -/
def Gives {α : Type} (good : α → Prop) (step : Build α) : Prop :=
  ∀ bindings result after, step.outcome bindings = (.ok result, after) → good result

section Steps

variable {α β : Type} {good : α → Prop} {fine : β → Prop}

theorem gives_return {result : α} (holds : good result) : Gives good (return result) := by
  intro bindings other after done
  cases done
  exact holds

theorem gives_throw (good : α → Prop) (failure : DocumentFailure) :
    Gives good (throw failure : Build α) := by
  intro bindings result after done
  cases done

theorem Gives.bind {step : Build α} (first : Gives good step) {next : α → Build β}
    (later : ∀ result, good result → Gives fine (next result)) : Gives fine (step >>= next) := by
  intro bindings result after done
  rw [outcome_bind] at done
  rcases outcome : step.outcome bindings with ⟨failure | middle, between⟩
  · rw [outcome] at done
    cases done
  · rw [outcome] at done
    exact later middle (first bindings middle between outcome) between result after done

/-- Nothing is asked of what the first step gives. -/
theorem Gives.after (step : Build α) {next : α → Build β}
    (later : ∀ result, Gives fine (next result)) : Gives fine (step >>= next) :=
  have anything : Gives (fun _ => True) step := fun _ _ _ _ => trivial
  anything.bind fun result _ => later result

end Steps

section Building

/-- The tree consists of the four kinds that have a layout. -/
def Formed (tree : DocumentTree) : Prop := tree.formed = true

/-- All the trees do. -/
def AllFormed (trees : List DocumentTree) : Prop := Fragment.allFormed trees = true

theorem gives_fillLine (path : String) (line : Except DocumentFailure String) :
    Gives Formed (fillLine path line) := by
  cases line with
  | error failure => exact gives_throw Formed failure
  | ok text => exact .after _ fun _ => gives_return rfl

theorem gives_buildScalar (path : String) (plain : Scalar) :
    Gives Formed (buildScalar path plain) := by
  rw [buildScalar.eq_def]
  split
  · exact gives_throw Formed _
  · exact gives_throw Formed _
  · split
    · exact gives_fillLine path _
    · exact gives_throw Formed _

theorem gives_buildLine (path : String) (value : Value) : Gives Formed (buildLine path value) := by
  rw [buildLine.eq_def]
  split
  · exact gives_return rfl
  · split
    · exact gives_fillLine path _
    · exact gives_throw Formed _

theorem gives_single {step : Build DocumentTree} (first : Gives Formed step) :
    Gives AllFormed (do return [← step]) :=
  first.bind fun tree formed => gives_return (by rw [AllFormed, Fragment.allFormed, formed]; rfl)

mutual

theorem gives_build (path : String) : ∀ value : Value, Gives Formed (build path value)
  | .list items => (gives_buildAll path 0 items).bind fun _ formed => gives_return formed
  | .map entries => gives_buildMapping path entries
  | .scalar plain => gives_buildScalar path plain
  | .tuple _ => gives_throw Formed _
  | .set _ => gives_throw Formed _
  | .knot _ inner => gives_build path (inner ())
  | .endless => gives_throw Formed _

theorem gives_buildMapping (path : String) : ∀ entries : List (Value × Value),
    Gives Formed (buildMapping path entries)
  | [] => gives_throw Formed _
  | [(key, value)] => by
    rw [buildMapping]
    split
    · next kind _ => exact gives_buildKind (entryPath path kind.name) kind value
    · exact gives_throw Formed _
  | _ :: _ :: _ => gives_throw Formed _

theorem gives_buildKind (path : String) (kind : NodeKind) : ∀ value : Value,
    Gives Formed (buildKind path kind value)
  | .map entries => by
    cases kind with
    | block =>
      rw [buildKind]
      split
      · exact gives_throw Formed _
      · exact (gives_buildEntry _ _ entries).bind fun _ formed =>
          .after _ fun _ => .after _ fun _ => gives_return formed
    | list =>
      rw [buildKind]
      split
      · exact gives_throw Formed _
      · exact (gives_buildEntry _ _ entries).bind fun _ formed =>
          .after _ fun _ => gives_return formed
    | line => exact gives_throw Formed _
    | concat => exact gives_throw Formed _
  | .list items => by
    cases kind with
    | concat => exact (gives_buildAll path 0 items).bind fun _ formed => gives_return formed
    | line => exact gives_throw Formed _
    | block => exact gives_throw Formed _
    | list => exact gives_throw Formed _
  | .knot _ inner => gives_buildKind path kind (inner ())
  | .scalar plain => by
    cases kind with
    | line => exact gives_buildLine path (.scalar plain)
    | concat =>
      rw [buildKind]
      · split
        · exact gives_return rfl
        · exact gives_throw Formed _
      all_goals exact nofun
    | block => exact gives_throw Formed _
    | list => exact gives_throw Formed _
  | .tuple items => by cases kind <;> exact gives_throw Formed _
  | .set members => by cases kind <;> exact gives_throw Formed _
  | .endless => by cases kind <;> exact gives_throw Formed _

theorem gives_buildEntry (path name : String) : ∀ entries : List (Value × Value),
    Gives AllFormed (buildEntry path name entries)
  | [] => gives_return rfl
  | (key, value) :: rest => by
    rw [buildEntry]
    split
    · exact gives_buildChildren path value
    · exact gives_buildEntry path name rest

theorem gives_buildChildren (path : String) : ∀ value : Value,
    Gives AllFormed (buildChildren path value)
  | .list items => gives_buildAll path 0 items
  | .map entries => gives_single (gives_buildMapping (elementPath path 0) entries)
  | .scalar plain => by
    by_cases null : plain = .null
    · rw [null]
      exact gives_return rfl
    · rw [buildChildren]
      · exact gives_single (gives_buildScalar _ plain)
      · exact null
  | .tuple _ => gives_throw AllFormed _
  | .set _ => gives_throw AllFormed _
  | .knot _ inner => gives_buildChildren path (inner ())
  | .endless => gives_throw AllFormed _

theorem gives_buildAll (path : String) (index : Nat) : ∀ items : List Value,
    Gives AllFormed (buildAll path index items)
  | [] => gives_return rfl
  | first :: rest =>
    (gives_build (elementPath path index) first).bind fun tree formed =>
      (gives_buildAll path (index + 1) rest).bind fun trees others =>
        gives_return (by rw [AllFormed, Fragment.allFormed, formed, others]; rfl)

end

end Building

end Node

/-! ## The trees of documents -/

namespace Document

theorem formed_ofValue {name : String} {value : Value} {document : Document}
    (read : ofValue name value = .ok document) : document.root.formed = true := by
  rw [ofValue] at read
  split at read
  · split at read
    · cases read
    · split at read
      · cases read
      · next entries _ =>
        split at read
        · cases read
        · next root after built =>
          cases read
          exact Node.gives_build rootPath entries.root _ root after built
  · cases read

theorem formed_readFile {files : Files} {work : Location} {path : FilePath} {document : Document}
    (read : readFile files work path = .ok document) : document.root.formed = true := by
  rw [readFile] at read
  split at read
  · cases read
  · cases read
  · split at read
    · cases read
    · rw [parse] at read
      split at read
      · cases read
      · cases read
      · exact formed_ofValue read

/-- **The tree of a document that was read is regular**: all its nodes have a layout, and
every mode in it decides. -/
theorem regular_readFile {files : Files} {work : Location} {path : FilePath} {document : Document}
    (read : readFile files work path = .ok document) :
    document.root.sketch.settle.regular = true :=
  Fragment.regular_settle document.root (formed_readFile read)

/-- A document that was read has a text under every format. -/
theorem exists_render {files : Files} {work : Location} {path : FilePath} {document : Document}
    (read : readFile files work path = .ok document) (format : Format) :
    ∃ text, document.root.sketch.settle.render format = .ok text := by
  have laid := Fragment.renderInto_of_regular format _ [] false "" (regular_readFile read)
  rw [Fragment.render, Fragment.renderLines, laid]
  exact ⟨_, rfl⟩

end Document

end CodeLayout
