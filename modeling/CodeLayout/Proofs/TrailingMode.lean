import CodeLayout.Proofs.FragmentContext

/-!
# The trailing rule for lists of several lines

A list whose rule asks for a last separator when it took more than one line does in each
layout what a list with one of the two other rules does. Which one it is depends on how many
lines the list itself adds in this layout, wherever it stands: alone, inside blocks that go on
a single line, or joined to the line before it.

No count of lines sees the last separator: it is glued to a line. So the rule of a list changes
neither the lines that the list adds nor the way it is called, and what is around the list
goes on as before (`Fragment.emit_resolved`). The decisions stay as they are when no
condition reads the rule of a list (`IgnoresTrailing`).

Main statement: `Fragment.renderInto_resolved`.
-/

set_option autoImplicit false

namespace CodeLayout

namespace Fragment

/-! ## Fragments without their trailing rules -/

section Untrailed

variable {δ : Type}

mutual

/-- A fragment in which no list ends with its separator. -/
def untrailed : Fragment δ → Fragment δ
  | .line text => .line text
  | .block start body close connect inlining =>
    .block start (allUntrailed body) close connect inlining
  | .list separator body _ inlining => .list separator (allUntrailed body) .never inlining
  | .concat body => .concat (allUntrailed body)
  | .foreign kind => .foreign kind

/-- A body in which no list ends with its separator. -/
def allUntrailed : List (Fragment δ) → List (Fragment δ)
  | [] => []
  | first :: rest => untrailed first :: allUntrailed rest

end

theorem allUntrailed_eq_map (body : List (Fragment δ)) :
    allUntrailed body = body.map untrailed := by
  induction body with
  | nil => rfl
  | cons first rest ih => rw [allUntrailed, ih, List.map_cons]

theorem allUntrailed_append (first second : List (Fragment δ)) :
    allUntrailed (first ++ second) = allUntrailed first ++ allUntrailed second := by
  simp only [allUntrailed_eq_map, List.map_append]

mutual

/-- Whether a fragment is empty does not depend on trailing rules. -/
theorem isEmpty_untrailed : ∀ fragment : Fragment δ,
    fragment.untrailed.isEmpty = fragment.isEmpty
  | .line _ => rfl
  | .block _ _ _ _ _ => rfl
  | .list _ body _ _ => allEmpty_allUntrailed body
  | .concat body => allEmpty_allUntrailed body
  | .foreign _ => rfl

theorem allEmpty_allUntrailed : ∀ body : List (Fragment δ),
    allEmpty (allUntrailed body) = allEmpty body
  | [] => rfl
  | first :: rest => by
    rw [allUntrailed, allEmpty, isEmpty_untrailed first, allEmpty_allUntrailed rest, allEmpty]

end

theorem length_allUntrailed (body : List (Fragment δ)) :
    (allUntrailed body).length = body.length := by
  rw [allUntrailed_eq_map, List.length_map]

theorem children_untrailed (fragment : Fragment δ) :
    fragment.untrailed.children = allUntrailed fragment.children := by
  cases fragment <;> rfl

theorem nonempty_allUntrailed (body : List (Fragment δ)) :
    nonempty (allUntrailed body) = allUntrailed (nonempty body) := by
  simp only [allUntrailed_eq_map, nonempty_map isEmpty_untrailed]

end Untrailed

/-! ## Decisions without trailing rules -/

theorem decision_untrailed (node : Decided) : node.untrailed.decision = node.decision := by
  cases node <;> rfl

theorem soleDecision_allUntrailed (body : List Decided) :
    soleDecision (allUntrailed body) = soleDecision body := by
  rw [allUntrailed_eq_map, soleDecision_map decision_untrailed]

theorem soleDecision_of_untrailed {body other : List Decided}
    (same : allUntrailed other = allUntrailed body) : soleDecision other = soleDecision body := by
  rw [← soleDecision_allUntrailed, same, soleDecision_allUntrailed]

theorem nonempty_of_untrailed {body other : List Decided}
    (same : allUntrailed other = allUntrailed body) :
    allUntrailed (nonempty other) = allUntrailed (nonempty body) := by
  rw [← nonempty_allUntrailed, same, nonempty_allUntrailed]

theorem intrinsicDecision_untrailed (node : Decided) :
    node.untrailed.intrinsicDecision = node.intrinsicDecision := by
  cases node with
  | line text => rfl
  | block start body close connect inlining => exact soleDecision_allUntrailed body
  | list separator body trailing inlining =>
    rw [untrailed, intrinsicDecision, nonempty_allUntrailed, soleDecision_allUntrailed]
    rfl
  | concat body => rfl
  | foreign kind => rfl

/-- A condition decides about a node in one way, whatever the trailing rules of the lists in it
are. -/
def IgnoresTrailing (condition : Condition) : Prop :=
  ∀ node : Decided, condition node.untrailed = condition node

/-- No condition of a sketch reads a trailing rule. -/
def TrailingBlind (sketch : Sketch) : Prop :=
  ∀ condition, some condition ∈ sketch.inlinings → IgnoresTrailing condition

/-- Two nodes that differ in trailing rules only are decided alike. -/
theorem decisionUnder_untrailed {condition : Option Condition}
    (blind : ∀ asked, condition = some asked → IgnoresTrailing asked) {node other : Decided}
    (same : other.untrailed = node.untrailed) :
    decisionUnder condition other = decisionUnder condition node := by
  cases condition with
  | none =>
    rw [decisionUnder, decisionUnder, ← intrinsicDecision_untrailed, same,
      intrinsicDecision_untrailed]
  | some asked =>
    have ignores := blind asked rfl
    rw [decisionUnder, decisionUnder, ← ignores, same, ignores]

/-- The conditions of the modes look at no trailing rule. -/
theorem ignoresTrailing_mode {mode : InlineMode} {condition : Condition}
    (same : mode.condition = some condition) : IgnoresTrailing condition := by
  intro node
  cases mode with
  | auto => cases same
  | always => cases same; rfl
  | never => cases same; rfl
  | maxItems limit =>
    cases same
    rw [Condition.nonemptyAtMost, Condition.nonemptyAtMost, children_untrailed,
      nonempty_allUntrailed, length_allUntrailed]

/-- No tree of a document reads a trailing rule. -/
theorem trailingBlind_sketch (tree : DocumentTree) : TrailingBlind tree.sketch := by
  intro condition said
  obtain ⟨mode, same⟩ := exists_mode said
  exact ignoresTrailing_mode same

/-! ## Contexts of a list -/

theorem untrailed_fill {δ : Type} {child other : Fragment δ}
    (same : other.untrailed = child.untrailed) : ∀ context : Context δ,
      (context.fill other).untrailed = (context.fill child).untrailed
  | [] => same
  | layer :: inner => by
    have within := untrailed_fill same inner
    cases layer with
    | block start before after close connect inlining =>
      simp only [Context.fill, Layer.fill, untrailed, allUntrailed_append, allUntrailed, within]
    | list separator before after trailing inlining =>
      simp only [Context.fill, Layer.fill, untrailed, allUntrailed_append, allUntrailed, within]
    | concat before after =>
      simp only [Context.fill, Layer.fill, untrailed, allUntrailed_append, allUntrailed, within]

/-- The conditions of a layer do not read the trailing rules in its hole. -/
theorem settleLayer_untrailed (layer : Layer (Option Condition)) {sketch : Sketch}
    (blind : TrailingBlind (layer.fill sketch)) {child other : Decided}
    (same : other.untrailed = child.untrailed) : layer.settle other = layer.settle child := by
  have bodies : ∀ before after : List Decided,
      allUntrailed (before ++ other :: after) = allUntrailed (before ++ child :: after) := by
    intro before after
    simp only [allUntrailed_append, allUntrailed, same]
  cases layer with
  | block start before after close connect condition =>
    have own : ∀ asked, condition = some asked → IgnoresTrailing asked := fun asked said =>
      blind asked (said ▸ List.mem_cons_self ..)
    have body := bodies (settleBody before) (settleBody after)
    have sole := soleDecision_of_untrailed body
    simp only [Layer.settle, sole]
    rw [decisionUnder_untrailed own]
    rw [untrailed, untrailed, body]
  | list separator before after trailing condition =>
    have own : ∀ asked, condition = some asked → IgnoresTrailing asked := fun asked said =>
      blind asked (said ▸ List.mem_cons_self ..)
    have body := bodies (settleBody before) (settleBody after)
    have sole := soleDecision_of_untrailed (nonempty_of_untrailed body)
    simp only [Layer.settle, sole]
    rw [decisionUnder_untrailed own]
    rw [untrailed, untrailed, body]
  | concat before after => rfl

theorem settle_untrailed {sketch : Sketch} {child other : Decided}
    (same : other.untrailed = child.untrailed) : ∀ context : Context (Option Condition),
      TrailingBlind (context.fill sketch) → context.settle other = context.settle child
  | [], _ => rfl
  | layer :: inner, blind => by
    have within := settle_untrailed same inner fun condition said =>
      blind condition (mem_inlinings_fill layer said)
    have filled := untrailed_fill same (Context.settle child inner)
    rw [Context.settle, Context.settle, within, settleLayer_untrailed layer blind filled]

/-- The answer of a list is the same with every trailing rule. -/
theorem settle_list {condition : Option Condition}
    (blind : ∀ asked, condition = some asked → IgnoresTrailing asked) (separator : String)
    (body : List Sketch) (rule : Trailing) :
    (Fragment.list separator body rule condition).settle =
      .list separator (settleBody body) rule
        (answer (.list separator body .ifMultiLine condition)) := by
  let undecided (rule : Trailing) : Decided :=
    .list separator (settleBody body) rule (soleDecision (nonempty (settleBody body)))
  have decided : decisionUnder condition (undecided rule) =
      decisionUnder condition (undecided .ifMultiLine) := decisionUnder_untrailed blind rfl
  rw [settle, decided]
  rfl

/-! ## A list with another rule -/

/-- The rule for several lines does what the rule does that fits the number of lines. -/
theorem applies_resolved (height grown : Nat) :
    (if 2 ≤ grown - height then Trailing.always else Trailing.never).applies (height + 1 < grown) =
      Trailing.ifMultiLine.applies (height + 1 < grown) := by
  by_cases several : 2 ≤ grown - height
  · have taller : height + 1 < grown := by omega
    rw [if_pos several, decide_eq_true taller]
    rfl
  · have short : ¬ height + 1 < grown := by omega
    rw [if_neg several, decide_eq_false short]
    rfl

section Rules

variable (unit : IndentUnit) (separator : String) (items : List Decided)

/-- What is around a list does not see its rule. -/
theorem alike_list (decision : Decision) (trailing other : Trailing) :
    Alike (.list separator items trailing decision) (.list separator items other decision) :=
  ⟨rfl, fun _ _ => rfl⟩

/-- A text that is glued or not adds no line. -/
theorem heightAfter_glued (height : Nat) (text : String) (wanted : Bool) :
    Edit.heightAfter height
      (if wanted then Emission.single (.glue text) else .nothing).edits = height := by
  cases wanted <;> rfl

/-- A list adds the lines of its items. -/
theorem heightAfter_items (inline : Bool) (trailing : Trailing) (call : Call) :
    Edit.heightAfter call.height
        (emitFor unit (.list separator items trailing (.ok inline)) call).edits =
      Edit.heightAfter call.height (emitItems unit separator inline items (.first call.connect)
        call.indent call.height).edits := by
  simp only [emitFor, emit, Emission.decide, Emission.andThen]
  cases (emitItems unit separator inline items (.first call.connect) call.indent
    call.height).failure with
  | some error => rfl
  | none => exact List.foldl_append.trans (heightAfter_glued _ separator _)

/-- The lines that a list adds do not depend on its rule. -/
theorem heightAfter_list (decision : Decision) (trailing other : Trailing) (call : Call) :
    Edit.heightAfter call.height
        (emitFor unit (.list separator items other decision) call).edits =
      Edit.heightAfter call.height
        (emitFor unit (.list separator items trailing decision) call).edits := by
  cases decision with
  | error error => rfl
  | ok inline => rw [heightAfter_items, heightAfter_items]

/-- **A list for which the number of lines decides is written like one for which nothing is left
to decide.** -/
theorem emit_resolved (decision : Decision) (call : Call) {added : Nat}
    (counted : Edit.heightAfter call.height
      (emitFor unit (.list separator items .ifMultiLine decision) call).edits -
        call.height = added) :
    emitFor unit (.list separator items (if 2 ≤ added then .always else .never) decision) call =
      emitFor unit (.list separator items .ifMultiLine decision) call := by
  cases decision with
  | error error => rfl
  | ok inline =>
    rw [heightAfter_items] at counted
    subst counted
    simp only [emitFor, emit, Emission.decide, Emission.andThen, applies_resolved]

/-- Wherever a list stands, the lines that it adds do not depend on its rule. -/
theorem pushed_list (decision : Decision) (context : Context Decision) (rule other : Trailing)
    (call : Call) :
    context.pushed unit (.list separator items other decision) call =
      context.pushed unit (.list separator items rule decision) call := by
  have alike := alike_list separator items decision rule other
  rw [Context.pushed, Context.pushed, alike.call?_eq unit context call]
  cases context.call? unit (.list separator items rule decision) call with
  | none => rfl
  | some own => simp only [heightAfter_list unit separator items decision rule other]

/-- Wherever a list stands for which the number of its lines decides, nothing is left to decide
when the number is known. -/
theorem emit_fill_resolved (decision : Decision) (context : Context Decision) (call : Call) :
    (context.fill (.list separator items
        (if 2 ≤ context.pushed unit (.list separator items .ifMultiLine decision) call then
          .always else .never) decision)).emitFor unit call =
      (context.fill (.list separator items .ifMultiLine decision)).emitFor unit call := by
  have passes := Context.passes unit (.list separator items .ifMultiLine decision) context call
  have alike := alike_list separator items decision .ifMultiLine
  rw [Context.pushed]
  cases called : context.call? unit (.list separator items .ifMultiLine decision) call with
  | none =>
    rw [called] at passes
    exact passes _ (alike _)
  | some own =>
    rw [called] at passes
    obtain ⟨prior, rest, -, wraps⟩ := passes
    have resolved := emit_resolved unit separator items decision own rfl
    simp only [wraps _ (alike _), resolved]

end Rules

/-- **The rule for lists of several lines is always one of the two others.** Let a list with this
rule stand anywhere in a sketch whose conditions read no trailing rules. Where it adds at least
two lines of its own in a layout of the sketch, it may as well always end with its separator, and
otherwise never: the layout leaves the same buffer and ends in the same way. And with every rule
the list adds the same number of lines. -/
theorem renderInto_resolved (context : Context (Option Condition)) (separator : String)
    (body : List Sketch) (condition : Option Condition)
    (blind : TrailingBlind (context.fill (.list separator body .ifMultiLine condition)))
    (format : Format) (buffer : Buffer) (connect : Bool) (indent : String) :
    let occurrence (rule : Trailing) : Sketch := .list separator body rule condition
    let whole (rule : Trailing) : Sketch := context.fill (occurrence rule)
    let call : Call := { connect, indent, height := buffer.length }
    let pushed (rule : Trailing) : Nat :=
      (context.settle (occurrence rule).settle).pushed format.unit (occurrence rule).settle call
    (whole (if 2 ≤ pushed .ifMultiLine then .always else .never)).settle.renderInto format buffer
          connect indent =
        (whole .ifMultiLine).settle.renderInto format buffer connect indent ∧
      ∀ rule other : Trailing, pushed rule = pushed other := by
  intro occurrence whole call pushed
  have own : ∀ asked, condition = some asked → IgnoresTrailing asked := fun asked said =>
    blind asked (Context.mem_inlinings_fill (said ▸ List.mem_cons_self ..) context)
  -- With every rule the decisions in the list and around it are the same.
  have settled : ∀ rule : Trailing, (occurrence rule).settle =
      .list separator (settleBody body) rule (answer (occurrence .ifMultiLine)) :=
    settle_list own separator body
  have around : ∀ rule : Trailing, context.settle (occurrence rule).settle =
      context.settle (occurrence .ifMultiLine).settle := by
    intro rule
    refine settle_untrailed ?_ context blind
    rw [settled, settled, untrailed, untrailed]
  have counted : ∀ rule : Trailing, pushed rule = pushed .ifMultiLine := by
    intro rule
    have lines := pushed_list format.unit separator (settleBody body)
      (answer (occurrence .ifMultiLine)) (context.settle (occurrence .ifMultiLine).settle)
      .ifMultiLine rule call
    rw [← settled rule, ← settled .ifMultiLine] at lines
    simp only [pushed]
    rw [around rule, lines]
  refine ⟨?_, fun rule other => (counted rule).trans (counted other).symm⟩
  have resolved := emit_fill_resolved format.unit separator (settleBody body)
    (answer (occurrence .ifMultiLine)) (context.settle (occurrence .ifMultiLine).settle) call
  rw [← settled .ifMultiLine, ← settled] at resolved
  refine renderInto_of_emitFor format buffer ?_
  rw [settle_fill, settle_fill, around]
  exact resolved

/-- A list that is the only child of a block on a single line. It adds two lines, so it ends with
its separator. -/
theorem renderInto_resolved_call :
    let tree (rule : Trailing) : DocumentTree :=
      .block "f(" [.list "," [.line "a", .line "b", .line "c"] rule .auto] ")" false (.maxItems 1)
    TrailingBlind (tree .ifMultiLine).sketch ∧
      (tree .always).sketch.settle.renderInto Format.tabs ["x ="] true "\t" =
        (tree .ifMultiLine).sketch.settle.renderInto Format.tabs ["x ="] true "\t" ∧
      (tree .ifMultiLine).sketch.settle.renderInto Format.tabs ["x ="] true "\t" =
        (["x = f( a,", "\tb,", "\tc, )"], none) := by
  intro tree
  have blind := trailingBlind_sketch (tree .ifMultiLine)
  obtain ⟨resolved, -⟩ := renderInto_resolved
    [.block "f(" [] [] ")" false (some (Condition.nonemptyAtMost 1))] ","
    [.line "a", .line "b", .line "c"] none blind Format.tabs ["x ="] true "\t"
  exact ⟨blind, resolved, by decide⟩

end Fragment

end CodeLayout
