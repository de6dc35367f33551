import CodeLayout.Proofs.InlineChain
import CodeLayout.Proofs.LastLine

/-!
# Where a layout stops

A layout takes the nodes of a fragment from left to right. Two things can stop it: a node that
has no layout, and a block or a list whose decision was not made. These are the obstacles of
the fragment, and a layout stops at the first of them, whatever the buffer, the format and the
wish to connect are (`Fragment.failure_emit`).

A list leaves its empty items out and meets no obstacle in them. No node without a layout is
passed over in this way, because a fragment with such a node in it is not empty
(`Fragment.foreignErrors_of_isEmpty`). So when all decisions are made, the obstacles are the
nodes without a layout, each of them, in the order of the nodes
(`Fragment.obstacles_of_made`).

Main statement: `Fragment.renderInto_stops_iff`.
-/

set_option autoImplicit false

namespace CodeLayout

/-! ## Obstacles -/

/-- What stops a layout that needs a decision: that it was not made. -/
def Decision.obstacles : Decision → List LayoutError
  | .ok _ => []
  | .error error => [.undecided error]

theorem Decision.obstacles_of_made {decision : Decision} (made : decision.made = true) :
    decision.obstacles = [] := by
  obtain ⟨answer, rfl⟩ := exists_of_made made
  rfl

namespace Fragment

mutual

/-- What can stop a layout of a fragment, in the order in which it is met. -/
def obstacles : Decided → List LayoutError
  | .line _ => []
  | .block _ body _ _ inlining => inlining.obstacles ++ bodyObstacles body
  | .list _ body _ inlining => inlining.obstacles ++ itemObstacles body
  | .concat body => bodyObstacles body
  | .foreign kind => [.foreign kind]

/-- What can stop a layout of the children of a block or a concatenation. -/
def bodyObstacles : List Decided → List LayoutError
  | [] => []
  | first :: rest => obstacles first ++ bodyObstacles rest

/-- What can stop a layout of the items of a list. Empty items are left out. -/
def itemObstacles : List Decided → List LayoutError
  | [] => []
  | item :: rest =>
    if item.isEmpty then itemObstacles rest else obstacles item ++ itemObstacles rest

end

/-- Where it is not decided whether an item joins, the item would stop the layout itself. -/
theorem head?_obstacles_of_error {place : ItemPlace} {inlining : Bool} {item : Decided}
    {error : ConditionError} (undecided : place.decision inlining item = .error error) :
    item.obstacles.head? = some (.undecided error) := by
  cases place with
  | first connect => cases undecided
  | after tall =>
    cases inlining with
    | true => cases undecided
    | false =>
      cases tall with
      | false => cases undecided
      | true =>
        -- The layout asks only blocks whether they inline.
        cases item with
        | block start body close connect decision =>
          cases decision with
          | ok answer => cases undecided
          | error reason =>
            cases undecided
            rfl
        | line text => cases undecided
        | list separator body trailing decision => cases undecided
        | concat body => cases undecided
        | foreign kind => cases undecided

mutual

/-- **A layout stops at the first obstacle, and nowhere else.** -/
theorem failure_emit (unit : IndentUnit) : ∀ (fragment : Decided) (connect : Bool)
    (indent : String) (height : Nat),
      (fragment.emit unit connect indent height).failure = fragment.obstacles.head?
  | .line _, connect, indent, height => rfl
  | .block _ _ _ _ (.error _), connect, indent, height => rfl
  | .block start body close connects (.ok inline), connect, indent, height => by
    simp only [emit, Emission.single, Emission.decide, Emission.failure_andThen,
      Option.none_or, Option.or_none, failure_emitAll unit body]
    rfl
  | .list _ _ _ (.error _), connect, indent, height => rfl
  | .list separator body trailing (.ok inline), connect, indent, height => by
    have ends : ∀ wanted : Bool, (if wanted then Emission.single (.glue separator)
        else .nothing).failure = none := by
      intro wanted
      cases wanted with
      | true => rfl
      | false => rfl
    simp only [emit, Emission.decide, Emission.failure_andThen, ends, Option.or_none,
      failure_emitItems unit separator inline body]
    rfl
  | .concat body, connect, indent, height => failure_emitSequence unit body connect indent height
  | .foreign _, connect, indent, height => rfl

theorem failure_emitAll (unit : IndentUnit) : ∀ (body : List Decided) (connect : Bool)
    (indent : String) (height : Nat),
      (emitAll unit body connect indent height).failure = (bodyObstacles body).head?
  | [], connect, indent, height => rfl
  | first :: rest, connect, indent, height => by
    rw [emitAll, Emission.failure_andThen, failure_emit unit first, failure_emitAll unit rest,
      bodyObstacles, List.head?_append]

theorem failure_emitSequence (unit : IndentUnit) : ∀ (body : List Decided) (connect : Bool)
    (indent : String) (height : Nat),
      (emitSequence unit body connect indent height).failure = (bodyObstacles body).head?
  | [], connect, indent, height => rfl
  | first :: rest, connect, indent, height => by
    rw [emitSequence, Emission.failure_andThen, failure_emit unit first,
      failure_emitSequence unit rest, bodyObstacles, List.head?_append]

theorem failure_emitItems (unit : IndentUnit) (separator : String) (inlining : Bool) :
    ∀ (body : List Decided) (place : ItemPlace) (indent : String) (height : Nat),
      (emitItems unit separator inlining body place indent height).failure =
        (itemObstacles body).head?
  | [], place, indent, height => rfl
  | item :: rest, place, indent, height => by
    cases empty : item.isEmpty with
    | true =>
      simp only [emitItems, itemObstacles, empty, if_true]
      exact failure_emitItems unit separator inlining rest place indent height
    | false =>
      rw [emitItems_cons unit separator inlining rest place indent height empty,
        Emission.failure_andThen, Emission.written, Option.none_or, itemObstacles, empty,
        if_neg Bool.false_ne_true, List.head?_append]
      cases decided : place.decision inlining item with
      | ok join =>
        rw [Emission.decide, Emission.failure_andThen, failure_emit unit item,
          failure_emitItems unit separator inlining rest]
      | error error =>
        rw [head?_obstacles_of_error decided]
        rfl

end

/-! ## Nodes without a layout -/

section Foreign

variable {δ : Type}

/-- Why a node has no layout, if it is of a kind that has none. -/
def foreign? : Fragment δ → Option LayoutError
  | .line _ => none
  | .block _ _ _ _ _ => none
  | .list _ _ _ _ => none
  | .concat _ => none
  | .foreign kind => some (.foreign kind)

theorem foreign?_eq_some {node : Fragment δ} {error : LayoutError}
    (foreign : node.foreign? = some error) :
    ∃ kind, node = .foreign kind ∧ error = .foreign kind := by
  cases node with
  | line text => cases foreign
  | block start body close connect inlining => cases foreign
  | list separator body trailing inlining => cases foreign
  | concat body => cases foreign
  | foreign kind =>
    cases foreign
    exact ⟨kind, rfl, rfl⟩

/-- What the nodes without a layout stop a layout with, in the order of the nodes. -/
def foreignErrors (fragment : Fragment δ) : List LayoutError := fragment.nodes.filterMap foreign?

/-- The same for the nodes of a body. -/
def bodyForeignErrors (body : List (Fragment δ)) : List LayoutError :=
  (bodyNodes body).filterMap foreign?

theorem bodyForeignErrors_cons (first : Fragment δ) (rest : List (Fragment δ)) :
    bodyForeignErrors (first :: rest) = first.foreignErrors ++ bodyForeignErrors rest :=
  List.filterMap_append

mutual

/-- **In an empty fragment every node has a layout.** -/
theorem foreignErrors_of_isEmpty : ∀ fragment : Fragment δ, fragment.isEmpty = true →
    fragment.foreignErrors = []
  | .line _, empty => by cases empty
  | .block _ _ _ _ _, empty => by cases empty
  | .list _ body _ _, empty => bodyForeignErrors_of_allEmpty body empty
  | .concat body, empty => bodyForeignErrors_of_allEmpty body empty
  | .foreign _, empty => by cases empty

theorem bodyForeignErrors_of_allEmpty : ∀ body : List (Fragment δ), allEmpty body = true →
    bodyForeignErrors body = []
  | [], _ => rfl
  | first :: rest, empty => by
    rw [allEmpty, Bool.and_eq_true] at empty
    rw [bodyForeignErrors_cons, foreignErrors_of_isEmpty first empty.1,
      bodyForeignErrors_of_allEmpty rest empty.2, List.append_nil]

end

end Foreign

mutual

/-- **When all decisions are made, only nodes without a layout stop a layout, and each of them
would.** -/
theorem obstacles_of_made : ∀ fragment : Decided,
    (∀ node ∈ fragment.nodes, node.decision.made = true) →
      fragment.obstacles = fragment.foreignErrors
  | .line _, _ => rfl
  | .block _ body _ _ inlining, made => by
    have own : inlining.made = true := made _ (List.mem_cons_self ..)
    rw [obstacles, Decision.obstacles_of_made own, List.nil_append,
      bodyObstacles_of_made body fun node inside => made node (List.mem_cons_of_mem _ inside)]
    rfl
  | .list _ body _ inlining, made => by
    have own : inlining.made = true := made _ (List.mem_cons_self ..)
    rw [obstacles, Decision.obstacles_of_made own, List.nil_append,
      itemObstacles_of_made body fun node inside => made node (List.mem_cons_of_mem _ inside)]
    rfl
  | .concat body, made =>
    bodyObstacles_of_made body fun node inside => made node (List.mem_cons_of_mem _ inside)
  | .foreign _, _ => rfl

theorem bodyObstacles_of_made : ∀ body : List Decided,
    (∀ node ∈ bodyNodes body, node.decision.made = true) →
      bodyObstacles body = bodyForeignErrors body
  | [], _ => rfl
  | first :: rest, made => by
    rw [bodyObstacles, bodyForeignErrors_cons,
      obstacles_of_made first fun node inside => made node (List.mem_append_left _ inside),
      bodyObstacles_of_made rest fun node inside => made node (List.mem_append_right _ inside)]

/-- The items that a list leaves out have no nodes without a layout. -/
theorem itemObstacles_of_made : ∀ body : List Decided,
    (∀ node ∈ bodyNodes body, node.decision.made = true) →
      itemObstacles body = bodyForeignErrors body
  | [], _ => rfl
  | item :: rest, made => by
    rw [itemObstacles, bodyForeignErrors_cons,
      itemObstacles_of_made rest fun node inside => made node (List.mem_append_right _ inside)]
    split
    · next empty => rw [foreignErrors_of_isEmpty item empty, List.nil_append]
    · rw [obstacles_of_made item fun node inside => made node (List.mem_append_left _ inside)]

end

end Fragment

/-! ## What is in the buffer -/

/-- Edits leave all visible text of a buffer in front. -/
theorem Edit.visible_isPrefix_applyAll (edits : List Edit) : ∀ buffer : Buffer,
    visible (String.join buffer) <+: visible (String.join (applyAll buffer edits)) := by
  induction edits with
  | nil => intro buffer; exact List.prefix_refl _
  | cons edit rest ih =>
    intro buffer
    have step : visible (String.join buffer) <+: visible (String.join (apply buffer edit)) :=
      ⟨_, (visible_apply buffer edit).symm⟩
    exact step.trans (ih (apply buffer edit))

namespace Fragment

/-! ## Sketches whose conditions answer -/

/-- Every condition of a sketch gives an answer when it is asked about its node. -/
def Answering (sketch : Sketch) : Prop :=
  ∀ node ∈ sketch.nodes, ∀ condition ∈ node.condition?, (condition node.undecided).made = true

instance (sketch : Sketch) : Decidable sketch.Answering :=
  inferInstanceAs (Decidable (∀ node ∈ sketch.nodes, ∀ condition ∈ node.condition?,
    (condition node.undecided).made = true))

/-- The nodes without a layout are the same when a sketch is settled. -/
theorem foreignErrors_settle (sketch : Sketch) :
    sketch.settle.foreignErrors = sketch.foreignErrors := by
  have kept : foreign? ∘ settle = foreign? := by
    funext node
    cases node with
    | line text => rfl
    | block start body close connect condition => rfl
    | list separator body trailing condition => rfl
    | concat body => rfl
    | foreign kind => rfl
  rw [foreignErrors, nodes_settle, List.filterMap_map, kept]
  rfl

/-- Where the conditions answer, every decision is made. -/
theorem Answering.made {sketch : Sketch} (answering : sketch.Answering) :
    ∀ node ∈ sketch.settle.nodes, node.decision.made = true := by
  intro node inside
  rw [nodes_settle] at inside
  obtain ⟨own, member, rfl⟩ := List.mem_map.mp inside
  exact answers_of_conditions (fun answer => answer.made = true) rfl sketch answering own member

/-- Such a sketch is stopped by its first node without a layout. -/
theorem Answering.failure_emit {sketch : Sketch} (answering : sketch.Answering)
    (unit : IndentUnit) (connect : Bool) (indent : String) (height : Nat) :
    (sketch.settle.emit unit connect indent height).failure = sketch.nodes.findSome? foreign? := by
  rw [Fragment.failure_emit, obstacles_of_made _ answering.made, foreignErrors_settle,
    foreignErrors, List.head?_filterMap]

/-- **Nothing but a node without a layout stops a layout.** Let the conditions of a sketch give
answers. Then its layout fails exactly if some node has no layout, however deep it is. It fails
with the kind of the first such node from left to right. What was visible in the buffer before
is still in front of all that is visible then. -/
theorem renderInto_stops_iff {sketch : Sketch} (answering : sketch.Answering) (format : Format)
    (buffer : Buffer) (connect : Bool) (indent : String) :
    ∃ (after : Buffer) (failure : Option LayoutError),
      sketch.settle.renderInto format buffer connect indent = (after, failure) ∧
        (failure.isSome = true ↔ ∃ kind, .foreign kind ∈ sketch.nodes) ∧
        (∀ error, failure = some error → ∃ kind earlier later,
          sketch.nodes = earlier ++ .foreign kind :: later ∧
            (∀ node ∈ earlier, ∀ other, node ≠ .foreign other) ∧
            error = .foreign kind ∧ error.message = "Unknown fragment type: " ++ kind) ∧
        visible (String.join buffer) <+: visible (String.join after) := by
  refine ⟨_, _, rfl, ?_, ?_, Edit.visible_isPrefix_applyAll _ buffer⟩
  · rw [answering.failure_emit, List.findSome?_isSome_iff]
    constructor
    · rintro ⟨node, inside, fails⟩
      obtain ⟨error, foreign⟩ := Option.isSome_iff_exists.mp fails
      obtain ⟨kind, rfl, -⟩ := foreign?_eq_some foreign
      exact ⟨kind, inside⟩
    · rintro ⟨kind, inside⟩
      exact ⟨_, inside, rfl⟩
  · intro error stopped
    rw [answering.failure_emit] at stopped
    obtain ⟨earlier, node, later, parts, foreign, regular⟩ :=
      List.findSome?_eq_some_iff.mp stopped
    obtain ⟨kind, rfl, rfl⟩ := foreign?_eq_some foreign
    refine ⟨kind, earlier, later, parts, ?_, rfl, rfl⟩
    rintro node inside other rfl
    cases regular _ inside

/-- A call with a node without a layout behind an item that is left out, and with another one
after it. The indent is visible, and the call joins the block before it. -/
theorem renderInto_stops_iff_macro :
    let skipped : Sketch :=
      .list "+" [.concat [], .list "-" [] .never none] .always (some Condition.notIntrinsic)
    let items : Sketch :=
      .list "," [.line "a", skipped, .concat [.foreign "Macro"], .foreign "Late"] .never
        (some Condition.always)
    let sketch : Sketch :=
      .list ";" [.block "[" [.line "x"] "]" false none, .block "f(" [items] ")" true none,
        .line "z"] .always none
    sketch.Answering ∧
      sketch.settle.renderInto Format.tabs ["if", " "] false "> " =
        (["if", "", "> [", "> \tx", "> ]; f( a,"], some (.foreign "Macro")) ∧
      (∃ kind, .foreign kind ∈ sketch.nodes) ∧
      (∃ kind earlier later, sketch.nodes = earlier ++ .foreign kind :: later ∧
        (∀ node ∈ earlier, ∀ other, node ≠ .foreign other) ∧
        LayoutError.foreign "Macro" = .foreign kind) ∧
      "if".toList <+: "if>[>x>];f(a,".toList := by
  intro skipped items sketch
  have answering : sketch.Answering := by decide
  have stops : sketch.settle.renderInto Format.tabs ["if", " "] false "> " =
      (["if", "", "> [", "> \tx", "> ]; f( a,"], some (.foreign "Macro")) := by decide
  obtain ⟨after, failure, run, fails, first, kept⟩ :=
    renderInto_stops_iff answering Format.tabs ["if", " "] false "> "
  obtain ⟨rfl, rfl⟩ := Prod.ext_iff.mp (run.symm.trans stops)
  obtain ⟨kind, earlier, later, parts, regular, same, -⟩ := first _ rfl
  exact ⟨answering, stops, fails.mp rfl, ⟨kind, earlier, later, parts, regular, same⟩, kept⟩

end Fragment

end CodeLayout
