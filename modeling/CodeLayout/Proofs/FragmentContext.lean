import CodeLayout.Document.Mode
import CodeLayout.Proofs.FrozenDecision

/-!
# Fragments with a hole

A fragment context is a fragment with one hole, said by the layers around the hole from
the outside in. A layer is a block, a list or a concatenation with the children before the
hole and those after it. Every occurrence of a node in a fragment is the hole of a context.

When a filled context is laid out, what stands in the hole is written in the course of it,
unless it is left out as an empty item or the layout stops before. `Context.call?` says how
it is written then. A layout of the whole writes something, writes the hole, and goes on
(`Context.passes`). What is around the hole sees of its content only whether it is empty,
whether it joins as an item, and how many lines were written (`Alike`).
-/

set_option autoImplicit false

namespace CodeLayout

/-! ## Emissions one after another -/

namespace Emission

/-- An emission of these edits that does not fail. -/
def written (edits : List Edit) : Emission where
  edits := edits
  failure := none

theorem eq_written {emission : Emission} (went : emission.failure = none) :
    emission = written emission.edits := by
  rw [written, ← went]

/-- The number of lines after an emission that does not fail. -/
def reached? (emission : Emission) (height : Nat) : Option Nat :=
  match emission.failure with
  | some _ => none
  | none => some (Edit.heightAfter height emission.edits)

theorem reached?_eq_some {emission : Emission} {height reached : Nat}
    (goesOn : emission.reached? height = some reached) :
    emission = written emission.edits ∧ Edit.heightAfter height emission.edits = reached := by
  unfold reached? at goesOn
  split at goesOn
  · cases goesOn
  · next went => exact ⟨eq_written went, Option.some.inj goesOn⟩

/-- After an emission that fails nothing is written. -/
theorem andThen_of_reached?_eq_none {emission : Emission} {height : Nat}
    (stops : emission.reached? height = none) (next : Nat → Emission) :
    emission.andThen height next = emission := by
  unfold reached? at stops
  split at stops
  · next error failed =>
    rw [andThen, failed]
    simp only [← failed]
  · cases stops

theorem andThen_nothing (emission : Emission) (height : Nat) :
    (emission.andThen height fun _ => nothing) = emission := by
  obtain ⟨edits, failure⟩ := emission
  cases failure with
  | none => simp only [andThen, nothing, List.append_nil]
  | some error => rfl

theorem andThen_assoc (first : Emission) (height : Nat) (second third : Nat → Emission) :
    (first.andThen height second).andThen height third =
      first.andThen height fun reached => (second reached).andThen reached third := by
  obtain ⟨edits, failure⟩ := first
  cases failure with
  | some error => rfl
  | none =>
    cases later : (second (Edit.heightAfter height edits)).failure with
    | some error => simp only [andThen, later]
    | none =>
      have reached : Edit.heightAfter height
          (edits ++ (second (Edit.heightAfter height edits)).edits) =
            Edit.heightAfter (Edit.heightAfter height edits)
              (second (Edit.heightAfter height edits)).edits := List.foldl_append
      simp only [andThen, later, reached, List.append_assoc]

/-- What is written before two emissions is written before the first of them. -/
theorem written_append_andThen (first second : List Edit) (height : Nat)
    (next : Nat → Emission) :
    (written (first ++ second)).andThen height next =
      (written first).andThen height fun reached => (written second).andThen reached next := by
  rw [← andThen_assoc]
  rfl

end Emission

/-! ## Bodies put together -/

namespace Fragment

section Bodies

variable {δ : Type}

@[simp]
theorem allEmpty_append (first second : List (Fragment δ)) :
    allEmpty (first ++ second) = (allEmpty first && allEmpty second) := by
  induction first with
  | nil => simp [allEmpty]
  | cons child rest ih => simp [allEmpty, ih, Bool.and_assoc]

theorem bodySizeHint_append (first second : List (Fragment δ)) :
    bodySizeHint (first ++ second) = bodySizeHint first + bodySizeHint second := by
  induction first with
  | nil => simp [bodySizeHint]
  | cons child rest ih => simp only [List.cons_append, bodySizeHint, ih, Nat.add_assoc]

theorem bodyCount_append (first second : List (Fragment δ)) :
    bodyCount (first ++ second) = bodyCount first + bodyCount second := by
  induction first with
  | nil => simp [bodyCount]
  | cons child rest ih => simp only [List.cons_append, bodyCount, ih, Nat.add_assoc]

theorem bodyNodes_append (first second : List (Fragment δ)) :
    bodyNodes (first ++ second) = bodyNodes first ++ bodyNodes second := by
  induction first with
  | nil => rfl
  | cons child rest ih => simp only [List.cons_append, bodyNodes, ih, List.append_assoc]

end Bodies

/-! ## Bodies changed child by child -/

/-- A change that keeps which fragments are empty leaves out the same items of a list. -/
theorem nonempty_map {δ ε : Type} {change : Fragment δ → Fragment ε}
    (kept : ∀ child, (change child).isEmpty = child.isEmpty) (body : List (Fragment δ)) :
    nonempty (body.map change) = (nonempty body).map change := by
  simp only [nonempty, List.filter_map, Function.comp_def, kept]

/-- A change that keeps the decisions of the children keeps what they decide for their parent. -/
theorem soleDecision_map {change : Decided → Decided}
    (kept : ∀ node, (change node).decision = node.decision) (body : List Decided) :
    soleDecision (body.map change) = soleDecision body := by
  rcases body with _ | ⟨only, _ | ⟨second, others⟩⟩
  · rfl
  · exact kept only
  · rfl

theorem settleBody_eq_map (body : List Sketch) : settleBody body = body.map settle := by
  induction body with
  | nil => rfl
  | cons first rest ih => rw [settleBody, ih, List.map_cons]

theorem settleBody_append (first second : List Sketch) :
    settleBody (first ++ second) = settleBody first ++ settleBody second := by
  simp only [settleBody_eq_map, List.map_append]

section Layouts

variable (unit : IndentUnit)

theorem emitAll_append (first second : List Decided) (connect : Bool) (indent : String) :
    ∀ height : Nat, emitAll unit (first ++ second) connect indent height =
      (emitAll unit first connect indent height).andThen height
        (emitAll unit second connect indent) := by
  induction first with
  | nil => intro height; rfl
  | cons child rest ih =>
    intro height
    simp only [List.cons_append, emitAll, ih, Emission.andThen_assoc]

/-- Only the first of all the children may connect. -/
theorem emitSequence_append (first second : List Decided) (indent : String) :
    ∀ (connect : Bool) (height : Nat), emitSequence unit (first ++ second) connect indent height =
      (emitSequence unit first connect indent height).andThen height
        (emitSequence unit second (connect && first.isEmpty) indent) := by
  induction first with
  | nil => intro connect height; rw [List.isEmpty_nil, Bool.and_true]; rfl
  | cons child rest ih =>
    intro connect height
    simp only [List.cons_append, emitSequence, ih, Emission.andThen_assoc, Bool.false_and,
      List.isEmpty_cons, Bool.and_false]

end Layouts

/-! ## What is said about inlining -/

section Inlinings

variable {δ : Type}

/-- What a block or a list says about its inlining. -/
def inlining? : Fragment δ → Option δ
  | .line _ => none
  | .block _ _ _ _ inlining => some inlining
  | .list _ _ _ inlining => some inlining
  | .concat _ => none
  | .foreign _ => none

/-- What the blocks and lists of a fragment say about their inlining, in the order of the
nodes. Of a sketch these are the conditions, and of a settled one the decisions. -/
def inlinings (fragment : Fragment δ) : List δ := fragment.nodes.filterMap inlining?

/-- What the blocks and lists of a body say. -/
def bodyInlinings (body : List (Fragment δ)) : List δ := (bodyNodes body).filterMap inlining?

@[simp]
theorem inlinings_line (text : String) : (Fragment.line text : Fragment δ).inlinings = [] := rfl

@[simp]
theorem inlinings_block (start : String) (body : List (Fragment δ)) (close : String)
    (connect : Bool) (inlining : δ) :
    (Fragment.block start body close connect inlining).inlinings =
      inlining :: bodyInlinings body := rfl

@[simp]
theorem inlinings_list (separator : String) (body : List (Fragment δ)) (trailing : Trailing)
    (inlining : δ) :
    (Fragment.list separator body trailing inlining).inlinings =
      inlining :: bodyInlinings body := rfl

@[simp]
theorem inlinings_concat (body : List (Fragment δ)) :
    (Fragment.concat body).inlinings = bodyInlinings body := rfl

@[simp]
theorem inlinings_foreign (kind : String) :
    (Fragment.foreign kind : Fragment δ).inlinings = [] := rfl

@[simp]
theorem bodyInlinings_nil : bodyInlinings ([] : List (Fragment δ)) = [] := rfl

@[simp]
theorem bodyInlinings_cons (first : Fragment δ) (rest : List (Fragment δ)) :
    bodyInlinings (first :: rest) = first.inlinings ++ bodyInlinings rest :=
  List.filterMap_append

@[simp]
theorem bodyInlinings_append (first second : List (Fragment δ)) :
    bodyInlinings (first ++ second) = bodyInlinings first ++ bodyInlinings second := by
  rw [bodyInlinings, bodyNodes_append, List.filterMap_append]
  rfl

mutual

theorem inlinings_map {ε : Type} (f : δ → ε) : ∀ fragment : Fragment δ,
    (fragment.map f).inlinings = fragment.inlinings.map f
  | .line _ => rfl
  | .block _ body _ _ inlining => by
    rw [map, inlinings_block, bodyInlinings_mapBody f body, inlinings_block, List.map_cons]
  | .list _ body _ inlining => by
    rw [map, inlinings_list, bodyInlinings_mapBody f body, inlinings_list, List.map_cons]
  | .concat body => bodyInlinings_mapBody f body
  | .foreign _ => rfl

theorem bodyInlinings_mapBody {ε : Type} (f : δ → ε) : ∀ body : List (Fragment δ),
    bodyInlinings (mapBody f body) = (bodyInlinings body).map f
  | [] => rfl
  | first :: rest => by
    rw [mapBody, bodyInlinings_cons, inlinings_map f first, bodyInlinings_mapBody f rest,
      bodyInlinings_cons, List.map_append]

end

end Inlinings

/-- The conditions in the tree of a document are those of the modes. -/
theorem exists_mode {tree : DocumentTree} {condition : Condition}
    (said : some condition ∈ tree.sketch.inlinings) :
    ∃ mode : InlineMode, mode.condition = some condition := by
  rw [DocumentTree.sketch, inlinings_map] at said
  obtain ⟨mode, -, same⟩ := List.mem_map.mp said
  exact ⟨mode, same⟩

/-! ## Contexts -/

/-- One layer around a hole. -/
inductive Layer (δ : Type) where
  /-- A block with the hole among its children. -/
  | block (start : String) (before after : List (Fragment δ)) (close : String) (connect : Bool)
      (inlining : δ)
  /-- A list with the hole among its items. -/
  | list (separator : String) (before after : List (Fragment δ)) (trailing : Trailing)
      (inlining : δ)
  /-- A concatenation with the hole among its fragments. -/
  | concat (before after : List (Fragment δ))

/-- The layer with a fragment in its hole. -/
def Layer.fill {δ : Type} (child : Fragment δ) : Layer δ → Fragment δ
  | .block start before after close connect inlining =>
    .block start (before ++ child :: after) close connect inlining
  | .list separator before after trailing inlining =>
    .list separator (before ++ child :: after) trailing inlining
  | .concat before after => .concat (before ++ child :: after)

/-- A fragment with one hole: the layers around the hole from the outside in. -/
abbrev Context (δ : Type) := List (Layer δ)

/-- The context with a fragment in its hole. -/
def Context.fill {δ : Type} (child : Fragment δ) : Context δ → Fragment δ
  | [] => child
  | layer :: inner => layer.fill (fill child inner)

/-- What the content of the hole says about inlining is said in the layer. -/
theorem mem_inlinings_fill {δ : Type} {child : Fragment δ} (layer : Layer δ) {inlining : δ}
    (said : inlining ∈ child.inlinings) : inlining ∈ (layer.fill child).inlinings := by
  cases layer with
  | block start before after close connect own => simp [Layer.fill, said]
  | list separator before after trailing own => simp [Layer.fill, said]
  | concat before after => simp [Layer.fill, said]

theorem Context.mem_inlinings_fill {δ : Type} {child : Fragment δ} {inlining : δ}
    (said : inlining ∈ child.inlinings) : ∀ context : Context δ,
      inlining ∈ (context.fill child).inlinings
  | [] => said
  | layer :: inner => Fragment.mem_inlinings_fill layer (Context.mem_inlinings_fill said inner)

/-! ## Settled contexts -/

/-- The layer with its decision, where a settled fragment is in its hole. -/
def Layer.settle (child : Decided) : Layer (Option Condition) → Layer Decision
  | .block start before after close connect condition =>
    let body := settleBody before ++ child :: settleBody after
    .block start (settleBody before) (settleBody after) close connect
      (decisionUnder condition (.block start body close connect (soleDecision body)))
  | .list separator before after trailing condition =>
    let body := settleBody before ++ child :: settleBody after
    .list separator (settleBody before) (settleBody after) trailing
      (decisionUnder condition (.list separator body trailing (soleDecision (nonempty body))))
  | .concat before after => .concat (settleBody before) (settleBody after)

/-- The context with its decisions, where a settled fragment is in its hole. -/
def Context.settle (child : Decided) : Context (Option Condition) → Context Decision
  | [] => []
  | layer :: inner => layer.settle ((Context.settle child inner).fill child) :: settle child inner

theorem settle_fillLayer (layer : Layer (Option Condition)) (sketch : Sketch) :
    (layer.fill sketch).settle = (layer.settle sketch.settle).fill sketch.settle := by
  cases layer with
  | block start before after close connect condition =>
    simp only [Layer.fill, Fragment.settle, settleBody_append, settleBody]
    rfl
  | list separator before after trailing condition =>
    simp only [Layer.fill, Fragment.settle, settleBody_append, settleBody]
    rfl
  | concat before after =>
    simp only [Layer.fill, Fragment.settle, settleBody_append, settleBody]
    rfl

/-- A filled context is settled as the context and its content are. -/
theorem settle_fill (sketch : Sketch) : ∀ context : Context (Option Condition),
    (context.fill sketch).settle = (context.settle sketch.settle).fill sketch.settle
  | [] => rfl
  | layer :: inner => by
    rw [Context.fill, settle_fillLayer, settle_fill sketch inner]
    rfl

/-! ## The content of a hole as its surroundings see it -/

/-- What is around two fragments makes no difference between them, but for what they write. -/
structure Alike (fragment other : Decided) : Prop where
  /-- The one is empty where the other is. -/
  empty : other.isEmpty = fragment.isEmpty
  /-- As items of a list they join alike. -/
  joins : ∀ inlining tall, joinsPrevious inlining tall other = joinsPrevious inlining tall fragment

/-- What is in the hole of a layer does not matter for what is around the layer, if it is empty
or not. -/
theorem Alike.fill {fragment other : Decided} (alike : Alike fragment other)
    (layer : Layer Decision) : Alike (layer.fill fragment) (layer.fill other) := by
  cases layer with
  | block start before after close connect inlining => exact ⟨rfl, fun _ _ => rfl⟩
  | list separator before after trailing inlining =>
    refine ⟨?_, fun _ _ => rfl⟩
    simp only [Layer.fill, isEmpty, allEmpty_append, allEmpty, alike.empty]
  | concat before after =>
    refine ⟨?_, fun _ _ => rfl⟩
    simp only [Layer.fill, isEmpty, allEmpty_append, allEmpty, alike.empty]

theorem Alike.fillContext {fragment other : Decided} (alike : Alike fragment other) :
    ∀ context : Context Decision, Alike (context.fill fragment) (context.fill other)
  | [] => alike
  | layer :: inner => (alike.fillContext inner).fill layer

/-! ## How the hole is written -/

/-- How a fragment is written. -/
structure Call where
  /-- Whether its first line joins the line before. -/
  connect : Bool
  /-- The indent of its lines. -/
  indent : String
  /-- The number of lines before. -/
  height : Nat
deriving DecidableEq, Repr

/-- The edits of a fragment that is written in this way. -/
def emitFor (unit : IndentUnit) (fragment : Decided) (call : Call) : Emission :=
  fragment.emit unit call.connect call.indent call.height

/-- What is written in one way leaves the same buffer. -/
theorem renderInto_of_emitFor (format : Format) {fragment other : Decided} (buffer : Buffer)
    {connect : Bool} {indent : String}
    (same : other.emitFor format.unit { connect, indent, height := buffer.length } =
      fragment.emitFor format.unit { connect, indent, height := buffer.length }) :
    other.renderInto format buffer connect indent =
      fragment.renderInto format buffer connect indent := by
  rw [emitFor, emitFor] at same
  rw [renderInto, renderInto, same]

end Fragment

/-- Whether an item joins the line before it at a place in a list, if that is decided. -/
def ItemPlace.decision (inlining : Bool) (item : Decided) : ItemPlace → Decision
  | .first connect => .ok connect
  | .after tall => joinsPrevious inlining tall item

/-- What is written before an item at a place in a list. -/
def ItemPlace.lead (separator : String) : ItemPlace → List Edit
  | .first _ => []
  | .after _ => [.glue separator]

theorem ItemPlace.heightAfter_lead (separator : String) (place : ItemPlace) (height : Nat) :
    Edit.heightAfter height (place.lead separator) = height := by
  cases place <;> rfl

namespace Fragment

section Items

variable (unit : IndentUnit)

/-- What an item writes that is not empty, and what the items after it write. -/
theorem emitItems_cons (separator : String) (inlining : Bool) {item : Decided}
    (rest : List Decided) (place : ItemPlace) (indent : String) (height : Nat)
    (full : item.isEmpty = false) :
    emitItems unit separator inlining (item :: rest) place indent height =
      (Emission.written (place.lead separator)).andThen height fun _ =>
        Emission.decide (place.decision inlining item) fun join =>
          (item.emit unit join indent height).andThen height fun grown =>
            emitItems unit separator inlining rest (.after (height + 1 < grown)) indent grown := by
  cases place with
  | first connect =>
    simp only [emitItems, full, Bool.false_eq_true, if_false]
    rfl
  | after tall =>
    simp only [emitItems, full, Bool.false_eq_true, if_false]
    rfl

/-- How an item of a list is written after these other items, if it is. -/
def itemCall? (inlining : Bool) (item : Decided) :
    List Decided → ItemPlace → String → Nat → Option Call
  | [], place, indent, height =>
    if item.isEmpty then
      none
    else
      (place.decision inlining item).toOption.map fun join => { connect := join, indent, height }
  | other :: rest, place, indent, height =>
    if other.isEmpty then
      itemCall? inlining item rest place indent height
    else
      (place.decision inlining other).toOption.bind fun join =>
        ((other.emit unit join indent height).reached? height).bind fun grown =>
          itemCall? inlining item rest (.after (height + 1 < grown)) indent grown

end Items

/-- How the content of the hole is written when the layer is, if it is. -/
def Layer.call? (unit : IndentUnit) (child : Decided) (call : Call) : Layer Decision → Option Call
  | .block start before _ _ connects inlining =>
    inlining.toOption.bind fun inline =>
      let opened := Edit.height call.height (.line start (connects || call.connect) call.indent)
      let indent := if inline then call.indent else call.indent ++ unit.text
      ((emitAll unit before inline indent opened).reached? opened).map fun height =>
        { connect := inline, indent, height }
  | .list _ before _ _ inlining =>
    inlining.toOption.bind fun inline =>
      itemCall? unit inline child before (.first call.connect) call.indent call.height
  | .concat before _ =>
    ((emitSequence unit before call.connect call.indent call.height).reached? call.height).map
      fun height => { connect := call.connect && before.isEmpty, indent := call.indent, height }

/-- How the content of the hole is written when the context is, if it is. -/
def Context.call? (unit : IndentUnit) (child : Decided) : Context Decision → Call → Option Call
  | [], call => some call
  | layer :: inner, call =>
    (layer.call? unit (Context.fill child inner) call).bind (call? unit child inner)

/-- How many lines the content of the hole adds when the context is written. -/
def Context.pushed (unit : IndentUnit) (child : Decided) (context : Context Decision)
    (call : Call) : Nat :=
  match context.call? unit child call with
  | some own => Edit.heightAfter own.height (child.emitFor unit own).edits - own.height
  | none => 0

/-- How the content of a hole is written depends on what its surroundings see of it. -/
theorem Alike.itemCall?_eq {fragment other : Decided} (alike : Alike fragment other)
    (unit : IndentUnit) (inlining : Bool) : ∀ (before : List Decided) (place : ItemPlace)
      (indent : String) (height : Nat), itemCall? unit inlining other before place indent height =
        itemCall? unit inlining fragment before place indent height
  | [], .first connect, indent, height => by
    simp only [itemCall?, alike.empty, ItemPlace.decision]
  | [], .after tall, indent, height => by
    simp only [itemCall?, alike.empty, ItemPlace.decision, alike.joins]
  | item :: rest, place, indent, height => by
    simp only [itemCall?, alike.itemCall?_eq unit inlining rest]

theorem Alike.call?_eq {fragment other : Decided} (alike : Alike fragment other)
    (unit : IndentUnit) : ∀ (context : Context Decision) (call : Call),
      context.call? unit other call = context.call? unit fragment call
  | [], call => rfl
  | layer :: inner, call => by
    have within := alike.fillContext inner
    have called : layer.call? unit (Context.fill other inner) call =
        layer.call? unit (Context.fill fragment inner) call := by
      cases layer with
      | block start before after close connects inlining => rfl
      | list separator before after trailing inlining =>
        simp only [Layer.call?, within.itemCall?_eq unit]
      | concat before after => rfl
    rw [Context.call?, Context.call?, called]
    exact congrArg (Option.bind _) (funext (alike.call?_eq unit inner))

/-! ## A layout passes through the hole -/

/-- An emission that has to do with the content of the hole writes something, writes the content
as it is called, and goes on. Or the content is not written, and then it does not matter. This is
so for everything that the surroundings do not tell apart from a child. -/
def Passes (unit : IndentUnit) (child : Decided) (height : Nat) (whole : Decided → Emission) :
    Option Call → Prop
  | some own => ∃ (prior : List Edit) (rest : Nat → Emission),
      Edit.heightAfter height prior = own.height ∧ ∀ other, Alike child other →
        whole other = (Emission.written prior).andThen height fun reached =>
          (other.emitFor unit own).andThen reached rest
  | none => ∀ other, Alike child other → whole other = whole child

theorem Alike.refl (fragment : Decided) : Alike fragment fragment := ⟨rfl, fun _ _ => rfl⟩

section Passing

variable {unit : IndentUnit} {child : Decided} {height : Nat}

/-- The content itself is all that is written. -/
theorem passes_here (unit : IndentUnit) (child : Decided) (call : Call) :
    Passes unit child call.height (fun other => other.emitFor unit call) (some call) := by
  refine ⟨[], fun _ => .nothing, rfl, fun other _ => ?_⟩
  exact (Emission.andThen_nothing (other.emitFor unit call) call.height).symm

theorem Passes.congr {whole same : Decided → Emission} {call? : Option Call}
    (passes : Passes unit child height whole call?)
    (agree : ∀ other, Alike child other → same other = whole other) :
    Passes unit child height same call? := by
  cases call? with
  | none =>
    intro other alike
    rw [agree other alike, agree child (.refl child)]
    exact passes other alike
  | some own =>
    obtain ⟨prior, rest, reached, wraps⟩ := passes
    exact ⟨prior, rest, reached, fun other alike => (agree other alike).trans (wraps other alike)⟩

/-- Something is written before. -/
theorem Passes.after {first : Emission} {whole : Nat → Decided → Emission}
    {call? : Nat → Option Call}
    (passes : ∀ reached, first.reached? height = some reached →
      Passes unit child reached (whole reached) (call? reached)) :
    Passes unit child height (fun other => first.andThen height fun reached => whole reached other)
      ((first.reached? height).bind call?) := by
  cases goesOn : first.reached? height with
  | none =>
    intro other _
    exact (Emission.andThen_of_reached?_eq_none goesOn _).trans
      (Emission.andThen_of_reached?_eq_none goesOn _).symm
  | some grown =>
    obtain ⟨went, lines⟩ := Emission.reached?_eq_some goesOn
    have inner := passes grown goesOn
    rw [went, ← lines]
    rw [← lines] at inner
    simp only [Option.bind_some]
    cases called : call? (Edit.heightAfter height first.edits) with
    | none =>
      rw [called] at inner
      intro other alike
      simp only [Emission.andThen, Emission.written, inner other alike]
    | some own =>
      rw [called] at inner
      obtain ⟨prior, rest, reached, wraps⟩ := inner
      refine ⟨first.edits ++ prior, rest, ?_, fun other alike => ?_⟩
      · rw [← reached]
        exact List.foldl_append
      · rw [Emission.written_append_andThen]
        simp only [Emission.andThen, Emission.written, wraps other alike]

/-- Something is written afterwards. -/
theorem Passes.andThen {whole : Decided → Emission} {call? : Option Call}
    (passes : Passes unit child height whole call?) (next : Nat → Emission) :
    Passes unit child height (fun other => (whole other).andThen height next) call? := by
  cases call? with
  | none =>
    intro other alike
    exact congrArg (fun own => own.andThen height next) (passes other alike)
  | some own =>
    obtain ⟨prior, rest, reached, wraps⟩ := passes
    refine ⟨prior, fun grown => (rest grown).andThen grown next, reached, fun other alike => ?_⟩
    simp only [wraps other alike, Emission.andThen_assoc]

/-- Something is decided before. -/
theorem Passes.decide {decision : Decision} {whole : Bool → Decided → Emission}
    {call? : Bool → Option Call}
    (passes : ∀ answer, decision = .ok answer →
      Passes unit child height (whole answer) (call? answer)) :
    Passes unit child height (fun other => Emission.decide decision fun answer => whole answer other)
      (decision.toOption.bind call?) := by
  cases decision with
  | ok answer => exact passes answer rfl
  | error error => exact fun _ _ => rfl

/-- The hole is in what stands in the hole of something else. -/
theorem Passes.within {inner : Decided → Decided} {whole : Decided → Emission}
    {call? : Option Call} {innerCall? : Call → Option Call}
    (passes : Passes unit (inner child) height whole call?)
    (alike : ∀ other, Alike child other → Alike (inner child) (inner other))
    (inside : ∀ call, call? = some call →
      Passes unit child call.height (fun other => (inner other).emitFor unit call)
        (innerCall? call)) :
    Passes unit child height (fun other => whole (inner other)) (call?.bind innerCall?) := by
  cases call? with
  | none => exact fun other same => passes _ (alike other same)
  | some call =>
    obtain ⟨prior, rest, reached, wraps⟩ := passes
    have own := inside call rfl
    simp only [Option.bind_some]
    have first : Passes unit child height (fun other =>
        (Emission.written prior).andThen height fun grown =>
          ((inner other).emitFor unit call).andThen grown rest)
        (((Emission.written prior).reached? height).bind fun _ => innerCall? call) := by
      refine .after fun grown goesOn => ?_
      obtain rfl : grown = call.height := by
        rw [← reached]
        exact (Option.some.inj goesOn).symm
      exact own.andThen rest
    exact first.congr fun other same => wraps _ (alike other same)

end Passing

section Hole

variable (unit : IndentUnit) (child : Decided)

/-- The items of a list pass through the hole among them. -/
theorem passes_items (separator : String) (inlining : Bool) (after : List Decided) :
    ∀ (before : List Decided) (place : ItemPlace) (indent : String) (height : Nat),
      Passes unit child height
        (fun other => emitItems unit separator inlining (before ++ other :: after) place indent
          height)
        (itemCall? unit inlining child before place indent height)
  | [], place, indent, height => by
    cases empty : child.isEmpty with
    | true =>
      rw [itemCall?, if_pos empty]
      intro other alike
      simp only [List.nil_append, emitItems, alike.empty, empty, if_true]
    | false =>
      rw [itemCall?, empty, if_neg Bool.false_ne_true]
      have item : Passes unit child height (fun other =>
          (Emission.written (place.lead separator)).andThen height fun _ =>
            Emission.decide (place.decision inlining child) fun join =>
              (other.emit unit join indent height).andThen height fun grown =>
                emitItems unit separator inlining after (.after (height + 1 < grown)) indent grown)
          (((Emission.written (place.lead separator)).reached? height).bind fun _ =>
            (place.decision inlining child).toOption.bind fun join =>
              some { connect := join, indent, height }) := by
        refine .after fun reached goesOn => ?_
        obtain rfl : reached = height := by
          rw [← place.heightAfter_lead separator height]
          exact (Option.some.inj goesOn).symm
        exact .decide fun join _ => (passes_here unit child ⟨join, indent, reached⟩).andThen _
      rw [Option.map_eq_bind]
      refine item.congr fun other alike => ?_
      have decided : place.decision inlining other = place.decision inlining child := by
        cases place with
        | first connect => rfl
        | after tall => exact alike.joins inlining tall
      rw [List.nil_append, emitItems_cons unit separator inlining after place indent height
        (alike.empty.trans empty), decided]
  | item :: rest, place, indent, height => by
    cases empty : item.isEmpty with
    | true =>
      simp only [List.cons_append, emitItems, itemCall?, empty, if_true]
      exact passes_items separator inlining after rest place indent height
    | false =>
      rw [itemCall?, empty, if_neg Bool.false_ne_true]
      simp only [List.cons_append, emitItems_cons unit separator inlining _ place indent height empty]
      have led : Passes unit child height (fun other =>
          (Emission.written (place.lead separator)).andThen height fun _ =>
            Emission.decide (place.decision inlining item) fun join =>
              (item.emit unit join indent height).andThen height fun grown =>
                emitItems unit separator inlining (rest ++ other :: after)
                  (.after (height + 1 < grown)) indent grown)
          (((Emission.written (place.lead separator)).reached? height).bind fun _ =>
            (place.decision inlining item).toOption.bind fun join =>
              ((item.emit unit join indent height).reached? height).bind fun grown =>
                itemCall? unit inlining child rest (.after (height + 1 < grown)) indent grown) := by
        refine .after fun reached goesOn => ?_
        obtain rfl : reached = height := by
          rw [← place.heightAfter_lead separator height]
          exact (Option.some.inj goesOn).symm
        exact .decide fun join _ => .after fun grown _ =>
          passes_items separator inlining after rest _ indent grown
      exact led

/-- The children of a block pass through the hole among them. -/
theorem passes_all (before after : List Decided) (connect : Bool) (indent : String)
    (height : Nat) :
    Passes unit child height
      (fun other => emitAll unit (before ++ other :: after) connect indent height)
      (((emitAll unit before connect indent height).reached? height).map fun reached =>
        { connect, indent, height := reached }) := by
  simp only [emitAll_append, Option.map_eq_bind]
  exact .after fun reached _ => (passes_here unit child ⟨connect, indent, reached⟩).andThen _

/-- The fragments of a concatenation pass through the hole among them. -/
theorem passes_sequence (before after : List Decided) (connect : Bool) (indent : String)
    (height : Nat) :
    Passes unit child height
      (fun other => emitSequence unit (before ++ other :: after) connect indent height)
      (((emitSequence unit before connect indent height).reached? height).map fun reached =>
        { connect := connect && before.isEmpty, indent, height := reached }) := by
  simp only [emitSequence_append, Option.map_eq_bind]
  exact .after fun reached _ =>
    (passes_here unit child ⟨connect && before.isEmpty, indent, reached⟩).andThen _

/-- A layer passes through its hole. -/
theorem passes_layer (layer : Layer Decision) (call : Call) :
    Passes unit child call.height (fun other => (layer.fill other).emitFor unit call)
      (layer.call? unit child call) := by
  cases layer with
  | block start before after close connects inlining =>
    have opened : Passes unit child call.height
        (fun other => (Emission.single (.line start (connects || call.connect)
          call.indent)).andThen call.height fun opened => Emission.decide inlining fun inline =>
            (emitAll unit (before ++ other :: after) inline
              (if inline then call.indent else call.indent ++ unit.text) opened).andThen opened
                fun _ => .single (.line close inline call.indent)) _ :=
      .after fun reached _ => .decide fun inline _ => (passes_all unit child before after inline
        (if inline then call.indent else call.indent ++ unit.text) reached).andThen _
    exact opened
  | list separator before after trailing inlining =>
    exact .decide fun inline _ => (passes_items unit child separator inline after before
      (.first call.connect) call.indent call.height).andThen _
  | concat before after =>
    exact passes_sequence unit child before after call.connect call.indent call.height

/-- **A layout passes through the hole of a context.** If the content of the hole is written, the
layout of the whole writes something before, then the content as it is called, and then goes on
in a way that sees only how many lines there are. -/
theorem Context.passes : ∀ (context : Context Decision) (call : Call),
    Passes unit child call.height (fun other => (context.fill other).emitFor unit call)
      (context.call? unit child call)
  | [], call => passes_here unit child call
  | layer :: inner, call =>
    (passes_layer unit (Context.fill child inner) layer call).within
      (fun _ alike => alike.fillContext inner) fun own _ => Context.passes inner own

end Hole

end Fragment

end CodeLayout
