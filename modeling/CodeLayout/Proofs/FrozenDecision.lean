import CodeLayout.Fragment.Condition
import CodeLayout.Layout

/-!
# Decisions put in place of conditions

A condition is asked about a node whose children are decided. It sees what the node and
its children are and how they are decided, but not what the decisions come from. So a
block or a list can be frozen: the answer that it gave takes the place of its condition,
and what is around it is decided as before, although it may ask again.

A sketch freezes into another one when they differ only in blocks and lists that are
frozen, any number of them at any depth (`Fragment.Freezes`). Freezing all of them is one
way to do it (`Fragment.freezes_freeze`). Either way the sketch is settled into the same
fragment (`Fragment.settle_of_freezes`), and a layout is made of that one.

Main statement: `Fragment.renderInto_frozen`.
-/

set_option autoImplicit false

namespace CodeLayout

namespace Fragment

/-! ## The nodes of a fragment and their answers -/

section Nodes

variable {δ : Type}

mutual

/-- The nodes of a fragment, every node before those inside it. -/
def nodes : Fragment δ → List (Fragment δ)
  | .line text => [.line text]
  | .block start body close connect inlining =>
    .block start body close connect inlining :: bodyNodes body
  | .list separator body trailing inlining =>
    .list separator body trailing inlining :: bodyNodes body
  | .concat body => .concat body :: bodyNodes body
  | .foreign kind => [.foreign kind]

/-- The nodes of the fragments of a body. -/
def bodyNodes : List (Fragment δ) → List (Fragment δ)
  | [] => []
  | first :: rest => nodes first ++ bodyNodes rest

end

end Nodes

/-- What a node of a sketch answers to the question whether it goes on a single line. -/
def answer (sketch : Sketch) : Decision := sketch.settle.decision

mutual

/-- A node is settled in the same way by itself and inside another one. -/
theorem nodes_settle : ∀ sketch : Sketch, sketch.settle.nodes = sketch.nodes.map settle
  | .line _ => rfl
  | .block start body close connect condition => by
    rw [nodes, List.map_cons, ← bodyNodes_settleBody body]
    rfl
  | .list separator body trailing condition => by
    rw [nodes, List.map_cons, ← bodyNodes_settleBody body]
    rfl
  | .concat body => by
    rw [nodes, List.map_cons, ← bodyNodes_settleBody body]
    rfl
  | .foreign _ => rfl

theorem bodyNodes_settleBody : ∀ body : List Sketch,
    bodyNodes (settleBody body) = (bodyNodes body).map settle
  | [] => rfl
  | first :: rest => by
    rw [settleBody, bodyNodes, nodes_settle first, bodyNodes_settleBody rest, bodyNodes,
      List.map_append]

end

/-- The answers of the nodes of a sketch are the decisions of the settled sketch. -/
theorem map_answer_nodes (sketch : Sketch) :
    sketch.nodes.map answer = sketch.settle.nodes.map decision := by
  rw [nodes_settle, List.map_map]
  rfl

/-! ## Frozen sketches -/

mutual

/-- The second sketch is the first one with some blocks and lists frozen: they always answer
what they answered in the first. -/
inductive Freezes : Sketch → Sketch → Prop where
  | line (text : String) : Freezes (.line text) (.line text)
  | block (start close : String) (connect : Bool) {body body' : List Sketch}
      {condition condition' : Option Condition} (bodies : AllFreeze body body')
      (frozen : condition' = condition ∨
        condition' = some fun _ => answer (.block start body close connect condition)) :
      Freezes (.block start body close connect condition)
        (.block start body' close connect condition')
  | list (separator : String) (trailing : Trailing) {body body' : List Sketch}
      {condition condition' : Option Condition} (bodies : AllFreeze body body')
      (frozen : condition' = condition ∨
        condition' = some fun _ => answer (.list separator body trailing condition)) :
      Freezes (.list separator body trailing condition)
        (.list separator body' trailing condition')
  | concat {body body' : List Sketch} (bodies : AllFreeze body body') :
      Freezes (.concat body) (.concat body')
  | foreign (kind : String) : Freezes (.foreign kind) (.foreign kind)

/-- The same for two bodies, child by child. -/
inductive AllFreeze : List Sketch → List Sketch → Prop where
  | nil : AllFreeze [] []
  | cons {first first' : Sketch} {rest rest' : List Sketch} (heads : Freezes first first')
      (tails : AllFreeze rest rest') : AllFreeze (first :: rest) (first' :: rest')

end

mutual

/-- **Freezing does not change what a sketch is settled into.** -/
theorem settle_of_freezes : ∀ {sketch frozen : Sketch}, Freezes sketch frozen →
    frozen.settle = sketch.settle
  | .line _, _, .line _ => rfl
  | .block _ _ _ _ _, _, .block start close connect bodies frozen => by
    have same := settleBody_of_allFreeze bodies
    -- A condition that is kept is asked about the same node. One that is frozen is not asked.
    rcases frozen with rfl | rfl
    · rw [settle, settle, same]
    · rw [settle, same]
      rfl
  | .list _ _ _ _, _, .list separator trailing bodies frozen => by
    have same := settleBody_of_allFreeze bodies
    rcases frozen with rfl | rfl
    · rw [settle, settle, same]
    · rw [settle, same]
      rfl
  | .concat _, _, .concat bodies => by
    rw [settle, settle, settleBody_of_allFreeze bodies]
  | .foreign _, _, .foreign _ => rfl

theorem settleBody_of_allFreeze : ∀ {body body' : List Sketch}, AllFreeze body body' →
    settleBody body' = settleBody body
  | [], _, .nil => rfl
  | _ :: _, _, .cons heads tails => by
    rw [settleBody, settleBody, settle_of_freezes heads, settleBody_of_allFreeze tails]

end

mutual

/-- A sketch freezes into the one that has a decision in place of every condition. -/
theorem freezes_freeze : ∀ sketch : Sketch, Freezes sketch (freeze sketch.settle)
  | .line text => .line text
  | .block start body close connect _ =>
    .block start close connect (allFreeze_freeze body) (.inr rfl)
  | .list separator body trailing _ =>
    .list separator trailing (allFreeze_freeze body) (.inr rfl)
  | .concat body => .concat (allFreeze_freeze body)
  | .foreign kind => .foreign kind

theorem allFreeze_freeze : ∀ body : List Sketch,
    AllFreeze body (mapBody (fun decision => some fun _ => decision) (settleBody body))
  | [] => .nil
  | first :: rest => .cons (freezes_freeze first) (allFreeze_freeze rest)

end

/-- **Freezing decisions changes nothing.** Let every block and list of a sketch, or any of
them, have the answer that it gave in place of its condition. Then every node answers as
before, and the layout leaves the same buffer and ends in the same way. This holds for all
conditions, and also for those that fail. -/
theorem renderInto_frozen (sketch : Sketch) :
    sketch.Freezes (freeze sketch.settle) ∧
      ∀ frozen : Sketch, sketch.Freezes frozen →
        frozen.nodes.map answer = sketch.nodes.map answer ∧
          ∀ (format : Format) (buffer : Buffer) (connect : Bool) (indent : String),
            frozen.settle.renderInto format buffer connect indent =
              sketch.settle.renderInto format buffer connect indent := by
  refine ⟨freezes_freeze sketch, fun frozen freezes => ?_⟩
  have same := settle_of_freezes freezes
  refine ⟨?_, fun format buffer connect indent => by rw [same]⟩
  rw [map_answer_nodes, map_answer_nodes, same]

/-- A list that does the opposite of its only item, which follows what is inside it. The item
is frozen, and the list still asks it. -/
theorem renderInto_frozen_item :
    let items : Sketch := .list ";" [.line "a", .line "b"] .never (some Condition.always)
    let sketch : Sketch := .list "," [.block "(" [items] ")" false none] .always
      (some Condition.notIntrinsic)
    let frozen : Sketch := .list ","
      [.block "(" [items] ")" false (some fun _ => .ok true)] .always
      (some Condition.notIntrinsic)
    sketch.Freezes frozen ∧
      frozen.nodes.map answer = [.ok false, .ok true, .ok true, .ok false, .ok false] ∧
      frozen.settle.renderInto Format.tabs ["x ="] false "" = (["x =", "( a; b ),"], none) := by
  intro items sketch frozen
  have kept : Freezes items items :=
    .list ";" .never (.cons (.line "a") (.cons (.line "b") .nil)) (.inl rfl)
  have freezes : sketch.Freezes frozen :=
    .list "," .always (.cons (.block "(" ")" false (.cons kept .nil) (.inr rfl)) .nil) (.inl rfl)
  obtain ⟨-, unchanged⟩ := renderInto_frozen sketch
  obtain ⟨answers, layouts⟩ := unchanged frozen freezes
  exact ⟨freezes, answers.trans rfl, (layouts Format.tabs ["x ="] false "").trans (by decide)⟩

end Fragment

end CodeLayout
