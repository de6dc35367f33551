import CodeLayout.Proofs.FragmentContext
import CodeLayout.Proofs.Script
import Mathlib.Logic.Relation

/-!
# Inlining that is handed on

A block or a list without a condition asks one node inside it: a block its only child, and a
list its only item that is not empty. That node may ask on, and so do all nodes without a
condition. An answer is what the node at the end of this chain gives, and nothing but a
condition ever says that a node goes on a single line: every answer comes from a condition or
is a refusal (`Fragment.answers_of_conditions`). So without conditions no node does, and in a
fragment without lists and without blocks that connect every text stands on a line of its own.

Main statement: `Fragment.inlines_iff_chain`.
-/

set_option autoImplicit false

namespace CodeLayout

namespace Fragment

/-! ## What settling keeps -/

mutual

theorem isEmpty_settle : ∀ sketch : Sketch, sketch.settle.isEmpty = sketch.isEmpty
  | .line _ => rfl
  | .block _ _ _ _ _ => rfl
  | .list _ body _ _ => allEmpty_settleBody body
  | .concat body => allEmpty_settleBody body
  | .foreign _ => rfl

theorem allEmpty_settleBody : ∀ body : List Sketch, allEmpty (settleBody body) = allEmpty body
  | [] => rfl
  | first :: rest => by
    rw [settleBody, allEmpty, isEmpty_settle first, allEmpty_settleBody rest, allEmpty]

end

/-- The items of a list are settled, and none is left out or added. -/
theorem nonempty_settleBody (body : List Sketch) :
    nonempty (settleBody body) = settleBody (nonempty body) := by
  simp only [settleBody_eq_map, nonempty_map isEmpty_settle]

/-! ## Chains -/

/-- The condition of a block or a list that has one. -/
def condition? (sketch : Sketch) : Option Condition := sketch.inlining?.join

/-- The node that a condition is asked about. Its children are decided, and it has the decision
that it would have without a condition. -/
def undecided : Sketch → Decided
  | .line text => .line text
  | .block start body close connect _ =>
    .block start (settleBody body) close connect (soleDecision (settleBody body))
  | .list separator body trailing _ =>
    .list separator (settleBody body) trailing (soleDecision (nonempty (settleBody body)))
  | .concat body => .concat (settleBody body)
  | .foreign kind => .foreign kind

/-- A node with a condition answers what the condition says. -/
theorem answer_of_condition {node : Sketch} {condition : Condition}
    (own : node.condition? = some condition) : node.answer = condition node.undecided := by
  cases node with
  | line text => cases own
  | block start body close connect inlining => cases own; rfl
  | list separator body trailing inlining => cases own; rfl
  | concat body => cases own
  | foreign kind => cases own

/-- A node without a condition asks the only node that it may follow: a block its only child,
and a list its only item that is not empty. -/
inductive Asks : Sketch → Sketch → Prop where
  | child (start close : String) (connect : Bool) (only : Sketch) :
      Asks (.block start [only] close connect none) only
  | item (separator : String) (trailing : Trailing) {body : List Sketch} {only : Sketch}
      (sole : nonempty body = [only]) : Asks (.list separator body trailing none) only

theorem answer_list (separator : String) (body : List Sketch) (trailing : Trailing) :
    answer (.list separator body trailing none) = soleDecision (settleBody (nonempty body)) := by
  rw [← nonempty_settleBody]
  rfl

/-- What a node answers that asks another one is the answer of that one. -/
theorem Asks.answer_eq {node next : Sketch} (asks : Asks node next) :
    node.answer = next.answer := by
  cases asks with
  | child start close connect => rfl
  | item separator trailing sole =>
    rw [answer_list, sole]
    rfl

/-- All nodes of a chain answer what the last one does. -/
theorem answer_of_chain {node last : Sketch} (chain : Relation.ReflTransGen Asks node last) :
    node.answer = last.answer := by
  induction chain with
  | refl => rfl
  | tail _ asks ih => exact ih.trans asks.answer_eq

/-- Only a body with a single node in it may have a decision that holds. -/
theorem exists_sole {body : List Sketch} (holds : soleDecision (settleBody body) = .ok true) :
    ∃ only, body = [only] ∧ only.answer = .ok true := by
  rcases body with _ | ⟨only, _ | ⟨second, others⟩⟩
  · cases holds
  · exact ⟨only, rfl, holds⟩
  · cases holds

mutual

/-- **Behind every node that goes on a single line there is a condition.** It belongs to the node
at the end of the chain of nodes that ask the next one. -/
theorem exists_chain : ∀ node : Sketch, node.answer = .ok true →
    ∃ last condition, Relation.ReflTransGen Asks node last ∧ last.condition? = some condition ∧
      condition last.undecided = .ok true
  | .line _, inlines => by cases inlines
  | .block start body close connect (some condition), inlines =>
    ⟨_, condition, .refl, rfl, inlines⟩
  | .block start body close connect none, inlines => by
    obtain ⟨only, sole, inside⟩ := exists_sole inlines
    obtain ⟨last, condition, chain, own⟩ :=
      exists_chain_of_mem body only (sole ▸ List.mem_singleton_self only) inside
    subst sole
    exact ⟨last, condition, .head (.child start close connect only) chain, own⟩
  | .list separator body trailing (some condition), inlines =>
    ⟨_, condition, .refl, rfl, inlines⟩
  | .list separator body trailing none, inlines => by
    rw [answer_list] at inlines
    obtain ⟨only, sole, inside⟩ := exists_sole inlines
    have item : only ∈ nonempty body := sole ▸ List.mem_singleton_self only
    obtain ⟨last, condition, chain, own⟩ :=
      exists_chain_of_mem body only (List.mem_filter.mp item).1 inside
    exact ⟨last, condition, .head (.item separator trailing sole) chain, own⟩
  | .concat _, inlines => by cases inlines
  | .foreign _, inlines => by cases inlines

theorem exists_chain_of_mem : ∀ body : List Sketch, ∀ node ∈ body, node.answer = .ok true →
    ∃ last condition, Relation.ReflTransGen Asks node last ∧ last.condition? = some condition ∧
      condition last.undecided = .ok true
  | [], _, inside, _ => nomatch inside
  | first :: rest, node, inside, inlines => by
    rcases List.mem_cons.mp inside with here | later
    · rw [here] at inlines ⊢
      exact exists_chain first inlines
    · exact exists_chain_of_mem rest node later inlines

end

/-! ## Fragments without conditions -/

theorem self_mem_nodes {δ : Type} (fragment : Fragment δ) : fragment ∈ fragment.nodes := by
  cases fragment <;> exact List.mem_cons_self ..

theorem mem_bodyNodes {δ : Type} {child : Fragment δ} : ∀ {body : List (Fragment δ)},
    child ∈ body → child ∈ bodyNodes body
  | first :: rest, inside => by
    rcases List.mem_cons.mp inside with rfl | later
    · exact List.mem_append_left _ (self_mem_nodes child)
    · exact List.mem_append_right _ (mem_bodyNodes later)

/-- What holds of a refusal and of the answers of all children of a body holds of what these
decide for their node. -/
theorem soleDecision_of_answers (holds : Decision → Prop) (refusal : holds (.ok false))
    {body : List Sketch} (answers : ∀ node ∈ body, holds node.answer) :
    holds (soleDecision (settleBody body)) := by
  rcases body with _ | ⟨only, _ | ⟨second, others⟩⟩
  · exact refusal
  · exact answers only (List.mem_singleton_self only)
  · exact refusal

mutual

/-- **Every answer comes from a condition or is a refusal.** So what holds of a refusal and of
what the conditions say about their own nodes holds of the answers of all nodes. -/
theorem answers_of_conditions (holds : Decision → Prop) (refusal : holds (.ok false)) :
    ∀ tree : Sketch, (∀ node ∈ tree.nodes, ∀ condition, node.condition? = some condition →
      holds (condition node.undecided)) → ∀ node ∈ tree.nodes, holds node.answer
  | .line _, _, node, inside => by
    rw [List.mem_singleton.mp inside]
    exact refusal
  | .block start body close connect condition, asked, node, inside => by
    have below := bodyAnswers_of_conditions holds refusal body fun other deeper =>
      asked other (List.mem_cons_of_mem _ deeper)
    rcases List.mem_cons.mp inside with rfl | deeper
    · cases condition with
      | none =>
        exact soleDecision_of_answers holds refusal fun child here =>
          below child (mem_bodyNodes here)
      | some condition => exact asked _ (self_mem_nodes _) condition rfl
    · exact below node deeper
  | .list separator body trailing condition, asked, node, inside => by
    have below := bodyAnswers_of_conditions holds refusal body fun other deeper =>
      asked other (List.mem_cons_of_mem _ deeper)
    rcases List.mem_cons.mp inside with rfl | deeper
    · cases condition with
      | none =>
        rw [answer_list]
        exact soleDecision_of_answers holds refusal fun child here =>
          below child (mem_bodyNodes (List.mem_filter.mp here).1)
      | some condition => exact asked _ (self_mem_nodes _) condition rfl
    · exact below node deeper
  | .concat body, asked, node, inside => by
    rcases List.mem_cons.mp inside with rfl | deeper
    · exact refusal
    · exact bodyAnswers_of_conditions holds refusal body
        (fun other deeper => asked other (List.mem_cons_of_mem _ deeper)) node deeper
  | .foreign _, _, node, inside => by
    rw [List.mem_singleton.mp inside]
    exact refusal

theorem bodyAnswers_of_conditions (holds : Decision → Prop) (refusal : holds (.ok false)) :
    ∀ body : List Sketch, (∀ node ∈ bodyNodes body, ∀ condition,
      node.condition? = some condition → holds (condition node.undecided)) →
        ∀ node ∈ bodyNodes body, holds node.answer
  | [], _, _, inside => nomatch inside
  | first :: rest, asked, node, inside => by
    rcases List.mem_append.mp inside with here | later
    · exact answers_of_conditions holds refusal first
        (fun other within => asked other (List.mem_append_left _ within)) node here
    · exact bodyAnswers_of_conditions holds refusal rest
        (fun other within => asked other (List.mem_append_right _ within)) node later

end

/-- **Without conditions no node goes on a single line.** -/
theorem refused_of_unconditional (tree : Sketch)
    (free : ∀ condition ∈ tree.inlinings, condition = none) :
    ∀ node ∈ tree.nodes, node.answer = .ok false := by
  refine answers_of_conditions (· = .ok false) rfl tree fun node inside condition own => ?_
  have said : some condition ∈ tree.inlinings :=
    List.mem_filterMap.mpr ⟨node, inside, Option.join_eq_some_iff.mp own⟩
  cases free _ said

/-! ## Texts on lines of their own -/

section Unjoined

variable {δ : Type}

mutual

/-- Whether a fragment consists of lines, concatenations and blocks that do not connect. -/
def unjoined : Fragment δ → Bool
  | .line _ => true
  | .block _ body _ connect _ => !connect && allUnjoined body
  | .list _ _ _ _ => false
  | .concat body => allUnjoined body
  | .foreign _ => false

/-- Whether all fragments of a body do. -/
def allUnjoined : List (Fragment δ) → Bool
  | [] => true
  | first :: rest => unjoined first && allUnjoined rest

end

end Unjoined

mutual

/-- **Where nothing joins and nothing goes on a single line, every text has a line of its own.**
So the size hint is the number of lines. -/
theorem growth_of_unjoined : ∀ (tree : Sketch), tree.unjoined = true →
    (∀ condition ∈ tree.inlinings, condition = none) →
      tree.settle.regular = true ∧
        ∀ occupied : Bool, tree.settle.growth false occupied = tree.sizeHint
  | .line _, _, _ => ⟨rfl, fun _ => rfl⟩
  | .block start body close connect condition, apart, free => by
    simp only [unjoined, Bool.and_eq_true, Bool.not_eq_true'] at apart
    obtain ⟨rfl, bodies⟩ := apart
    obtain ⟨regular, children, -⟩ := growth_of_allUnjoined body bodies fun other said =>
      free other (List.mem_cons_of_mem _ said)
    obtain rfl := free condition (List.mem_cons_self ..)
    have refused : soleDecision (settleBody body) = .ok false :=
      refused_of_unconditional (.block start body close false none) free _ (self_mem_nodes _)
    have settled : settle (.block start body close false none) =
        .block start (settleBody body) close false (.ok false) := by
      rw [settle, decisionUnder, intrinsicDecision, refused]
    rw [settled]
    refine ⟨regular, fun occupied => ?_⟩
    simp only [growth, Bool.false_or, Bool.false_and, Bool.false_eq_true, if_false,
      Decision.holds_ok, children, sizeHint]
    omega
  | .list _ _ _ _, apart, _ => by cases apart
  | .concat body, apart, free => by
    obtain ⟨regular, -, sequence⟩ := growth_of_allUnjoined body apart free
    exact ⟨regular, sequence⟩
  | .foreign _, apart, _ => by cases apart

theorem growth_of_allUnjoined : ∀ (body : List Sketch), allUnjoined body = true →
    (∀ condition ∈ bodyInlinings body, condition = none) →
      allRegular (settleBody body) = true ∧
        growthAll (settleBody body) false = bodySizeHint body ∧
        ∀ occupied : Bool, growthSequence (settleBody body) false occupied = bodySizeHint body
  | [], _, _ => ⟨rfl, rfl, fun _ => rfl⟩
  | first :: rest, apart, free => by
    rw [allUnjoined, Bool.and_eq_true] at apart
    rw [bodyInlinings_cons] at free
    obtain ⟨regular, own⟩ := growth_of_unjoined first apart.1 fun condition said =>
      free condition (List.mem_append_left _ said)
    obtain ⟨regulars, children, sequence⟩ := growth_of_allUnjoined rest apart.2
      fun condition said => free condition (List.mem_append_right _ said)
    simp only [settleBody, allRegular, growthAll, growthSequence, bodySizeHint, regular, regulars,
      own, children, sequence]
    exact ⟨rfl, trivial, fun _ => trivial⟩

end

/-- A fragment that has a layout renders to as many lines as it adds to an empty buffer. -/
theorem exists_renderLines (format : Format) {fragment : Decided}
    (made : fragment.regular = true) :
    ∃ lines, fragment.renderLines format = .ok lines ∧ lines.length = fragment.growth false false := by
  have lines := length_renderInto format fragment [] false "" made
  rw [List.length_nil, Nat.zero_add] at lines
  refine ⟨_, renderLines_eq_ok.mpr (Prod.ext rfl ?_), lines⟩
  rw [renderInto_of_regular format fragment [] false "" made]

/-- **Going on a single line is only ever handed on.** A node without a condition goes on a
single line exactly when it is the first of a chain in which every node but the last has no
condition and asks the next one, and the last node has a condition that says so. So without
conditions no node does. And then a fragment of lines, concatenations and blocks that do not
connect has as many lines as its size hint says. -/
theorem inlines_iff_chain :
    (∀ node : Sketch, node.condition? = none →
      (node.answer = .ok true ↔ ∃ last condition, Relation.ReflTransGen Asks node last ∧
        last.condition? = some condition ∧ condition last.undecided = .ok true)) ∧
    ∀ tree : Sketch, (∀ condition ∈ tree.inlinings, condition = none) →
      (∀ node ∈ tree.nodes, node.answer = .ok false) ∧
        (tree.unjoined = true → ∀ format : Format, ∃ lines,
          tree.settle.renderLines format = .ok lines ∧ lines.length = tree.sizeHint) := by
  refine ⟨fun node _ => ⟨exists_chain node, ?_⟩, fun tree free => ⟨?_, fun apart format => ?_⟩⟩
  · rintro ⟨last, condition, chain, own, holds⟩
    rw [answer_of_chain chain, answer_of_condition own, holds]
  · exact refused_of_unconditional tree free
  · obtain ⟨regular, grown⟩ := growth_of_unjoined tree apart free
    obtain ⟨lines, rendered, count⟩ := exists_renderLines format regular
    exact ⟨lines, rendered, count.trans (grown false)⟩

/-- A block follows a list, which follows its only item that is not empty. And a fragment without
conditions, in which no node goes on a single line. -/
theorem inlines_iff_chain_list :
    let call : Sketch := .block "g(" [.line "a", .line "b"] ")" false (some Condition.always)
    let items : Sketch := .list "," [.concat [], call] .never none
    let node : Sketch := .block "f(" [items] ")" false none
    let tree : Sketch :=
      .concat [.block "(" [.line "a", .block "[" [] "]" false none] ")" false none, .line ""]
    node.condition? = none ∧ node.answer = .ok true ∧
      (∀ condition ∈ tree.inlinings, condition = none) ∧ tree.unjoined = true ∧
      ∃ lines, tree.settle.renderLines Format.tabs = .ok lines ∧ lines.length = 6 := by
  intro call items node tree
  have chain : Relation.ReflTransGen Asks node call :=
    .head (.child "f(" ")" false items) (.head (.item "," .never rfl) .refl)
  have free : ∀ condition ∈ tree.inlinings, condition = none := by
    intro condition said
    rcases List.mem_cons.mp said with rfl | said
    · rfl
    · exact List.mem_singleton.mp said
  obtain ⟨follows, unconditional⟩ := inlines_iff_chain
  exact ⟨rfl, (follows node rfl).mpr ⟨call, Condition.always, chain, rfl, rfl⟩, free, rfl,
    (unconditional tree free).2 rfl Format.tabs⟩

end Fragment

end CodeLayout
