import CodeLayout.Proofs.FragmentContext
import Mathlib.Logic.Relation

/-!
# Concatenations inside concatenations

A concatenation that stands directly inside another one can be spliced: its fragments take
its place. This can be done until none is left, in any order, and always ends with the same
fragment (`Fragment.spliced`).

Splicing keeps what other nodes see of a concatenation, which is whether it is empty and its
size hint. So no decision changes, unless a condition looks deeper (`SeesOutside`). And it
keeps the layout. Only the first fragment of a concatenation may connect, and the first
fragment of the first one is still the first, if there is one. This is why no concatenation
may begin with one that has no fragments (`Fragment.opensFilled`): without it, the wish to
connect would go to the next fragment.

Main statement: `Fragment.renderInto_spliced`.
-/

set_option autoImplicit false

namespace CodeLayout

namespace Fragment

/-! ## Splicing -/

section Splicing

variable {δ : Type}

/-- What a fragment is among those of a concatenation: the fragments of another concatenation, or
itself. -/
def parts : Fragment δ → List (Fragment δ)
  | .line text => [.line text]
  | .block start body close connect inlining => [.block start body close connect inlining]
  | .list separator body trailing inlining => [.list separator body trailing inlining]
  | .concat body => body
  | .foreign kind => [.foreign kind]

mutual

/-- A fragment with all concatenations spliced that stand directly inside another one. -/
def spliced : Fragment δ → Fragment δ
  | .line text => .line text
  | .block start body close connect inlining =>
    .block start (allSpliced body) close connect inlining
  | .list separator body trailing inlining => .list separator (allSpliced body) trailing inlining
  | .concat body => .concat (splicedSequence body)
  | .foreign kind => .foreign kind

/-- The children of a block or of a list, each spliced. -/
def allSpliced : List (Fragment δ) → List (Fragment δ)
  | [] => []
  | first :: rest => spliced first :: allSpliced rest

/-- The fragments of a concatenation and of those inside it. -/
def splicedSequence : List (Fragment δ) → List (Fragment δ)
  | [] => []
  | first :: rest => parts (spliced first) ++ splicedSequence rest

end

/-- One concatenation that stands directly inside another one, at any place of a fragment, is
replaced by its fragments. -/
inductive Splice : Fragment δ → Fragment δ → Prop where
  | splice (context : Context δ) (before inner after : List (Fragment δ)) :
      Splice (context.fill (.concat (before ++ .concat inner :: after)))
        (context.fill (.concat (before ++ (inner ++ after))))

/-- Whether a fragment is a concatenation. -/
def isConcat : Fragment δ → Bool
  | .line _ => false
  | .block _ _ _ _ _ => false
  | .list _ _ _ _ => false
  | .concat _ => true
  | .foreign _ => false

mutual

/-- Whether no concatenation stands directly inside another one. -/
def flat : Fragment δ → Bool
  | .line _ => true
  | .block _ body _ _ _ => allFlat body
  | .list _ body _ _ => allFlat body
  | .concat body => !body.any isConcat && allFlat body
  | .foreign _ => true

/-- Whether this holds of every fragment of a body. -/
def allFlat : List (Fragment δ) → Bool
  | [] => true
  | first :: rest => flat first && allFlat rest

end

theorem allSpliced_eq_map (body : List (Fragment δ)) : allSpliced body = body.map spliced := by
  induction body with
  | nil => rfl
  | cons first rest ih => rw [allSpliced, ih, List.map_cons]

theorem allSpliced_append (first second : List (Fragment δ)) :
    allSpliced (first ++ second) = allSpliced first ++ allSpliced second := by
  simp only [allSpliced_eq_map, List.map_append]

theorem splicedSequence_append (first second : List (Fragment δ)) :
    splicedSequence (first ++ second) = splicedSequence first ++ splicedSequence second := by
  induction first with
  | nil => rfl
  | cons child rest ih => simp only [List.cons_append, splicedSequence, ih, List.append_assoc]

/-! ### Splicing ends in one way -/

/-- What is spliced around a hole depends on what is spliced in it only. -/
theorem spliced_fill {child other : Fragment δ} (same : other.spliced = child.spliced) :
    ∀ context : Context δ, (context.fill other).spliced = (context.fill child).spliced
  | [] => same
  | layer :: inner => by
    have within := spliced_fill same inner
    cases layer with
    | block start before after close connect inlining =>
      simp only [Context.fill, Layer.fill, spliced, allSpliced_append, allSpliced, within]
    | list separator before after trailing inlining =>
      simp only [Context.fill, Layer.fill, spliced, allSpliced_append, allSpliced, within]
    | concat before after =>
      simp only [Context.fill, Layer.fill, spliced, splicedSequence_append, splicedSequence,
        within]

theorem Splice.spliced_eq {fragment next : Fragment δ} (splice : Splice fragment next) :
    next.spliced = fragment.spliced := by
  cases splice with
  | splice context before inner after =>
    refine spliced_fill ?_ context
    simp only [spliced, splicedSequence_append, splicedSequence, parts]

theorem spliced_of_splices {fragment last : Fragment δ}
    (splices : Relation.ReflTransGen Splice fragment last) : last.spliced = fragment.spliced := by
  induction splices with
  | refl => rfl
  | tail _ splice ih => exact splice.spliced_eq.trans ih

mutual

/-- Where nothing is left to splice, nothing changes. -/
theorem spliced_of_flat : ∀ fragment : Fragment δ, fragment.flat = true →
    fragment.spliced = fragment
  | .line _, _ => rfl
  | .block _ body _ _ _, level => by rw [spliced, allSpliced_of_allFlat body level]
  | .list _ body _ _, level => by rw [spliced, allSpliced_of_allFlat body level]
  | .concat body, level => by
    rw [flat, Bool.and_eq_true] at level
    rw [spliced, splicedSequence_of_allFlat body level.1 level.2]
  | .foreign _, _ => rfl

theorem allSpliced_of_allFlat : ∀ body : List (Fragment δ), allFlat body = true →
    allSpliced body = body
  | [], _ => rfl
  | first :: rest, level => by
    rw [allFlat, Bool.and_eq_true] at level
    rw [allSpliced, spliced_of_flat first level.1, allSpliced_of_allFlat rest level.2]

theorem splicedSequence_of_allFlat : ∀ body : List (Fragment δ), (!body.any isConcat) = true →
    allFlat body = true → splicedSequence body = body
  | [], _, _ => rfl
  | first :: rest, single, level => by
    rw [allFlat, Bool.and_eq_true] at level
    rw [List.any_cons, Bool.not_or, Bool.and_eq_true] at single
    rw [splicedSequence, spliced_of_flat first level.1,
      splicedSequence_of_allFlat rest single.2 level.2]
    cases first with
    | concat body => cases single.1
    | line text => rfl
    | block start body close connect inlining => rfl
    | list separator body trailing inlining => rfl
    | foreign kind => rfl

end

/-- A splice inside a layer. -/
theorem Splice.fill {child next : Fragment δ} (splice : Splice child next) (layer : Layer δ) :
    Splice (layer.fill child) (layer.fill next) := by
  cases splice with
  | splice context before inner after => exact .splice (layer :: context) before inner after

mutual

/-- Where something is left, there is a splice. -/
theorem exists_splice : ∀ fragment : Fragment δ, fragment.flat = false →
    ∃ next, Splice fragment next
  | .line _, level => by cases level
  | .block start body close connect inlining, level => by
    obtain ⟨before, child, next, after, rfl, splice⟩ := exists_splice_of_body body level
    exact ⟨_, splice.fill (.block start before after close connect inlining)⟩
  | .list separator body trailing inlining, level => by
    obtain ⟨before, child, next, after, rfl, splice⟩ := exists_splice_of_body body level
    exact ⟨_, splice.fill (.list separator before after trailing inlining)⟩
  | .concat body, level => by
    by_cases nested : body.any isConcat = true
    · obtain ⟨child, inside, concat⟩ := List.any_eq_true.mp nested
      obtain ⟨before, after, rfl⟩ := List.append_of_mem inside
      cases child with
      | concat inner => exact ⟨_, .splice [] before inner after⟩
      | line text => cases concat
      | block start body close connect inlining => cases concat
      | list separator body trailing inlining => cases concat
      | foreign kind => cases concat
    · rw [Bool.not_eq_true] at nested
      rw [flat, nested, Bool.not_false, Bool.true_and] at level
      obtain ⟨before, child, next, after, rfl, splice⟩ := exists_splice_of_body body level
      exact ⟨_, splice.fill (.concat before after)⟩
  | .foreign _, level => by cases level

theorem exists_splice_of_body : ∀ body : List (Fragment δ), allFlat body = false →
    ∃ before child next after, body = before ++ child :: after ∧ Splice child next
  | [], level => by cases level
  | first :: rest, level => by
    cases own : first.flat with
    | false =>
      obtain ⟨next, splice⟩ := exists_splice first own
      exact ⟨[], first, next, rest, rfl, splice⟩
    | true =>
      rw [allFlat, own, Bool.true_and] at level
      obtain ⟨before, child, next, after, split, splice⟩ := exists_splice_of_body rest level
      exact ⟨first :: before, child, next, after, congrArg (first :: ·) split, splice⟩

end

theorem count_fill_lt {child other : Fragment δ} (fewer : other.count < child.count) :
    ∀ context : Context δ, (context.fill other).count < (context.fill child).count
  | [] => fewer
  | layer :: inner => by
    have within := count_fill_lt fewer inner
    cases layer <;> simp only [Context.fill, Layer.fill, count, bodyCount_append, bodyCount] <;>
      omega

/-- Every splice leaves fewer nodes. -/
theorem Splice.count_lt {fragment next : Fragment δ} (splice : Splice fragment next) :
    next.count < fragment.count := by
  cases splice with
  | splice context before inner after =>
    refine count_fill_lt ?_ context
    simp only [count, bodyCount_append, bodyCount]
    omega

/-- Splicing ends. -/
theorem exists_flat (fragment : Fragment δ) :
    ∃ last, Relation.ReflTransGen Splice fragment last ∧ last.flat = true := by
  induction size : fragment.count using Nat.strongRecOn generalizing fragment with
  | ind nodes ih =>
    cases level : fragment.flat with
    | true => exact ⟨fragment, .refl, level⟩
    | false =>
      obtain ⟨next, splice⟩ := exists_splice fragment level
      obtain ⟨last, splices, done⟩ := ih next.count (size ▸ splice.count_lt) next rfl
      exact ⟨last, .head splice splices, done⟩

/-- When nothing is left to splice, everything is spliced. -/
theorem eq_spliced {fragment last : Fragment δ}
    (splices : Relation.ReflTransGen Splice fragment last) (done : last.flat = true) :
    last = fragment.spliced := by
  rw [← spliced_of_splices splices, spliced_of_flat last done]

/-! ## What splicing keeps -/

theorem allEmpty_parts (fragment : Fragment δ) : allEmpty fragment.parts = fragment.isEmpty := by
  cases fragment with
  | concat body => rfl
  | line text => rfl
  | block start body close connect inlining => rfl
  | list separator body trailing inlining => exact Bool.and_true _
  | foreign kind => rfl

mutual

/-- A fragment is empty as it was before. -/
theorem isEmpty_spliced : ∀ fragment : Fragment δ, fragment.spliced.isEmpty = fragment.isEmpty
  | .line _ => rfl
  | .block _ _ _ _ _ => rfl
  | .list _ body _ _ => allEmpty_allSpliced body
  | .concat body => allEmpty_splicedSequence body
  | .foreign _ => rfl

theorem allEmpty_allSpliced : ∀ body : List (Fragment δ),
    allEmpty (allSpliced body) = allEmpty body
  | [] => rfl
  | first :: rest => by
    rw [allSpliced, allEmpty, isEmpty_spliced first, allEmpty_allSpliced rest, allEmpty]

theorem allEmpty_splicedSequence : ∀ body : List (Fragment δ),
    allEmpty (splicedSequence body) = allEmpty body
  | [] => rfl
  | first :: rest => by
    rw [splicedSequence, allEmpty_append, allEmpty_parts, isEmpty_spliced first,
      allEmpty_splicedSequence rest, allEmpty]

end

theorem nonempty_allSpliced (body : List (Fragment δ)) :
    nonempty (allSpliced body) = allSpliced (nonempty body) := by
  simp only [allSpliced_eq_map, nonempty_map isEmpty_spliced]

theorem bodySizeHint_parts (fragment : Fragment δ) :
    bodySizeHint fragment.parts = fragment.sizeHint := by
  cases fragment <;> rfl

mutual

/-- A fragment has the size hint it had before. -/
theorem sizeHint_spliced : ∀ fragment : Fragment δ,
    fragment.spliced.sizeHint = fragment.sizeHint
  | .line _ => rfl
  | .block _ body _ _ _ => congrArg (· + 2) (bodySizeHint_allSpliced body)
  | .list _ body _ _ => bodySizeHint_allSpliced body
  | .concat body => bodySizeHint_splicedSequence body
  | .foreign _ => rfl

theorem bodySizeHint_allSpliced : ∀ body : List (Fragment δ),
    bodySizeHint (allSpliced body) = bodySizeHint body
  | [] => rfl
  | first :: rest => by
    rw [allSpliced, bodySizeHint, sizeHint_spliced first, bodySizeHint_allSpliced rest,
      bodySizeHint]

theorem bodySizeHint_splicedSequence : ∀ body : List (Fragment δ),
    bodySizeHint (splicedSequence body) = bodySizeHint body
  | [] => rfl
  | first :: rest => by
    rw [splicedSequence, bodySizeHint_append, bodySizeHint_parts, sizeHint_spliced first,
      bodySizeHint_splicedSequence rest, bodySizeHint]

end

theorem bodyInlinings_parts (fragment : Fragment δ) :
    bodyInlinings fragment.parts = fragment.inlinings := by
  cases fragment with
  | concat body => rfl
  | line text => rfl
  | block start body close connect inlining =>
    rw [parts, bodyInlinings_cons, bodyInlinings_nil, List.append_nil]
  | list separator body trailing inlining =>
    rw [parts, bodyInlinings_cons, bodyInlinings_nil, List.append_nil]
  | foreign kind => rfl

mutual

/-- The blocks and lists of a fragment are kept, in their order. -/
theorem inlinings_spliced : ∀ fragment : Fragment δ,
    fragment.spliced.inlinings = fragment.inlinings
  | .line _ => rfl
  | .block _ body _ _ inlining => congrArg (inlining :: ·) (bodyInlinings_allSpliced body)
  | .list _ body _ inlining => congrArg (inlining :: ·) (bodyInlinings_allSpliced body)
  | .concat body => bodyInlinings_splicedSequence body
  | .foreign _ => rfl

theorem bodyInlinings_allSpliced : ∀ body : List (Fragment δ),
    bodyInlinings (allSpliced body) = bodyInlinings body
  | [] => rfl
  | first :: rest => by
    rw [allSpliced, bodyInlinings_cons, inlinings_spliced first, bodyInlinings_allSpliced rest,
      bodyInlinings_cons]

theorem bodyInlinings_splicedSequence : ∀ body : List (Fragment δ),
    bodyInlinings (splicedSequence body) = bodyInlinings body
  | [] => rfl
  | first :: rest => by
    rw [splicedSequence, bodyInlinings_append, bodyInlinings_parts, inlinings_spliced first,
      bodyInlinings_splicedSequence rest, bodyInlinings_cons]

end

end Splicing

/-! ## Conditions that do not look into concatenations -/

mutual

/-- Two fragments that differ only inside concatenations, and there neither in being empty nor in
the size hint. A concatenation never goes on a single line, so its decision is no difference. -/
inductive Resembles : Decided → Decided → Prop where
  | line (text : String) : Resembles (.line text) (.line text)
  | block (start close : String) (connect : Bool) (inlining : Decision)
      {body body' : List Decided} (bodies : AllResemble body body') :
      Resembles (.block start body close connect inlining)
        (.block start body' close connect inlining)
  | list (separator : String) (trailing : Trailing) (inlining : Decision)
      {body body' : List Decided} (bodies : AllResemble body body') :
      Resembles (.list separator body trailing inlining) (.list separator body' trailing inlining)
  | concat {body body' : List Decided} (empty : allEmpty body' = allEmpty body)
      (size : bodySizeHint body' = bodySizeHint body) : Resembles (.concat body) (.concat body')
  | foreign (kind : String) : Resembles (.foreign kind) (.foreign kind)

/-- The same for two bodies, child by child. -/
inductive AllResemble : List Decided → List Decided → Prop where
  | nil : AllResemble [] []
  | cons {first first' : Decided} {rest rest' : List Decided} (heads : Resembles first first')
      (tails : AllResemble rest rest') : AllResemble (first :: rest) (first' :: rest')

end

mutual

theorem isEmpty_of_resembles : ∀ {node other : Decided}, Resembles node other →
    other.isEmpty = node.isEmpty
  | .line _, _, .line _ => rfl
  | .block _ _ _ _ _, _, .block _ _ _ _ _ => rfl
  | .list _ _ _ _, _, .list _ _ _ bodies => allEmpty_of_allResemble bodies
  | .concat _, _, .concat empty _ => empty
  | .foreign _, _, .foreign _ => rfl

theorem allEmpty_of_allResemble : ∀ {body body' : List Decided}, AllResemble body body' →
    allEmpty body' = allEmpty body
  | [], _, .nil => rfl
  | _ :: _, _, .cons heads tails => by
    rw [allEmpty, isEmpty_of_resembles heads, allEmpty_of_allResemble tails, allEmpty]

end

theorem length_nonempty_of_allResemble {body body' : List Decided}
    (bodies : AllResemble body body') : (nonempty body').length = (nonempty body).length := by
  induction body generalizing body' with
  | nil =>
    cases bodies
    rfl
  | cons first rest ih =>
    cases bodies with
    | cons heads tails =>
      have empty := isEmpty_of_resembles heads
      rw [nonempty, nonempty, List.filter_cons, List.filter_cons, empty]
      cases first.isEmpty with
      | true => exact ih tails
      | false => exact congrArg (· + 1) (ih tails)

mutual

/-- A spliced fragment differs only inside concatenations. -/
theorem resembles_spliced : ∀ node : Decided, Resembles node node.spliced
  | .line text => .line text
  | .block start body close connect inlining =>
    .block start close connect inlining (allResemble_allSpliced body)
  | .list separator body trailing inlining =>
    .list separator trailing inlining (allResemble_allSpliced body)
  | .concat body => .concat (allEmpty_splicedSequence body) (bodySizeHint_splicedSequence body)
  | .foreign kind => .foreign kind

theorem allResemble_allSpliced : ∀ body : List Decided, AllResemble body (allSpliced body)
  | [] => .nil
  | first :: rest => .cons (resembles_spliced first) (allResemble_allSpliced rest)

end

/-- A condition of blocks and lists that sees of a concatenation below them only whether it is
empty, its size hint and its decision. -/
structure SeesOutside (condition : Condition) : Prop where
  /-- It decides about blocks in this way. -/
  block : ∀ (start close : String) (connect : Bool) (inlining : Decision)
    {body body' : List Decided}, AllResemble body body' →
      condition (.block start body' close connect inlining) =
        condition (.block start body close connect inlining)
  /-- It decides about lists in this way. -/
  list : ∀ (separator : String) (trailing : Trailing) (inlining : Decision)
    {body body' : List Decided}, AllResemble body body' →
      condition (.list separator body' trailing inlining) =
        condition (.list separator body trailing inlining)

/-- No condition of a sketch looks into concatenations. -/
def ConcatBlind (sketch : Sketch) : Prop :=
  ∀ condition, some condition ∈ sketch.inlinings → SeesOutside condition

/-- The conditions of the modes do not look into concatenations. -/
theorem seesOutside_mode {mode : InlineMode} {condition : Condition}
    (same : mode.condition = some condition) : SeesOutside condition := by
  cases mode with
  | auto => cases same
  | always => cases same; exact ⟨fun _ _ _ _ => fun _ => rfl, fun _ _ _ => fun _ => rfl⟩
  | never => cases same; exact ⟨fun _ _ _ _ => fun _ => rfl, fun _ _ _ => fun _ => rfl⟩
  | maxItems limit =>
    cases same
    have counts : ∀ {node other : Decided}, AllResemble node.children other.children →
        Condition.nonemptyAtMost limit other = Condition.nonemptyAtMost limit node := by
      intro node other bodies
      rw [Condition.nonemptyAtMost, Condition.nonemptyAtMost,
        length_nonempty_of_allResemble bodies]
    exact ⟨fun _ _ _ _ => fun bodies => counts bodies, fun _ _ _ => fun bodies => counts bodies⟩

/-- No tree of a document looks into concatenations. -/
theorem concatBlind_sketch (tree : DocumentTree) : ConcatBlind tree.sketch := by
  intro condition said
  obtain ⟨mode, same⟩ := exists_mode said
  exact seesOutside_mode same

/-! ### Decisions of spliced fragments -/

theorem decision_spliced (node : Decided) : node.spliced.decision = node.decision := by
  cases node <;> rfl

theorem soleDecision_allSpliced (body : List Decided) :
    soleDecision (allSpliced body) = soleDecision body := by
  rw [allSpliced_eq_map, soleDecision_map decision_spliced]

theorem settleBody_parts (sketch : Sketch) : settleBody sketch.parts = sketch.settle.parts := by
  cases sketch <;> rfl

mutual

/-- **Splicing changes no decision.** -/
theorem settle_spliced : ∀ sketch : Sketch, ConcatBlind sketch →
    sketch.spliced.settle = sketch.settle.spliced
  | .line _, _ => rfl
  | .block start body close connect condition, blind => by
    have bodies := settleBody_allSpliced body fun asked said =>
      blind asked (List.mem_cons_of_mem _ said)
    have sole := soleDecision_allSpliced (settleBody body)
    rw [spliced, settle, bodies, sole, settle, spliced]
    refine congrArg (Fragment.block start (allSpliced (settleBody body)) close connect) ?_
    cases condition with
    | none => exact sole
    | some asked =>
      exact (blind asked (List.mem_cons_self ..)).block _ _ _ _ (allResemble_allSpliced _)
  | .list separator body trailing condition, blind => by
    have bodies := settleBody_allSpliced body fun asked said =>
      blind asked (List.mem_cons_of_mem _ said)
    have sole : soleDecision (nonempty (allSpliced (settleBody body))) =
        soleDecision (nonempty (settleBody body)) := by
      rw [nonempty_allSpliced, soleDecision_allSpliced]
    rw [spliced, settle, bodies, sole, settle, spliced]
    refine congrArg (Fragment.list separator (allSpliced (settleBody body)) trailing) ?_
    cases condition with
    | none => exact sole
    | some asked =>
      exact (blind asked (List.mem_cons_self ..)).list _ _ _ (allResemble_allSpliced _)
  | .concat body, blind => congrArg Fragment.concat (settleBody_splicedSequence body blind)
  | .foreign _, _ => rfl

theorem settleBody_allSpliced : ∀ body : List Sketch,
    (∀ condition, some condition ∈ bodyInlinings body → SeesOutside condition) →
      settleBody (allSpliced body) = allSpliced (settleBody body)
  | [], _ => rfl
  | first :: rest, blind => by
    rw [bodyInlinings_cons] at blind
    rw [allSpliced, settleBody,
      settle_spliced first fun asked said => blind asked (List.mem_append_left _ said),
      settleBody_allSpliced rest fun asked said => blind asked (List.mem_append_right _ said),
      settleBody, allSpliced]

theorem settleBody_splicedSequence : ∀ body : List Sketch,
    (∀ condition, some condition ∈ bodyInlinings body → SeesOutside condition) →
      settleBody (splicedSequence body) = splicedSequence (settleBody body)
  | [], _ => rfl
  | first :: rest, blind => by
    rw [bodyInlinings_cons] at blind
    rw [splicedSequence, settleBody_append, settleBody_parts,
      settle_spliced first fun asked said => blind asked (List.mem_append_left _ said),
      settleBody_splicedSequence rest fun asked said =>
        blind asked (List.mem_append_right _ said),
      settleBody, splicedSequence]

end

/-! ## The first fragment of a concatenation -/

section Opening

variable {δ : Type}

/-- Whether a fragment is a concatenation of nothing. -/
def isHollow (fragment : Fragment δ) : Bool := fragment.isConcat && fragment.children.isEmpty

/-- Whether a body begins with a concatenation of nothing. -/
def startsHollow : List (Fragment δ) → Bool
  | [] => false
  | first :: _ => first.isHollow

mutual

/-- Whether no concatenation has a concatenation of nothing as its first fragment. -/
def opensFilled : Fragment δ → Bool
  | .line _ => true
  | .block _ body _ _ _ => allOpenFilled body
  | .list _ body _ _ => allOpenFilled body
  | .concat body => !startsHollow body && allOpenFilled body
  | .foreign _ => true

/-- Whether this holds of every fragment of a body. -/
def allOpenFilled : List (Fragment δ) → Bool
  | [] => true
  | first :: rest => opensFilled first && allOpenFilled rest

end

/-- What is spliced into a concatenation is something, unless it was nothing before. -/
theorem parts_spliced_ne_nil : ∀ fragment : Fragment δ, fragment.opensFilled = true →
    fragment.isHollow = false → fragment.spliced.parts ≠ []
  | .line _, _, _ => List.cons_ne_nil _ _
  | .block _ _ _ _ _, _, _ => List.cons_ne_nil _ _
  | .list _ _ _ _, _, _ => List.cons_ne_nil _ _
  | .concat [], _, full => by cases full
  | .concat (first :: rest), opens, _ => by
    simp only [opensFilled, allOpenFilled, startsHollow, Bool.and_eq_true, Bool.not_eq_true']
      at opens
    have own := parts_spliced_ne_nil first opens.2.1 opens.1
    exact fun none => own (List.append_eq_nil_iff.mp none).1
  | .foreign _, _, _ => List.cons_ne_nil _ _

end Opening

theorem isHollow_settle (sketch : Sketch) : sketch.settle.isHollow = sketch.isHollow := by
  rcases sketch with _ | _ | _ | (_ | _) | _ <;> rfl

theorem startsHollow_settleBody (body : List Sketch) :
    startsHollow (settleBody body) = startsHollow body := by
  cases body with
  | nil => rfl
  | cons first rest => exact isHollow_settle first

mutual

theorem opensFilled_settle : ∀ sketch : Sketch, sketch.settle.opensFilled = sketch.opensFilled
  | .line _ => rfl
  | .block _ body _ _ _ => allOpenFilled_settleBody body
  | .list _ body _ _ => allOpenFilled_settleBody body
  | .concat body => by
    rw [settle, opensFilled, startsHollow_settleBody, allOpenFilled_settleBody body, opensFilled]
  | .foreign _ => rfl

theorem allOpenFilled_settleBody : ∀ body : List Sketch,
    allOpenFilled (settleBody body) = allOpenFilled body
  | [] => rfl
  | first :: rest => by
    rw [settleBody, allOpenFilled, opensFilled_settle first, allOpenFilled_settleBody rest,
      allOpenFilled]

end

/-! ## The layout of spliced fragments -/

/-- A fragment is written as what it is among those of a concatenation. -/
theorem emitSequence_parts (unit : IndentUnit) (fragment : Decided) (connect : Bool)
    (indent : String) (height : Nat) :
    emitSequence unit fragment.parts connect indent height =
      fragment.emit unit connect indent height := by
  cases fragment with
  | concat body => rfl
  | line text => exact Emission.andThen_nothing _ height
  | block start body close connects inlining => exact Emission.andThen_nothing _ height
  | list separator body trailing inlining => exact Emission.andThen_nothing _ height
  | foreign kind => exact Emission.andThen_nothing _ height

theorem joinsPrevious_spliced (inlining tall : Bool) (item : Decided) :
    joinsPrevious inlining tall item.spliced = joinsPrevious inlining tall item := by
  cases item <;> rfl

mutual

/-- **Splicing does not change what is written.** -/
theorem emit_spliced (unit : IndentUnit) : ∀ fragment : Decided, fragment.opensFilled = true →
    ∀ (connect : Bool) (indent : String) (height : Nat),
      fragment.spliced.emit unit connect indent height = fragment.emit unit connect indent height
  | .line _, _, _, _, _ => rfl
  | .block _ body _ _ _, opens, connect, indent, height => by
    simp only [spliced, emit, emitAll_allSpliced unit body opens]
  | .list separator body _ _, opens, connect, indent, height => by
    simp only [spliced, emit, emitItems_allSpliced unit separator _ body opens]
  | .concat body, opens, connect, indent, height => by
    rw [opensFilled, Bool.and_eq_true, Bool.not_eq_true'] at opens
    exact emitSequence_splicedSequence unit body opens.2 connect (fun _ => opens.1) indent height
  | .foreign _, _, _, _, _ => rfl

theorem emitAll_allSpliced (unit : IndentUnit) : ∀ body : List Decided,
    allOpenFilled body = true → ∀ (connect : Bool) (indent : String) (height : Nat),
      emitAll unit (allSpliced body) connect indent height =
        emitAll unit body connect indent height
  | [], _, _, _, _ => rfl
  | first :: rest, opens, connect, indent, height => by
    rw [allOpenFilled, Bool.and_eq_true] at opens
    simp only [allSpliced, emitAll, emit_spliced unit first opens.1,
      emitAll_allSpliced unit rest opens.2]

/-- The wish to connect reaches the same fragment. -/
theorem emitSequence_splicedSequence (unit : IndentUnit) : ∀ body : List Decided,
    allOpenFilled body = true → ∀ connect : Bool, (connect = true → startsHollow body = false) →
      ∀ (indent : String) (height : Nat),
        emitSequence unit (splicedSequence body) connect indent height =
          emitSequence unit body connect indent height
  | [], _, _, _, _, _ => rfl
  | first :: rest, opens, connect, filled, indent, height => by
    rw [allOpenFilled, Bool.and_eq_true] at opens
    have later : (connect && first.spliced.parts.isEmpty) = false := by
      cases connect with
      | false => rfl
      | true =>
        have full := parts_spliced_ne_nil first opens.1 (filled rfl)
        rw [Bool.true_and, List.isEmpty_eq_false_iff]
        exact full
    rw [splicedSequence, emitSequence_append, later, emitSequence_parts,
      emit_spliced unit first opens.1, emitSequence]
    exact congrArg _ (funext fun grown =>
      emitSequence_splicedSequence unit rest opens.2 false (fun wish => by cases wish) indent grown)

theorem emitItems_allSpliced (unit : IndentUnit) (separator : String) (inlining : Bool) :
    ∀ body : List Decided, allOpenFilled body = true →
      ∀ (place : ItemPlace) (indent : String) (height : Nat),
        emitItems unit separator inlining (allSpliced body) place indent height =
          emitItems unit separator inlining body place indent height
  | [], _, _, _, _ => rfl
  | item :: rest, opens, place, indent, height => by
    rw [allOpenFilled, Bool.and_eq_true] at opens
    have later := emitItems_allSpliced unit separator inlining rest opens.2
    cases place with
    | first connect =>
      simp only [allSpliced, emitItems, isEmpty_spliced, emit_spliced unit item opens.1, later]
    | after tall =>
      simp only [allSpliced, emitItems, isEmpty_spliced, emit_spliced unit item opens.1, later,
        joinsPrevious_spliced]

end

/-- Where a concatenation begins with one of nothing, that one has the wish to connect and does
nothing with it. When it is gone, the next fragment connects. -/
example :
    let fragment : Decided := .concat [.concat [], .line "a"]
    fragment.renderInto Format.tabs ["x ="] true "" = (["x =", "a"], none) ∧
      fragment.spliced.renderInto Format.tabs ["x ="] true "" = (["x = a"], none) := by decide

/-- **Concatenations inside concatenations cannot be told from their fragments.** Let no
concatenation of a sketch begin with one that has no fragments, and let its conditions see of a
concatenation only whether it is empty, its size hint and its decision. Splice the concatenations
that stand directly inside another one, until none is left, in any order. This ends, and however
it ends, what is left is empty as the sketch is and has its size hint, every block and every list
in it decides as before, and its layout leaves the same buffer and ends in the same way. -/
theorem renderInto_spliced (sketch : Sketch) (opens : sketch.opensFilled = true)
    (blind : ConcatBlind sketch) :
    (∃ last, Relation.ReflTransGen Splice sketch last ∧ last.flat = true) ∧
      ∀ last, Relation.ReflTransGen Splice sketch last → last.flat = true →
        last.isEmpty = sketch.isEmpty ∧ last.sizeHint = sketch.sizeHint ∧
          last.settle.inlinings = sketch.settle.inlinings ∧
          ∀ (format : Format) (buffer : Buffer) (connect : Bool) (indent : String),
            last.settle.renderInto format buffer connect indent =
              sketch.settle.renderInto format buffer connect indent := by
  refine ⟨exists_flat sketch, fun last splices done => ?_⟩
  obtain rfl := eq_spliced splices done
  have settled := settle_spliced sketch blind
  refine ⟨isEmpty_spliced sketch, sizeHint_spliced sketch, ?_, ?_⟩
  · rw [settled, inlinings_spliced]
  · intro format buffer connect indent
    have written := emit_spliced format.unit sketch.settle
      ((opensFilled_settle sketch).trans opens)
    rw [settled, renderInto, renderInto, written]

/-- A call on one line whose only child is a concatenation of others, with more of them in a list
inside it. Of two nested ones the inner one goes first here. -/
theorem renderInto_spliced_call :
    let items (first : List DocumentTree) : DocumentTree :=
      .list ";" [.concat (first ++ [.line "y"]), .concat []] .always .auto
    let tree : DocumentTree := .block "f(" [.concat [.concat [.line "a", .concat [.line "b"]],
      items [.concat [.line "x"]]]] ")" true (.maxItems 1)
    let last : DocumentTree := .block "f(" [.concat [.line "a", .line "b", items [.line "x"]]] ")"
      true (.maxItems 1)
    tree.sketch.opensFilled = true ∧ ConcatBlind tree.sketch ∧
      Relation.ReflTransGen Splice tree.sketch last.sketch ∧ last.sketch.flat = true ∧
      last.sketch.sizeHint = 6 ∧ last.sketch.settle.inlinings = [.ok true, .ok false] ∧
      last.sketch.settle.renderInto Format.tabs ["x ="] false "" =
        (["x = f( a", "b", "x", "y; )"], none) := by
  intro items tree last
  have blind := concatBlind_sketch tree
  let call : Layer (Option Condition) :=
    .block "f(" [] [] ")" true (InlineMode.maxItems 1).condition
  have inner : Splice tree.sketch _ :=
    .splice [call, .concat [] [DocumentTree.sketch (items [.concat [.line "x"]])]]
      [.line "a"] [.line "b"] []
  have outer : Splice _ _ :=
    .splice [call] [] [.line "a", .line "b"] [DocumentTree.sketch (items [.concat [.line "x"]])]
  have below : Splice _ last.sketch :=
    .splice [call, .concat [.line "a", .line "b"] [], .list ";" [] [.concat []] .always none]
      [] [.line "x"] [.line "y"]
  have splices : Relation.ReflTransGen Splice tree.sketch last.sketch :=
    .head inner (.head outer (.head below .refl))
  obtain ⟨-, unchanged⟩ := renderInto_spliced tree.sketch rfl blind
  obtain ⟨-, size, decisions, layouts⟩ := unchanged last.sketch splices rfl
  exact ⟨rfl, blind, splices, rfl, size.trans rfl, decisions.trans rfl,
    (layouts Format.tabs ["x ="] false "").trans (by decide)⟩

end Fragment

end CodeLayout
