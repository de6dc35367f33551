import CodeLayout.Proofs.LastLine

/-!
# The size hint counts what a layout writes

The size hint of a fragment adds up its lines and the starts and closing lines of
its blocks, without a look at the layout. A layout writes a text for each of these,
and nothing else: it leaves out the items of lists that are empty, but those have
nothing to write (`Fragment.sizeHint_of_isEmpty`), and a separator is glued and not
written.

A text that is written makes a new line unless it joins the last one. So the lines
that edits add and the texts that join are together the texts they write, whatever
is in the buffer (`Edit.length_add_joined`).

Main statement: `Fragment.writes_renderInto`. The size hint is the number of texts
that a layout writes, and the number of lines that it adds is the size hint without
the texts that join a line. So the hint is never too small.
-/

set_option autoImplicit false

namespace CodeLayout

/-! ## Texts that are written -/

namespace Edit

/-- Whether an edit writes a text, on a new line or joined to the last one. -/
def writes : Edit → Bool
  | .line _ _ _ => true
  | .glue _ => false

/-- Whether an edit joins a text to the last line of a buffer. -/
def joins (buffer : Buffer) : Edit → Bool
  | .line _ connect _ => connect && !buffer.isEmpty
  | .glue _ => false

/-- How many edits of a sequence join a text to the last line of what is in the
buffer at their turn. -/
def joined (buffer : Buffer) : List Edit → Nat
  | [] => 0
  | edit :: rest => (if edit.joins buffer then 1 else 0) + joined (apply buffer edit) rest

/-- An edit adds a line exactly when it writes a text that does not join one. -/
theorem length_apply_add_joins (buffer : Buffer) (edit : Edit) :
    (apply buffer edit).length + (if edit.joins buffer then 1 else 0) =
      buffer.length + (if edit.writes then 1 else 0) := by
  rw [length_apply]
  cases edit with
  | glue text => rfl
  | line text connect indent =>
    cases connect with
    | false => rfl
    | true => cases buffer <;> rfl

/-- The lines after some edits and the texts that joined are together the lines before
and the texts that were written. -/
theorem length_add_joined (edits : List Edit) : ∀ buffer : Buffer,
    (applyAll buffer edits).length + joined buffer edits =
      buffer.length + edits.countP writes := by
  induction edits with
  | nil => intro buffer; rfl
  | cons edit rest ih =>
    intro buffer
    have here := length_apply_add_joins buffer edit
    have later := ih (apply buffer edit)
    rw [applyAll_cons, joined, List.countP_cons]
    omega

end Edit

/-- A step writes a text exactly when its edit does. -/
theorem Step.countP_map_toEdit (unit : IndentUnit) (base : String) (steps : List Step) :
    (steps.map (toEdit unit base)).countP Edit.writes = steps.countP isLine := by
  rw [List.countP_map]
  refine List.countP_congr fun step _ => ?_
  cases step <;> exact Iff.rfl

namespace Fragment

/-! ## The size hint of a script -/

section Empty

variable {δ : Type}

mutual

/-- An empty fragment has nothing to write. -/
theorem sizeHint_of_isEmpty : ∀ fragment : Fragment δ, fragment.isEmpty = true →
    fragment.sizeHint = 0
  | .list _ body _ _, empty => bodySizeHint_of_allEmpty body empty
  | .concat body, empty => bodySizeHint_of_allEmpty body empty
  | .foreign _, _ => rfl
  | .line _, empty => by cases empty
  | .block _ _ _ _ _, empty => by cases empty

theorem bodySizeHint_of_allEmpty : ∀ body : List (Fragment δ), allEmpty body = true →
    bodySizeHint body = 0
  | [], _ => rfl
  | first :: rest, empty => by
    simp only [allEmpty, Bool.and_eq_true] at empty
    rw [bodySizeHint, sizeHint_of_isEmpty first empty.1, bodySizeHint_of_allEmpty rest empty.2]

end

end Empty

mutual

/-- The size hint of a fragment is the number of texts that its script writes. -/
theorem countP_script : ∀ (fragment : Decided) (connect : Bool) (depth : Nat) (occupied : Bool),
    (fragment.script connect depth occupied).countP Step.isLine = fragment.sizeHint
  | .line text, connect, depth, occupied => rfl
  | .block start body close connects inlining, connect, depth, occupied => by
    have children := countP_scriptAll body inlining.holds
      (if inlining.holds then depth else depth + 1)
    rw [script, List.countP_cons_of_pos rfl, List.countP_append, children]
    rfl
  | .list separator body trailing inlining, connect, depth, occupied => by
    rw [script, List.countP_append,
      countP_scriptItems separator inlining.holds body (.first connect) depth occupied]
    -- The last separator is glued or left out: either way it writes no text.
    split <;> rfl
  | .concat body, connect, depth, occupied => countP_scriptSequence body connect depth occupied
  | .foreign kind, connect, depth, occupied => rfl

theorem countP_scriptAll : ∀ (body : List Decided) (connect : Bool) (depth : Nat),
    (scriptAll body connect depth).countP Step.isLine = bodySizeHint body
  | [], connect, depth => rfl
  | first :: rest, connect, depth => by
    rw [scriptAll, List.countP_append, countP_script first connect depth true,
      countP_scriptAll rest connect depth, bodySizeHint]

theorem countP_scriptSequence : ∀ (body : List Decided) (connect : Bool) (depth : Nat)
    (occupied : Bool),
    (scriptSequence body connect depth occupied).countP Step.isLine = bodySizeHint body
  | [], connect, depth, occupied => rfl
  | first :: rest, connect, depth, occupied => by
    rw [scriptSequence, List.countP_append, countP_script first connect depth occupied,
      countP_scriptSequence rest false depth _, bodySizeHint]

theorem countP_scriptItems (separator : String) (inlining : Bool) : ∀ (body : List Decided)
    (place : ItemPlace) (depth : Nat) (occupied : Bool),
    (scriptItems separator inlining body place depth occupied).countP Step.isLine =
      bodySizeHint body
  | [], place, depth, occupied => rfl
  | item :: rest, place, depth, occupied => by
    by_cases empty : item.isEmpty = true
    · rw [scriptItems, if_pos empty, bodySizeHint, sizeHint_of_isEmpty item empty, Nat.zero_add]
      exact countP_scriptItems separator inlining rest place depth occupied
    · rw [Bool.not_eq_true] at empty
      have opening : (place.opening separator).countP Step.isLine = 0 := by
        cases place <;> rfl
      rw [scriptItems_cons separator inlining rest place depth occupied empty,
        List.countP_append, List.countP_append, opening,
        countP_script item (place.joins inlining item) depth occupied,
        countP_scriptItems separator inlining rest _ depth true, bodySizeHint, Nat.zero_add]

end

/-! ## The size hint of a layout -/

/-- **The size hint counts the texts that a layout writes.** The lines that a layout
of a regular fragment adds to a buffer are these texts without those that join a line,
so their number lies between zero and the size hint. -/
theorem writes_renderInto (format : Format) (fragment : Decided) (buffer : Buffer)
    (connect : Bool) (indent : String) (made : fragment.regular = true) :
    ∃ after : Buffer, fragment.renderInto format buffer connect indent = (after, none) ∧
      let edits := (fragment.emit format.unit connect indent buffer.length).edits
      after = Edit.applyAll buffer edits ∧
        edits.countP Edit.writes = fragment.sizeHint ∧
        Edit.joined buffer edits ≤ fragment.sizeHint ∧
        after.length = buffer.length + (fragment.sizeHint - Edit.joined buffer edits) ∧
        buffer.length ≤ after.length ∧ after.length ≤ buffer.length + fragment.sizeHint := by
  have emission := emit_of_regular format.unit indent fragment connect 0 buffer.length made
  rw [IndentUnit.under] at emission
  have written : (fragment.emit format.unit connect indent buffer.length).edits.countP
      Edit.writes = fragment.sizeHint := by
    rw [emission]
    exact (Step.countP_map_toEdit _ _ _).trans (countP_script fragment _ _ _)
  have balance := Edit.length_add_joined
    (fragment.emit format.unit connect indent buffer.length).edits buffer
  have grown := length_renderInto format fragment buffer connect indent made
  have failure : (fragment.emit format.unit connect indent buffer.length).failure = none := by
    rw [emission]
    rfl
  rw [written] at balance
  refine ⟨(fragment.renderInto format buffer connect indent).1, ?_, rfl, written, ?_⟩
  · exact Prod.ext rfl failure
  · have after : (fragment.renderInto format buffer connect indent).1 =
        Edit.applyAll buffer (fragment.emit format.unit connect indent buffer.length).edits := rfl
    rw [← after] at balance
    omega

/-- A list whose second item joins the closing line of the first, written onto a line:
six texts, of which two join a line. -/
theorem writes_renderInto_call :
    let call : Decided := .list "," [.block "f(" [.line "a"] ")" true (.ok false),
      .concat [], .block "g(" [.line "b"] ")" false (.ok false)] .never (.ok false)
    call.regular = true ∧ call.sizeHint = 6 ∧
      ∃ after : Buffer, call.renderInto Format.tabs ["x ="] true "" = (after, none) ∧
        Edit.joined ["x ="] (call.emit .tab true "" 1).edits = 2 ∧ after.length = 5 := by
  intro call
  have made : call.regular = true := by decide
  have joins : Edit.joined ["x ="] (call.emit .tab true "" 1).edits = 2 := by decide
  obtain ⟨after, rendered, -, -, -, length, -⟩ :=
    writes_renderInto Format.tabs call ["x ="] true "" made
  refine ⟨made, rfl, after, rendered, joins, length.trans ?_⟩
  rw [show Edit.joined ["x ="] (call.emit Format.tabs.unit true "" ["x ="].length).edits = 2
    from joins]
  rfl

end Fragment

end CodeLayout
