import CodeLayout.Proofs.ListAssembly
import CodeLayout.Proofs.SizeHint

/-!
# What is empty renders to nothing

Whether a fragment is empty, how large its size hint is and how many lines it renders to
are three recursions of their own. Of a regular fragment they say the same: its script
writes a line exactly when the fragment is not empty, the size hint counts the lines in
the script, and every first line of a buffer is a new one.

An empty fragment still has one effect. A list without items whose rule asks for a
separator in any case glues it to the last line, if there is one. The residue of an empty
fragment is the text that is glued in this way, and nothing else is left of it
(`Fragment.applyAll_script_of_isEmpty`).

Main statement: `Fragment.isEmpty_iff_renders_nothing`.
-/

set_option autoImplicit false

namespace CodeLayout

namespace Fragment

/-! ## The residue of an empty fragment -/

section Residue

variable {δ : Type}

mutual

/-- The text that a fragment without code glues to the line before it. -/
def residue : Fragment δ → String
  | .line _ => ""
  | .block _ _ _ _ _ => ""
  | .list separator _ trailing _ => if trailing = .always then separator else ""
  | .concat body => bodyResidue body
  | .foreign _ => ""

/-- The texts of the fragments of a body, one after another. -/
def bodyResidue : List (Fragment δ) → String
  | [] => ""
  | first :: rest => residue first ++ bodyResidue rest

end

end Residue

section Script

variable (unit : IndentUnit) (base : String)

mutual

/-- **All that an empty fragment does is to glue its residue.** -/
theorem applyAll_script_of_isEmpty : ∀ (fragment : Decided) (connect : Bool) (depth : Nat)
    (occupied : Bool) (buffer : Buffer), fragment.regular = true → fragment.isEmpty = true →
      Edit.applyAll buffer
          ((fragment.script connect depth occupied).map (Step.toEdit unit base)) =
        buffer.glue fragment.residue
  | .list separator body trailing inlining, connect, depth, occupied, buffer, _, empty => by
    rw [isEmpty] at empty
    have short : decide (1 < growthItems inlining.holds body (.first connect) occupied) = false := by
      rw [growthItems_of_allEmpty _ body _ _ empty]
      rfl
    rw [script, scriptItems_of_allEmpty separator _ body _ _ _ empty, short]
    -- Without items only the rule for any case asks for the separator.
    cases trailing with
    | always => rfl
    | ifMultiLine => exact (Buffer.glue_empty buffer).symm
    | never => exact (Buffer.glue_empty buffer).symm
  | .concat body, connect, depth, occupied, buffer, made, empty =>
    applyAll_scriptSequence_of_allEmpty body connect depth occupied buffer made empty
  | .line _, _, _, _, _, _, empty => by cases empty
  | .block _ _ _ _ _, _, _, _, _, _, empty => by cases empty
  | .foreign _, _, _, _, _, made, _ => by cases made

theorem applyAll_scriptSequence_of_allEmpty : ∀ (body : List Decided) (connect : Bool)
    (depth : Nat) (occupied : Bool) (buffer : Buffer), allRegular body = true →
      allEmpty body = true →
        Edit.applyAll buffer
            ((scriptSequence body connect depth occupied).map (Step.toEdit unit base)) =
          buffer.glue (bodyResidue body)
  | [], connect, depth, occupied, buffer, _, _ => (Buffer.glue_empty buffer).symm
  | first :: rest, connect, depth, occupied, buffer, made, empty => by
    simp only [allRegular, allEmpty, Bool.and_eq_true] at made empty
    rw [scriptSequence, List.map_append, Edit.applyAll_append,
      applyAll_script_of_isEmpty first _ _ _ _ made.1 empty.1,
      applyAll_scriptSequence_of_allEmpty rest _ _ _ _ made.2 empty.2, Buffer.glue_glue,
      bodyResidue]

end

end Script

/-- What an empty fragment leaves of a buffer. -/
theorem renderInto_of_isEmpty (format : Format) {fragment : Decided}
    (made : fragment.regular = true) (empty : fragment.isEmpty = true) (buffer : Buffer)
    (connect : Bool) (indent : String) :
    fragment.renderInto format buffer connect indent = (buffer.glue fragment.residue, none) := by
  rw [renderInto_of_regular format fragment buffer connect indent made,
    applyAll_script_of_isEmpty format.unit indent fragment _ _ _ _ made empty]

/-! ## Three ways to be empty -/

/-- A regular fragment is empty exactly when it has nothing to write. -/
theorem isEmpty_iff_sizeHint {fragment : Decided} (made : fragment.regular = true) :
    fragment.isEmpty = true ↔ fragment.sizeHint = 0 := by
  have writes := occupies_script fragment false 0 false made
  rw [← countP_script fragment false 0 false, List.countP_eq_zero]
  constructor
  · intro empty
    rw [empty, Bool.not_true] at writes
    simpa [Step.occupies] using writes
  · intro silent
    have nothing : Step.occupies (fragment.script false 0 false) = false := by
      simpa [Step.occupies] using silent
    rw [nothing] at writes
    simpa using writes.symm

/-- A regular fragment is empty exactly when it has no lines. -/
theorem isEmpty_iff_renderLines (format : Format) {fragment : Decided}
    (made : fragment.regular = true) :
    fragment.isEmpty = true ↔ fragment.renderLines format = .ok [] := by
  constructor
  · intro empty
    exact renderLines_eq_ok.mpr (renderInto_of_isEmpty format made empty [] false "")
  · intro nothing
    cases empty : fragment.isEmpty with
    | true => rfl
    | false =>
      rw [renderLines_eq_ownLines format made, Except.ok.injEq] at nothing
      exact absurd nothing (ownLines_ne_nil format made empty)

/-- **A fragment is empty exactly when it renders to nothing.** For a regular fragment it is
the same to be empty, to have the size hint zero and to render to no line. An empty one leaves
an empty buffer empty, and of any other it changes the last line only: it glues its residue to
that line. -/
theorem isEmpty_iff_renders_nothing (fragment : Decided) (made : fragment.regular = true)
    (format : Format) :
    (fragment.isEmpty = true ↔ fragment.sizeHint = 0) ∧
      (fragment.isEmpty = true ↔ fragment.renderLines format = .ok []) ∧
      (fragment.isEmpty = true → ∀ (connect : Bool) (indent : String),
        fragment.renderInto format [] connect indent = ([], none) ∧
          ∀ (before : Buffer) (last : String),
            fragment.renderInto format (before ++ [last]) connect indent =
              (before ++ [last ++ fragment.residue], none)) := by
  refine ⟨isEmpty_iff_sizeHint made, isEmpty_iff_renderLines format made, ?_⟩
  intro empty connect indent
  refine ⟨renderInto_of_isEmpty format made empty [] connect indent, ?_⟩
  intro before last
  rw [renderInto_of_isEmpty format made empty, Buffer.glue_concat]

/-- Lists without items in a concatenation, of which one always ends with its separator. -/
theorem isEmpty_iff_renders_nothing_separator :
    let fragment : Decided := .concat [.list "," [.concat []] .always (.ok true),
      .list ";" [] .ifMultiLine (.ok false), .concat [.list "!" [] .always (.ok false)]]
    fragment.regular = true ∧ fragment.isEmpty = true ∧ fragment.sizeHint = 0 ∧
      fragment.renderLines Format.tabs = .ok [] ∧
      fragment.renderInto Format.tabs ["f(", "\ta"] true "\t" = (["f(", "\ta,!"], none) := by
  intro fragment
  have made : fragment.regular = true := by decide
  have empty : fragment.isEmpty = true := by decide
  obtain ⟨silent, nothing, glued⟩ := isEmpty_iff_renders_nothing fragment made Format.tabs
  exact ⟨made, empty, silent.mp empty, nothing.mp empty, (glued empty true "\t").2 ["f("] "\ta"⟩

end Fragment

end CodeLayout
