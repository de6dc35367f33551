import CodeLayout.Proofs.LastLine

/-!
# Pens

A script can be carried out on lines of any kind. A pen says how such lines are
made: how a line starts at a depth, how a text is joined or glued to a line and
what is left of a line that shows nothing. The lines written so far are kept
with the last one in front.

The plain pen writes texts under a unit of indentation, and it does to a buffer
what the edits of a script do (`Pen.applyAll_reverse`). Other pens write less
than texts, such as lines without their indentation, or more, such as lines that
remember their depth. A function from the lines of one pen to those of another
may carry the first to the second. Then what the one writes is read off from
what the other writes (`Pen.Carries.map_writeAll`).
-/

set_option autoImplicit false

namespace CodeLayout

/-- A way of writing lines of some kind. -/
structure Pen (α : Type) where
  /-- A new line at a depth. -/
  start : Nat → String → α
  /-- A line with a text joined to it at a depth. -/
  join : Nat → α → String → α
  /-- A line with a text glued to it. -/
  glue : α → String → α
  /-- What is left of a line when a new one follows. -/
  blank : α → α

namespace Pen

variable {α β : Type}

/-- The lines after a step, the last one in front. -/
def write (pen : Pen α) : List α → Step → List α
  | [], .line text _ depth => [pen.start depth text]
  | last :: before, .line text true depth => pen.join depth last text :: before
  | last :: before, .line text false depth => pen.start depth text :: pen.blank last :: before
  | [], .glue _ => []
  | last :: before, .glue text => pen.glue last text :: before

/-- The lines after a sequence of steps, the last one in front. -/
def writeAll (pen : Pen α) (lines : List α) (steps : List Step) : List α :=
  steps.foldl pen.write lines

theorem writeAll_nil (pen : Pen α) (lines : List α) : pen.writeAll lines [] = lines := rfl

theorem writeAll_cons (pen : Pen α) (lines : List α) (step : Step) (rest : List Step) :
    pen.writeAll lines (step :: rest) = pen.writeAll (pen.write lines step) rest := rfl

theorem writeAll_append (pen : Pen α) (lines : List α) (first second : List Step) :
    pen.writeAll lines (first ++ second) = pen.writeAll (pen.writeAll lines first) second :=
  List.foldl_append

/-! ## The plain pen -/

/-- The pen that writes texts under a unit of indentation and a base. -/
def plain (unit : IndentUnit) (base : String) : Pen String where
  start depth text := unit.under base depth ++ text
  join depth last text := Buffer.joined (unit.under base depth) last text
  glue last text := last ++ text
  blank := Buffer.blanked

/-- The plain pen does what an edit does. -/
theorem apply_reverse (unit : IndentUnit) (base : String) (lines : List String) (step : Step) :
    Edit.apply lines.reverse (step.toEdit unit base) =
      ((plain unit base).write lines step).reverse := by
  cases lines with
  | nil =>
    cases step with
    | line text connect depth => exact Buffer.appendLine_nil text connect _
    | glue text => rfl
  | cons last before =>
    rw [List.reverse_cons]
    cases step with
    | line text connect depth =>
      cases connect with
      | true =>
        simp only [Step.toEdit, Edit.apply, Buffer.appendLine_joins, write, List.reverse_cons]
        rfl
      | false =>
        simp only [Step.toEdit, Edit.apply, Buffer.appendLine_below, write, List.reverse_cons]
        rfl
    | glue text =>
      simp only [Step.toEdit, Edit.apply, Buffer.glue_concat, write, List.reverse_cons]
      rfl

/-- **The plain pen does what the edits of a script do.** -/
theorem applyAll_reverse (unit : IndentUnit) (base : String) (steps : List Step) :
    ∀ lines : List String,
      Edit.applyAll lines.reverse (steps.map (Step.toEdit unit base)) =
        ((plain unit base).writeAll lines steps).reverse := by
  induction steps with
  | nil => intro lines; rfl
  | cons step rest ih =>
    intro lines
    rw [List.map_cons, Edit.applyAll_cons, apply_reverse, ih, writeAll_cons]

/-! ## From one pen to another -/

/-- The last line bears what a step joins to it. -/
def Bears (bears : Nat → α → Prop) : List α → Step → Prop
  | last :: _, .line _ true depth => bears depth last
  | _ :: _, .line _ false _ => True
  | _ :: _, .glue _ => True
  | [], _ => True

/-- Wherever a step of a sequence joins a text, the last line bears it. -/
def AllBear (pen : Pen α) (bears : Nat → α → Prop) : List α → List Step → Prop
  | _, [] => True
  | lines, step :: rest => Bears bears lines step ∧ AllBear pen bears (pen.write lines step) rest

theorem allBear_append (pen : Pen α) (bears : Nat → α → Prop) (first second : List Step) :
    ∀ lines : List α, AllBear pen bears lines (first ++ second) ↔
      AllBear pen bears lines first ∧ AllBear pen bears (pen.writeAll lines first) second := by
  induction first with
  | nil => intro lines; exact (and_iff_right trivial).symm
  | cons step rest ih =>
    intro lines
    rw [List.cons_append, AllBear, AllBear, ih, and_assoc, writeAll_cons]

/-- When every line bears everything, so do all lines of a sequence. -/
theorem allBear_of_forall (pen : Pen α) {bears : Nat → α → Prop}
    (always : ∀ depth line, bears depth line) (steps : List Step) :
    ∀ lines : List α, AllBear pen bears lines steps := by
  induction steps with
  | nil => intro lines; trivial
  | cons step rest ih =>
    intro lines
    refine ⟨?_, ih _⟩
    cases lines with
    | nil => trivial
    | cons last before =>
      cases step with
      | line text connect depth =>
        cases connect with
        | true => exact always depth last
        | false => trivial
      | glue text => trivial

/-- A function carries one pen to another, as long as texts are joined only to lines
that bear them. -/
structure Carries (pen : Pen α) (pen' : Pen β) (bears : Nat → α → Prop) (read : α → β) :
    Prop where
  start : ∀ depth text, read (pen.start depth text) = pen'.start depth text
  join : ∀ depth last text, bears depth last →
    read (pen.join depth last text) = pen'.join depth (read last) text
  glue : ∀ last text, read (pen.glue last text) = pen'.glue (read last) text
  blank : ∀ last, read (pen.blank last) = pen'.blank (read last)

variable {pen : Pen α} {pen' : Pen β} {bears : Nat → α → Prop} {read : α → β}

theorem Carries.map_write (carries : Carries pen pen' bears read) {lines : List α} {step : Step}
    (borne : Bears bears lines step) :
    (pen.write lines step).map read = pen'.write (lines.map read) step := by
  cases lines with
  | nil =>
    cases step with
    | line text connect depth =>
      simp only [write, List.map_cons, List.map_nil, carries.start]
    | glue text => rfl
  | cons last before =>
    cases step with
    | line text connect depth =>
      cases connect with
      | true => simp only [write, List.map_cons, carries.join depth last text borne]
      | false => simp only [write, List.map_cons, carries.start, carries.blank]
    | glue text => simp only [write, List.map_cons, carries.glue]

/-- **What the second pen writes is read off from what the first one writes.** -/
theorem Carries.map_writeAll (carries : Carries pen pen' bears read) (steps : List Step) :
    ∀ lines : List α, AllBear pen bears lines steps →
      (pen.writeAll lines steps).map read = pen'.writeAll (lines.map read) steps := by
  induction steps with
  | nil => intro lines _; rfl
  | cons step rest ih =>
    intro lines borne
    rw [writeAll_cons, writeAll_cons, ih _ borne.2, carries.map_write borne.1]

end Pen

/-- The lines of a regular fragment are those that the plain pen writes for its
script. -/
theorem Fragment.renderLines_of_regular (format : Format) (fragment : Decided)
    (made : fragment.regular = true) :
    fragment.renderLines format =
      .ok ((Pen.plain format.unit "").writeAll [] (fragment.script false 0 false)).reverse := by
  rw [renderLines, renderInto_of_regular format fragment [] false "" made,
    ← Pen.applyAll_reverse]
  rfl

end CodeLayout
