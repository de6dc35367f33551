import CodeLayout.Proofs.Emptiness
import Mathlib.Data.List.DropRight

/-!
# The newline at the end of a text

A format with a trailing newline puts one newline behind the text of a fragment, in place of
all newlines that the text ended with: those of texts that end with newlines, and those of
blank lines at the end. Nothing else of the text changes.

A text without any character stays as it is. That is the text of an empty fragment, and also
the text of a fragment that takes a single line on which nothing is written
(`Fragment.render_lone_blank`). Every other fragment gets its newline, also one that renders
to blank lines only.

Main statement: `Fragment.render_finalNewline`.
-/

set_option autoImplicit false

namespace CodeLayout

/-! ## Newlines at the end of a text -/

/-- Whether a text ends with a newline. -/
def endsWithNewline (text : String) : Bool := text.toList.getLast? == some '\n'

theorem toList_dropTrailingNewlines (text : String) :
    (dropTrailingNewlines text).toList = text.toList.rdropWhile (· == '\n') := by
  rw [dropTrailingNewlines, String.toList_ofList, List.rdropWhile]

/-- Without its newlines at the end a text ends with no newline. -/
theorem endsWithNewline_dropTrailingNewlines (text : String) :
    endsWithNewline (dropTrailingNewlines text) = false := by
  rw [endsWithNewline, toList_dropTrailingNewlines]
  by_cases empty : text.toList.rdropWhile (· == '\n') = []
  · rw [empty]
    rfl
  · have last := List.rdropWhile_last_not (· == '\n') text.toList empty
    rw [List.getLast?_eq_some_getLast empty]
    simpa using last

@[simp]
theorem dropTrailingNewlines_dropTrailingNewlines (text : String) :
    dropTrailingNewlines (dropTrailingNewlines text) = dropTrailingNewlines text := by
  rw [← String.toList_inj, toList_dropTrailingNewlines, toList_dropTrailingNewlines,
    List.rdropWhile_idempotent]

/-- One more newline is dropped with the others. -/
@[simp]
theorem dropTrailingNewlines_append_newline (text : String) :
    dropTrailingNewlines (text ++ "\n") = dropTrailingNewlines text := by
  rw [← String.toList_inj, toList_dropTrailingNewlines, toList_dropTrailingNewlines,
    String.toList_append]
  exact List.rdropWhile_concat_pos _ _ _ rfl

/-! ## The text of some lines -/

/-- The text of some lines is empty when there is no line, and when nothing is written on the
only one. -/
theorem intercalate_newline_eq_empty (lines : List String) :
    "\n".intercalate lines = "" ↔ lines = [] ∨ lines = [""] := by
  rcases lines with _ | ⟨only, _ | ⟨second, others⟩⟩
  · simp
  · simp
  · simp [String.intercalate_cons_cons]

namespace Format

variable (unit : IndentUnit) (lines : List String)

theorem joinLines_open :
    Format.joinLines { unit, trailingNewline := false } lines = "\n".intercalate lines := by
  simp [joinLines]

/-- With a trailing newline, a text with a character in it ends with one newline. -/
theorem joinLines_closed (written : "\n".intercalate lines ≠ "") :
    Format.joinLines { unit, trailingNewline := true } lines =
      dropTrailingNewlines ("\n".intercalate lines) ++ "\n" := by
  simp [joinLines, written]

/-- With a trailing newline, an empty text stays empty. -/
theorem joinLines_closed_of_empty (nothing : "\n".intercalate lines = "") :
    Format.joinLines { unit, trailingNewline := true } lines = "" := by
  simp [joinLines, nothing]

/-- The two texts of some lines differ in the newlines at their end only. -/
theorem dropTrailingNewlines_joinLines :
    dropTrailingNewlines (Format.joinLines { unit, trailingNewline := true } lines) =
      dropTrailingNewlines (Format.joinLines { unit, trailingNewline := false } lines) := by
  rw [joinLines_open]
  by_cases nothing : "\n".intercalate lines = ""
  · rw [joinLines_closed_of_empty unit lines nothing, nothing]
  · rw [joinLines_closed unit lines nothing, dropTrailingNewlines_append_newline,
      dropTrailingNewlines_dropTrailingNewlines]

end Format

namespace Fragment

/-- **A trailing newline is exactly one newline.** A regular fragment has a text with and without
a trailing newline, and the two differ in the newlines at their end only. An empty fragment has
the empty text. One that is not empty has a text that ends with one newline and not with two,
unless nothing is written on its only line: then the text stays empty. -/
theorem render_finalNewline (fragment : Decided) (made : fragment.regular = true)
    (unit : IndentUnit) :
    ∃ opened closed : String,
      fragment.render { unit, trailingNewline := false } = .ok opened ∧
      fragment.render { unit, trailingNewline := true } = .ok closed ∧
      dropTrailingNewlines closed = dropTrailingNewlines opened ∧
      (fragment.isEmpty = true → opened = "" ∧ closed = "") ∧
      (fragment.isEmpty = false →
        (fragment.renderLines { unit, trailingNewline := true } ≠ .ok [""] →
          ∃ text, closed = text ++ "\n" ∧ endsWithNewline text = false) ∧
        (fragment.renderLines { unit, trailingNewline := true } = .ok [""] → closed = "")) := by
  -- The lines are the same in both formats.
  obtain ⟨lines, rendered⟩ : ∃ lines, ∀ trailingNewline : Bool,
      fragment.renderLines { unit, trailingNewline } = .ok lines :=
    ⟨_, fun _ => renderLines_eq_ownLines { unit, trailingNewline := true } made⟩
  have text : ∀ trailingNewline : Bool, fragment.render { unit, trailingNewline } =
      .ok (Format.joinLines { unit, trailingNewline } lines) := by
    intro trailingNewline
    rw [render, rendered]
    rfl
  have empty := isEmpty_iff_renderLines { unit, trailingNewline := true } made
  simp only [rendered, Except.ok.injEq] at empty ⊢
  refine ⟨_, _, text false, text true, Format.dropTrailingNewlines_joinLines unit lines, ?_, ?_⟩
  · intro nothing
    rw [empty.mp nothing]
    exact ⟨rfl, rfl⟩
  · intro full
    have some : lines ≠ [] := fun none => by
      rw [empty.mpr none] at full
      cases full
    refine ⟨fun apart => ?_, fun lone => ?_⟩
    · have written : "\n".intercalate lines ≠ "" := fun nothing =>
        ((intercalate_newline_eq_empty lines).mp nothing).elim some
          fun lone => apart (congrArg Except.ok lone)
      exact ⟨_, Format.joinLines_closed unit lines written,
        endsWithNewline_dropTrailingNewlines _⟩
    · rw [lone]
      exact Format.joinLines_closed_of_empty unit [""] rfl

/-- A block, a text that ends with a newline, and a blank line. -/
theorem render_finalNewline_block :
    let fragment : Decided :=
      .concat [.block "(" [.line "a"] ")" false (.ok false), .line "b\n", .line ""]
    fragment.regular = true ∧ fragment.isEmpty = false ∧
      fragment.renderLines { unit := .tab, trailingNewline := true } ≠ .ok [""] ∧
      fragment.render { unit := .tab, trailingNewline := false } = .ok "(\n\ta\n)\nb\n\n" ∧
      ∃ text, fragment.render { unit := .tab, trailingNewline := true } = .ok (text ++ "\n") ∧
        endsWithNewline text = false ∧ text = "(\n\ta\n)\nb" := by
  intro fragment
  have made : fragment.regular = true := rfl
  have full : fragment.isEmpty = false := rfl
  have lines : fragment.renderLines { unit := .tab, trailingNewline := true } ≠ .ok [""] := by
    decide
  obtain ⟨opened, closed, -, closing, -, -, ending⟩ := render_finalNewline fragment made .tab
  obtain ⟨text, same, ends⟩ := (ending full).1 lines
  have known : fragment.render { unit := .tab, trailingNewline := true } =
      .ok ("(\n\ta\n)\nb" ++ "\n") := by decide
  rw [closing, same, Except.ok.injEq, String.append_left_inj] at known
  exact ⟨made, full, lines, by decide, text, closing.trans (congrArg _ same), ends, known⟩

/-- Nothing is written on the only line of a fragment that is not empty. Its text does not end
with a newline. -/
theorem render_lone_blank :
    let fragment : Decided := .line ""
    let format : Format := { Format.standard with trailingNewline := true }
    fragment.isEmpty = false ∧ fragment.regular = true ∧
      fragment.renderLines format = .ok [""] ∧ fragment.render format = .ok "" ∧
      ¬ ∃ text, fragment.render format = .ok (text ++ "\n") := by
  intro fragment format
  have nothing : fragment.render format = .ok "" := rfl
  refine ⟨rfl, rfl, rfl, nothing, ?_⟩
  rintro ⟨text, ends⟩
  rw [nothing, Except.ok.injEq] at ends
  have characters := congrArg String.length ends
  have newline : "\n".length = 1 := rfl
  rw [String.length_append, String.length_empty] at characters
  omega

end Fragment

end CodeLayout
