import CodeLayout.Proofs.Script

/-!
# The last line of a buffer

An edit looks at the last line only. A buffer is empty or ends with a last line,
and the lemmas below say what each edit makes of these two forms. The lines
before the last one take no part in any sequence of edits (`Edit.applyAll_frame`).
What is visible in the buffer stays, and an edit adds to its end
(`Edit.visible_apply`).

The other half is about blank text: which texts are blank, and what is visible
in texts put together. Indents are blank, so they are never visible.
-/

set_option autoImplicit false

namespace CodeLayout

/-! ## Blank and visible text -/

@[simp]
theorem visible_empty : visible "" = [] := rfl

@[simp]
theorem visible_append (first second : String) :
    visible (first ++ second) = visible first ++ visible second := by
  simp only [visible, String.toList_append, List.filter_append]

/-- A text is blank when nothing in it is visible. -/
theorem isBlankText_iff (text : String) : isBlankText text = true ↔ visible text = [] := by
  simp [isBlankText, visible]

@[simp]
theorem isBlankText_empty : isBlankText "" = true := rfl

@[simp]
theorem isBlankText_append (first second : String) :
    isBlankText (first ++ second) = (isBlankText first && isBlankText second) := by
  simp only [isBlankText, String.toList_append, List.all_append]

theorem ne_empty_of_visible {text : String} (shows : isBlankText text = false) : text ≠ "" := by
  intro empty
  rw [empty, isBlankText_empty] at shows
  cases shows

/-- A text that shows something differs from every blank text. -/
theorem ne_of_visible {text blank : String} (shows : isBlankText text = false)
    (hidden : isBlankText blank = true) : text ≠ blank := by
  intro same
  rw [same, hidden] at shows
  cases shows

theorem IndentUnit.length_text_pos (unit : IndentUnit) : 0 < unit.text.length := by
  cases unit with
  | tab => decide
  | spaces count positive => simpa [text] using positive

theorem IndentUnit.isBlankText_text (unit : IndentUnit) : isBlankText unit.text = true := by
  cases unit with
  | tab => decide
  | spaces count positive =>
    simp only [text, isBlankText, String.toList_ofList, List.all_eq_true]
    intro character member
    rw [List.eq_of_mem_replicate member]
    decide

/-- Below a blank base every indent is blank. -/
theorem IndentUnit.isBlankText_under (unit : IndentUnit) {base : String}
    (blank : isBlankText base = true) : ∀ depth : Nat,
      isBlankText (unit.under base depth) = true
  | 0 => blank
  | depth + 1 => by
    rw [under, isBlankText_append, unit.isBlankText_under blank depth, unit.isBlankText_text]
    rfl

/-! ## Edits of the last line -/

namespace Buffer

@[simp]
theorem mapLast_concat (change : String → String) (last : String) : ∀ lines : Buffer,
    mapLast change (lines ++ [last]) = lines ++ [change last]
  | [] => rfl
  | [_] => rfl
  | first :: second :: rest => by
    have tail := mapLast_concat change last (second :: rest)
    simp only [List.cons_append] at tail ⊢
    rw [mapLast, tail]

theorem appendLine_nil (text : String) (connect : Bool) (indent : String) :
    appendLine [] text connect indent = [indent ++ text] := by
  cases connect <;> rfl

theorem appendLine_joins (lines : Buffer) (last text indent : String) :
    appendLine (lines ++ [last]) text true indent = lines ++ [joined indent last text] := by
  have occupied : (lines ++ [last]).isEmpty = false := by simp
  simp [appendLine, occupied]

theorem appendLine_below (lines : Buffer) (last text indent : String) :
    appendLine (lines ++ [last]) text false indent =
      lines ++ [blanked last] ++ [indent ++ text] := by
  simp [appendLine]

theorem glue_concat (lines : Buffer) (last text : String) :
    glue (lines ++ [last]) text = lines ++ [last ++ text] :=
  mapLast_concat _ _ _

/-- Gluing one text and then another glues both. -/
theorem glue_glue (buffer : Buffer) (first second : String) :
    (buffer.glue first).glue second = buffer.glue (first ++ second) := by
  rcases List.eq_nil_or_concat buffer with rfl | ⟨lines, last, rfl⟩
  · rfl
  · simp only [List.concat_eq_append, glue_concat, String.append_assoc]

@[simp]
theorem glue_empty (buffer : Buffer) : buffer.glue "" = buffer := by
  rcases List.eq_nil_or_concat buffer with rfl | ⟨lines, last, rfl⟩
  · rfl
  · simp only [List.concat_eq_append, glue_concat, String.append_empty]

/-- Onto a line that shows something a text is joined with one space. -/
theorem joined_of_visible {indent last : String} (text : String)
    (shows : isBlankText last = false) (blank : isBlankText indent = true) :
    joined indent last text = last ++ " " ++ text := by
  have apart : ¬ (last = "" ∨ last = indent) := by
    rintro (empty | same)
    · exact ne_empty_of_visible shows empty
    · exact ne_of_visible shows blank same
  rw [joined, if_neg apart]

theorem blanked_of_visible {line : String} (shows : isBlankText line = false) :
    blanked line = line := by
  rw [blanked, shows, if_neg Bool.false_ne_true]

/-- Neither joining nor blanking changes what is visible. -/
@[simp]
theorem visible_joined (indent last text : String) :
    visible (joined indent last text) = visible last ++ visible text := by
  have space : visible " " = [] := by decide
  unfold joined
  split <;> simp [space]

@[simp]
theorem visible_blanked (line : String) : visible (blanked line) = visible line := by
  unfold blanked
  split
  · next blank => rw [visible_empty, (isBlankText_iff line).mp blank]
  · rfl

end Buffer

namespace Edit

@[simp]
theorem applyAll_nil (buffer : Buffer) : applyAll buffer [] = buffer := rfl

theorem applyAll_cons (buffer : Buffer) (edit : Edit) (rest : List Edit) :
    applyAll buffer (edit :: rest) = applyAll (apply buffer edit) rest := rfl

theorem applyAll_append (buffer : Buffer) (first second : List Edit) :
    applyAll buffer (first ++ second) = applyAll (applyAll buffer first) second :=
  List.foldl_append

/-- An edit of a buffer with a last line leaves the lines before it alone. -/
theorem apply_frame (before : Buffer) (last : String) (edit : Edit) :
    apply (before ++ [last]) edit = before ++ apply [last] edit := by
  have alone := List.nil_append [last]
  cases edit with
  | line text connect indent =>
    cases connect with
    | true =>
      have joins := Buffer.appendLine_joins [] last text indent
      simp only [apply, Buffer.appendLine_joins before]
      rw [alone] at joins
      rw [joins, List.nil_append]
    | false =>
      have below := Buffer.appendLine_below [] last text indent
      simp only [apply, Buffer.appendLine_below before]
      rw [alone] at below
      rw [below, List.nil_append, List.append_assoc]
  | glue text =>
    simp only [apply, Buffer.glue_concat]
    rfl

/-- After an edit, a buffer with a last line still has one. -/
theorem exists_apply_singleton (last : String) (edit : Edit) :
    ∃ lines newLast, apply [last] edit = lines ++ [newLast] := by
  cases edit with
  | line text connect indent =>
    cases connect with
    | true => exact ⟨[], _, Buffer.appendLine_joins [] last text indent⟩
    | false => exact ⟨_, _, Buffer.appendLine_below [] last text indent⟩
  | glue text => exact ⟨[], _, Buffer.glue_concat [] last text⟩

/-- **Edits never touch the lines before the last one.** -/
theorem applyAll_frame (edits : List Edit) : ∀ (before : Buffer) (last : String),
    applyAll (before ++ [last]) edits = before ++ applyAll [last] edits := by
  induction edits with
  | nil => intro before last; rfl
  | cons edit rest ih =>
    intro before last
    obtain ⟨lines, newLast, next⟩ := exists_apply_singleton last edit
    rw [applyAll_cons, applyAll_cons, apply_frame, next, ← List.append_assoc,
      ih (before ++ lines) newLast, ih lines newLast, List.append_assoc]

/-- What an edit adds to the text of a buffer with or without a line. A text that is glued
where there is no line is lost. -/
def added (occupied : Bool) : Edit → String
  | .line text connect indent => if connect && occupied then text else indent ++ text
  | .glue text => if occupied then text else ""

/-- **What an edit adds is visible after all that was visible before.** -/
theorem visible_apply (buffer : Buffer) (edit : Edit) :
    visible (String.join (apply buffer edit)) =
      visible (String.join buffer) ++ visible (edit.added (buffer.length != 0)) := by
  rcases List.eq_nil_or_concat buffer with rfl | ⟨lines, last, rfl⟩
  · cases edit with
    | line text connect indent => simp [apply, Buffer.appendLine_nil, added]
    | glue text => rfl
  · cases edit with
    | line text connect indent =>
      cases connect with
      | true => simp [apply, Buffer.appendLine_joins, added]
      | false => simp [apply, Buffer.appendLine_below, added]
    | glue text => simp [apply, Buffer.glue_concat, added]

/-- The first line of all is new, whether it connects or not. -/
theorem applyAll_line_nil (text : String) (connect : Bool) (indent : String) (rest : List Edit) :
    applyAll [] (.line text connect indent :: rest) = applyAll [indent ++ text] rest := by
  rw [applyAll_cons, apply, Buffer.appendLine_nil]

/-- A text that connects to a line that shows something goes on after one space. -/
theorem applyAll_line_joins {last indent : String} (shows : isBlankText last = false)
    (blank : isBlankText indent = true) (text : String) (rest : List Edit) :
    applyAll [last] (.line text true indent :: rest) = applyAll [last ++ " " ++ text] rest := by
  have joins := Buffer.appendLine_joins [] last text indent
  rw [List.nil_append, List.nil_append, Buffer.joined_of_visible text shows blank] at joins
  rw [applyAll_cons, apply, joins]

/-- A line that shows something stays as it is above a new one. -/
theorem applyAll_line_below {last : String} (shows : isBlankText last = false)
    (text indent : String) (rest : List Edit) :
    applyAll [last] (.line text false indent :: rest) =
      last :: applyAll [indent ++ text] rest := by
  have below := Buffer.appendLine_below [] last text indent
  rw [List.nil_append, List.nil_append, Buffer.blanked_of_visible shows] at below
  rw [applyAll_cons, apply, below, applyAll_frame]
  rfl

end Edit

end CodeLayout
