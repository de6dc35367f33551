import CodeLayout.Proofs.LastLine

/-!
# What a layout does to the buffer it is given

The statements here hold for every fragment, also for one with nodes that have
no layout or with decisions that failed, where a layout stops half-way.

A layout knows of its buffer only the number of lines in it, and once there is a
line it uses this number only to compare it with a later one. So a layout moved
to a buffer with more lines makes the same edits, and stops with the same error.
From the empty buffer it can be moved too if its first edit is a line of its own,
because no other edit goes there. A layout is apart in these two cases
(`Emission.Apart`). Neither do the decisions of a layout look at indents: below a
deeper base it makes the same edits with the base in front of every indent
(`Fragment.emit_displaced`).

Main statements: `Fragment.renderInto_frame` says that a layout changes no line
of a buffer but the last one, and keeps that one in front unless it was blank.
`Fragment.renderInto_clean` says that no line above the last one is left with
blank characters only.
-/

set_option autoImplicit false

namespace CodeLayout

/-! ## Displaced edits -/

namespace Edit

/-- Whether an edit goes onto the line before it, if there is one. -/
def attaches : Edit → Bool
  | .line _ connect _ => connect
  | .glue _ => true

/-- An edit with a base in front of its indent. -/
def indentedBy (base : String) : Edit → Edit
  | .line text connect indent => .line text connect (base ++ indent)
  | .glue text => .glue text

theorem indentedBy_empty (edit : Edit) : edit.indentedBy "" = edit := by
  cases edit with
  | line text connect indent => rw [indentedBy, String.empty_append]
  | glue text => rfl

/-- Where there is a line already, an edit adds as many lines to any number. -/
theorem height_displaced (base : String) (offset : Nat) {lines : Nat} (occupied : 0 < lines)
    (edit : Edit) :
    height (lines + offset) (edit.indentedBy base) = height lines edit + offset := by
  cases edit with
  | line text connect indent =>
    have apart : lines ≠ 0 := Nat.ne_of_gt occupied
    have apart' : lines + offset ≠ 0 := by omega
    simp only [indentedBy, height, bne_iff_ne.mpr apart, bne_iff_ne.mpr apart', Bool.and_true]
    split
    · rfl
    · omega
  | glue text => rfl

theorem le_height (lines : Nat) (edit : Edit) : lines ≤ height lines edit := by
  cases edit with
  | line text connect indent =>
    rw [height]
    split
    · exact Nat.le_refl lines
    · exact Nat.le_succ lines
  | glue text => exact Nat.le_refl lines

theorem le_heightAfter (edits : List Edit) : ∀ lines : Nat, lines ≤ heightAfter lines edits := by
  induction edits with
  | nil => intro lines; exact Nat.le_refl lines
  | cons edit rest ih =>
    intro lines
    exact Nat.le_trans (le_height lines edit) (ih (height lines edit))

/-- Where there is a line already, edits add as many lines to any number. -/
theorem heightAfter_displaced (base : String) (offset : Nat) (edits : List Edit) :
    ∀ {lines : Nat}, 0 < lines →
      heightAfter (lines + offset) (edits.map (indentedBy base)) =
        heightAfter lines edits + offset := by
  induction edits with
  | nil => intro lines _; rfl
  | cons edit rest ih =>
    intro lines occupied
    have unfolded : heightAfter (lines + offset) ((edit :: rest).map (indentedBy base)) =
        heightAfter (height (lines + offset) (edit.indentedBy base))
          (rest.map (indentedBy base)) := rfl
    rw [unfolded, height_displaced base offset occupied,
      ih (Nat.lt_of_lt_of_le occupied (le_height lines edit))]
    rfl

end Edit

namespace Emission

/-- An emission with a base in front of every indent. -/
def indentedBy (base : String) (emission : Emission) : Emission where
  edits := emission.edits.map (Edit.indentedBy base)
  failure := emission.failure

theorem indentedBy_empty (emission : Emission) : emission.indentedBy "" = emission := by
  have same : Edit.indentedBy "" = id := funext Edit.indentedBy_empty
  rw [indentedBy, same, List.map_id]

/-! ## Emissions that are apart -/

/-- Whether an emission first writes a line of its own, if it writes anything. -/
def startsFresh (emission : Emission) : Bool :=
  emission.edits.head?.all fun edit => !edit.attaches

/-- An emission goes on in one way whether there is a line before it or not: there is
one, or a line of its own comes first. -/
def Apart (height : Nat) (emission : Emission) : Prop :=
  0 < height ∨ emission.startsFresh = true

theorem apart_of_pos {height : Nat} (occupied : 0 < height) (emission : Emission) :
    emission.Apart height := .inl occupied

theorem Apart.first {height : Nat} {first : Emission} {next : Nat → Emission}
    (apart : (first.andThen height next).Apart height) : first.Apart height := by
  rcases apart with occupied | fresh
  · exact .inl occupied
  · right
    cases edits : first.edits with
    | nil => simp [startsFresh, edits]
    | cons edit rest =>
      cases failed : first.failure with
      | some error =>
        simpa [startsFresh, andThen, failed, edits] using fresh
      | none => simpa [startsFresh, andThen, failed, edits] using fresh

/-- What follows an emission is apart too: either there is a line now, or it writes
first. -/
theorem Apart.next {height : Nat} {first : Emission} {next : Nat → Emission}
    (apart : (first.andThen height next).Apart height) (went : first.failure = none) :
    (next (Edit.heightAfter height first.edits)).Apart (Edit.heightAfter height first.edits) := by
  rcases apart with occupied | fresh
  · exact .inl (Nat.lt_of_lt_of_le occupied (Edit.le_heightAfter first.edits height))
  · cases edits : first.edits with
    | nil =>
      right
      simp only [startsFresh, andThen, went, edits, List.nil_append] at fresh
      exact fresh
    | cons edit rest =>
      left
      simp only [startsFresh, andThen, went, edits, List.cons_append, List.head?_cons,
        Option.all_some, Bool.not_eq_true'] at fresh
      have opened : 0 < Edit.height height edit := by
        cases edit with
        | line text connect indent =>
          simp only [Edit.attaches] at fresh
          simp [Edit.height, fresh]
        | glue text => cases fresh
      exact Nat.lt_of_lt_of_le opened (Edit.le_heightAfter rest _)

/-- An emission that is apart adds as many lines to any number. -/
theorem Apart.heightAfter_displaced {height : Nat} {emission : Emission}
    (apart : emission.Apart height) (base : String) (offset : Nat) :
    Edit.heightAfter (height + offset) (emission.edits.map (Edit.indentedBy base)) =
      Edit.heightAfter height emission.edits + offset := by
  rcases apart with occupied | fresh
  · exact Edit.heightAfter_displaced base offset emission.edits occupied
  · cases edits : emission.edits with
    | nil => rfl
    | cons edit rest =>
      simp only [startsFresh, edits, List.head?_cons, Option.all_some, Bool.not_eq_true'] at fresh
      cases edit with
      | line text connect indent =>
        cases fresh
        have opened : 0 < height + 1 := Nat.succ_pos height
        have further := Edit.heightAfter_displaced base offset rest opened
        rwa [Nat.add_right_comm] at further
      | glue text => cases fresh

/-- Displaced, an emission goes on as before when both of its parts do. -/
theorem Apart.andThen_displaced {base : String} {offset height : Nat} {first first' : Emission}
    {next next' : Nat → Emission} (apart : (first.andThen height next).Apart height)
    (former : first.Apart height → first' = first.indentedBy base)
    (latter : ∀ reached : Nat, (next reached).Apart reached →
      next' (reached + offset) = (next reached).indentedBy base) :
    first'.andThen (height + offset) next' = (first.andThen height next).indentedBy base := by
  have reached := apart.first.heightAfter_displaced base offset
  rw [former apart.first]
  cases failed : first.failure with
  | some error => simp only [andThen, indentedBy, failed]
  | none =>
    simp only [andThen, indentedBy, failed, reached]
    rw [latter _ (apart.next failed)]
    simp only [indentedBy, List.map_append]

theorem Apart.decide_displaced {base : String} {height : Nat} {decision : Decision}
    {next next' : Bool → Emission} (apart : (Emission.decide decision next).Apart height)
    (goesOn : ∀ answer, (next answer).Apart height → next' answer = (next answer).indentedBy base) :
    Emission.decide decision next' = (Emission.decide decision next).indentedBy base := by
  cases decision with
  | ok answer => exact goesOn answer apart
  | error error => rfl

end Emission

namespace Fragment

/-! ## Displaced layouts -/

/-- Several new lines are several new lines also above an offset. -/
theorem several_lines_displaced (height grown offset : Nat) :
    decide (height + offset + 1 < grown + offset) = decide (height + 1 < grown) := by
  rw [decide_eq_decide]
  omega

/-- Children of a block are displaced with it. -/
theorem ite_append_indent (unit : IndentUnit) (base indent : String) (inline : Bool) :
    (if inline then base ++ indent else base ++ indent ++ unit.text) =
      base ++ (if inline then indent else indent ++ unit.text) := by
  split
  · rfl
  · exact String.append_assoc

mutual

/-- **A layout that is apart depends neither on the number of lines before it nor on
the base of its indents.** -/
theorem emit_displaced (unit : IndentUnit) (base : String) (offset : Nat) :
    ∀ (fragment : Decided) (connect : Bool) (indent : String) (height : Nat),
      (fragment.emit unit connect indent height).Apart height →
        fragment.emit unit connect (base ++ indent) (height + offset) =
          (fragment.emit unit connect indent height).indentedBy base
  | .line text, connect, indent, height, _ => rfl
  | .block start body close connects inlining, connect, indent, height, apart => by
    simp only [emit] at apart ⊢
    refine apart.andThen_displaced (fun _ => rfl) fun opened inside => ?_
    refine inside.decide_displaced fun inline children => ?_
    rw [ite_append_indent]
    exact children.andThen_displaced
      (emitAll_displaced unit base offset body inline _ opened) fun _ _ => rfl
  | .list separator body trailing inlining, connect, indent, height, apart => by
    simp only [emit] at apart ⊢
    refine apart.decide_displaced fun inline items => ?_
    refine items.andThen_displaced
      (emitItems_displaced unit base offset separator inline body _ indent height)
      fun grown _ => ?_
    rw [several_lines_displaced]
    split
    · rfl
    · rfl
  | .concat body, connect, indent, height, apart =>
    emitSequence_displaced unit base offset body connect indent height apart
  | .foreign kind, connect, indent, height, _ => rfl

theorem emitAll_displaced (unit : IndentUnit) (base : String) (offset : Nat) :
    ∀ (body : List Decided) (connect : Bool) (indent : String) (height : Nat),
      (emitAll unit body connect indent height).Apart height →
        emitAll unit body connect (base ++ indent) (height + offset) =
          (emitAll unit body connect indent height).indentedBy base
  | [], connect, indent, height, _ => rfl
  | first :: rest, connect, indent, height, apart => by
    simp only [emitAll] at apart ⊢
    exact apart.andThen_displaced (emit_displaced unit base offset first connect indent height)
      fun grown => emitAll_displaced unit base offset rest connect indent grown

theorem emitSequence_displaced (unit : IndentUnit) (base : String) (offset : Nat) :
    ∀ (body : List Decided) (connect : Bool) (indent : String) (height : Nat),
      (emitSequence unit body connect indent height).Apart height →
        emitSequence unit body connect (base ++ indent) (height + offset) =
          (emitSequence unit body connect indent height).indentedBy base
  | [], connect, indent, height, _ => rfl
  | first :: rest, connect, indent, height, apart => by
    simp only [emitSequence] at apart ⊢
    exact apart.andThen_displaced (emit_displaced unit base offset first connect indent height)
      fun grown => emitSequence_displaced unit base offset rest false indent grown

theorem emitItems_displaced (unit : IndentUnit) (base : String) (offset : Nat)
    (separator : String) (inlining : Bool) :
    ∀ (body : List Decided) (place : ItemPlace) (indent : String) (height : Nat),
      (emitItems unit separator inlining body place indent height).Apart height →
        emitItems unit separator inlining body place (base ++ indent) (height + offset) =
          (emitItems unit separator inlining body place indent height).indentedBy base
  | [], place, indent, height, _ => rfl
  | item :: rest, place, indent, height, apart => by
    -- An item and the items after it, once it is known whether it joins.
    have written : ∀ join : Bool,
        ((item.emit unit join indent height).andThen height fun grown =>
          emitItems unit separator inlining rest (.after (height + 1 < grown)) indent
            grown).Apart height →
        (item.emit unit join (base ++ indent) (height + offset)).andThen (height + offset)
          (fun grown => emitItems unit separator inlining rest
            (.after (height + offset + 1 < grown)) (base ++ indent) grown) =
        ((item.emit unit join indent height).andThen height fun grown =>
          emitItems unit separator inlining rest (.after (height + 1 < grown)) indent
            grown).indentedBy base := by
      intro join both
      refine both.andThen_displaced (emit_displaced unit base offset item join indent height)
        fun grown others => ?_
      rw [several_lines_displaced]
      exact emitItems_displaced unit base offset separator inlining rest _ indent grown others
    cases empty : item.isEmpty with
    | true =>
      simp only [emitItems, empty, if_true] at apart ⊢
      exact emitItems_displaced unit base offset separator inlining rest place indent height apart
    | false =>
      cases place with
      | first connect =>
        simp only [emitItems, empty, Bool.false_eq_true, if_false] at apart ⊢
        exact written connect apart
      | after tall =>
        simp only [emitItems, empty, Bool.false_eq_true, if_false] at apart ⊢
        -- A separator comes first, so there must be a line before it.
        rcases apart with occupied | attached
        · refine (Emission.apart_of_pos occupied _).andThen_displaced (fun _ => rfl) fun _ _ => ?_
          exact (Emission.apart_of_pos occupied _).decide_displaced fun join _ =>
            written join (.inl occupied)
        · cases attached

end

end Fragment

/-! ## Only the last line -/

/-- What may stand later at the place of a last line: a line that starts with it, or
the empty line when it was blank. -/
def Continues (last line : String) : Prop :=
  (∃ more : String, line = last ++ more) ∨ line = "" ∧ isBlankText last = true

theorem Continues.refl (last : String) : Continues last last :=
  .inl ⟨"", String.append_empty.symm⟩

/-- What continues a longer line continues the shorter one. A longer line that was
emptied was blank, and then the shorter one was blank too. -/
theorem Continues.of_append {last more line : String} (continues : Continues (last ++ more) line) :
    Continues last line := by
  rcases continues with ⟨further, grown⟩ | ⟨emptied, blank⟩
  · exact .inl ⟨more ++ further, by rw [grown, String.append_assoc]⟩
  · rw [isBlankText_append, Bool.and_eq_true] at blank
    exact .inr ⟨emptied, blank.1⟩

namespace Buffer

theorem exists_joined (indent last text : String) :
    ∃ more : String, joined indent last text = last ++ more := by
  unfold joined
  split
  · exact ⟨text, rfl⟩
  · exact ⟨" " ++ text, String.append_assoc⟩

theorem continues_blanked (last : String) : Continues last (blanked last) := by
  unfold blanked
  split
  · next blank => exact .inr ⟨rfl, blank⟩
  · exact .refl last

end Buffer

namespace Edit

/-- Edits leave at the place of the last line one that continues it. -/
theorem applyAll_singleton (edits : List Edit) : ∀ last : String,
    ∃ (first : String) (others : List String),
      applyAll [last] edits = first :: others ∧ Continues last first := by
  induction edits with
  | nil => intro last; exact ⟨last, [], rfl, .refl last⟩
  | cons edit rest ih =>
    intro last
    cases edit with
    | line text connect indent =>
      cases connect with
      | true =>
        obtain ⟨more, joined⟩ := Buffer.exists_joined indent last text
        obtain ⟨first, others, after, continues⟩ := ih (last ++ more)
        have joins := Buffer.appendLine_joins [] last text indent
        rw [List.nil_append, List.nil_append, joined] at joins
        refine ⟨first, others, ?_, continues.of_append⟩
        rw [applyAll_cons, apply, joins, after]
      | false =>
        have below := Buffer.appendLine_below [] last text indent
        rw [List.nil_append, List.nil_append] at below
        refine ⟨Buffer.blanked last, applyAll [indent ++ text] rest, ?_,
          Buffer.continues_blanked last⟩
        rw [applyAll_cons, apply, below, applyAll_frame]
        rfl
    | glue text =>
      obtain ⟨first, others, after, continues⟩ := ih (last ++ text)
      exact ⟨first, others, after, continues.of_append⟩

end Edit

namespace Fragment

/-- **A layout touches only the last line of the buffer it is given.** What it does
to a buffer with more lines in front is what it does to the last line alone, with
the same error if it stops. At the place of the last line it leaves a line that
starts with it, or the empty line when the last line was blank. -/
theorem renderInto_frame (format : Format) (fragment : Decided) (before : Buffer)
    (last : String) (connect : Bool) (indent : String) :
    ∃ (first : String) (others : List String) (failure : Option LayoutError),
      fragment.renderInto format [last] connect indent = (first :: others, failure) ∧
        fragment.renderInto format (before ++ [last]) connect indent =
          (before ++ first :: others, failure) ∧
        Continues last first := by
  have moved : fragment.emit format.unit connect indent (before ++ [last]).length =
      fragment.emit format.unit connect indent [last].length := by
    have displaced := emit_displaced format.unit "" before.length fragment connect indent 1
      (.inl Nat.one_pos)
    rw [String.empty_append, Emission.indentedBy_empty] at displaced
    rw [List.length_append, List.length_singleton, Nat.add_comm, displaced]
  obtain ⟨first, others, after, continues⟩ :=
    Edit.applyAll_singleton (fragment.emit format.unit connect indent [last].length).edits last
  refine ⟨first, others, (fragment.emit format.unit connect indent [last].length).failure,
    ?_, ?_, continues⟩
  · rw [renderInto, Emission.applyTo, after]
  · rw [renderInto, moved, Emission.applyTo, Edit.applyAll_frame, after]

end Fragment

/-! ## Clean buffers -/

namespace Buffer

/-- Every line but the last is empty or shows something. -/
def Clean (buffer : Buffer) : Prop :=
  ∀ line ∈ buffer.dropLast, line = "" ∨ isBlankText line = false

theorem clean_concat (lines : Buffer) (last : String) :
    Clean (lines ++ [last]) ↔ ∀ line ∈ lines, line = "" ∨ isBlankText line = false := by
  rw [Clean, List.dropLast_concat]

instance (buffer : Buffer) : Decidable buffer.Clean :=
  inferInstanceAs (Decidable (∀ line ∈ buffer.dropLast, line = "" ∨ isBlankText line = false))

theorem clean_nil : Clean [] := fun _ member => absurd member List.not_mem_nil

theorem clean_singleton (last : String) : Clean [last] :=
  fun _ member => absurd member List.not_mem_nil

theorem blanked_clean (line : String) : blanked line = "" ∨ isBlankText (blanked line) = false := by
  unfold blanked
  split
  · exact .inl rfl
  · next shows => exact .inr (Bool.eq_false_iff.mpr shows)

end Buffer

namespace Edit

/-- An edit leaves a clean buffer clean: only a new line puts a line above the last
one, and blanks it. -/
theorem apply_clean {buffer : Buffer} (clean : buffer.Clean) (edit : Edit) :
    (apply buffer edit).Clean := by
  rcases List.eq_nil_or_concat buffer with rfl | ⟨lines, last, ends⟩
  · cases edit with
    | line text connect indent =>
      rw [apply, Buffer.appendLine_nil]
      exact Buffer.clean_singleton _
    | glue text => exact clean
  · rw [List.concat_eq_append] at ends
    subst ends
    have above := (Buffer.clean_concat lines last).mp clean
    cases edit with
    | line text connect indent =>
      cases connect with
      | true =>
        rw [apply, Buffer.appendLine_joins]
        exact (Buffer.clean_concat lines _).mpr above
      | false =>
        rw [apply, Buffer.appendLine_below, Buffer.clean_concat]
        intro line member
        rcases List.mem_append.mp member with earlier | blanked
        · exact above line earlier
        · rw [List.mem_singleton.mp blanked]
          exact Buffer.blanked_clean last
    | glue text =>
      rw [apply, Buffer.glue_concat]
      exact (Buffer.clean_concat lines _).mpr above

theorem applyAll_clean (edits : List Edit) : ∀ {buffer : Buffer}, buffer.Clean →
    (applyAll buffer edits).Clean := by
  induction edits with
  | nil => intro buffer clean; exact clean
  | cons edit rest ih => intro buffer clean; exact ih (apply_clean clean edit)

end Edit

namespace Fragment

/-- **No indentation is left dangling on blank lines.** Written into a clean buffer, a
fragment leaves a clean one, also where its layout stops with an error. So every
line of a rendered fragment but the last is empty or shows something. -/
theorem renderInto_clean (format : Format) (fragment : Decided) {buffer : Buffer}
    (clean : buffer.Clean) (connect : Bool) (indent : String) :
    (fragment.renderInto format buffer connect indent).1.Clean ∧
      ∀ lines : List String, fragment.renderLines format = .ok lines →
        ∀ line ∈ lines.dropLast, line = "" ∨ isBlankText line = false := by
  refine ⟨Edit.applyAll_clean _ clean, fun lines rendered => ?_⟩
  have fresh : (fragment.renderInto format [] false "").1.Clean :=
    Edit.applyAll_clean _ Buffer.clean_nil
  rw [renderLines] at rendered
  split at rendered
  · next after written =>
    cases rendered
    rwa [written] at fresh
  · cases rendered

/-- A blank last line, a blank child of a block, and a blank closing line. -/
theorem renderInto_clean_blank :
    ((Fragment.block "(" [.line " ", .line "x"] " " false (.ok false)).renderInto
        Format.standard ["a", "", "\t"] false " ").1.Clean ∧
      ∀ line ∈ ["(", "", "    x"], line = "" ∨ isBlankText line = false := by
  have clean : Buffer.Clean ["a", "", "\t"] := by decide
  obtain ⟨after, own⟩ := renderInto_clean Format.standard
    (.block "(" [.line " ", .line "x"] " " false (.ok false)) clean false " "
  exact ⟨after, own ["(", "", "    x", " "] rfl⟩

end Fragment

end CodeLayout
