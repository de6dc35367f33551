import CodeLayout.Proofs.Frame
import Mathlib.Data.List.Induction

/-!
# Nesting indents

A fragment inside blocks on several lines is laid out as it is by itself, with one
unit of indentation for each block in front of every line, and with no indentation
on lines that show nothing.

Inside the blocks the fragment starts below a line and at an indent, where by itself
it starts at the left edge of an empty buffer. An edit could tell the difference in
one place: a text is joined without a space to the empty line, and an empty line
inside the blocks is no more empty, but consists of the indent. That makes no
difference where the text is joined at the same indent. A text at a deeper indent
comes after the start of a block, and a start that is not empty leaves no empty line
behind. So whenever a text is joined to the empty line, its own indent is empty too
(`Edit.Bears`).

Main statement: `Fragment.renderLines_nest`.
-/

set_option autoImplicit false

namespace CodeLayout

/-! ## Steady edits -/

namespace Edit

/-- The last line after an edit of a buffer with a last line. -/
def lastAfter (last : String) : Edit → String
  | .line text true indent => Buffer.joined indent last text
  | .line text false indent => indent ++ text
  | .glue text => last ++ text

/-- A line bears a text that is joined at an indent: it is not empty, or the indent is
empty too. -/
def Bears (indent last : String) : Prop := last = "" → indent = ""

/-- Wherever an edit of a sequence joins a text, the last line bears it. -/
def AllBorne : String → List Edit → Prop
  | _, [] => True
  | last, edit :: rest =>
    (∀ text indent, edit = .line text true indent → Bears indent last) ∧
      AllBorne (lastAfter last edit) rest

theorem allBorne_append (first second : List Edit) : ∀ last : String,
    AllBorne last (first ++ second) ↔
      AllBorne last first ∧ AllBorne (first.foldl lastAfter last) second := by
  induction first with
  | nil => intro last; exact (and_iff_right trivial).symm
  | cons edit rest ih =>
    intro last
    rw [List.cons_append, AllBorne, AllBorne, ih, and_assoc, List.foldl_cons]

theorem Bears.append {indent last : String} (bears : Bears indent last) (more : String) :
    Bears indent (last ++ more) :=
  fun empty => bears (String.append_eq_empty_iff.mp empty).1

/-- Edits are steady at an indent when the last line bears this indent after them as it
did before, and when every text on the way is joined to a line that bears it. -/
def Steady (indent : String) (edits : List Edit) : Prop :=
  ∀ last : String, Bears indent last →
    AllBorne last edits ∧ Bears indent (edits.foldl lastAfter last)

theorem steady_nil (indent : String) : Steady indent [] := fun _ bears => ⟨trivial, bears⟩

theorem Steady.append {indent : String} {first second : List Edit} (former : Steady indent first)
    (latter : Steady indent second) : Steady indent (first ++ second) := by
  intro last bears
  obtain ⟨borne, kept⟩ := former last bears
  obtain ⟨borne', kept'⟩ := latter _ kept
  rw [allBorne_append, List.foldl_append]
  exact ⟨⟨borne, borne'⟩, kept'⟩

theorem steady_line (text : String) (connect : Bool) (indent : String) :
    Steady indent [.line text connect indent] := by
  intro last bears
  cases connect with
  | true =>
    obtain ⟨more, joined⟩ := Buffer.exists_joined indent last text
    refine ⟨⟨fun text' indent' same => ?_, trivial⟩, ?_⟩
    · cases same
      exact bears
    · rw [List.foldl_cons, List.foldl_nil, lastAfter, joined]
      exact bears.append more
  | false =>
    refine ⟨⟨fun text' indent' same => ?_, trivial⟩, fun empty => ?_⟩
    · cases same
    · exact (String.append_eq_empty_iff.mp empty).1

theorem steady_glue (text indent : String) : Steady indent [.glue text] :=
  fun _ bears => ⟨⟨fun _ _ same => Edit.noConfusion same, trivial⟩, bears.append text⟩

/-- A text that is not empty leaves no empty last line. -/
theorem lastAfter_line_ne_empty {text : String} (written : text ≠ "") (last : String)
    (connect : Bool) (indent : String) : lastAfter last (.line text connect indent) ≠ "" := by
  cases connect with
  | true =>
    rw [lastAfter, Buffer.joined]
    split <;> exact fun empty => written (String.append_eq_empty_iff.mp empty).2
  | false => exact fun empty => written (String.append_eq_empty_iff.mp empty).2

/-- After a start that is not empty, deeper lines may follow. -/
theorem Steady.block {start : String} (written : start ≠ "") {indent deeper : String}
    (below : deeper = "" → indent = "") {body closing : List Edit} (steady : Steady deeper body)
    (closes : Steady indent closing) (connect : Bool) :
    Steady indent (.line start connect indent :: (body ++ closing)) := by
  intro last bears
  have opened := (steady_line start connect indent last bears).1.1
  obtain ⟨borne, kept⟩ := steady _ fun empty =>
    absurd empty (lastAfter_line_ne_empty written last connect indent)
  obtain ⟨closed, final⟩ := closes _ fun empty => below (kept empty)
  rw [List.foldl_cons, List.foldl_append]
  exact ⟨⟨opened, (allBorne_append _ _ _).mpr ⟨borne, closed⟩⟩, final⟩

end Edit

/-- The edits of an emission that goes on are its first edits, followed by the next ones
unless it stopped. -/
theorem Emission.edits_andThen (first : Emission) (height : Nat) (next : Nat → Emission) :
    (first.andThen height next).edits = first.edits ∨
      (first.andThen height next).edits =
        first.edits ++ (next (Edit.heightAfter height first.edits)).edits := by
  unfold andThen
  split
  · exact .inl rfl
  · exact .inr rfl

theorem Emission.steady_andThen {indent : String} {first : Emission} {height : Nat}
    {next : Nat → Emission} (former : Edit.Steady indent first.edits)
    (latter : ∀ reached : Nat, Edit.Steady indent (next reached).edits) :
    Edit.Steady indent (first.andThen height next).edits := by
  rcases first.edits_andThen height next with stopped | went
  · rw [stopped]
    exact former
  · rw [went]
    exact former.append (latter _)

theorem Emission.steady_decide {indent : String} {decision : Decision} {next : Bool → Emission}
    (goesOn : ∀ answer : Bool, Edit.Steady indent (next answer).edits) :
    Edit.Steady indent (Emission.decide decision next).edits := by
  cases decision with
  | ok answer => exact goesOn answer
  | error error => exact Edit.steady_nil indent

namespace Fragment

mutual

/-- Whether no block in a fragment starts with the empty text. -/
def startsWritten : Decided → Bool
  | .line _ => true
  | .block start body _ _ _ => start != "" && allStartWritten body
  | .list _ body _ _ => allStartWritten body
  | .concat body => allStartWritten body
  | .foreign _ => true

/-- Whether no block in a body starts with the empty text. -/
def allStartWritten : List Decided → Bool
  | [] => true
  | first :: rest => startsWritten first && allStartWritten rest

end

mutual

/-- When no block starts with the empty text, a fragment's edits are steady. -/
theorem steady_emit (unit : IndentUnit) : ∀ (fragment : Decided) (connect : Bool)
    (indent : String) (height : Nat), fragment.startsWritten = true →
      Edit.Steady indent (fragment.emit unit connect indent height).edits
  | .line text, connect, indent, height, _ => Edit.steady_line text connect indent
  | .block start body close connects inlining, connect, indent, height, written => by
    simp only [startsWritten, Bool.and_eq_true, bne_iff_ne] at written
    cases inlining with
    | error error =>
      exact Edit.Steady.block written.1 id (Edit.steady_nil indent) (Edit.steady_nil indent) _
    | ok inline =>
      have below : (if inline then indent else indent ++ unit.text) = "" → indent = "" := by
        split
        · exact id
        · exact fun empty => (String.append_eq_empty_iff.mp empty).1
      have children := steady_emitAll unit body inline
        (if inline then indent else indent ++ unit.text)
        (Edit.heightAfter height [.line start (connects || connect) indent]) written.2
      simp only [emit, Emission.andThen, Emission.single, Emission.decide, List.singleton_append]
      split
      · rw [← List.append_nil (Emission.edits _)]
        exact children.block written.1 below (Edit.steady_nil indent) _
      · exact children.block written.1 below (Edit.steady_line close inline indent) _
  | .list separator body trailing inlining, connect, indent, height, written => by
    simp only [emit]
    refine Emission.steady_decide fun inline => Emission.steady_andThen
      (steady_emitItems unit separator inline body _ indent height written) fun grown => ?_
    split
    · exact Edit.steady_glue separator indent
    · exact Edit.steady_nil indent
  | .concat body, connect, indent, height, written =>
    steady_emitSequence unit body connect indent height written
  | .foreign kind, connect, indent, height, _ => Edit.steady_nil indent

theorem steady_emitAll (unit : IndentUnit) : ∀ (body : List Decided) (connect : Bool)
    (indent : String) (height : Nat), allStartWritten body = true →
      Edit.Steady indent (emitAll unit body connect indent height).edits
  | [], connect, indent, height, _ => Edit.steady_nil indent
  | first :: rest, connect, indent, height, written => by
    simp only [allStartWritten, Bool.and_eq_true] at written
    exact Emission.steady_andThen (steady_emit unit first connect indent height written.1)
      fun grown => steady_emitAll unit rest connect indent grown written.2

theorem steady_emitSequence (unit : IndentUnit) : ∀ (body : List Decided) (connect : Bool)
    (indent : String) (height : Nat), allStartWritten body = true →
      Edit.Steady indent (emitSequence unit body connect indent height).edits
  | [], connect, indent, height, _ => Edit.steady_nil indent
  | first :: rest, connect, indent, height, written => by
    simp only [allStartWritten, Bool.and_eq_true] at written
    exact Emission.steady_andThen (steady_emit unit first connect indent height written.1)
      fun grown => steady_emitSequence unit rest false indent grown written.2

theorem steady_emitItems (unit : IndentUnit) (separator : String) (inlining : Bool) :
    ∀ (body : List Decided) (place : ItemPlace) (indent : String) (height : Nat),
      allStartWritten body = true →
        Edit.Steady indent (emitItems unit separator inlining body place indent height).edits
  | [], place, indent, height, _ => Edit.steady_nil indent
  | item :: rest, place, indent, height, written => by
    simp only [allStartWritten, Bool.and_eq_true] at written
    have both : ∀ join : Bool, Edit.Steady indent
        ((item.emit unit join indent height).andThen height fun grown =>
          emitItems unit separator inlining rest (.after (height + 1 < grown)) indent
            grown).edits := fun join =>
      Emission.steady_andThen (steady_emit unit item join indent height written.1) fun grown =>
        steady_emitItems unit separator inlining rest _ indent grown written.2
    cases empty : item.isEmpty with
    | true =>
      simp only [emitItems, empty, if_true]
      exact steady_emitItems unit separator inlining rest place indent height written.2
    | false =>
      cases place with
      | first connect =>
        simp only [emitItems, empty, Bool.false_eq_true, if_false]
        exact both connect
      | after tall =>
        simp only [emitItems, empty, Bool.false_eq_true, if_false]
        exact Emission.steady_andThen (Edit.steady_glue separator indent) fun _ =>
          Emission.steady_decide both

end

end Fragment

theorem IndentUnit.text_ne_empty (unit : IndentUnit) : unit.text ≠ "" := by
  intro empty
  have positive := unit.length_text_pos
  rw [empty] at positive
  exact absurd positive (by decide)

/-! ## Deeper lines -/

/-- A line below a base. A line that shows nothing is emptied. -/
def deepened (base line : String) : String :=
  if isBlankText line then "" else base ++ line

theorem deepened_of_visible (base : String) {line : String} (shows : isBlankText line = false) :
    deepened base line = base ++ line := by
  rw [deepened, shows, if_neg Bool.false_ne_true]

/-- A line below a base and then below another one. -/
theorem deepened_deepened (base deeper line : String) :
    deepened base (deepened deeper line) = deepened (base ++ deeper) line := by
  cases shows : isBlankText line with
  | true =>
    rw [deepened, deepened, deepened, shows, if_pos rfl, if_pos rfl]
    rfl
  | false =>
    have shown : isBlankText (deeper ++ line) = false := by
      rw [isBlankText_append, shows, Bool.and_false]
    rw [deepened_of_visible deeper shows, deepened_of_visible base shown,
      deepened_of_visible (base ++ deeper) shows, String.append_assoc]

theorem blanked_append {base : String} (hidden : isBlankText base = true) (last : String) :
    Buffer.blanked (base ++ last) = deepened base last := by
  rw [Buffer.blanked, deepened, isBlankText_append, hidden, Bool.true_and]

theorem deepened_blanked (base last : String) :
    deepened base (Buffer.blanked last) = deepened base last := by
  by_cases blank : isBlankText last = true
  · simp [deepened, Buffer.blanked, blank]
  · simp [deepened, Buffer.blanked, blank]

/-- A text joined below a base is joined in the same way. -/
theorem joined_append {base : String} (written : base ≠ "") {indent last : String}
    (bears : Edit.Bears indent last) (text : String) :
    Buffer.joined (base ++ indent) (base ++ last) text =
      base ++ Buffer.joined indent last text := by
  have apart : base ++ last ≠ "" := fun empty =>
    written (String.append_eq_empty_iff.mp empty).1
  have same : (base ++ last = "" ∨ base ++ last = base ++ indent) ↔
      (last = "" ∨ last = indent) := by
    constructor
    · rintro (empty | indents)
      · exact absurd empty apart
      · exact .inr (String.append_right_inj base |>.mp indents)
    · rintro (empty | indents)
      · exact .inr (by rw [empty, bears empty])
      · exact .inr (by rw [indents])
  rw [Buffer.joined, Buffer.joined]
  by_cases unspaced : last = "" ∨ last = indent
  · rw [if_pos unspaced, if_pos (same.mpr unspaced), String.append_assoc]
  · rw [if_neg unspaced, if_neg fun spaced => unspaced (same.mp spaced)]
    simp only [String.append_assoc]

/-- **Below a base, edits make the same lines as without it.** Every line but the last is
deepened, and the last one is put below the base as it is. -/
theorem Edit.applyAll_deepened {base : String} (hidden : isBlankText base = true)
    (written : base ≠ "") (edits : List Edit) : ∀ last : String, AllBorne last edits →
      ∃ (lines : List String) (final : String),
        applyAll [last] edits = lines ++ [final] ∧
          applyAll [base ++ last] (edits.map (indentedBy base)) =
            lines.map (deepened base) ++ [base ++ final] := by
  induction edits with
  | nil => intro last _; exact ⟨[], last, rfl, rfl⟩
  | cons edit rest ih =>
    intro last borne
    cases edit with
    | glue text =>
      have further := ih (last ++ text) borne.2
      rwa [← String.append_assoc] at further
    | line text connect indent =>
      cases connect with
      | true =>
        have further := ih (Buffer.joined indent last text) borne.2
        have joins := Buffer.appendLine_joins [] last text indent
        have joins' := Buffer.appendLine_joins [] (base ++ last) text (base ++ indent)
        rw [List.nil_append, List.nil_append] at joins joins'
        rw [joined_append written (borne.1 text indent rfl)] at joins'
        rwa [applyAll_cons, apply, joins, List.map_cons, applyAll_cons, indentedBy, apply, joins']
      | false =>
        obtain ⟨lines, final, alone, deeper⟩ := ih (indent ++ text) borne.2
        have below := Buffer.appendLine_below [] last text indent
        have below' := Buffer.appendLine_below [] (base ++ last) text (base ++ indent)
        rw [List.nil_append, List.nil_append] at below below'
        refine ⟨Buffer.blanked last :: lines, final, ?_, ?_⟩
        · rw [applyAll_cons, apply, below, applyAll_frame, alone]
          rfl
        · rw [List.map_cons, applyAll_cons, indentedBy, apply, below', applyAll_frame,
            String.append_assoc, deeper, List.map_cons, deepened_blanked, blanked_append hidden]
          rfl

/-! ## Blocks around a fragment -/

/-- The start and the closing line of a block on several lines. Both show something. -/
structure Shell where
  /-- The text of the start. -/
  start : String
  /-- The text of the closing line. -/
  close : String
  startShows : isBlankText start = false
  closeShows : isBlankText close = false

namespace Shell

/-- The block of a shell with a fragment as its only child. -/
def around (shell : Shell) (fragment : Decided) : Decided :=
  .block shell.start [fragment] shell.close false (.ok false)

end Shell

namespace Fragment

/-- A fragment inside blocks, the outermost first. -/
def nest (shells : List Shell) (fragment : Decided) : Decided :=
  shells.foldr Shell.around fragment

end Fragment

/-- Lines inside blocks: the starts below each other, each one unit deeper, then the
lines with as many units as there are blocks, then the closing lines. -/
def nestedLines (unit : IndentUnit) (shells : List Shell) (lines : List String) : List String :=
  shells.mapIdx (fun depth shell => unit.under "" depth ++ shell.start) ++
    lines.map (deepened (unit.under "" shells.length)) ++
    (shells.mapIdx fun depth shell => unit.under "" depth ++ shell.close).reverse

namespace Fragment

/-- The emission of a block around a fragment that does not start on the line before
it. -/
theorem emit_around (unit : IndentUnit) (shell : Shell) {fragment : Decided}
    (fresh : (fragment.emit unit false "" 0).startsFresh = true) :
    (shell.around fragment).emit unit false "" 0 =
      { edits := .line shell.start false "" ::
          ((fragment.emit unit false "" 0).edits.map (Edit.indentedBy unit.text) ++
            if (fragment.emit unit false "" 0).failure.isNone then
              [.line shell.close false ""]
            else
              []),
        failure := (fragment.emit unit false "" 0).failure } := by
  have inside := emit_displaced unit unit.text 1 fragment false "" 0 (.inr fresh)
  rw [String.append_empty, Nat.zero_add] at inside
  have opened : Edit.heightAfter 0 [.line shell.start false ""] = 1 := rfl
  simp only [Shell.around, emit, emitAll, Emission.andThen, Emission.single, Emission.decide,
    Bool.or_false, opened, Bool.false_eq_true, if_false, String.empty_append, inside,
    Emission.indentedBy]
  cases failed : (fragment.emit unit false "" 0).failure with
  | some error => simp
  | none => simp [Emission.nothing]

/-- Inside one block a fragment has its own lines, one unit deeper. -/
theorem renderLines_around (format : Format) (shell : Shell) {fragment : Decided}
    (written : fragment.startsWritten = true)
    (fresh : (fragment.emit format.unit false "" 0).startsFresh = true) :
    (shell.around fragment).renderLines format =
      (fragment.renderLines format).map fun lines =>
        shell.start :: (lines.map (deepened format.unit.text) ++ [shell.close]) := by
  have steady := steady_emit format.unit fragment false "" 0 written
  simp only [renderLines, renderInto, List.length_nil, emit_around format.unit shell fresh,
    Emission.applyTo]
  cases failed : (fragment.emit format.unit false "" 0).failure with
  | some error => rfl
  | none =>
    simp only [Option.isNone_none, if_true]
    refine congrArg Except.ok ?_
    rw [Edit.applyAll_line_nil, String.empty_append]
    cases edits : (fragment.emit format.unit false "" 0).edits with
    | nil =>
      rw [List.map_nil, List.nil_append, Edit.applyAll_line_below shell.startShows]
      rfl
    | cons edit rest =>
      rw [Emission.startsFresh, edits] at fresh
      rw [edits] at steady
      cases edit with
      | glue text => cases fresh
      | line text connect indent =>
        cases connect with
        | true => cases fresh
        | false =>
          -- Below the start the first line is new, as it is in an empty buffer.
          have borne := (steady shell.start fun _ => rfl).1.2
          obtain ⟨lines, final, alone, deeper⟩ := Edit.applyAll_deepened
            format.unit.isBlankText_text format.unit.text_ne_empty rest (indent ++ text) borne
          rw [Edit.applyAll_line_nil, alone, List.map_cons, List.cons_append, Edit.indentedBy,
            Edit.applyAll_line_below shell.startShows, String.append_assoc,
            Edit.applyAll_append, deeper, Edit.applyAll_cons, Edit.apply,
            Buffer.appendLine_below, blanked_append format.unit.isBlankText_text]
          simp

/-- Inside one more block, the lines are those of the block inside the others. -/
theorem nestedLines_concat (unit : IndentUnit) (shells : List Shell) (inner : Shell)
    (lines : List String) :
    nestedLines unit (shells ++ [inner]) lines =
      nestedLines unit shells
        (inner.start :: (lines.map (deepened unit.text) ++ [inner.close])) := by
  have deeper : deepened (unit.under "" shells.length) ∘ deepened unit.text =
      deepened (unit.under "" (shells.length + 1)) := by
    funext line
    rw [Function.comp_apply, deepened_deepened, IndentUnit.under]
  simp [nestedLines, List.mapIdx_concat, deepened_of_visible _ inner.startShows,
    deepened_of_visible _ inner.closeShows, deeper]

theorem nest_concat (shells : List Shell) (inner : Shell) (fragment : Decided) :
    nest (shells ++ [inner]) fragment = nest shells (inner.around fragment) := by
  rw [nest, nest, List.foldr_append]
  rfl

/-- Blocks around a fragment, the innermost of them apart. -/
theorem renderLines_nest_concat (format : Format) (shells : List Shell) :
    ∀ (inner : Shell) {fragment : Decided}, fragment.startsWritten = true →
      (fragment.emit format.unit false "" 0).startsFresh = true →
        (nest (shells ++ [inner]) fragment).renderLines format =
          (fragment.renderLines format).map (nestedLines format.unit (shells ++ [inner])) := by
  induction shells using List.reverseRecOn with
  | nil =>
    intro inner fragment written fresh
    have single : nestedLines format.unit [inner] = fun lines =>
        inner.start :: (lines.map (deepened format.unit.text) ++ [inner.close]) := by
      funext lines
      simp [nestedLines, IndentUnit.under]
    rw [List.nil_append, single]
    exact renderLines_around format inner written fresh
  | append_singleton outer next ih =>
    intro inner fragment written fresh
    have startWritten : (inner.around fragment).startsWritten = true := by
      simp [Shell.around, startsWritten, allStartWritten, written,
        ne_empty_of_visible inner.startShows]
    have startFresh : ((inner.around fragment).emit format.unit false "" 0).startsFresh = true := by
      rw [emit_around format.unit inner fresh]
      rfl
    rw [nest_concat, ih next startWritten startFresh, renderLines_around format inner written fresh]
    cases fragment.renderLines format with
    | error error => rfl
    | ok lines => exact congrArg Except.ok (nestedLines_concat format.unit _ inner lines).symm

/-- **Indentation is compositional under nesting.** Inside blocks on several lines a
fragment that does not start on the line before it, and whose blocks do not start with
the empty text, has its own lines, each with one unit of indentation for every block
around it. Lines that show nothing are empty there. -/
theorem renderLines_nest (format : Format) {shells : List Shell} (inside : shells ≠ [])
    {fragment : Decided} (written : fragment.startsWritten = true)
    (fresh : (fragment.emit format.unit false "" 0).startsFresh = true) :
    (nest shells fragment).renderLines format =
      (fragment.renderLines format).map (nestedLines format.unit shells) := by
  rw [← List.dropLast_concat_getLast inside]
  exact renderLines_nest_concat format _ _ written fresh

/-- A list inside two blocks. Its first item takes several lines, one of them blank, and
the next item joins them. -/
theorem renderLines_nest_list :
    (nest [⟨"f \x7b", "\x7d", by decide, by decide⟩, ⟨"if \x7b", "\x7d", by decide, by decide⟩]
      (.list "," [.block "(" [.line " "] ")" false (.ok false), .line "b"] .ifMultiLine
        (.ok false))).renderLines Format.standard =
      .ok ["f \x7b", "    if \x7b", "        (", "", "        ), b,", "    \x7d", "\x7d"] :=
  renderLines_nest Format.standard (by decide) (by decide) (by decide)

end Fragment

end CodeLayout
