import CodeLayout.Proofs.Pen
import Mathlib.Data.List.TakeWhile

/-!
# A format decides about indentation only

Two formats lay out the same fragment in the same lines, up to their leading
blank characters. The reason is that an edit asks two questions about the last
line: whether it is blank, and whether it is no more than the indent. When the
second answer depends on the format, the line is blank, and then one space more
or less in front of the joined text is one leading blank more or less.

When every block starts with a visible character, the lines are the same up to
the unit of indentation itself: each line has a depth and a remainder, and under
every format it is so many units followed by the remainder. Here the answers
have to agree exactly. A text is joined at a depth below that of a blank line
only after the start of a block in between, and the start would have made the
line visible. So the depth of a blank last line is never less than the depth of
a text joined to it (`Row.Bears`), and its text alone decides whether it is no
more than the indent.

Main statement: `Fragment.renderLines_formats`.
-/

set_option autoImplicit false

namespace CodeLayout

/-! ## Lines without their indentation -/

/-- A line without its leading blank characters. -/
def withoutIndent (line : String) : List Char := dropLeadingBlanks line.toList

theorem withoutIndent_append (first second : String) :
    withoutIndent (first ++ second) =
      if withoutIndent first = [] then withoutIndent second
      else withoutIndent first ++ second.toList := by
  simp only [withoutIndent, dropLeadingBlanks, String.toList_append, List.dropWhile_append]
  by_cases hidden : first.toList.dropWhile isBlank = []
  · simp [hidden]
  · simp [hidden]

/-- A line without visible characters is all indentation. -/
theorem withoutIndent_eq_nil (line : String) :
    withoutIndent line = [] ↔ isBlankText line = true := by
  simp [withoutIndent, dropLeadingBlanks, isBlankText, List.dropWhile_eq_nil_iff]

namespace Pen

/-- The pen that writes lines without their indentation. -/
def bare : Pen (List Char) where
  start _ text := withoutIndent text
  join _ last text := if last = [] then withoutIndent text else last ++ ' ' :: text.toList
  glue last text := if last = [] then withoutIndent text else last ++ text.toList
  blank last := last

/-- What the bare pen writes is what the plain pen writes, without indentation. -/
theorem carries_bare (unit : IndentUnit) {base : String} (blank : isBlankText base = true) :
    Carries (plain unit base) bare (fun _ _ => True) withoutIndent where
  start depth text := by
    have hidden := (withoutIndent_eq_nil _).mpr (unit.isBlankText_under blank depth)
    simp only [plain, bare, withoutIndent_append, hidden, if_true]
  join depth last text _ := by
    simp only [plain, bare]
    by_cases shows : isBlankText last = true
    · have hidden := (withoutIndent_eq_nil last).mpr shows
      have space : withoutIndent " " = [] := by decide
      unfold Buffer.joined
      split <;> simp [withoutIndent_append, hidden, space]
    · have seen : withoutIndent last ≠ [] := fun hidden =>
        shows ((withoutIndent_eq_nil last).mp hidden)
      rw [Bool.not_eq_true] at shows
      rw [Buffer.joined_of_visible text shows (unit.isBlankText_under blank depth),
        if_neg seen, withoutIndent_append, withoutIndent_append, if_neg seen,
        if_neg (by simp [seen])]
      simp
  glue last text := withoutIndent_append last text
  blank last := by
    simp only [plain, bare, Buffer.blanked]
    split
    · next shows => rw [(withoutIndent_eq_nil last).mpr shows]; rfl
    · rfl

end Pen

/-! ## Lines with their depth -/

/-- A line without a format: its depth and what follows the indent. -/
structure Row where
  /-- How many units of indentation the line starts with. -/
  depth : Nat
  /-- What follows them. -/
  text : String
deriving DecidableEq, Repr

namespace Row

/-- The line of a row: one unit for each level, then the text. -/
def line (unit : IndentUnit) (row : Row) : String :=
  String.join (List.replicate row.depth unit.text) ++ row.text

/-- What is left of a row that shows nothing. -/
def empty : Row where
  depth := 0
  text := ""

/-- A row bears a text that is joined at a depth: it shows something, or it is as
deep. -/
def Bears (depth : Nat) (row : Row) : Prop :=
  isBlankText row.text = false ∨ depth ≤ row.depth

theorem Bears.mono {depth depth' : Nat} {row : Row} (bears : row.Bears depth)
    (above : depth' ≤ depth) : row.Bears depth' := by
  rcases bears with shows | deep
  · exact .inl shows
  · exact .inr (Nat.le_trans above deep)

/-- A row with more text bears what it bore. -/
theorem Bears.append {depth : Nat} {row : Row} (bears : row.Bears depth) (more : String) :
    Bears depth ⟨row.depth, row.text ++ more⟩ := by
  rcases bears with shows | deep
  · exact .inl (by simp [shows])
  · exact .inr deep

end Row

theorem IndentUnit.under_empty (unit : IndentUnit) : ∀ depth : Nat,
    unit.under "" depth = String.join (List.replicate depth unit.text)
  | 0 => rfl
  | depth + 1 => by
    rw [under, unit.under_empty depth, List.replicate_succ', String.join_append,
      String.join_cons, String.join_nil, String.append_empty]

theorem IndentUnit.length_under (unit : IndentUnit) : ∀ depth : Nat,
    (unit.under "" depth).length = depth * unit.text.length
  | 0 => by simp [under]
  | depth + 1 => by
    rw [under, String.length_append, unit.length_under depth, Nat.succ_mul]

/-- Whether a borne row is empty or no more than an indent does not depend on the
unit. -/
theorem Row.line_eq_indent_iff (unit : IndentUnit) {depth : Nat} {row : Row}
    (bears : row.Bears depth) :
    (row.line unit = "" ∨ row.line unit = unit.under "" depth) ↔
      row.text = "" ∧ (row.depth = 0 ∨ row.depth = depth) := by
  have positive := unit.length_text_pos
  rw [Row.line, ← unit.under_empty]
  constructor
  · rintro (empty | indent)
    · obtain ⟨none, text⟩ := String.append_eq_empty_iff.mp empty
      have length := unit.length_under row.depth
      rw [none, String.length_empty] at length
      refine ⟨text, .inl ?_⟩
      rcases Nat.mul_eq_zero.mp length.symm with zero | zero
      · exact zero
      · omega
    · rcases bears with shows | deep
      · have blank := unit.isBlankText_under isBlankText_empty depth
        rw [← indent, isBlankText_append, shows, Bool.and_false] at blank
        cases blank
      · have length := congrArg String.length indent
        rw [String.length_append, unit.length_under, unit.length_under] at length
        have more := Nat.mul_le_mul_right unit.text.length deep
        have text : row.text.length = 0 := by omega
        have same : row.depth * unit.text.length = depth * unit.text.length := by omega
        exact ⟨String.length_eq_zero_iff.mp text, .inr (Nat.eq_of_mul_eq_mul_right positive same)⟩
  · rintro ⟨text, top | same⟩
    · exact .inl (by rw [text, top]; rfl)
    · exact .inr (by rw [text, same, String.append_empty])

namespace Pen

/-- The pen that writes rows. -/
def rows : Pen Row where
  start depth text := ⟨depth, text⟩
  join depth last text :=
    if last.text = "" ∧ (last.depth = 0 ∨ last.depth = depth) then
      ⟨last.depth, last.text ++ text⟩
    else
      ⟨last.depth, last.text ++ (" " ++ text)⟩
  glue last text := ⟨last.depth, last.text ++ text⟩
  blank last := if isBlankText last.text then Row.empty else last

/-- The lines of the plain pen are those of the rows, under any unit. -/
theorem carries_rows (unit : IndentUnit) :
    Carries rows (plain unit "") Row.Bears (Row.line unit) where
  start depth text := by simp only [rows, plain, Row.line, unit.under_empty]
  join depth last text bears := by
    simp only [rows, plain, Buffer.joined, Row.line_eq_indent_iff unit bears]
    split
    · simp only [Row.line, String.append_assoc]
    · simp only [Row.line, String.append_assoc]
  glue last text := by simp only [rows, plain, Row.line, String.append_assoc]
  blank last := by
    have hidden := unit.isBlankText_under isBlankText_empty last.depth
    rw [unit.under_empty] at hidden
    simp only [rows, plain, Buffer.blanked, Row.line, isBlankText_append, hidden, Bool.true_and]
    split
    · rfl
    · rfl

end Pen

/-! ## Depths along a script -/

namespace Row

/-- The last row, if there is one, bears what is joined at a depth. -/
def LastBears (depth : Nat) : List Row → Prop
  | [] => True
  | last :: _ => last.Bears depth

theorem LastBears.mono {depth depth' : Nat} {lines : List Row} (bears : LastBears depth lines)
    (above : depth' ≤ depth) : LastBears depth' lines := by
  cases lines with
  | nil => trivial
  | cons last before => exact Bears.mono bears above

/-- After a line that shows something the last row bears every depth. -/
theorem lastBears_of_visible {text : String} (shows : isBlankText text = false)
    (lines : List Row) (connect : Bool) (depth depth' : Nat) :
    LastBears depth' (Pen.rows.write lines (.line text connect depth)) := by
  cases lines with
  | nil => exact .inl shows
  | cons last before =>
    cases connect with
    | true =>
      simp only [Pen.write, Pen.rows]
      split
      · exact .inl (by simp [shows])
      · exact .inl (by simp [shows])
    | false => exact .inl shows

/-- Steps are steady at a depth when the last row bears this depth after them as it
did before, and when every text on the way is joined to a row that bears it. -/
def Steady (depth : Nat) (steps : List Step) : Prop :=
  ∀ lines : List Row, LastBears depth lines →
    Pen.AllBear Pen.rows Bears lines steps ∧ LastBears depth (Pen.rows.writeAll lines steps)

theorem steady_nil (depth : Nat) : Steady depth [] := fun _ bears => ⟨trivial, bears⟩

theorem Steady.append {depth : Nat} {first second : List Step} (former : Steady depth first)
    (latter : Steady depth second) : Steady depth (first ++ second) := by
  intro lines bears
  obtain ⟨borne, kept⟩ := former lines bears
  obtain ⟨borne', kept'⟩ := latter _ kept
  rw [Pen.allBear_append, Pen.writeAll_append]
  exact ⟨⟨borne, borne'⟩, kept'⟩

theorem steady_line (text : String) (connect : Bool) (depth : Nat) :
    Steady depth [.line text connect depth] := by
  intro lines bears
  cases lines with
  | nil => exact ⟨⟨trivial, trivial⟩, .inr (Nat.le_refl depth)⟩
  | cons last before =>
    cases connect with
    | true =>
      refine ⟨⟨bears, trivial⟩, ?_⟩
      simp only [Pen.writeAll_cons, Pen.writeAll_nil, Pen.write, Pen.rows]
      split
      · exact Bears.append bears _
      · exact Bears.append bears _
    | false => exact ⟨⟨trivial, trivial⟩, .inr (Nat.le_refl depth)⟩

theorem steady_glue (text : String) (depth : Nat) : Steady depth [.glue text] := by
  intro lines bears
  cases lines with
  | nil => exact ⟨⟨trivial, trivial⟩, trivial⟩
  | cons last before => exact ⟨⟨trivial, trivial⟩, Bears.append bears text⟩

/-- A visible start may be followed by deeper lines. -/
theorem Steady.block {start : String} (shows : isBlankText start = false) {depth deeper : Nat}
    (below : depth ≤ deeper) {body : List Step} (steady : Steady deeper body) (connect : Bool)
    (close : String) (inline : Bool) :
    Steady depth (.line start connect depth :: (body ++ [.line close inline depth])) := by
  intro lines bears
  have opened := (steady_line start connect depth lines bears).1.1
  obtain ⟨borne, kept⟩ := steady _ (lastBears_of_visible shows lines connect depth deeper)
  obtain ⟨closed, last⟩ := steady_line close inline depth _ (kept.mono below)
  rw [Pen.writeAll_cons, Pen.writeAll_append]
  exact ⟨⟨opened, (Pen.allBear_append _ _ _ _ _).mpr ⟨borne, closed⟩⟩, last⟩

/-- Below the last row, a row that shows nothing is empty. -/
def Tidy (lines : List Row) : Prop :=
  ∀ row ∈ lines.tail, isBlankText row.text = true → row = Row.empty

theorem tidy_nil : Tidy [] := fun _ member => absurd member List.not_mem_nil

theorem Tidy.write {lines : List Row} (tidy : Tidy lines) (step : Step) :
    Tidy (Pen.rows.write lines step) := by
  cases lines with
  | nil =>
    cases step with
    | line text connect depth => exact fun _ member => absurd member List.not_mem_nil
    | glue text => exact tidy
  | cons last before =>
    cases step with
    | line text connect depth =>
      cases connect with
      | true => exact tidy
      | false =>
        intro row member blank
        rcases List.mem_cons.mp member with rfl | earlier
        · simp only [Pen.rows] at blank ⊢
          split
          · rfl
          · next shows => rw [if_neg shows] at blank; exact absurd blank shows
        · exact tidy row earlier blank
    | glue text => exact tidy

theorem Tidy.writeAll (steps : List Step) : ∀ {lines : List Row}, Tidy lines →
    Tidy (Pen.rows.writeAll lines steps) := by
  induction steps with
  | nil => intro lines tidy; exact tidy
  | cons step rest ih => intro lines tidy; exact ih (tidy.write step)

end Row

namespace Fragment

mutual

/-- Whether every block in a fragment starts with something visible. -/
def startsVisible : Decided → Bool
  | .line _ => true
  | .block start body _ _ _ => !isBlankText start && allStartVisible body
  | .list _ body _ _ => allStartVisible body
  | .concat body => allStartVisible body
  | .foreign _ => true

/-- Whether every block in a body starts with something visible. -/
def allStartVisible : List Decided → Bool
  | [] => true
  | first :: rest => startsVisible first && allStartVisible rest

end

mutual

/-- When its blocks start visibly, a fragment's script is steady. -/
theorem steady_script : ∀ (fragment : Decided) (connect : Bool) (depth : Nat) (occupied : Bool),
    fragment.startsVisible = true → Row.Steady depth (fragment.script connect depth occupied)
  | .line text, connect, depth, occupied, _ => Row.steady_line text connect depth
  | .block start body close connects inlining, connect, depth, occupied, visible => by
    simp only [startsVisible, Bool.and_eq_true, Bool.not_eq_true'] at visible
    refine Row.Steady.block visible.1 ?_ (steady_scriptAll body _ _ visible.2) _ _ _
    split
    · exact Nat.le_refl depth
    · exact Nat.le_succ depth
  | .list separator body trailing inlining, connect, depth, occupied, visible => by
    refine Row.Steady.append (steady_scriptItems separator _ body _ depth occupied visible) ?_
    split
    · exact Row.steady_glue separator depth
    · exact Row.steady_nil depth
  | .concat body, connect, depth, occupied, visible =>
    steady_scriptSequence body connect depth occupied visible
  | .foreign kind, connect, depth, occupied, _ => Row.steady_nil depth

theorem steady_scriptAll : ∀ (body : List Decided) (connect : Bool) (depth : Nat),
    allStartVisible body = true → Row.Steady depth (scriptAll body connect depth)
  | [], connect, depth, _ => Row.steady_nil depth
  | first :: rest, connect, depth, visible => by
    simp only [allStartVisible, Bool.and_eq_true] at visible
    exact Row.Steady.append (steady_script first _ _ _ visible.1)
      (steady_scriptAll rest _ _ visible.2)

theorem steady_scriptSequence : ∀ (body : List Decided) (connect : Bool) (depth : Nat)
    (occupied : Bool), allStartVisible body = true →
      Row.Steady depth (scriptSequence body connect depth occupied)
  | [], connect, depth, occupied, _ => Row.steady_nil depth
  | first :: rest, connect, depth, occupied, visible => by
    simp only [allStartVisible, Bool.and_eq_true] at visible
    exact Row.Steady.append (steady_script first _ _ _ visible.1)
      (steady_scriptSequence rest _ _ _ visible.2)

theorem steady_scriptItems (separator : String) (inlining : Bool) : ∀ (body : List Decided)
    (place : ItemPlace) (depth : Nat) (occupied : Bool), allStartVisible body = true →
      Row.Steady depth (scriptItems separator inlining body place depth occupied)
  | [], place, depth, occupied, _ => Row.steady_nil depth
  | item :: rest, place, depth, occupied, visible => by
    simp only [allStartVisible, Bool.and_eq_true] at visible
    rw [scriptItems]
    split
    · exact steady_scriptItems separator inlining rest place depth occupied visible.2
    · refine Row.Steady.append ?_ (Row.Steady.append (steady_script item _ _ _ visible.1)
        (steady_scriptItems separator inlining rest _ _ _ visible.2))
      cases place with
      | first connect => exact Row.steady_nil depth
      | after tall => exact Row.steady_glue separator depth

end

/-! ## Layouts under two formats -/

/-- The lines of a fragment without their indentation do not depend on the format. -/
theorem map_withoutIndent_plain (unit : IndentUnit) (fragment : Decided) :
    ((Pen.plain unit "").writeAll [] (fragment.script false 0 false)).reverse.map withoutIndent =
      (Pen.bare.writeAll [] (fragment.script false 0 false)).reverse := by
  rw [List.map_reverse, (Pen.carries_bare unit rfl).map_writeAll _ _
    (Pen.allBear_of_forall _ (fun _ _ => trivial) _ _), List.map_nil]

/-- The rows of a fragment: its lines before a unit of indentation is chosen. -/
def rows (fragment : Decided) : List Row :=
  (Pen.rows.writeAll [] (fragment.script false 0 false)).reverse

/-- When every block starts visibly, the lines are those of the rows under every
unit. -/
theorem plain_eq_rows (unit : IndentUnit) {fragment : Decided}
    (visible : fragment.startsVisible = true) :
    ((Pen.plain unit "").writeAll [] (fragment.script false 0 false)).reverse =
      fragment.rows.map (Row.line unit) := by
  have borne := (steady_script fragment false 0 false visible [] trivial).1
  rw [rows, List.map_reverse, (Pen.carries_rows unit).map_writeAll _ _ borne, List.map_nil]

/-- All rows but the last are empty when they show nothing. -/
theorem rows_tidy (fragment : Decided) :
    ∀ row ∈ fragment.rows.dropLast, isBlankText row.text = true → row = Row.empty := by
  intro row member
  rw [rows, List.dropLast_reverse, List.mem_reverse] at member
  exact Row.Tidy.writeAll _ Row.tidy_nil row member

/-- **A format decides about leading indentation only.** Under any two formats a
regular fragment has equally many lines, and corresponding lines agree without
their leading blank characters. When every block in it starts visibly, every line
has a depth and a remainder that depend on the fragment alone, and under every
format the line is so many units of indentation with the remainder after them.
Lines that were blanked have depth zero and nothing after it. -/
theorem renderLines_formats (fragment : Decided) (made : fragment.regular = true) :
    (∀ format format' : Format, ∃ lines lines' : List String,
      fragment.renderLines format = .ok lines ∧ fragment.renderLines format' = .ok lines' ∧
        lines.length = lines'.length ∧
          lines.map withoutIndent = lines'.map withoutIndent) ∧
    (fragment.startsVisible = true →
      ∃ rows : List Row,
        (∀ format : Format,
          fragment.renderLines format = .ok (rows.map (Row.line format.unit))) ∧
        ∀ row ∈ rows.dropLast, isBlankText row.text = true → row = Row.empty) := by
  constructor
  · intro format format'
    have same := (map_withoutIndent_plain format.unit fragment).trans
      (map_withoutIndent_plain format'.unit fragment).symm
    refine ⟨_, _, renderLines_of_regular format fragment made,
      renderLines_of_regular format' fragment made, ?_, same⟩
    have count := congrArg List.length same
    rwa [List.length_map, List.length_map] at count
  · intro visible
    refine ⟨fragment.rows, fun format => ?_, fragment.rows_tidy⟩
    rw [renderLines_of_regular format fragment made, plain_eq_rows format.unit visible]

/-- A block inside a block, with a child that shows nothing. -/
theorem renderLines_formats_nested :
    ∃ rows : List Row,
      (∀ format : Format,
        (Fragment.block "(" [.block "[" [.line "x", .line " "] "]" false (.ok false)] ")" false
          (.ok false)).renderLines format = .ok (rows.map (Row.line format.unit))) ∧
      ∀ row ∈ rows.dropLast, isBlankText row.text = true → row = Row.empty :=
  (renderLines_formats _ (by decide)).2 (by decide)

end Fragment

end CodeLayout
