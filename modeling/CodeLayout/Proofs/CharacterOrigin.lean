import CodeLayout.Proofs.LastLine
import CodeLayout.Text.Surrogate

/-!
# Where the characters of a rendered text come from

A layout makes no text up. Each step of a script writes a text of the fragment
(`Fragment.text_mem_texts`). An edit adds its text and its indent to the buffer, with at most
one space, and the lines are put together with newlines. So every character of a rendered
text is one of the texts of the fragment, a blank of an indent or between two texts, or a
newline.

Main statement: `Fragment.mem_render`. In particular a rendered text has a surrogate only if
a text of the fragment has one (`Fragment.hasSurrogates_render`).
-/

set_option autoImplicit false

namespace CodeLayout

/-! ## The texts of a fragment -/

namespace Fragment

variable {δ ε : Type}

mutual

/-- The texts of a fragment. -/
def texts : Fragment δ → List String
  | .line text => [text]
  | .block start body close _ _ => start :: close :: bodyTexts body
  | .list separator body _ _ => separator :: bodyTexts body
  | .concat body => bodyTexts body
  | .foreign _ => []

/-- The texts of a body. -/
def bodyTexts : List (Fragment δ) → List String
  | [] => []
  | first :: rest => texts first ++ bodyTexts rest

end

mutual

/-- What is said about inlining is no text. -/
theorem texts_map (f : δ → ε) : ∀ fragment : Fragment δ, (fragment.map f).texts = fragment.texts
  | .line _ => rfl
  | .block _ body _ _ _ => by rw [map, texts, texts, bodyTexts_mapBody f body]
  | .list _ body _ _ => by rw [map, texts, texts, bodyTexts_mapBody f body]
  | .concat body => bodyTexts_mapBody f body
  | .foreign _ => rfl

theorem bodyTexts_mapBody (f : δ → ε) : ∀ body : List (Fragment δ),
    bodyTexts (mapBody f body) = bodyTexts body
  | [] => rfl
  | first :: rest => by
    rw [mapBody, bodyTexts, bodyTexts, texts_map f first, bodyTexts_mapBody f rest]

end

mutual

theorem texts_settle : ∀ sketch : Sketch, sketch.settle.texts = sketch.texts
  | .line _ => rfl
  | .block _ body _ _ _ => by rw [settle, texts, texts, bodyTexts_settleBody body]
  | .list _ body _ _ => by rw [settle, texts, texts, bodyTexts_settleBody body]
  | .concat body => bodyTexts_settleBody body
  | .foreign _ => rfl

theorem bodyTexts_settleBody : ∀ body : List Sketch, bodyTexts (settleBody body) = bodyTexts body
  | [] => rfl
  | first :: rest => by
    rw [settleBody, bodyTexts, bodyTexts, texts_settle first, bodyTexts_settleBody rest]

end

end Fragment

/-! ## The texts of a script -/

/-- The text of a step. -/
def Step.text : Step → String
  | .line text _ _ => text
  | .glue text => text

namespace Fragment

mutual

/-- A script writes texts of its fragment. -/
theorem text_mem_texts {step : Step} : ∀ (fragment : Decided) (connect : Bool) (depth : Nat)
    (occupied : Bool), step ∈ fragment.script connect depth occupied → step.text ∈ fragment.texts
  | .line text, connect, depth, occupied, inside => by
    obtain rfl := List.mem_singleton.mp inside
    exact List.mem_singleton_self text
  | .block start body close connects inlining, connect, depth, occupied, inside => by
    rw [script, List.mem_cons, List.mem_append, List.mem_singleton] at inside
    rw [texts, List.mem_cons, List.mem_cons]
    rcases inside with rfl | within | rfl
    · exact .inl rfl
    · exact .inr (.inr (text_mem_bodyTexts body _ _ within))
    · exact .inr (.inl rfl)
  | .list separator body trailing inlining, connect, depth, occupied, inside => by
    rw [script, List.mem_append] at inside
    rw [texts, List.mem_cons]
    rcases inside with within | after
    · exact text_mem_items separator inlining.holds body _ depth occupied within
    · split at after
      · exact .inl (congrArg Step.text (List.mem_singleton.mp after))
      · cases after
  | .concat body, connect, depth, occupied, inside =>
    text_mem_sequence body connect depth occupied inside
  | .foreign _, connect, depth, occupied, inside => by cases inside

theorem text_mem_bodyTexts {step : Step} : ∀ (body : List Decided) (connect : Bool) (depth : Nat),
    step ∈ scriptAll body connect depth → step.text ∈ bodyTexts body
  | [], connect, depth, inside => by cases inside
  | first :: rest, connect, depth, inside => by
    rw [bodyTexts, List.mem_append]
    exact (List.mem_append.mp inside).imp (text_mem_texts first _ _ _)
      (text_mem_bodyTexts rest _ _)

theorem text_mem_sequence {step : Step} : ∀ (body : List Decided) (connect : Bool) (depth : Nat)
    (occupied : Bool), step ∈ scriptSequence body connect depth occupied →
      step.text ∈ bodyTexts body
  | [], connect, depth, occupied, inside => by cases inside
  | first :: rest, connect, depth, occupied, inside => by
    rw [bodyTexts, List.mem_append]
    exact (List.mem_append.mp inside).imp (text_mem_texts first _ _ _)
      (text_mem_sequence rest _ _ _)

/-- Between the items of a list stands the separator. -/
theorem text_mem_items {step : Step} (separator : String) (inlining : Bool) :
    ∀ (body : List Decided) (place : ItemPlace) (depth : Nat) (occupied : Bool),
      step ∈ scriptItems separator inlining body place depth occupied →
        step.text = separator ∨ step.text ∈ bodyTexts body
  | [], place, depth, occupied, inside => by cases inside
  | item :: rest, place, depth, occupied, inside => by
    rw [bodyTexts, List.mem_append]
    rw [scriptItems] at inside
    split at inside
    · exact (text_mem_items separator inlining rest place depth occupied inside).imp_right .inr
    · rw [List.mem_append, List.mem_append] at inside
      rcases inside with opening | within | later
      · cases place with
        | first connect => cases opening
        | after tall => exact .inl (congrArg Step.text (List.mem_singleton.mp opening))
      · exact .inr (.inl (text_mem_texts item _ _ _ within))
      · exact (text_mem_items separator inlining rest _ _ _ later).imp_right .inr

end

end Fragment

/-! ## The characters of a buffer -/

/-- All characters of a text are good. -/
def Consists (good : Char → Prop) (text : String) : Prop :=
  ∀ character ∈ text.toList, good character

/-- The characters of a text can be looked at one by one. -/
instance (good : Char → Prop) [DecidablePred good] (text : String) :
    Decidable (Consists good text) :=
  decidable_of_iff ((text.toList.all fun character => decide (good character)) = true)
    (by simp only [List.all_eq_true, decide_eq_true_eq, Consists])

section Characters

variable {good : Char → Prop} {text indent last : String} {buffer : Buffer}

theorem consists_append {first second : String} :
    Consists good (first ++ second) ↔ Consists good first ∧ Consists good second := by
  rw [Consists, String.toList_append]
  exact List.forall_mem_append

theorem consists_empty : Consists good "" := fun _ inside => by cases inside

theorem consists_blanked (fine : Consists good last) : Consists good (Buffer.blanked last) := by
  rw [Buffer.blanked]
  split
  · exact consists_empty
  · exact fine

theorem consists_joined (space : Consists good " ") (fine : Consists good last)
    (written : Consists good text) : Consists good (Buffer.joined indent last text) := by
  rw [Buffer.joined]
  split
  · exact consists_append.mpr ⟨fine, written⟩
  · exact consists_append.mpr ⟨consists_append.mpr ⟨fine, space⟩, written⟩

namespace Edit

/-- All characters that an edit brings are good. -/
def Brings (good : Char → Prop) : Edit → Prop
  | .line text _ indent => Consists good text ∧ Consists good indent
  | .glue text => Consists good text

/-- What an edit leaves are characters that were there, those that it brings, and spaces. -/
theorem consists_apply (space : Consists good " ") {edit : Edit} (brings : edit.Brings good)
    (fine : ∀ line ∈ buffer, Consists good line) :
    ∀ line ∈ apply buffer edit, Consists good line := by
  rcases List.eq_nil_or_concat buffer with rfl | ⟨lines, last, rfl⟩
  · cases edit with
    | line text connect indent =>
      rw [apply, Buffer.appendLine_nil, List.forall_mem_singleton]
      exact consists_append.mpr ⟨brings.2, brings.1⟩
    | glue text => exact fine
  · rw [List.concat_eq_append] at fine ⊢
    rw [List.forall_mem_append, List.forall_mem_singleton] at fine
    cases edit with
    | line text connect indent =>
      have added : Consists good (indent ++ text) := consists_append.mpr ⟨brings.2, brings.1⟩
      cases connect with
      | true =>
        rw [apply, Buffer.appendLine_joins, List.forall_mem_append, List.forall_mem_singleton]
        exact ⟨fine.1, consists_joined space fine.2 brings.1⟩
      | false =>
        simp only [apply, Buffer.appendLine_below, List.forall_mem_append,
          List.forall_mem_singleton]
        exact ⟨⟨fine.1, consists_blanked fine.2⟩, added⟩
    | glue text =>
      rw [apply, Buffer.glue_concat, List.forall_mem_append, List.forall_mem_singleton]
      exact ⟨fine.1, consists_append.mpr ⟨fine.2, brings⟩⟩

theorem consists_applyAll (space : Consists good " ") {edits : List Edit}
    (brings : ∀ edit ∈ edits, edit.Brings good) : ∀ {buffer : Buffer},
    (∀ line ∈ buffer, Consists good line) →
      ∀ line ∈ applyAll buffer edits, Consists good line := by
  induction edits with
  | nil => exact fun fine => fine
  | cons edit rest ih =>
    intro buffer fine
    rw [List.forall_mem_cons] at brings
    rw [applyAll_cons]
    exact ih brings.2 (consists_apply space brings.1 fine)

end Edit

/-! ## The characters of lines put together -/

theorem consists_intercalate {separator : String} (between : Consists good separator) :
    ∀ {lines : List String}, (∀ line ∈ lines, Consists good line) →
      Consists good (separator.intercalate lines)
  | [], _ => consists_empty
  | [line], fine => by
    rw [String.intercalate_singleton]
    exact fine line (List.mem_singleton_self line)
  | first :: second :: rest, fine => by
    rw [List.forall_mem_cons] at fine
    rw [String.intercalate_cons_cons]
    exact consists_append.mpr
      ⟨consists_append.mpr ⟨fine.1, between⟩, consists_intercalate between fine.2⟩

theorem consists_dropTrailingNewlines (fine : Consists good text) :
    Consists good (dropTrailingNewlines text) := by
  intro character inside
  rw [dropTrailingNewlines, String.toList_ofList, List.mem_reverse] at inside
  exact fine character (List.mem_reverse.mp ((List.dropWhile_sublist _).subset inside))

theorem consists_joinLines (format : Format) (newline : Consists good "\n") {lines : List String}
    (fine : ∀ line ∈ lines, Consists good line) : Consists good (format.joinLines lines) := by
  have whole := consists_intercalate newline fine
  rw [Format.joinLines]
  split
  · exact consists_append.mpr ⟨consists_dropTrailingNewlines whole, newline⟩
  · exact whole

end Characters

/-! ## The characters of a rendered text -/

/-- The characters that a layout adds: those of indents, a space between two texts and a
newline between two lines. -/
def layoutCharacters : List Char := [' ', '\t', '\n']

theorem IndentUnit.consists_under (unit : IndentUnit) : ∀ depth : Nat,
    Consists (· ∈ layoutCharacters) (unit.under "" depth)
  | 0 => consists_empty
  | depth + 1 => by
    refine consists_append.mpr ⟨unit.consists_under depth, ?_⟩
    cases unit with
    | tab => decide
    | spaces count positive =>
      intro character inside
      rw [text, String.toList_ofList] at inside
      rw [List.eq_of_mem_replicate inside]
      decide

theorem Consists.mono {good fine : Char → Prop} (weaker : ∀ character, good character →
    fine character) {text : String} (whole : Consists good text) : Consists fine text :=
  fun character inside => weaker character (whole character inside)

namespace Fragment

/-- **A layout makes no character up.** A character of a rendered text is one of the texts
of the fragment, or it belongs to an indent, to the space between two texts or to the end of
a line. -/
theorem mem_render {format : Format} {fragment : Decided} {text : String}
    (made : fragment.regular = true) (rendered : fragment.render format = .ok text)
    {character : Char} (inside : character ∈ text.toList) :
    character ∈ layoutCharacters ∨ ∃ part ∈ fragment.texts, character ∈ part.toList := by
  have blank : ∀ {part : String}, Consists (· ∈ layoutCharacters) part →
      Consists (fun character => character ∈ layoutCharacters ∨
        ∃ part ∈ fragment.texts, character ∈ part.toList) part :=
    Consists.mono fun _ => .inl
  have laid := renderInto_of_regular format fragment [] false "" made
  rw [render, renderLines, laid] at rendered
  cases rendered
  refine consists_joinLines format (blank (by decide)) ?_ character inside
  refine Edit.consists_applyAll (blank (by decide)) ?_ fun _ among => absurd among List.not_mem_nil
  intro edit written
  obtain ⟨step, within, rfl⟩ := List.mem_map.mp written
  have own := text_mem_texts fragment false 0 _ within
  cases step with
  | line part connect depth =>
    exact ⟨fun character inside => .inr ⟨part, own, inside⟩,
      blank (format.unit.consists_under depth)⟩
  | glue part => exact fun character inside => .inr ⟨part, own, inside⟩

/-- A rendered text has no surrogates where the texts of the fragment have none. -/
theorem hasSurrogates_render {format : Format} {fragment : Decided} {text : String}
    (made : fragment.regular = true) (rendered : fragment.render format = .ok text)
    (plain : ∀ part ∈ fragment.texts, hasSurrogates part = false) :
    hasSurrogates text = false := by
  have added : layoutCharacters.any isSurrogate = false := by decide
  rw [hasSurrogates, List.any_eq_false]
  intro character inside
  rcases mem_render made rendered inside with blank | ⟨part, own, within⟩
  · exact List.any_eq_false.mp added character blank
  · exact List.any_eq_false.mp (plain part own) character within

end Fragment

end CodeLayout
