import CodeLayout.Proofs.LastLine

/-!
# A layout keeps all visible text

The reading of a fragment is its text from left to right, said without lines
and without indents. A list reads its items that are not empty with one
separator between each two of them. Its trailing rule may add one more
separator, and the rule for lists of several lines looks at the number of lines
that the list itself adds.

Main statement: `Fragment.visible_renderInto` says that the visible characters
in the buffer after a regular fragment was written are those before, followed
by those of the fragment's reading. So a layout loses no visible character,
writes none twice and never changes their order.
-/

set_option autoImplicit false

namespace CodeLayout

/-! ## What a script leaves visible -/

namespace Step

/-- The text that steps leave in a buffer with or without a line. A text that is
glued where there is no line is lost. -/
def written (occupied : Bool) : List Step → String
  | [] => ""
  | .line text _ _ :: rest => text ++ written true rest
  | .glue text :: rest => (if occupied then text else "") ++ written occupied rest

theorem written_append (first second : List Step) : ∀ occupied : Bool,
    written occupied (first ++ second) =
      written occupied first ++ written (occupied || occupies first) second := by
  induction first with
  | nil => intro occupied; simp [written]
  | cons step rest ih =>
    intro occupied
    cases step with
    | line text connect depth =>
      simp only [List.cons_append, written, ih, String.append_assoc, occupies_line, Bool.or_true,
        Bool.true_or]
    | glue text =>
      simp only [List.cons_append, written, ih, String.append_assoc, occupies_glue]

/-- One step adds its written text to what is visible. -/
theorem visible_apply (unit : IndentUnit) {base : String} (blank : isBlankText base = true)
    (buffer : Buffer) (step : Step) :
    visible (String.join (Edit.apply buffer (step.toEdit unit base))) =
      visible (String.join buffer) ++ visible (written (buffer.length != 0) [step]) := by
  rw [Edit.visible_apply]
  cases step with
  | line text connect depth =>
    have hidden := (isBlankText_iff _).mp (unit.isBlankText_under blank depth)
    rw [toEdit, Edit.added]
    split <;> simp [written, hidden]
  | glue text => simp [toEdit, Edit.added, written]

/-- Steps add their written text to what is visible. -/
theorem visible_applyAll (unit : IndentUnit) {base : String} (blank : isBlankText base = true)
    (steps : List Step) : ∀ buffer : Buffer,
    visible (String.join (Edit.applyAll buffer (steps.map (toEdit unit base)))) =
      visible (String.join buffer) ++ visible (written (buffer.length != 0) steps) := by
  induction steps with
  | nil => intro buffer; simp [written]
  | cons step rest ih =>
    intro buffer
    have height := Edit.length_apply buffer (step.toEdit unit base)
    have occupied : ((Edit.apply buffer (step.toEdit unit base)).length != 0) =
        ((buffer.length != 0) || occupies [step]) := by
      have after := heightAfter_map_toEdit unit base [step] buffer.length
      rw [← occupied_after, ← after, height]
      rfl
    rw [List.map_cons, Edit.applyAll_cons, ih, visible_apply unit blank, occupied,
      List.append_assoc, ← visible_append, ← written_append]
    rfl

end Step

namespace Fragment

/-! ## Readings -/

mutual

/-- The text of a fragment from left to right, where it is written with or
without a wish to connect into a buffer with or without a line. -/
def reading : Decided → Bool → Bool → String
  | .line text, _, _ => text
  | .block start body close _ inlining, _, _ =>
    start ++ readingAll body inlining.holds ++ close
  | .list separator body trailing inlining, connect, occupied =>
    if allEmpty body then
      if trailing = .always ∧ occupied then separator else ""
    else
      separator.intercalate (readingItems inlining.holds body (.first connect) occupied) ++
        if trailing.applies
            (2 ≤ growth (.list separator body trailing inlining) connect occupied) then
          separator
        else
          ""
  | .concat body, connect, occupied => readingSequence body connect occupied
  | .foreign _, _, _ => ""

/-- The text of the children of a block. -/
def readingAll : List Decided → Bool → String
  | [], _ => ""
  | first :: rest, connect => reading first connect true ++ readingAll rest connect

/-- The text of the children of a concatenation. -/
def readingSequence : List Decided → Bool → Bool → String
  | [], _, _ => ""
  | first :: rest, connect, occupied =>
    reading first connect occupied ++ readingSequence rest false (occupied || !first.isEmpty)

/-- The texts of the items of a list that are not empty. -/
def readingItems (inlining : Bool) : List Decided → ItemPlace → Bool → List String
  | [], _, _ => []
  | item :: rest, place, occupied =>
    if item.isEmpty then
      readingItems inlining rest place occupied
    else
      let join := place.joins inlining item
      reading item join occupied ::
        readingItems inlining rest (.after (1 < growth item join occupied)) true

end

/-! ## The script of a fragment leaves its reading -/

/-- The texts of items with the separators that belong to them at a place. -/
def separated (separator : String) : ItemPlace → List String → String
  | .first _, texts => separator.intercalate texts
  | .after _, texts => String.join (texts.map fun text => separator ++ text)

theorem intercalate_cons (separator text : String) (texts : List String) :
    separator.intercalate (text :: texts) =
      text ++ String.join (texts.map fun next => separator ++ next) := by
  induction texts generalizing text with
  | nil => simp
  | cons next rest ih =>
    rw [String.intercalate_cons_cons, ih, List.map_cons, String.join_cons]
    simp only [String.append_assoc]

mutual

/-- The script of a regular fragment writes the fragment's reading. -/
theorem written_script : ∀ (fragment : Decided) (connect : Bool) (depth : Nat) (occupied : Bool),
    fragment.regular = true →
      Step.written occupied (fragment.script connect depth occupied) =
        fragment.reading connect occupied
  | .line text, connect, depth, occupied, _ => by
    simp [script, reading, Step.written]
  | .block start body close connects inlining, connect, depth, occupied, made => by
    simp only [regular, Bool.and_eq_true] at made
    simp only [script, reading, Step.written, Step.written_append,
      written_scriptAll body _ _ made.2, String.append_empty, String.append_assoc]
  | .list separator body trailing inlining, connect, depth, occupied, made => by
    simp only [regular, Bool.and_eq_true] at made
    have items := written_scriptItems separator inlining.holds body (.first connect) depth
      occupied made.2 (fun tall place => by cases place)
    have writes := occupies_scriptItems separator inlining.holds body (.first connect) depth
      occupied made.2
    by_cases empty : allEmpty body = true
    · rw [script, reading, if_pos empty, growthItems_of_allEmpty _ _ _ _ empty,
        scriptItems_of_allEmpty _ _ _ _ _ _ empty]
      cases trailing <;> cases occupied <;> simp [Trailing.applies, Step.written]
    · rw [Bool.not_eq_true] at empty
      rw [empty, Bool.not_false] at writes
      rw [script, reading, Step.written_append, items, writes, Bool.or_true, empty,
        if_neg Bool.false_ne_true]
      have several : decide (2 ≤ growth (.list separator body trailing inlining) connect occupied)
          = decide (1 < growthItems inlining.holds body (.first connect) occupied) := rfl
      rw [several]
      congr 1
      split <;> simp [Step.written]
  | .concat body, connect, depth, occupied, made =>
    written_scriptSequence body connect depth occupied made
  | .foreign kind, connect, depth, occupied, made => by cases made

theorem written_scriptAll : ∀ (body : List Decided) (connect : Bool) (depth : Nat),
    allRegular body = true →
      Step.written true (scriptAll body connect depth) = readingAll body connect
  | [], connect, depth, _ => rfl
  | first :: rest, connect, depth, made => by
    simp only [allRegular, Bool.and_eq_true] at made
    simp only [scriptAll, readingAll, Step.written_append, Bool.true_or,
      written_script first _ _ _ made.1, written_scriptAll rest _ _ made.2]

theorem written_scriptSequence : ∀ (body : List Decided) (connect : Bool) (depth : Nat)
    (occupied : Bool), allRegular body = true →
      Step.written occupied (scriptSequence body connect depth occupied) =
        readingSequence body connect occupied
  | [], connect, depth, occupied, _ => rfl
  | first :: rest, connect, depth, occupied, made => by
    simp only [allRegular, Bool.and_eq_true] at made
    simp only [scriptSequence, readingSequence, Step.written_append,
      occupies_script first _ _ _ made.1, written_script first _ _ _ made.1,
      written_scriptSequence rest _ _ _ made.2]

/-- After a first item there is a line in the buffer, so no separator is lost. -/
theorem written_scriptItems (separator : String) (inlining : Bool) : ∀ (body : List Decided)
    (place : ItemPlace) (depth : Nat) (occupied : Bool), allRegular body = true →
      (∀ tall, place = .after tall → occupied = true) →
      Step.written occupied (scriptItems separator inlining body place depth occupied) =
        separated separator place (readingItems inlining body place occupied)
  | [], place, depth, occupied, _, _ => by cases place <;> rfl
  | item :: rest, place, depth, occupied, made, lineBefore => by
    simp only [allRegular, Bool.and_eq_true] at made
    by_cases empty : item.isEmpty = true
    · simp only [scriptItems, readingItems, empty, if_true]
      exact written_scriptItems separator inlining rest place depth occupied made.2 lineBefore
    · rw [Bool.not_eq_true] at empty
      have writes := occupies_script item (place.joins inlining item) depth occupied made.1
      rw [empty, Bool.not_false] at writes
      have own := written_script item (place.joins inlining item) depth occupied made.1
      have others := written_scriptItems separator inlining rest
        (.after (1 < growth item (place.joins inlining item) occupied)) depth true made.2
        (fun _ _ => rfl)
      have texts : readingItems inlining (item :: rest) place occupied =
          reading item (place.joins inlining item) occupied ::
            readingItems inlining rest
              (.after (1 < growth item (place.joins inlining item) occupied)) true := by
        rw [readingItems, empty]
        rfl
      rw [scriptItems_cons _ _ _ _ _ _ empty, texts]
      cases place with
      | first connect =>
        rw [ItemPlace.opening, List.nil_append, Step.written_append, own, writes, Bool.or_true,
          others, separated, separated, intercalate_cons]
      | after tall =>
        obtain rfl := lineBefore tall rfl
        rw [ItemPlace.opening, List.singleton_append, Step.written, if_pos rfl,
          Step.written_append, own, Bool.true_or, others, separated, separated, List.map_cons,
          String.join_cons, String.append_assoc]

end

/-- **A layout loses no visible character, writes none twice and keeps their
order.** After a regular fragment was written into a buffer, the visible
characters are those of the buffer before and then those of the fragment's
reading. -/
theorem visible_renderInto (format : Format) (fragment : Decided) (buffer : Buffer)
    (connect : Bool) (indent : String) (made : fragment.regular = true)
    (blank : isBlankText indent = true) :
    ∃ after : Buffer, fragment.renderInto format buffer connect indent = (after, none) ∧
      visible (String.join after) =
        visible (String.join buffer) ++
          visible (fragment.reading connect (buffer.length != 0)) := by
  refine ⟨_, renderInto_of_regular format fragment buffer connect indent made, ?_⟩
  rw [Step.visible_applyAll format.unit blank, written_script fragment _ _ _ made]

/-- A list with an item that has no code, written onto a line. -/
theorem visible_renderInto_call :
    ∃ after : Buffer,
      (Fragment.list "," [.line "a b", .list ";" [] .always (.ok false),
          .block "(" [.line ""] ")" true (.ok true)] .always (.ok false)).renderInto
        Format.tabs ["f ("] true "\t" = (after, none) ∧
      visible (String.join after) = "f(ab,(),".toList := by
  obtain ⟨after, rendered, kept⟩ := visible_renderInto Format.tabs
    (.list "," [.line "a b", .list ";" [] .always (.ok false),
      .block "(" [.line ""] ")" true (.ok true)] .always (.ok false))
    ["f ("] true "\t" (by decide) (by decide)
  exact ⟨after, rendered, kept.trans (by decide)⟩

end Fragment

end CodeLayout
