import CodeLayout.Layout

/-!
# Scripts

A layout that meets no obstacle writes lines and glues texts, one after
another. Its script is this sequence, with depths in place of indents and with
every decision already taken. A script needs neither a format nor a buffer: of
the buffer it has to know only whether there is a line in it.

A fragment is regular when it consists of the four kinds with a layout and every
decision in it was made. The emission of a regular fragment is its script, read
under the format's unit of indentation (`Fragment.emit_of_regular`), and the
number of lines it adds is a function of the tree alone (`Fragment.growth`,
`Fragment.length_renderInto`).
-/

set_option autoImplicit false

namespace CodeLayout

/-! ## Steps -/

/-- The indent at a depth below a base, one unit for each level. -/
def IndentUnit.under (unit : IndentUnit) (base : String) : Nat → String
  | 0 => base
  | depth + 1 => unit.under base depth ++ unit.text

/-- One step of a script. -/
inductive Step where
  /-- Writes a line at a depth, joined to the last line when it connects. -/
  | line (text : String) (connect : Bool) (depth : Nat)
  /-- Glues a text to the last line. -/
  | glue (text : String)
deriving DecidableEq, Repr

namespace Step

/-- The edit of a step, with depths counted from a base. -/
def toEdit (unit : IndentUnit) (base : String) : Step → Edit
  | .line text connect depth => .line text connect (unit.under base depth)
  | .glue text => .glue text

/-- Whether a step writes a line, joined or not. -/
def isLine : Step → Bool
  | .line _ _ _ => true
  | .glue _ => false

/-- Whether steps write at least one line, joined or not. -/
def occupies (steps : List Step) : Bool := steps.any isLine

/-- The number of lines that steps add to a buffer with or without a line. -/
def growth (occupied : Bool) : List Step → Nat
  | [] => 0
  | .line _ connect _ :: rest =>
    (if connect && occupied then 0 else 1) + growth true rest
  | .glue _ :: rest => growth occupied rest

@[simp]
theorem occupies_nil : occupies [] = false := rfl

@[simp]
theorem occupies_line (text : String) (connect : Bool) (depth : Nat) (rest : List Step) :
    occupies (.line text connect depth :: rest) = true := rfl

@[simp]
theorem occupies_glue (text : String) (rest : List Step) :
    occupies (.glue text :: rest) = occupies rest := rfl

@[simp]
theorem occupies_append (first second : List Step) :
    occupies (first ++ second) = (occupies first || occupies second) :=
  List.any_append

theorem growth_append (first second : List Step) : ∀ occupied : Bool,
    growth occupied (first ++ second) =
      growth occupied first + growth (occupied || occupies first) second := by
  induction first with
  | nil => intro occupied; simp [growth]
  | cons step rest ih =>
    intro occupied
    cases step with
    | line text connect depth =>
      simp only [List.cons_append, growth, ih, occupies_line, Bool.or_true, Bool.true_or]
      omega
    | glue text => simp only [List.cons_append, growth, ih, occupies_glue]

/-- The number of lines after the edits of a script. -/
theorem heightAfter_map_toEdit (unit : IndentUnit) (base : String) (steps : List Step) :
    ∀ height : Nat, Edit.heightAfter height (steps.map (toEdit unit base)) =
      height + growth (height != 0) steps := by
  induction steps with
  | nil => intro height; rfl
  | cons step rest ih =>
    intro height
    have unfolded : Edit.heightAfter height ((step :: rest).map (toEdit unit base)) =
        Edit.heightAfter (Edit.height height (toEdit unit base step))
          (rest.map (toEdit unit base)) := rfl
    rw [unfolded, ih]
    cases step with
    | line text connect depth =>
      cases connect with
      | false => simp [toEdit, Edit.height, growth, Nat.add_assoc]
      | true => cases height <;> simp [toEdit, Edit.height, growth, Nat.add_assoc]
    | glue text => rfl

/-- After a script a buffer has a line when it had one before or the script
wrote one. -/
theorem occupied_after (steps : List Step) : ∀ height : Nat,
    (height + growth (height != 0) steps != 0) = ((height != 0) || occupies steps) := by
  induction steps with
  | nil => intro height; simp [growth]
  | cons step rest ih =>
    intro height
    cases step with
    | line text connect depth => cases connect <;> cases height <;> simp [growth]
    | glue text => exact ih height

end Step

/-- The emission that carries out a script. -/
def Emission.ofSteps (unit : IndentUnit) (base : String) (steps : List Step) : Emission where
  edits := steps.map (Step.toEdit unit base)
  failure := none

/-- Going on after a script with another one. -/
theorem Emission.ofSteps_andThen (unit : IndentUnit) (base : String) (first second : List Step)
    (height : Nat) (next : Nat → Emission)
    (goesOn : next (height + Step.growth (height != 0) first) = ofSteps unit base second) :
    (ofSteps unit base first).andThen height next = ofSteps unit base (first ++ second) := by
  have reached := Step.heightAfter_map_toEdit unit base first height
  simp only [Emission.andThen, ofSteps, reached, List.map_append]
  rw [goesOn]
  rfl

/-- A text that is glued or not. -/
theorem Emission.ofSteps_optional (unit : IndentUnit) (base text : String) (wanted : Bool) :
    (if wanted then single (.glue text) else nothing) =
      ofSteps unit base (if wanted then [.glue text] else []) := by
  cases wanted with
  | true => rfl
  | false => rfl

/-! ## Regular fragments -/

/-- Whether a decision was made and puts the node on a single line. -/
def Decision.holds : Decision → Bool
  | .ok answer => answer
  | .error _ => false

@[simp]
theorem Decision.holds_ok (answer : Bool) : Decision.holds (.ok answer) = answer := rfl

/-- Whether a decision was made. -/
def Decision.made : Decision → Bool
  | .ok _ => true
  | .error _ => false

theorem Decision.exists_of_made {decision : Decision} (made : decision.made = true) :
    ∃ answer, decision = .ok answer := by
  cases decision with
  | ok answer => exact ⟨answer, rfl⟩
  | error error => cases made

namespace Fragment

mutual

/-- Whether a fragment consists of the four kinds that have a layout and every
decision in it was made. -/
def regular : Decided → Bool
  | .line _ => true
  | .block _ body _ _ inlining => inlining.made && allRegular body
  | .list _ body _ inlining => inlining.made && allRegular body
  | .concat body => allRegular body
  | .foreign _ => false

/-- Whether every fragment of a body is regular. -/
def allRegular : List Decided → Bool
  | [] => true
  | first :: rest => regular first && allRegular rest

end

theorem allRegular_iff (body : List Decided) :
    allRegular body = true ↔ ∀ child ∈ body, child.regular = true := by
  induction body with
  | nil => simp [allRegular]
  | cons first rest ih => simp [allRegular, ih]

/-- Whether a fragment is a block that goes on a single line. -/
def isInlineBlock : Decided → Bool
  | .line _ => false
  | .block _ _ _ _ inlining => inlining.holds
  | .list _ _ _ _ => false
  | .concat _ => false
  | .foreign _ => false

end Fragment

/-- Whether an item joins the line before it at a place in a list. -/
def ItemPlace.joins (inlining : Bool) : ItemPlace → Decided → Bool
  | .first connect, _ => connect
  | .after tall, item => inlining || (tall && !item.isInlineBlock)

/-- The separator before an item at a place in a list. -/
def ItemPlace.opening (separator : String) : ItemPlace → List Step
  | .first _ => []
  | .after _ => [.glue separator]

/-- For a regular item the rule of the layout gives an answer. -/
theorem joinsPrevious_of_regular (inlining tall : Bool) {item : Decided}
    (regular : item.regular = true) :
    joinsPrevious inlining tall item = .ok ((ItemPlace.after tall).joins inlining item) := by
  cases inlining with
  | true => rfl
  | false =>
    cases tall with
    | false => rfl
    | true =>
      cases item with
      | block start body close connect decision =>
        simp only [Fragment.regular, Bool.and_eq_true] at regular
        obtain ⟨answer, rfl⟩ := Decision.exists_of_made regular.1
        rfl
      | line text => rfl
      | list separator body trailing decision => rfl
      | concat body => rfl
      | foreign kind => rfl

namespace Fragment

/-! ## Growth -/

mutual

/-- The number of lines that a fragment adds to a buffer with or without a line. -/
def growth : Decided → Bool → Bool → Nat
  | .line _, connect, occupied => if connect && occupied then 0 else 1
  | .block _ body _ connects inlining, connect, occupied =>
    (if (connects || connect) && occupied then 0 else 1) + growthAll body inlining.holds +
      (if inlining.holds then 0 else 1)
  | .list _ body _ inlining, connect, occupied =>
    growthItems inlining.holds body (.first connect) occupied
  | .concat body, connect, occupied => growthSequence body connect occupied
  | .foreign _, _, _ => 0

/-- The number of lines that the children of a block add below its start. -/
def growthAll : List Decided → Bool → Nat
  | [], _ => 0
  | first :: rest, connect => growth first connect true + growthAll rest connect

/-- The number of lines that the children of a concatenation add. -/
def growthSequence : List Decided → Bool → Bool → Nat
  | [], _, _ => 0
  | first :: rest, connect, occupied =>
    growth first connect occupied + growthSequence rest false (occupied || !first.isEmpty)

/-- The number of lines that the items of a list add. -/
def growthItems (inlining : Bool) : List Decided → ItemPlace → Bool → Nat
  | [], _, _ => 0
  | item :: rest, place, occupied =>
    if item.isEmpty then
      growthItems inlining rest place occupied
    else
      let lines := growth item (place.joins inlining item) occupied
      lines + growthItems inlining rest (.after (1 < lines)) true

end

/-! ## Scripts of fragments -/

mutual

/-- What a regular fragment writes at a depth into a buffer with or without a
line. -/
def script : Decided → Bool → Nat → Bool → List Step
  | .line text, connect, depth, _ => [.line text connect depth]
  | .block start body close connects inlining, connect, depth, _ =>
    .line start (connects || connect) depth ::
      (scriptAll body inlining.holds (if inlining.holds then depth else depth + 1) ++
        [.line close inlining.holds depth])
  | .list separator body trailing inlining, connect, depth, occupied =>
    scriptItems separator inlining.holds body (.first connect) depth occupied ++
      if trailing.applies (1 < growthItems inlining.holds body (.first connect) occupied) then
        [.glue separator]
      else
        []
  | .concat body, connect, depth, occupied => scriptSequence body connect depth occupied
  | .foreign _, _, _, _ => []

/-- What the children of a block write below its start. -/
def scriptAll : List Decided → Bool → Nat → List Step
  | [], _, _ => []
  | first :: rest, connect, depth =>
    script first connect depth true ++ scriptAll rest connect depth

/-- What the children of a concatenation write. -/
def scriptSequence : List Decided → Bool → Nat → Bool → List Step
  | [], _, _, _ => []
  | first :: rest, connect, depth, occupied =>
    script first connect depth occupied ++
      scriptSequence rest false depth (occupied || !first.isEmpty)

/-- What the items of a list write, separators included. -/
def scriptItems (separator : String) (inlining : Bool) :
    List Decided → ItemPlace → Nat → Bool → List Step
  | [], _, _, _ => []
  | item :: rest, place, depth, occupied =>
    if item.isEmpty then
      scriptItems separator inlining rest place depth occupied
    else
      let join := place.joins inlining item
      place.opening separator ++
        (script item join depth occupied ++
          scriptItems separator inlining rest (.after (1 < growth item join occupied)) depth true)

end

/-! ### Items of a list -/

/-- The lines that an item adds which is not empty, and those of the items after it. -/
theorem growthItems_cons (inlining : Bool) {item : Decided} (rest : List Decided)
    (place : ItemPlace) (occupied : Bool) (full : item.isEmpty = false) :
    growthItems inlining (item :: rest) place occupied =
      item.growth (place.joins inlining item) occupied +
        growthItems inlining rest
          (.after (1 < item.growth (place.joins inlining item) occupied)) true := by
  rw [growthItems, full, if_neg Bool.false_ne_true]

/-- What an item writes that is not empty, and what the items after it write. -/
theorem scriptItems_cons (separator : String) (inlining : Bool) {item : Decided}
    (rest : List Decided) (place : ItemPlace) (depth : Nat) (occupied : Bool)
    (full : item.isEmpty = false) :
    scriptItems separator inlining (item :: rest) place depth occupied =
      place.opening separator ++
        (item.script (place.joins inlining item) depth occupied ++
          scriptItems separator inlining rest
            (.after (1 < item.growth (place.joins inlining item) occupied)) depth true) := by
  rw [scriptItems, full, if_neg Bool.false_ne_true]

/-- Items that are all empty add no line. -/
theorem growthItems_of_allEmpty (inlining : Bool) : ∀ (body : List Decided) (place : ItemPlace)
    (occupied : Bool), allEmpty body = true → growthItems inlining body place occupied = 0
  | [], place, occupied, _ => rfl
  | item :: rest, place, occupied, empty => by
    simp only [allEmpty, Bool.and_eq_true] at empty
    simp only [growthItems, empty.1, if_true]
    exact growthItems_of_allEmpty inlining rest place occupied empty.2

/-- Items that are all empty write nothing. -/
theorem scriptItems_of_allEmpty (separator : String) (inlining : Bool) : ∀ (body : List Decided)
    (place : ItemPlace) (depth : Nat) (occupied : Bool), allEmpty body = true →
      scriptItems separator inlining body place depth occupied = []
  | [], place, depth, occupied, _ => rfl
  | item :: rest, place, depth, occupied, empty => by
    simp only [allEmpty, Bool.and_eq_true] at empty
    simp only [scriptItems, empty.1, if_true]
    exact scriptItems_of_allEmpty separator inlining rest place depth occupied empty.2

/-! ### Which scripts write a line -/

mutual

/-- The script of a regular fragment writes a line exactly when the fragment is
not empty. -/
theorem occupies_script : ∀ (fragment : Decided) (connect : Bool) (depth : Nat) (occupied : Bool),
    fragment.regular = true →
      Step.occupies (fragment.script connect depth occupied) = !fragment.isEmpty
  | .line text, connect, depth, occupied, _ => rfl
  | .block start body close connects inlining, connect, depth, occupied, _ => rfl
  | .list separator body trailing inlining, connect, depth, occupied, made => by
    simp only [regular, Bool.and_eq_true] at made
    simp only [script, isEmpty, Step.occupies_append,
      occupies_scriptItems separator inlining.holds body _ depth occupied made.2]
    split <;> simp
  | .concat body, connect, depth, occupied, made =>
    occupies_scriptSequence body connect depth occupied made
  | .foreign kind, connect, depth, occupied, made => by cases made

theorem occupies_scriptSequence : ∀ (body : List Decided) (connect : Bool) (depth : Nat)
    (occupied : Bool), allRegular body = true →
      Step.occupies (scriptSequence body connect depth occupied) = !allEmpty body
  | [], connect, depth, occupied, _ => rfl
  | first :: rest, connect, depth, occupied, made => by
    simp only [allRegular, Bool.and_eq_true] at made
    simp only [scriptSequence, Step.occupies_append, occupies_script first _ _ _ made.1,
      occupies_scriptSequence rest _ _ _ made.2, allEmpty, Bool.not_and]

theorem occupies_scriptItems (separator : String) (inlining : Bool) : ∀ (body : List Decided)
    (place : ItemPlace) (depth : Nat) (occupied : Bool), allRegular body = true →
      Step.occupies (scriptItems separator inlining body place depth occupied) = !allEmpty body
  | [], place, depth, occupied, _ => rfl
  | item :: rest, place, depth, occupied, made => by
    simp only [allRegular, Bool.and_eq_true] at made
    by_cases empty : item.isEmpty = true
    · simp only [scriptItems, empty, if_true, allEmpty, Bool.true_and]
      exact occupies_scriptItems separator inlining rest place depth occupied made.2
    · have writes := occupies_script item (place.joins inlining item) depth occupied made.1
      rw [Bool.not_eq_true] at empty
      simp [scriptItems, empty, allEmpty, writes]

end

mutual

/-- The growth of a regular fragment is the growth of its script. -/
theorem growth_script : ∀ (fragment : Decided) (connect : Bool) (depth : Nat) (occupied : Bool),
    fragment.regular = true →
      Step.growth occupied (fragment.script connect depth occupied) =
        fragment.growth connect occupied
  | .line text, connect, depth, occupied, _ => rfl
  | .block start body close connects inlining, connect, depth, occupied, made => by
    simp only [regular, Bool.and_eq_true] at made
    simp only [script, growth, Step.growth, Step.growth_append, Bool.true_or,
      growth_scriptAll body _ _ made.2, Bool.and_true]
    omega
  | .list separator body trailing inlining, connect, depth, occupied, made => by
    simp only [regular, Bool.and_eq_true] at made
    simp only [script, growth, Step.growth_append,
      growth_scriptItems separator inlining.holds body _ depth occupied made.2]
    split <;> simp [Step.growth]
  | .concat body, connect, depth, occupied, made =>
    growth_scriptSequence body connect depth occupied made
  | .foreign kind, connect, depth, occupied, made => by cases made

theorem growth_scriptAll : ∀ (body : List Decided) (connect : Bool) (depth : Nat),
    allRegular body = true →
      Step.growth true (scriptAll body connect depth) = growthAll body connect
  | [], connect, depth, _ => rfl
  | first :: rest, connect, depth, made => by
    simp only [allRegular, Bool.and_eq_true] at made
    simp only [scriptAll, growthAll, Step.growth_append, Bool.true_or,
      growth_script first _ _ _ made.1, growth_scriptAll rest _ _ made.2]

theorem growth_scriptSequence : ∀ (body : List Decided) (connect : Bool) (depth : Nat)
    (occupied : Bool), allRegular body = true →
      Step.growth occupied (scriptSequence body connect depth occupied) =
        growthSequence body connect occupied
  | [], connect, depth, occupied, _ => rfl
  | first :: rest, connect, depth, occupied, made => by
    simp only [allRegular, Bool.and_eq_true] at made
    simp only [scriptSequence, growthSequence, Step.growth_append,
      occupies_script first _ _ _ made.1, growth_script first _ _ _ made.1,
      growth_scriptSequence rest _ _ _ made.2]

theorem growth_scriptItems (separator : String) (inlining : Bool) : ∀ (body : List Decided)
    (place : ItemPlace) (depth : Nat) (occupied : Bool), allRegular body = true →
      Step.growth occupied (scriptItems separator inlining body place depth occupied) =
        growthItems inlining body place occupied
  | [], place, depth, occupied, _ => rfl
  | item :: rest, place, depth, occupied, made => by
    simp only [allRegular, Bool.and_eq_true] at made
    by_cases empty : item.isEmpty = true
    · simp only [scriptItems, growthItems, empty, if_true]
      exact growth_scriptItems separator inlining rest place depth occupied made.2
    · have separated : ∀ steps : List Step,
          Step.growth occupied (place.opening separator ++ steps) = Step.growth occupied steps := by
        intro steps
        cases place <;> rfl
      have writes := occupies_script item (place.joins inlining item) depth occupied made.1
      rw [Bool.not_eq_true] at empty
      rw [empty, Bool.not_false] at writes
      rw [scriptItems_cons _ _ _ _ _ _ empty, growthItems_cons _ _ _ _ empty, separated,
        Step.growth_append, writes, Bool.or_true, growth_script item _ _ _ made.1,
        growth_scriptItems separator inlining rest _ depth true made.2]

end

/-! ### Emissions of regular fragments -/

/-- Measured from any height, several new lines are several new lines. -/
theorem several_lines (height lines : Nat) :
    decide (height + 1 < height + lines) = decide (1 < lines) := by
  rw [decide_eq_decide]
  omega

mutual

/-- **The emission of a regular fragment carries out its script.** -/
theorem emit_of_regular (unit : IndentUnit) (base : String) : ∀ (fragment : Decided)
    (connect : Bool) (depth height : Nat), fragment.regular = true →
      fragment.emit unit connect (unit.under base depth) height =
        .ofSteps unit base (fragment.script connect depth (height != 0))
  | .line text, connect, depth, height, _ => rfl
  | .block start body close connects inlining, connect, depth, height, made => by
    simp only [regular, Bool.and_eq_true] at made
    have opens : Emission.single (.line start (connects || connect) (unit.under base depth)) =
        .ofSteps unit base [.line start (connects || connect) depth] := rfl
    have closes : ∀ inline : Bool,
        Emission.single (.line close inline (unit.under base depth)) =
          .ofSteps unit base [.line close inline depth] := fun _ => rfl
    obtain ⟨inline, rfl⟩ := Decision.exists_of_made made.1
    rw [emit, opens]
    refine Emission.ofSteps_andThen unit base _ _ height _ ?_
    have occupied := Step.occupied_after [.line start (connects || connect) depth] height
    rw [Step.occupies_line, Bool.or_true] at occupied
    have deeper : (if inline = true then unit.under base depth
        else unit.under base depth ++ unit.text) =
          unit.under base (if inline = true then depth else depth + 1) := by
      split <;> rfl
    simp only [Emission.decide, Decision.holds_ok]
    rw [deeper, emitAll_of_regular unit base body _ _ _ made.2 occupied]
    exact Emission.ofSteps_andThen unit base _ _ _ _ (closes _)
  | .list separator body trailing inlining, connect, depth, height, made => by
    simp only [regular, Bool.and_eq_true] at made
    obtain ⟨inline, rfl⟩ := Decision.exists_of_made made.1
    rw [emit, script]
    dsimp only [Emission.decide, Decision.holds]
    rw [emitItems_of_regular unit base separator inline body _ depth height made.2]
    refine Emission.ofSteps_andThen unit base _ _ height _ ?_
    rw [growth_scriptItems separator inline body _ depth _ made.2, several_lines]
    exact Emission.ofSteps_optional unit base separator _
  | .concat body, connect, depth, height, made =>
    emitSequence_of_regular unit base body connect depth height made
  | .foreign kind, connect, depth, height, made => by cases made

theorem emitAll_of_regular (unit : IndentUnit) (base : String) : ∀ (body : List Decided)
    (connect : Bool) (depth height : Nat), allRegular body = true → (height != 0) = true →
      emitAll unit body connect (unit.under base depth) height =
        .ofSteps unit base (scriptAll body connect depth)
  | [], connect, depth, height, _, _ => rfl
  | first :: rest, connect, depth, height, made, occupied => by
    simp only [allRegular, Bool.and_eq_true] at made
    rw [emitAll, scriptAll, emit_of_regular unit base first connect depth height made.1, occupied]
    refine Emission.ofSteps_andThen unit base _ _ height _ ?_
    refine emitAll_of_regular unit base rest connect depth _ made.2 ?_
    rw [Step.occupied_after, occupied, Bool.true_or]

theorem emitSequence_of_regular (unit : IndentUnit) (base : String) : ∀ (body : List Decided)
    (connect : Bool) (depth height : Nat), allRegular body = true →
      emitSequence unit body connect (unit.under base depth) height =
        .ofSteps unit base (scriptSequence body connect depth (height != 0))
  | [], connect, depth, height, _ => rfl
  | first :: rest, connect, depth, height, made => by
    simp only [allRegular, Bool.and_eq_true] at made
    rw [emitSequence, emit_of_regular unit base first connect depth height made.1]
    refine Emission.ofSteps_andThen unit base _ _ height _ ?_
    rw [emitSequence_of_regular unit base rest false depth _ made.2, Step.occupied_after,
      occupies_script first _ _ _ made.1]

theorem emitItems_of_regular (unit : IndentUnit) (base separator : String) (inlining : Bool) :
    ∀ (body : List Decided) (place : ItemPlace) (depth height : Nat), allRegular body = true →
      emitItems unit separator inlining body place (unit.under base depth) height =
        .ofSteps unit base (scriptItems separator inlining body place depth (height != 0))
  | [], place, depth, height, _ => rfl
  | item :: rest, place, depth, height, made => by
    simp only [allRegular, Bool.and_eq_true] at made
    by_cases empty : item.isEmpty = true
    · simp only [emitItems, scriptItems, empty, if_true]
      exact emitItems_of_regular unit base separator inlining rest place depth height made.2
    · rw [Bool.not_eq_true] at empty
      have written : ∀ join : Bool,
          (item.emit unit join (unit.under base depth) height).andThen height (fun grown =>
            emitItems unit separator inlining rest (.after (height + 1 < grown))
              (unit.under base depth) grown) =
          .ofSteps unit base (item.script join depth (height != 0) ++
            scriptItems separator inlining rest
              (.after (1 < item.growth join (height != 0))) depth true) := by
        intro join
        rw [emit_of_regular unit base item join depth height made.1]
        refine Emission.ofSteps_andThen unit base _ _ height _ ?_
        have occupied := Step.occupied_after (item.script join depth (height != 0)) height
        rw [growth_script item _ _ _ made.1, occupies_script item _ _ _ made.1, empty,
          Bool.not_false, Bool.or_true] at occupied
        rw [growth_script item _ _ _ made.1,
          emitItems_of_regular unit base separator inlining rest _ depth _ made.2, occupied,
          several_lines]
      cases place with
      | first connect =>
        simp only [emitItems, scriptItems, empty, Bool.false_eq_true, if_false]
        exact written connect
      | after tall =>
        simp only [emitItems, scriptItems, empty, Bool.false_eq_true, if_false]
        refine Emission.ofSteps_andThen unit base [.glue separator] _ height _ ?_
        rw [joinsPrevious_of_regular inlining tall made.1]
        exact written _

end

/-! ### Layouts of regular fragments -/

theorem renderLines_eq_ok {format : Format} {fragment : Decided} {lines : List String} :
    fragment.renderLines format = .ok lines ↔
      fragment.renderInto format [] false "" = (lines, none) := by
  rw [renderLines]
  rcases fragment.renderInto format [] false "" with ⟨own, _ | error⟩
  · simp
  · simp

theorem renderLines_eq_error {format : Format} {fragment : Decided} {error : LayoutError} :
    fragment.renderLines format = .error error ↔
      (fragment.renderInto format [] false "").2 = some error := by
  rw [renderLines]
  rcases fragment.renderInto format [] false "" with ⟨own, _ | failure⟩
  · simp
  · simp

/-- Writing a regular fragment into a buffer carries out its script and does not
fail. -/
theorem renderInto_of_regular (format : Format) (fragment : Decided) (buffer : Buffer)
    (connect : Bool) (indent : String) (made : fragment.regular = true) :
    fragment.renderInto format buffer connect indent =
      (Edit.applyAll buffer ((fragment.script connect 0 (buffer.length != 0)).map
        (Step.toEdit format.unit indent)), none) := by
  have emission := emit_of_regular format.unit indent fragment connect 0 buffer.length made
  rw [IndentUnit.under] at emission
  rw [renderInto, emission]
  rfl

/-- The number of lines after a regular fragment was written into a buffer. -/
theorem length_renderInto (format : Format) (fragment : Decided) (buffer : Buffer)
    (connect : Bool) (indent : String) (made : fragment.regular = true) :
    (fragment.renderInto format buffer connect indent).1.length =
      buffer.length + fragment.growth connect (buffer.length != 0) := by
  rw [renderInto_of_regular format fragment buffer connect indent made]
  simp only [Edit.length_applyAll, Step.heightAfter_map_toEdit,
    growth_script fragment _ _ _ made]

end Fragment

end CodeLayout
