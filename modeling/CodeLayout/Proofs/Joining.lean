import CodeLayout.Document.Mode
import CodeLayout.Proofs.Frame
import CodeLayout.Proofs.ListAssembly

/-!
# Fragments that join the line before them

A fragment with a leading line can be joined to the line before it: by the wish of what is
around it, or because the leading line is the start of a block that connects. It is then
laid out as it would be by itself, only that its first line comes after the line before,
with one space between them, and without its indent.

A wish to connect reaches the leading line and nothing else, so the layout goes on in one
way behind this line (`Fragment.emit_of_lead`). What stands on the line of the leading
text is different, and longer. But this text shows something, and a line that shows
something is neither taken for an indent nor blanked (`Edit.applyAll_prefixed`), because
no layout writes at an indent that is not one of its own (`Fragment.emit_under`).

The layout by itself is that of the fragment whose leading block does not connect. A
condition may look at the connecting of its block, and then the layouts are different ones
(`Fragment.joined_by_connecting`). Where the leading block decides in one way, all decisions
are the same (`Fragment.settle_disconnected`). This is so in documents, because the
conditions of the modes ignore connecting (`Fragment.leadDecision?_disconnected`).

Main statement: `Fragment.renderInto_joined`.
-/

set_option autoImplicit false

namespace CodeLayout

/-! ## Indents of a layout -/

/-- Whether an edit writes at an indent below a base, if it writes a line. -/
def Edit.IsUnder (unit : IndentUnit) (base : String) : Edit → Prop
  | .line _ _ indent => ∃ depth, indent = unit.under base depth
  | .glue _ => True

/-- Below a blank base all indents are blank. -/
theorem Edit.IsUnder.hidesIndent {unit : IndentUnit} {base : String}
    (blank : isBlankText base = true) {edit : Edit} (under : edit.IsUnder unit base) :
    edit.hidesIndent = true := by
  cases edit with
  | line text connect indent =>
    obtain ⟨depth, rfl⟩ := under
    exact unit.isBlankText_under blank depth
  | glue text => rfl

namespace Emission

/-- Whether all lines of an emission are written at indents below a base. -/
def IsUnder (unit : IndentUnit) (base : String) (emission : Emission) : Prop :=
  ∀ edit ∈ emission.edits, edit.IsUnder unit base

variable {unit : IndentUnit} {base : String}

theorem isUnder_nothing : nothing.IsUnder unit base := fun _ member => nomatch member

theorem isUnder_failed (error : LayoutError) : (failed error).IsUnder unit base :=
  fun _ member => nomatch member

theorem isUnder_line (text : String) (connect : Bool) (depth : Nat) :
    (single (.line text connect (unit.under base depth))).IsUnder unit base :=
  fun _ member => List.mem_singleton.mp member ▸ ⟨depth, rfl⟩

theorem isUnder_glue (text : String) : (single (.glue text)).IsUnder unit base :=
  fun _ member => List.mem_singleton.mp member ▸ trivial

theorem IsUnder.andThen {first : Emission} {height : Nat} {next : Nat → Emission}
    (former : first.IsUnder unit base) (latter : ∀ reached, (next reached).IsUnder unit base) :
    (first.andThen height next).IsUnder unit base := by
  unfold Emission.andThen
  split
  · exact former
  · intro edit member
    exact (List.mem_append.mp member).elim (former edit) (latter _ edit)

theorem IsUnder.decide {decision : Decision} {next : Bool → Emission}
    (goesOn : ∀ answer, (next answer).IsUnder unit base) :
    (Emission.decide decision next).IsUnder unit base := by
  cases decision with
  | ok answer => exact goesOn answer
  | error error => exact isUnder_failed _

end Emission

namespace Fragment

section Under

variable (unit : IndentUnit) (base : String)

mutual

/-- **A layout writes at its own indent and at deeper ones only.** -/
theorem emit_under : ∀ (fragment : Decided) (connect : Bool) (depth height : Nat),
    (fragment.emit unit connect (unit.under base depth) height).IsUnder unit base
  | .line text, connect, depth, height => Emission.isUnder_line text connect depth
  | .block start body close connects inlining, connect, depth, height => by
    rw [emit]
    refine (Emission.isUnder_line start _ depth).andThen fun opened => .decide fun inline => ?_
    have deeper : (if inline = true then unit.under base depth
        else unit.under base depth ++ unit.text) =
          unit.under base (if inline = true then depth else depth + 1) := by
      split <;> rfl
    rw [deeper]
    exact (emitAll_under body inline _ opened).andThen fun _ =>
      Emission.isUnder_line close inline depth
  | .list separator body trailing inlining, connect, depth, height => by
    rw [emit]
    refine .decide fun inline =>
      (emitItems_under separator inline body _ depth height).andThen fun grown => ?_
    split
    · exact Emission.isUnder_glue separator
    · exact Emission.isUnder_nothing
  | .concat body, connect, depth, height => emitSequence_under body connect depth height
  | .foreign kind, connect, depth, height => Emission.isUnder_failed _

theorem emitAll_under : ∀ (body : List Decided) (connect : Bool) (depth height : Nat),
    (emitAll unit body connect (unit.under base depth) height).IsUnder unit base
  | [], _, _, _ => Emission.isUnder_nothing
  | first :: rest, connect, depth, height =>
    (emit_under first connect depth height).andThen fun grown =>
      emitAll_under rest connect depth grown

theorem emitSequence_under : ∀ (body : List Decided) (connect : Bool) (depth height : Nat),
    (emitSequence unit body connect (unit.under base depth) height).IsUnder unit base
  | [], _, _, _ => Emission.isUnder_nothing
  | first :: rest, connect, depth, height =>
    (emit_under first connect depth height).andThen fun grown =>
      emitSequence_under rest false depth grown

theorem emitItems_under (separator : String) (inlining : Bool) : ∀ (body : List Decided)
    (place : ItemPlace) (depth height : Nat),
      (emitItems unit separator inlining body place (unit.under base depth) height).IsUnder unit
        base
  | [], place, depth, height => Emission.isUnder_nothing
  | item :: rest, place, depth, height => by
    have written : ∀ join : Bool,
        ((item.emit unit join (unit.under base depth) height).andThen height fun grown =>
          emitItems unit separator inlining rest (.after (height + 1 < grown))
            (unit.under base depth) grown).IsUnder unit base := fun join =>
      (emit_under item join depth height).andThen fun grown =>
        emitItems_under separator inlining rest _ depth grown
    cases empty : item.isEmpty with
    | true =>
      simp only [emitItems, empty, if_true]
      exact emitItems_under separator inlining rest place depth height
    | false =>
      cases place with
      | first connect =>
        simp only [emitItems, empty, Bool.false_eq_true, if_false]
        exact written connect
      | after tall =>
        simp only [emitItems, empty, Bool.false_eq_true, if_false]
        exact (Emission.isUnder_glue separator).andThen fun _ => .decide written

end

end Under

/-! ## Below a line -/

/-- Below a line, the children of a block are laid out in one way. -/
theorem emitAll_below (unit : IndentUnit) (body : List Decided) (connect : Bool)
    (indent : String) {height : Nat} (occupied : 0 < height) :
    emitAll unit body connect indent height = emitAll unit body connect indent 1 := by
  have displaced := emitAll_displaced unit "" (height - 1) body connect indent 1 (.inl Nat.one_pos)
  rwa [String.empty_append, Emission.indentedBy_empty, Nat.add_sub_cancel' occupied] at displaced

/-- Below a line, the children of a concatenation are laid out in one way. -/
theorem emitSequence_below (unit : IndentUnit) (body : List Decided) (connect : Bool)
    (indent : String) {height : Nat} (occupied : 0 < height) :
    emitSequence unit body connect indent height = emitSequence unit body connect indent 1 := by
  have displaced :=
    emitSequence_displaced unit "" (height - 1) body connect indent 1 (.inl Nat.one_pos)
  rwa [String.empty_append, Emission.indentedBy_empty, Nat.add_sub_cancel' occupied] at displaced

end Fragment

/-- Where a line was written there is one. -/
theorem Edit.heightAfter_line_pos (height : Nat) (text : String) (connect : Bool)
    (indent : String) (rest : List Edit) :
    0 < heightAfter height (.line text connect indent :: rest) := by
  refine Nat.lt_of_lt_of_le ?_
    (le_heightAfter rest (Edit.height height (.line text connect indent)))
  rw [Edit.height]
  split
  · next occupied =>
    rw [Bool.and_eq_true, bne_iff_ne] at occupied
    exact Nat.pos_of_ne_zero occupied.2
  · exact Nat.succ_pos height

/-! ## The leading line -/

namespace Emission

/-- An emission with one more edit in front. -/
def after (edit : Edit) (emission : Emission) : Emission where
  edits := edit :: emission.edits
  failure := emission.failure

/-- What follows an emission with a line in front, if it is the same below every line. -/
theorem andThen_after_line (text : String) (connect : Bool) (indent : String)
    (emission : Emission) (height : Nat) {next : Nat → Emission}
    (same : ∀ reached, 0 < reached → next reached = next 1) :
    (emission.after (.line text connect indent)).andThen height next =
      (emission.andThen 1 fun _ => next 1).after (.line text connect indent) := by
  unfold andThen
  cases failed : emission.failure with
  | some error => simp only [after, failed]
  | none =>
    simp only [after, failed, List.cons_append]
    rw [same _ (Edit.heightAfter_line_pos height text connect indent emission.edits)]

end Emission

namespace Fragment

variable {δ : Type}

mutual

/-- A fragment whose leading line, if it is the start of a block, does not connect by
itself. -/
def disconnected : Fragment δ → Fragment δ
  | .line text => .line text
  | .block start body close _ inlining => .block start body close false inlining
  | .list separator body trailing inlining => .list separator body trailing inlining
  | .concat body => .concat (firstDisconnected body)
  | .foreign kind => .foreign kind

/-- A body whose leading line does not connect by itself. -/
def firstDisconnected : List (Fragment δ) → List (Fragment δ)
  | [] => []
  | first :: rest => disconnected first :: rest

end

mutual

/-- The decision of the block that leads a fragment, if one does. -/
def leadDecision? : Decided → Option Decision
  | .line _ => none
  | .block _ _ _ _ inlining => some inlining
  | .list _ _ _ _ => none
  | .concat body => firstLeadDecision? body
  | .foreign _ => none

/-- The decision of the block that leads the first fragment of a body. -/
def firstLeadDecision? : List Decided → Option Decision
  | [] => none
  | first :: _ => leadDecision? first

end

mutual

/-- A sketch whose leading block decides in one way, whether it connects or not, has the same
decisions when this block does not connect. Around it are concatenations only, which ask
nothing. -/
theorem settle_disconnected : ∀ sketch : Sketch,
    sketch.disconnected.settle.leadDecision? = sketch.settle.leadDecision? →
      sketch.disconnected.settle = sketch.settle.disconnected
  | .line _, _ => rfl
  | .block start body close connects condition, alike => by
    have decided := Option.some.inj alike
    rw [disconnected, settle, settle, disconnected, decided]
  | .list _ _ _ _, _ => rfl
  | .concat body, alike => congrArg Fragment.concat (settleBody_disconnected body alike)
  | .foreign _, _ => rfl

theorem settleBody_disconnected : ∀ body : List Sketch,
    firstLeadDecision? (settleBody (firstDisconnected body)) =
        firstLeadDecision? (settleBody body) →
      settleBody (firstDisconnected body) = firstDisconnected (settleBody body)
  | [], _ => rfl
  | first :: rest, alike => by
    rw [firstDisconnected, settleBody, settle_disconnected first alike, settleBody,
      firstDisconnected]

end

/-! ## Conditions that ignore connecting -/

/-- A condition decides about a block in one way, whether it connects or not. -/
def IgnoresConnecting (condition : Condition) : Prop :=
  ∀ (start : String) (body : List Decided) (close : String) (connect other : Bool)
    (inlining : Decision), condition (.block start body close connect inlining) =
      condition (.block start body close other inlining)

theorem ignoresConnecting_mode {mode : InlineMode} {condition : Condition}
    (same : mode.condition = some condition) : IgnoresConnecting condition := by
  cases mode with
  | auto => cases same
  | always => cases same; exact fun _ _ _ _ _ _ => rfl
  | never => cases same; exact fun _ _ _ _ _ _ => rfl
  | maxItems limit => cases same; exact fun _ _ _ _ _ _ => rfl

mutual

/-- The leading block of a document decides in one way, whether it connects or not. -/
theorem leadDecision?_disconnected : ∀ tree : DocumentTree,
    tree.sketch.disconnected.settle.leadDecision? = tree.sketch.settle.leadDecision?
  | .line _ => rfl
  | .block start body close connects mode => by
    rw [DocumentTree.sketch, map, disconnected, settle, settle, leadDecision?, leadDecision?]
    cases condition : mode.condition with
    | none => rfl
    | some asked => exact congrArg some (ignoresConnecting_mode condition ..)
  | .list _ _ _ _ => rfl
  | .concat body => firstLeadDecision?_disconnected body
  | .foreign _ => rfl

theorem firstLeadDecision?_disconnected : ∀ body : List DocumentTree,
    firstLeadDecision? (settleBody (firstDisconnected (mapBody InlineMode.condition body))) =
      firstLeadDecision? (settleBody (mapBody InlineMode.condition body))
  | [] => rfl
  | first :: _ => leadDecision?_disconnected first

end

/-! ## Joining -/

mutual

/-- **Whether a leading line connects makes no difference behind it.** A layout writes the
leading line first, and goes on as it does if the line does not connect by itself, below
any number of lines. -/
theorem emit_of_lead (unit : IndentUnit) (indent : String) : ∀ (fragment : Decided)
    (lead : Lead), fragment.lead? = some lead → ∃ rest : Emission, ∀ (connect : Bool)
      (height : Nat),
      fragment.emit unit connect indent height =
          rest.after (.line lead.text (lead.connects || connect) indent) ∧
        fragment.disconnected.emit unit connect indent height =
          rest.after (.line lead.text connect indent)
  | .line text, lead, leads => by
    cases leads
    exact ⟨.nothing, fun connect height => ⟨rfl, rfl⟩⟩
  | .block start body close connects inlining, lead, leads => by
    cases leads
    -- What follows the start, below a single line and below more of them.
    have same : ∀ reached : Nat, 0 < reached →
        (Emission.decide inlining fun inline =>
          (emitAll unit body inline (if inline then indent else indent ++ unit.text)
            reached).andThen reached fun _ => .single (.line close inline indent)) =
        Emission.decide inlining fun inline =>
          (emitAll unit body inline (if inline then indent else indent ++ unit.text) 1).andThen 1
            fun _ => .single (.line close inline indent) := by
      intro reached occupied
      cases inlining with
      | error error => rfl
      | ok inline =>
        simp only [Emission.decide, emitAll_below unit body inline _ occupied]
        rfl
    refine ⟨Emission.andThen .nothing 1 fun _ => Emission.decide inlining fun inline =>
      (emitAll unit body inline (if inline then indent else indent ++ unit.text) 1).andThen 1
        fun _ => .single (.line close inline indent), fun connect height => ⟨?_, ?_⟩⟩
    · rw [emit]
      exact Emission.andThen_after_line start (connects || connect) indent .nothing height same
    · rw [disconnected, emit]
      exact Emission.andThen_after_line start connect indent .nothing height same
  | .list separator body trailing inlining, lead, leads => by cases leads
  | .concat body, lead, leads => emitSequence_of_lead unit indent body lead leads
  | .foreign kind, lead, leads => by cases leads

theorem emitSequence_of_lead (unit : IndentUnit) (indent : String) : ∀ (body : List Decided)
    (lead : Lead), firstLead? body = some lead → ∃ rest : Emission, ∀ (connect : Bool)
      (height : Nat),
      emitSequence unit body connect indent height =
          rest.after (.line lead.text (lead.connects || connect) indent) ∧
        emitSequence unit (firstDisconnected body) connect indent height =
          rest.after (.line lead.text connect indent)
  | [], lead, leads => by cases leads
  | first :: others, lead, leads => by
    obtain ⟨rest, starts⟩ := emit_of_lead unit indent first lead leads
    have same : ∀ reached : Nat, 0 < reached →
        emitSequence unit others false indent reached = emitSequence unit others false indent 1 :=
      fun _ => emitSequence_below unit others false indent
    refine ⟨rest.andThen 1 fun _ => emitSequence unit others false indent 1,
      fun connect height => ⟨?_, ?_⟩⟩
    · rw [emitSequence, (starts connect height).1]
      exact Emission.andThen_after_line _ _ _ rest height same
    · rw [firstDisconnected, emitSequence, (starts connect height).2]
      exact Emission.andThen_after_line _ _ _ rest height same

end

/-- A fragment with its decisions joins the line before it. -/
theorem renderInto_of_lead (format : Format) {fragment : Decided} {lead : Lead}
    (leads : fragment.lead? = some lead) (shows : isBlankText lead.text = false)
    {indent : String} (blank : isBlankText indent = true) (before : Buffer) {last : String}
    (written : last ≠ "") (apart : last ≠ indent) :
    ∃ (text : String) (others : List String) (failure : Option LayoutError),
      fragment.disconnected.renderInto format [] false indent =
          ((indent ++ text) :: others, failure) ∧
        ∀ connect : Bool, (connect || lead.connects) = true →
          fragment.renderInto format (before ++ [last]) connect indent =
            (before ++ (last ++ " " ++ text) :: others, failure) := by
  obtain ⟨rest, starts⟩ := emit_of_lead format.unit indent fragment lead leads
  have hidden : ∀ edit ∈ rest.edits, edit.hidesIndent = true := by
    intro edit member
    have under := emit_under format.unit indent fragment false 0 0
    rw [IndentUnit.under, (starts false 0).1] at under
    exact (under edit (List.mem_cons_of_mem _ member)).hidesIndent blank
  obtain ⟨first, others, alone, indented⟩ :=
    Edit.applyAll_prefixed indent rest.edits lead.text shows hidden
  obtain ⟨first', others', alone', joined⟩ :=
    Edit.applyAll_prefixed (last ++ " ") rest.edits lead.text shows hidden
  rw [alone, List.cons.injEq] at alone'
  obtain ⟨rfl, rfl⟩ := alone'
  refine ⟨first, others, rest.failure, ?_, fun connect joins => ?_⟩
  · rw [renderInto, (starts false _).2, Emission.applyTo, Emission.after, Edit.applyAll_line_nil,
      indented]
  · have spaced : Buffer.joined indent last lead.text = last ++ " " ++ lead.text := by
      rw [Buffer.joined, if_neg (not_or.mpr ⟨written, apart⟩)]
    rw [Bool.or_comm] at joins
    rw [renderInto, (starts connect _).1, joins, Emission.applyTo, Emission.after,
      Edit.applyAll_cons, Edit.apply, Buffer.appendLine_joins, spaced, Edit.applyAll_frame, joined]

/-- **A fragment joins the line before it as it is by itself, after one space.** Let its
leading line show something, and if it is the start of a block, let this block decide in one
way, whether it connects or not. By itself, and if that line does not connect, the fragment
has a first line at its indent. Where it connects, by the wish of what is around it or by
itself, the text of this line is joined to the line before, if that is neither empty nor the
indent, and all other lines are the same. It fails in both cases or in none. -/
theorem renderInto_joined (format : Format) {sketch : Sketch} {lead : Lead}
    (leads : sketch.settle.lead? = some lead) (shows : isBlankText lead.text = false)
    (alike : sketch.disconnected.settle.leadDecision? = sketch.settle.leadDecision?)
    {indent : String} (blank : isBlankText indent = true) (before : Buffer) {last : String}
    (written : last ≠ "") (apart : last ≠ indent) :
    ∃ (text : String) (others : List String) (failure : Option LayoutError),
      sketch.disconnected.settle.renderInto format [] false indent =
          ((indent ++ text) :: others, failure) ∧
        ∀ connect : Bool, (connect || lead.connects) = true →
          sketch.settle.renderInto format (before ++ [last]) connect indent =
            (before ++ (last ++ " " ++ text) :: others, failure) := by
  rw [settle_disconnected sketch alike]
  exact renderInto_of_lead format leads shows blank before written apart

/-- The start of a block after the closing line of another one, with a child that takes
several lines, as a document has it. -/
theorem renderInto_joined_else :
    let tree : DocumentTree := .concat
      [.block "else \x7b" [.list "," [.line "a", .line " "] .always .never] "\x7d" true
        (.maxItems 0), .line "b"]
    let sketch := tree.sketch
    let lead : Lead := { text := "else \x7b", connects := true }
    sketch.settle.lead? = some lead ∧ isBlankText lead.text = false ∧
      sketch.disconnected.settle.leadDecision? = sketch.settle.leadDecision? ∧
      isBlankText "    " = true ∧ "    \x7d" ≠ "" ∧ "    \x7d" ≠ "    " ∧
      sketch.settle.renderInto Format.standard ["if \x7b", "    \x7d"] false "    " =
        (["if \x7b", "    \x7d else \x7b", "        a,", "         ,", "    \x7d", "    b"],
          none) := by
  intro tree sketch lead
  have leads : sketch.settle.lead? = some lead := rfl
  have shows : isBlankText lead.text = false := by decide
  have alike := leadDecision?_disconnected tree
  have blank : isBlankText "    " = true := by decide
  have written : "    \x7d" ≠ "" := by decide
  have apart : "    \x7d" ≠ "    " := by decide
  obtain ⟨text, others, failure, alone, joined⟩ :=
    renderInto_joined Format.standard leads shows alike blank ["if \x7b"] written apart
  refine ⟨leads, shows, alike, blank, written, apart, (joined false rfl).trans ?_⟩
  have lines : sketch.disconnected.settle.renderInto Format.standard [] false "    " =
      (("    " ++ "else \x7b") :: ["        a,", "         ,", "    \x7d", "    b"], none) := by
    decide
  rw [lines, Prod.mk.injEq, List.cons.injEq, String.append_right_inj] at alone
  obtain ⟨⟨rfl, rfl⟩, rfl⟩ := alone
  rfl

/-- A condition by which a block inlines exactly when it connects. -/
def inlinesConnected : Condition
  | .block _ _ _ connect _ => .ok connect
  | _ => .ok false

/-- Under this condition a block that connects is joined on a single line, and does not take
one by itself if it does not connect. -/
theorem joined_by_connecting :
    let sketch : Sketch := .block "else \x7b" [.line "x"] "\x7d" true (some inlinesConnected)
    let lead : Lead := { text := "else \x7b", connects := true }
    sketch.settle.lead? = some lead ∧ isBlankText lead.text = false ∧ isBlankText "" = true ∧
      "\x7d" ≠ "" ∧
      sketch.disconnected.settle.renderInto Format.standard [] false "" =
        (["else \x7b", "    x", "\x7d"], none) ∧
      sketch.settle.renderInto Format.standard ["\x7d"] false "" =
        (["\x7d else \x7b x \x7d"], none) ∧
      ¬∀ (text : String) (others : List String),
        sketch.disconnected.settle.renderInto Format.standard [] false "" =
            (("" ++ text) :: others, none) →
          sketch.settle.renderInto Format.standard ([] ++ ["\x7d"]) false "" =
            ([] ++ ("\x7d" ++ " " ++ text) :: others, none) := by
  refine ⟨rfl, by decide, by decide, by decide, by decide, by decide, fun claimed => ?_⟩
  exact absurd (claimed "else \x7b" ["    x", "\x7d"] (by decide)) (by decide)

end Fragment

end CodeLayout
