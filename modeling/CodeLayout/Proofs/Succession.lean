import CodeLayout.Proofs.Frame
import CodeLayout.Proofs.ListAssembly

/-!
# Fragments one after another

A fragment starts fresh when it is not empty and what it does first does not go onto the
line before it. Whether it is laid out in an empty buffer or below some lines then makes
no difference: it writes the same lines, and of the lines before it changes at most the
last one, which loses its blank characters if it has no others.

The reason is its first edit. It is a line of its own, unless the layout stops before it
writes anything (`Emission.OpensLine`), and behind a line of its own no edit sees what
was there before. So fragments that start fresh can be laid out one by one, and the lines
of their concatenation are their own lines put below each other.

Main statement: `Fragment.renderInto_succession`.
-/

set_option autoImplicit false

namespace CodeLayout

/-! ## Emissions that open a line -/

namespace Emission

/-- An emission first writes a line of its own, if it does not fail before. -/
structure OpensLine (emission : Emission) : Prop where
  /-- Nothing goes onto the line before. -/
  fresh : emission.startsFresh = true
  /-- Something is written. -/
  writes : emission.failure = none → emission.edits ≠ []

theorem opensLine_line (text indent : String) : (single (.line text false indent)).OpensLine where
  fresh := rfl
  writes := fun _ => List.cons_ne_nil _ _

theorem opensLine_failed (error : LayoutError) : (failed error).OpensLine where
  fresh := rfl
  writes := nofun

/-- What goes on after a line of its own still opens with it. -/
theorem OpensLine.andThen {first : Emission} (opens : first.OpensLine) (height : Nat)
    (next : Nat → Emission) : (first.andThen height next).OpensLine := by
  cases failed : first.failure with
  | some error =>
    refine ⟨?_, ?_⟩
    · simpa only [Emission.andThen, failed, startsFresh] using opens.fresh
    · simp only [Emission.andThen, failed]
      intro went
      cases went
  | none =>
    obtain ⟨edit, rest, edits⟩ := List.exists_cons_of_ne_nil (opens.writes failed)
    have fresh := opens.fresh
    rw [startsFresh, edits, List.head?_cons] at fresh
    refine ⟨?_, fun _ => ?_⟩
    · simpa only [Emission.andThen, failed, startsFresh, edits, List.cons_append,
        List.head?_cons] using fresh
    · simp only [Emission.andThen, failed, edits]
      exact List.cons_ne_nil _ _

/-- After an emission without edits the next one opens the line. -/
theorem OpensLine.after {first : Emission} {height : Nat} {next : Nat → Emission}
    (idle : first.edits = []) (opens : (next height).OpensLine) :
    (first.andThen height next).OpensLine := by
  cases failed : first.failure with
  | some error =>
    have stopped : first.andThen height next = .failed error := by
      rw [Emission.andThen, failed, idle]
      rfl
    rw [stopped]
    exact opensLine_failed error
  | none =>
    have went : first.andThen height next = next height := by
      rw [Emission.andThen, failed, idle]
      rfl
    rw [went]
    exact opens

/-- An emission that opens a line fails at once, or this line is its first edit. -/
theorem OpensLine.shape {emission : Emission} (opens : emission.OpensLine) :
    (∃ error, emission = .failed error) ∨
      ∃ text indent rest, emission.edits = .line text false indent :: rest := by
  have fresh := opens.fresh
  rw [startsFresh] at fresh
  cases edits : emission.edits with
  | nil =>
    cases failure : emission.failure with
    | none => exact absurd edits (opens.writes failure)
    | some error =>
      left
      exact ⟨error, by rw [failed, ← edits, ← failure]⟩
  | cons edit rest =>
    rw [edits] at fresh
    cases edit with
    | glue text => cases fresh
    | line text connect indent =>
      cases connect with
      | true => cases fresh
      | false => exact .inr ⟨text, indent, rest, rfl⟩

theorem edits_andThen_nil {first : Emission} {height : Nat} {next : Nat → Emission}
    (idle : first.edits = []) (later : first.failure = none → (next height).edits = []) :
    (first.andThen height next).edits = [] := by
  cases failed : first.failure with
  | some error => simp only [Emission.andThen, failed, idle]
  | none =>
    have nothing := later failed
    simp only [Emission.andThen, failed, idle, Edit.heightAfter, List.foldl_nil, nothing,
      List.append_nil]

/-- An emission that goes on without a failure did not fail before, and neither do the
next edits. -/
theorem failure_of_andThen {first : Emission} {height : Nat} {next : Nat → Emission}
    (went : (first.andThen height next).failure = none) :
    first.failure = none ∧ (next (Edit.heightAfter height first.edits)).failure = none := by
  rw [failure_andThen, Option.or_eq_none_iff] at went
  exact went

end Emission

namespace Fragment

/-! ## Fragments that start fresh -/

/-- A fragment starts fresh when it is not empty, and what it does first is neither the
start of a block that connects nor the separator of a list without items. -/
structure StartsFresh (fragment : Decided) : Prop where
  /-- The fragment is not empty. -/
  full : fragment.isEmpty = false
  /-- It does not go onto the line before it. -/
  apart : fragment.opening.attaches = false

instance (fragment : Decided) : Decidable fragment.StartsFresh :=
  decidable_of_iff (fragment.isEmpty = false ∧ fragment.opening.attaches = false)
    ⟨fun fresh => ⟨fresh.1, fresh.2⟩, fun fresh => ⟨fresh.full, fresh.apart⟩⟩

/-- Items that are all empty are left out. -/
theorem emitItems_of_allEmpty (unit : IndentUnit) (separator : String) (inlining : Bool) :
    ∀ (body : List Decided) (place : ItemPlace) (indent : String) (height : Nat),
      allEmpty body = true → emitItems unit separator inlining body place indent height = .nothing
  | [], place, indent, height, _ => rfl
  | item :: rest, place, indent, height, empty => by
    simp only [allEmpty, Bool.and_eq_true] at empty
    simp only [emitItems, empty.1, if_true]
    exact emitItems_of_allEmpty unit separator inlining rest place indent height empty.2

mutual

/-- A fragment that does nothing first makes no edit. Unless it fails, it is empty. -/
theorem emit_of_nothing (unit : IndentUnit) : ∀ (fragment : Decided) (connect : Bool)
    (indent : String) (height : Nat), fragment.opening = .nothing →
      (fragment.emit unit connect indent height).edits = [] ∧
        ((fragment.emit unit connect indent height).failure = none → fragment.isEmpty = true)
  | .line text, connect, indent, height, opens => by cases opens
  | .block start body close connects inlining, connect, indent, height, opens => by
    cases connects <;> cases opens
  | .list separator body trailing (.error error), connect, indent, height, opens => ⟨rfl, nofun⟩
  | .list separator body trailing (.ok inline), connect, indent, height, opens => by
    cases empty : allEmpty body with
    | true =>
      have items := emitItems_of_allEmpty unit separator inline body (.first connect) indent
        height empty
      have ends : trailing.applies (height + 1 < height) = false := by
        rw [opening, if_pos empty] at opens
        cases trailing with
        | ifMultiLine => simp [Trailing.applies]
        | always => cases opens
        | never => rfl
      refine ⟨?_, fun _ => empty⟩
      simp only [emit, Emission.decide, items]
      exact Emission.edits_andThen_nil rfl fun _ => by rw [ends]; rfl
    | false =>
      rw [opening, empty, if_neg Bool.false_ne_true] at opens
      obtain ⟨idle, fails⟩ :=
        emitItems_of_nothing unit separator inline body connect indent height opens
      simp only [emit, Emission.decide]
      refine ⟨Emission.edits_andThen_nil idle fun went => ?_, fun went => ?_⟩
      · rw [fails went] at empty
        cases empty
      · exact fails (Emission.failure_of_andThen went).1
  | .concat body, connect, indent, height, opens =>
    emitSequence_of_nothing unit body connect indent height opens
  | .foreign kind, connect, indent, height, _ => ⟨rfl, nofun⟩

theorem emitSequence_of_nothing (unit : IndentUnit) : ∀ (body : List Decided) (connect : Bool)
    (indent : String) (height : Nat), sequenceOpening body = .nothing →
      (emitSequence unit body connect indent height).edits = [] ∧
        ((emitSequence unit body connect indent height).failure = none → allEmpty body = true)
  | [], connect, indent, height, _ => ⟨rfl, fun _ => rfl⟩
  | first :: rest, connect, indent, height, opens => by
    by_cases silent : first.opening = .nothing
    · rw [sequenceOpening, if_pos silent] at opens
      obtain ⟨idle, empty⟩ := emit_of_nothing unit first connect indent height silent
      obtain ⟨idles, empties⟩ := emitSequence_of_nothing unit rest false indent height opens
      rw [emitSequence]
      refine ⟨Emission.edits_andThen_nil idle fun _ => idles, fun went => ?_⟩
      obtain ⟨firstWent, restWent⟩ := Emission.failure_of_andThen went
      rw [idle] at restWent
      rw [allEmpty, empty firstWent, empties restWent]
      rfl
    · rw [sequenceOpening, if_neg silent] at opens
      exact absurd opens silent

theorem emitItems_of_nothing (unit : IndentUnit) (separator : String) (inlining : Bool) :
    ∀ (body : List Decided) (connect : Bool) (indent : String) (height : Nat),
      itemsOpening body = .nothing →
        (emitItems unit separator inlining body (.first connect) indent height).edits = [] ∧
          ((emitItems unit separator inlining body (.first connect) indent height).failure = none →
            allEmpty body = true)
  | [], connect, indent, height, _ => ⟨rfl, fun _ => rfl⟩
  | item :: rest, connect, indent, height, opens => by
    cases empty : item.isEmpty with
    | true =>
      rw [itemsOpening, if_pos empty] at opens
      simp only [emitItems, empty, if_true, allEmpty, Bool.true_and]
      exact emitItems_of_nothing unit separator inlining rest connect indent height opens
    | false =>
      -- An item that is not empty and does nothing fails, so nothing follows it.
      rw [itemsOpening, empty, if_neg Bool.false_ne_true] at opens
      obtain ⟨idle, fails⟩ := emit_of_nothing unit item connect indent height opens
      have stops : (item.emit unit connect indent height).failure ≠ none := fun went => by
        rw [fails went] at empty
        cases empty
      simp only [emitItems, empty, Bool.false_eq_true, if_false]
      exact ⟨Emission.edits_andThen_nil idle fun went => absurd went stops, fun went =>
        absurd (Emission.failure_of_andThen went).1 stops⟩

end

mutual

/-- A fragment whose first line is its own opens with it. -/
theorem opensLine_emit (unit : IndentUnit) : ∀ (fragment : Decided) (indent : String)
    (height : Nat), fragment.opening = .fresh →
      (fragment.emit unit false indent height).OpensLine
  | .line text, indent, height, _ => Emission.opensLine_line text indent
  | .block start body close connects inlining, indent, height, opens => by
    cases connects with
    | true => cases opens
    | false =>
      rw [emit]
      exact (Emission.opensLine_line start indent).andThen height _
  | .list separator body trailing (.error error), indent, height, _ =>
    Emission.opensLine_failed (.undecided error)
  | .list separator body trailing (.ok inline), indent, height, opens => by
    cases empty : allEmpty body with
    | true =>
      rw [opening, if_pos empty] at opens
      split at opens <;> cases opens
    | false =>
      rw [opening, empty, if_neg Bool.false_ne_true] at opens
      simp only [emit, Emission.decide]
      exact (opensLine_emitItems unit separator inline body indent height opens).andThen height _
  | .concat body, indent, height, opens => opensLine_emitSequence unit body indent height opens
  | .foreign kind, indent, height, opens => by cases opens

theorem opensLine_emitSequence (unit : IndentUnit) : ∀ (body : List Decided) (indent : String)
    (height : Nat), sequenceOpening body = .fresh →
      (emitSequence unit body false indent height).OpensLine
  | [], indent, height, opens => by cases opens
  | first :: rest, indent, height, opens => by
    rw [emitSequence]
    by_cases silent : first.opening = .nothing
    · rw [sequenceOpening, if_pos silent] at opens
      exact .after (emit_of_nothing unit first false indent height silent).1
        (opensLine_emitSequence unit rest indent height opens)
    · rw [sequenceOpening, if_neg silent] at opens
      exact (opensLine_emit unit first indent height opens).andThen height _

theorem opensLine_emitItems (unit : IndentUnit) (separator : String) (inlining : Bool) :
    ∀ (body : List Decided) (indent : String) (height : Nat), itemsOpening body = .fresh →
      (emitItems unit separator inlining body (.first false) indent height).OpensLine
  | [], indent, height, opens => by cases opens
  | item :: rest, indent, height, opens => by
    cases empty : item.isEmpty with
    | true =>
      rw [itemsOpening, if_pos empty] at opens
      simp only [emitItems, empty, if_true]
      exact opensLine_emitItems unit separator inlining rest indent height opens
    | false =>
      rw [itemsOpening, empty, if_neg Bool.false_ne_true] at opens
      simp only [emitItems, empty, Bool.false_eq_true, if_false]
      exact (opensLine_emit unit item indent height opens).andThen height _

end

/-- A fragment that starts fresh opens a line. If nothing it does comes first, it fails. -/
theorem StartsFresh.opensLine {fragment : Decided} (fresh : fragment.StartsFresh)
    (unit : IndentUnit) (indent : String) (height : Nat) :
    (fragment.emit unit false indent height).OpensLine := by
  cases opens : fragment.opening with
  | nothing =>
    obtain ⟨idle, empty⟩ := emit_of_nothing unit fragment false indent height opens
    refine ⟨by rw [Emission.startsFresh, idle]; rfl, fun went => ?_⟩
    have full := fresh.full
    rw [empty went] at full
    cases full
  | fresh => exact opensLine_emit unit fragment indent height opens
  | connected =>
    have apart := fresh.apart
    rw [opens] at apart
    cases apart
  | separator =>
    have apart := fresh.apart
    rw [opens] at apart
    cases apart

/-! ## Below other lines -/

end Fragment

/-- A line of its own goes below the buffer, whose last line is blanked. -/
theorem Edit.applyAll_line_under (buffer : Buffer) (text indent : String) (rest : List Edit) :
    applyAll buffer (.line text false indent :: rest) =
      buffer.mapLast Buffer.blanked ++ applyAll [indent ++ text] rest := by
  have below : apply buffer (.line text false indent) =
      buffer.mapLast Buffer.blanked ++ [indent ++ text] := by
    rw [apply, Buffer.appendLine, Bool.false_and, if_neg Bool.false_ne_true]
  rw [applyAll_cons, below, applyAll_frame]

/-- The last line of some lines put below a buffer is theirs. -/
theorem Buffer.mapLast_append (change : String → String) (buffer : Buffer) {lines : Buffer}
    (written : lines ≠ []) : mapLast change (buffer ++ lines) = buffer ++ mapLast change lines := by
  rw [← List.dropLast_concat_getLast written, ← List.append_assoc, mapLast_concat, mapLast_concat,
    List.append_assoc]

namespace Fragment

section Below

variable {fragment : Decided} (fresh : fragment.StartsFresh) (format : Format)

include fresh

/-- A fragment that starts fresh is laid out below a buffer as it is by itself, or fails
before it writes anything. -/
theorem StartsFresh.renderInto (buffer : Buffer) (indent : String) :
    fragment.renderInto format buffer false indent =
        (buffer.mapLast Buffer.blanked ++ (fragment.renderInto format [] false indent).1,
          (fragment.renderInto format [] false indent).2) ∨
      ∃ error : LayoutError, fragment.renderInto format [] false indent = ([], some error) ∧
        fragment.renderInto format buffer false indent = (buffer, some error) := by
  have opens := fresh.opensLine format.unit indent 0
  have moved : fragment.emit format.unit false indent buffer.length =
      fragment.emit format.unit false indent 0 := by
    have displaced := emit_displaced format.unit "" buffer.length fragment false indent 0
      (.inr opens.fresh)
    rwa [String.empty_append, Emission.indentedBy_empty, Nat.zero_add] at displaced
  simp only [Fragment.renderInto, moved, List.length_nil, Emission.applyTo]
  rcases opens.shape with ⟨error, fails⟩ | ⟨text, lineIndent, rest, edits⟩
  · right
    exact ⟨error, by rw [fails]; rfl, by rw [fails]; rfl⟩
  · left
    rw [edits, Edit.applyAll_line_under, Edit.applyAll_line_under]
    rfl

/-- A fragment that starts fresh has lines, unless it fails. -/
theorem StartsFresh.renderLines_ne_nil {lines : List String}
    (done : fragment.renderLines format = .ok lines) : lines ≠ [] := by
  have alone := renderLines_eq_ok.mp done
  rw [Fragment.renderInto, Prod.mk.injEq, Emission.applyTo] at alone
  rcases (fresh.opensLine format.unit "" 0).shape with ⟨error, fails⟩ | ⟨text, indent, rest, edits⟩
  · rw [List.length_nil, fails] at alone
    cases alone.2
  · obtain ⟨first, others, written, -⟩ := Edit.applyAll_singleton rest (indent ++ text)
    rw [← alone.1, List.length_nil, edits, Edit.applyAll_line_nil, written]
    exact List.cons_ne_nil _ _

end Below

/-! ## Concatenations -/

/-- A concatenation lays out its first fragment and then the others, unless the first
one fails. -/
theorem renderInto_concat_cons (format : Format) (first : Decided) (rest : List Decided)
    (buffer : Buffer) (connect : Bool) (indent : String) :
    (Fragment.concat (first :: rest)).renderInto format buffer connect indent =
      match first.renderInto format buffer connect indent with
      | (after, none) => (Fragment.concat rest).renderInto format after false indent
      | (after, some error) => (after, some error) := by
  have lines := Edit.length_applyAll
    (first.emit format.unit connect indent buffer.length).edits buffer
  simp only [renderInto, emit, emitSequence, Emission.applyTo, Emission.andThen]
  cases failed : (first.emit format.unit connect indent buffer.length).failure with
  | some error => rfl
  | none => simp only [lines, Edit.applyAll_append]

/-- Several lists of lines below each other. The last line of each but the final one is
blanked. -/
def stacked : List (List String) → List String
  | [] => []
  | [lines] => lines
  | lines :: next :: others => Buffer.mapLast Buffer.blanked lines ++ stacked (next :: others)

/-- Fragments that start fresh are laid out below a buffer one by one. The first of them
that fails ends everything. -/
theorem renderInto_concat_below (format : Format) : ∀ fragments : List Decided,
    (∀ fragment ∈ fragments, fragment.StartsFresh) → ∀ buffer : Buffer,
      match fragments.mapM (renderLines format) with
      | .ok pieces => (Fragment.concat fragments).renderInto format buffer false "" =
          (if pieces = [] then buffer else buffer.mapLast Buffer.blanked ++ stacked pieces, none)
      | .error error =>
        ((Fragment.concat fragments).renderInto format buffer false "").2 = some error
  | [], _, buffer => rfl
  | first :: rest, fresh, buffer => by
    obtain ⟨firstFresh, restFresh⟩ := List.forall_mem_cons.mp fresh
    have below := firstFresh.renderInto format buffer ""
    rw [renderInto_concat_cons, List.mapM_cons]
    cases own : first.renderLines format with
    | error error =>
      have stops := renderLines_eq_error.mp own
      have failed : (first.renderInto format buffer false "").2 = some error := by
        rcases below with after | ⟨other, alone, after⟩
        · rw [after, stops]
        · rw [alone] at stops
          rw [after, stops]
      rcases reached : first.renderInto format buffer false "" with ⟨after, failure⟩
      rw [reached] at failed
      cases failed
      rfl
    | ok lines =>
      have written := firstFresh.renderLines_ne_nil format own
      have alone := renderLines_eq_ok.mp own
      have after : first.renderInto format buffer false "" =
          (buffer.mapLast Buffer.blanked ++ lines, none) := by
        rcases below with after | ⟨other, stops, -⟩
        · rw [after, alone]
        · rw [alone] at stops
          cases stops
      have others := renderInto_concat_below format rest restFresh
        (buffer.mapLast Buffer.blanked ++ lines)
      rw [after]
      cases later : rest.mapM (renderLines format) with
      | error error =>
        rw [later] at others
        exact others
      | ok pieces =>
        rw [later] at others
        refine others.trans (congrArg (·, none) ?_)
        cases pieces with
        | nil => rfl
        | cons next more =>
          rw [if_neg (List.cons_ne_nil _ _), if_neg (List.cons_ne_nil _ _),
            Buffer.mapLast_append _ _ written, stacked, List.append_assoc]

/-- **What starts fresh is written below other lines as it is by itself.** The last of
these lines is blanked, and nothing else of them matters. So the lines of fragments that
start fresh, one after another, are their own lines below each other. If a fragment
fails, it fails in the same way; one that fails before it writes anything leaves the
buffer as it is. -/
theorem renderInto_succession (format : Format) :
    (∀ fragment : Decided, fragment.StartsFresh → ∀ (buffer : Buffer) (indent : String),
      fragment.renderInto format buffer false indent =
          (buffer.mapLast Buffer.blanked ++ (fragment.renderInto format [] false indent).1,
            (fragment.renderInto format [] false indent).2) ∨
        ∃ error : LayoutError, fragment.renderInto format [] false indent = ([], some error) ∧
          fragment.renderInto format buffer false indent = (buffer, some error)) ∧
      ∀ fragments : List Decided, (∀ fragment ∈ fragments, fragment.StartsFresh) →
        (Fragment.concat fragments).renderLines format =
          (fragments.mapM (renderLines format)).map stacked := by
  refine ⟨fun fragment fresh => fresh.renderInto format, fun fragments fresh => ?_⟩
  have below := renderInto_concat_below format fragments fresh []
  cases own : fragments.mapM (renderLines format) with
  | error error =>
    rw [own] at below
    exact renderLines_eq_error.mpr below
  | ok pieces =>
    rw [own] at below
    refine renderLines_eq_ok.mpr (below.trans (congrArg (·, none) ?_))
    cases pieces with
    | nil => rfl
    | cons lines more => rfl

/-- A list below a blank line, and between a block and a line. -/
theorem renderInto_succession_list :
    let items : Decided := .list "," [.concat [], .line "a", .line " "] .ifMultiLine (.ok false)
    let block : Decided := .block "(" [.line "b"] "  " false (.ok false)
    items.renderInto Format.tabs ["x", " "] false "\t" = (["x", "", "\ta,", "\t ,"], none) ∧
      (Fragment.concat [block, items, .line "c"]).renderLines Format.tabs =
        .ok ["(", "\tb", "", "a,", " ,", "c"] := by
  intro items block
  obtain ⟨below, sequence⟩ := renderInto_succession Format.tabs
  refine ⟨?_, ?_⟩
  · rcases below items (by decide) ["x", " "] "\t" with after | ⟨error, alone, -⟩
    · exact after.trans (by decide)
    · have goesOn : (items.renderInto Format.tabs [] false "\t").2 = none := rfl
      rw [alone] at goesOn
      cases goesOn
  · exact (sequence [block, items, .line "c"] (by decide)).trans rfl

end Fragment

end CodeLayout
