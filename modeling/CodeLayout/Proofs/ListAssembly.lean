import CodeLayout.Proofs.LastLine

/-!
# Lists are put together from their items

The layout of a list can be said without a buffer. Every item that is not empty
has lines of its own. The list takes the lines of the first item. For each next
item it glues the separator to the last line, and then either joins the item's
first line to it and puts the others below, or puts all of them below. Whether
an item joins is known from the number of lines that the item before it added.

This holds for items that start in a plain way. An item that joins has a
leading line that shows something: a text without visible characters is joined
like any other, but on a line of its own it could be blanked. An item that does
not join must not go onto the line before it by itself, as a block that connects
and the separator of a list without items do.

Main statement: `Fragment.renderLines_list`.
-/

set_option autoImplicit false

namespace CodeLayout

/-! ## How an item starts -/

/-- The line that leads a fragment, with whether a block puts it on the line
before it. -/
structure Lead where
  /-- The text of the line. -/
  text : String
  /-- Whether it is the start of a block that connects. -/
  connects : Bool
deriving DecidableEq, Repr

/-- What a fragment does first when it is written without a wish to connect. -/
inductive Opening where
  /-- It does nothing at all. -/
  | nothing
  /-- It writes a line of its own. -/
  | fresh
  /-- It starts a block that connects. -/
  | connected
  /-- It glues the separator of a list without items. -/
  | separator
deriving DecidableEq, Repr

/-- Whether what a fragment does first goes onto the line before it. -/
def Opening.attaches : Opening → Bool
  | .nothing => false
  | .fresh => false
  | .connected => true
  | .separator => true

namespace Fragment

mutual

/-- The line that leads a fragment, looked for in first children of
concatenations only. -/
def lead? : Decided → Option Lead
  | .line text => some { text := text, connects := false }
  | .block start _ _ connects _ => some { text := start, connects := connects }
  | .list _ _ _ _ => none
  | .concat body => firstLead? body
  | .foreign _ => none

/-- The line that leads the first fragment of a body. -/
def firstLead? : List Decided → Option Lead
  | [] => none
  | first :: _ => lead? first

end

/-- Whether a block that connects leads a fragment. -/
def leadsConnected (item : Decided) : Bool :=
  item.lead?.any fun lead => lead.connects

/-- Whether a line that shows something leads a fragment. -/
def leadsVisibly (item : Decided) : Bool :=
  item.lead?.any fun lead => !isBlankText lead.text

mutual

/-- What a fragment does first. -/
def opening : Decided → Opening
  | .line _ => .fresh
  | .block _ _ _ connects _ => if connects then .connected else .fresh
  | .list _ body trailing _ =>
    if allEmpty body then
      if trailing = .always then .separator else .nothing
    else
      itemsOpening body
  | .concat body => sequenceOpening body
  | .foreign _ => .nothing

/-- What the items of a list do first. -/
def itemsOpening : List Decided → Opening
  | [] => .nothing
  | item :: rest => if item.isEmpty then itemsOpening rest else opening item

/-- What the children of a concatenation do first. -/
def sequenceOpening : List Decided → Opening
  | [] => .nothing
  | first :: rest => if opening first = .nothing then sequenceOpening rest else opening first

end

/-! ## Lists from items -/

/-- The lines of a fragment that is rendered by itself. -/
def ownLines (format : Format) (fragment : Decided) : List String :=
  (fragment.renderInto format [] false "").1

end Fragment

/-- Joins the first of some lines to the last line of a buffer with one space, and
puts the others below. -/
def Buffer.joinOnto (buffer : Buffer) : List String → Buffer
  | [] => buffer
  | first :: others => buffer.mapLast (fun last => last ++ " " ++ first) ++ others

/-- An item of a list after the first, with whether it joins the line before it. -/
structure Joint where
  /-- The item. -/
  item : Decided
  /-- Whether it joins. -/
  joins : Bool

namespace Joint

/-- Whether an item starts plainly enough for the place it goes to. -/
def fits (joint : Joint) : Bool :=
  if joint.joins then joint.item.leadsVisibly else !joint.item.opening.attaches

/-- The buffer with the item's own lines joined to it or below it. -/
def write (format : Format) (buffer : Buffer) (joint : Joint) : Buffer :=
  if joint.joins then
    buffer.joinOnto (joint.item.ownLines format)
  else
    buffer ++ joint.item.ownLines format

/-- The number of lines that the item adds. -/
def added (format : Format) (joint : Joint) : Nat :=
  (joint.item.ownLines format).length - if joint.joins then 1 else 0

end Joint

namespace Fragment

/-- An item of a list after one that added so many lines. It joins when the list goes
on a single line, when the item before it added several lines and it is no block
on a single line, or when a block that connects leads it. -/
def joint (inlining : Bool) (added : Nat) (item : Decided) : Joint where
  item := item
  joins := inlining || (1 < added && !item.isInlineBlock) || item.leadsConnected

/-- The items of a list after one that added so many lines. -/
def joints (format : Format) (inlining : Bool) : Nat → List Decided → List Joint
  | _, [] => []
  | added, item :: rest =>
    joint inlining added item ::
      joints format inlining ((joint inlining added item).added format) rest

/-- A buffer continued by the items of a list, each with a separator before it. -/
def continued (format : Format) (separator : String) (buffer : Buffer) (items : List Joint) :
    Buffer :=
  items.foldl (fun buffer joint => joint.write format (Buffer.glue buffer separator)) buffer

/-- The lines of a list, put together from the own lines of its items. -/
def assembled (format : Format) (separator : String) (trailing : Trailing) (inlining : Bool)
    (first : Decided) (rest : List Decided) : List String :=
  let lines := continued format separator (first.ownLines format)
    (joints format inlining (first.ownLines format).length rest)
  if trailing.applies (1 < lines.length) then Buffer.glue lines separator else lines

/-! ## Scripts that start plainly -/

mutual

/-- The script of a fragment with a leading line starts with that line, and goes on
in one way whether it connects or not. -/
theorem script_of_lead : ∀ (fragment : Decided) (lead : Lead), fragment.lead? = some lead →
    fragment.isEmpty = false ∧ ∀ depth : Nat, ∃ others : List Step, ∀ connect occupied : Bool,
      fragment.script connect depth occupied =
        .line lead.text (lead.connects || connect) depth :: others
  | .line text, lead, leads => by
    cases leads
    exact ⟨rfl, fun depth => ⟨[], fun connect occupied => rfl⟩⟩
  | .block start body close connects inlining, lead, leads => by
    cases leads
    exact ⟨rfl, fun depth => ⟨_, fun connect occupied => rfl⟩⟩
  | .list separator body trailing inlining, lead, leads => by cases leads
  | .concat body, lead, leads => scriptSequence_of_lead body lead leads
  | .foreign kind, lead, leads => by cases leads

theorem scriptSequence_of_lead : ∀ (body : List Decided) (lead : Lead),
    firstLead? body = some lead →
      allEmpty body = false ∧ ∀ depth : Nat, ∃ others : List Step, ∀ connect occupied : Bool,
        scriptSequence body connect depth occupied =
          .line lead.text (lead.connects || connect) depth :: others
  | [], lead, leads => by cases leads
  | first :: rest, lead, leads => by
    obtain ⟨full, starts⟩ := script_of_lead first lead leads
    refine ⟨by rw [allEmpty, full, Bool.false_and], fun depth => ?_⟩
    obtain ⟨others, starts⟩ := starts depth
    refine ⟨others ++ scriptSequence rest false depth true, fun connect occupied => ?_⟩
    rw [scriptSequence, starts, full, Bool.not_false, Bool.or_true, List.cons_append]

end

mutual

/-- A fragment that does nothing first is empty and does nothing at all. -/
theorem script_of_nothing : ∀ fragment : Decided, fragment.opening = .nothing →
    fragment.regular = true → fragment.isEmpty = true ∧
      ∀ (connect : Bool) (depth : Nat) (occupied : Bool),
        fragment.script connect depth occupied = []
  | .line text, opens, _ => by cases opens
  | .block start body close connects inlining, opens, _ => by cases connects <;> cases opens
  | .list separator body trailing inlining, opens, made => by
    simp only [regular, Bool.and_eq_true] at made
    cases empty : allEmpty body with
    | false =>
      rw [opening, empty, if_neg Bool.false_ne_true] at opens
      rw [allEmpty_of_nothing body opens made.2] at empty
      cases empty
    | true =>
      refine ⟨empty, fun connect depth occupied => ?_⟩
      rw [script, scriptItems_of_allEmpty _ _ _ _ _ _ empty, growthItems_of_allEmpty _ _ _ _ empty]
      rw [opening, if_pos empty] at opens
      cases trailing with
      | ifMultiLine => rfl
      | always => cases opens
      | never => rfl
  | .concat body, opens, made => scriptSequence_of_nothing body opens made
  | .foreign kind, _, made => by cases made

theorem scriptSequence_of_nothing : ∀ body : List Decided, sequenceOpening body = .nothing →
    allRegular body = true → allEmpty body = true ∧
      ∀ (connect : Bool) (depth : Nat) (occupied : Bool),
        scriptSequence body connect depth occupied = []
  | [], _, _ => ⟨rfl, fun _ _ _ => rfl⟩
  | first :: rest, opens, made => by
    simp only [allRegular, Bool.and_eq_true] at made
    by_cases idle : first.opening = .nothing
    · rw [sequenceOpening, if_pos idle] at opens
      obtain ⟨empty, silent⟩ := script_of_nothing first idle made.1
      obtain ⟨empties, silents⟩ := scriptSequence_of_nothing rest opens made.2
      refine ⟨by rw [allEmpty, empty, empties, Bool.and_true], fun connect depth occupied => ?_⟩
      rw [scriptSequence, silent, silents, List.nil_append]
    · rw [sequenceOpening, if_neg idle] at opens
      exact absurd opens idle

theorem allEmpty_of_nothing : ∀ body : List Decided, itemsOpening body = .nothing →
    allRegular body = true → allEmpty body = true
  | [], _, _ => rfl
  | item :: rest, opens, made => by
    simp only [allRegular, Bool.and_eq_true] at made
    cases empty : item.isEmpty with
    | true =>
      rw [itemsOpening, if_pos empty] at opens
      rw [allEmpty, empty, allEmpty_of_nothing rest opens made.2, Bool.and_true]
    | false =>
      rw [itemsOpening, empty, if_neg Bool.false_ne_true] at opens
      rw [(script_of_nothing item opens made.1).1] at empty
      cases empty

end

/-- A fragment that is not empty and goes onto no line before it first writes a line
of its own. -/
theorem opening_eq_fresh {fragment : Decided} (made : fragment.regular = true)
    (full : fragment.isEmpty = false) (apart : fragment.opening.attaches = false) :
    fragment.opening = .fresh := by
  cases opens : fragment.opening with
  | nothing =>
    rw [(script_of_nothing fragment opens made).1] at full
    cases full
  | fresh => rfl
  | connected => rw [opens] at apart; cases apart
  | separator => rw [opens] at apart; cases apart

mutual

/-- The script of a fragment that first writes a line of its own starts with that
line, and goes on in one way whether there was a line before or not. -/
theorem script_of_fresh : ∀ fragment : Decided, fragment.opening = .fresh →
    fragment.regular = true → ∀ depth : Nat, ∃ (text : String) (others : List Step),
      ∀ occupied : Bool,
        fragment.script false depth occupied = .line text false depth :: others
  | .line text, _, _, depth => ⟨text, [], fun occupied => rfl⟩
  | .block start body close connects inlining, opens, _, depth => by
    cases connects with
    | true => cases opens
    | false => exact ⟨start, _, fun occupied => rfl⟩
  | .list separator body trailing inlining, opens, made, depth => by
    simp only [regular, Bool.and_eq_true] at made
    cases empty : allEmpty body with
    | true =>
      rw [opening, if_pos empty] at opens
      split at opens <;> cases opens
    | false =>
      rw [opening, empty, if_neg Bool.false_ne_true] at opens
      obtain ⟨text, others, starts⟩ :=
        scriptItems_of_fresh separator inlining.holds body opens made.2 depth
      have grows : ∀ occupied : Bool,
          growthItems inlining.holds body (.first false) occupied =
            1 + Step.growth true others := by
        intro occupied
        rw [← growth_scriptItems separator inlining.holds body _ depth occupied made.2, starts]
        rfl
      refine ⟨text, others ++
        if trailing.applies (1 < 1 + Step.growth true others) then [.glue separator] else [],
        fun occupied => ?_⟩
      rw [script, starts, grows, List.cons_append]
  | .concat body, opens, made, depth => scriptSequence_of_fresh body opens made depth
  | .foreign kind, _, made, _ => by cases made

theorem scriptSequence_of_fresh : ∀ body : List Decided, sequenceOpening body = .fresh →
    allRegular body = true → ∀ depth : Nat, ∃ (text : String) (others : List Step),
      ∀ occupied : Bool,
        scriptSequence body false depth occupied = .line text false depth :: others
  | [], opens, _, _ => by cases opens
  | first :: rest, opens, made, depth => by
    simp only [allRegular, Bool.and_eq_true] at made
    by_cases idle : first.opening = .nothing
    · rw [sequenceOpening, if_pos idle] at opens
      obtain ⟨empty, silent⟩ := script_of_nothing first idle made.1
      obtain ⟨text, others, starts⟩ := scriptSequence_of_fresh rest opens made.2 depth
      refine ⟨text, others, fun occupied => ?_⟩
      rw [scriptSequence, silent, starts, List.nil_append]
    · rw [sequenceOpening, if_neg idle] at opens
      obtain ⟨text, others, starts⟩ := script_of_fresh first opens made.1 depth
      have full := occupies_script first false depth true made.1
      rw [starts, Step.occupies_line] at full
      refine ⟨text, others ++ scriptSequence rest false depth true, fun occupied => ?_⟩
      rw [scriptSequence, starts, ← full, Bool.or_true, List.cons_append]

theorem scriptItems_of_fresh (separator : String) (inlining : Bool) : ∀ body : List Decided,
    itemsOpening body = .fresh → allRegular body = true → ∀ depth : Nat,
      ∃ (text : String) (others : List Step), ∀ occupied : Bool,
        scriptItems separator inlining body (.first false) depth occupied =
          .line text false depth :: others
  | [], opens, _, _ => by cases opens
  | item :: rest, opens, made, depth => by
    simp only [allRegular, Bool.and_eq_true] at made
    cases empty : item.isEmpty with
    | true =>
      rw [itemsOpening, if_pos empty] at opens
      obtain ⟨text, others, starts⟩ :=
        scriptItems_of_fresh separator inlining rest opens made.2 depth
      refine ⟨text, others, fun occupied => ?_⟩
      rw [scriptItems, if_pos empty, starts]
    | false =>
      rw [itemsOpening, empty, if_neg Bool.false_ne_true] at opens
      obtain ⟨text, others, starts⟩ := script_of_fresh item opens made.1 depth
      have grows : ∀ occupied : Bool,
          item.growth false occupied = 1 + Step.growth true others := by
        intro occupied
        rw [← growth_script item false depth occupied made.1, starts]
        rfl
      refine ⟨text, others ++ scriptItems separator inlining rest
        (.after (1 < 1 + Step.growth true others)) depth true, fun occupied => ?_⟩
      rw [scriptItems_cons _ _ _ _ _ _ empty, ItemPlace.opening, List.nil_append,
        ItemPlace.joins, starts, grows, List.cons_append]

end

end Fragment

/-! ## Writing an item below or onto a line -/

namespace Edit

/-- Whether an edit writes at a blank indent, if it writes a line. -/
def hidesIndent : Edit → Bool
  | .line _ _ indent => isBlankText indent
  | .glue _ => true

/-- A text in front of a line that shows something stays in front of it. -/
theorem applyAll_prefixed (head : String) (edits : List Edit) : ∀ text : String,
    isBlankText text = false → (∀ edit ∈ edits, edit.hidesIndent = true) →
      ∃ (first : String) (others : List String),
        applyAll [text] edits = first :: others ∧
          applyAll [head ++ text] edits = (head ++ first) :: others := by
  induction edits with
  | nil => intro text _ _; exact ⟨text, [], rfl, rfl⟩
  | cons edit rest ih =>
    intro text shows hidden
    obtain ⟨hides, later⟩ := List.forall_mem_cons.mp hidden
    have shown : isBlankText (head ++ text) = false := by
      rw [isBlankText_append, shows, Bool.and_false]
    cases edit with
    | glue next =>
      have further : isBlankText (text ++ next) = false := by
        rw [isBlankText_append, shows, Bool.false_and]
      have grown := ih (text ++ next) further later
      rwa [← String.append_assoc] at grown
    | line next connect indent =>
      cases connect with
      | true =>
        have further : isBlankText (text ++ " " ++ next) = false := by
          rw [isBlankText_append, isBlankText_append, shows, Bool.false_and, Bool.false_and]
        have regrouped : head ++ text ++ " " ++ next = head ++ (text ++ " " ++ next) := by
          simp only [String.append_assoc]
        rw [applyAll_line_joins shows hides, applyAll_line_joins shown hides, regrouped]
        exact ih (text ++ " " ++ next) further later
      | false =>
        exact ⟨text, _, applyAll_line_below shows next indent _,
          applyAll_line_below shown next indent _⟩

end Edit

namespace Step

/-- Below a blank base all indents of a script are blank. -/
theorem hidesIndent_map_toEdit (unit : IndentUnit) {base : String}
    (blank : isBlankText base = true) (steps : List Step) :
    ∀ edit ∈ steps.map (toEdit unit base), edit.hidesIndent = true := by
  intro edit member
  obtain ⟨step, -, rfl⟩ := List.mem_map.mp member
  cases step with
  | line text connect depth => exact unit.isBlankText_under blank depth
  | glue text => rfl

end Step

namespace Fragment

/-- The own lines of a regular fragment are what its script writes. -/
theorem ownLines_of_regular (format : Format) {fragment : Decided}
    (made : fragment.regular = true) :
    fragment.ownLines format =
      Edit.applyAll [] ((fragment.script false 0 false).map (Step.toEdit format.unit "")) := by
  rw [ownLines, renderInto_of_regular format fragment [] false "" made]
  rfl

/-- A regular fragment renders to its own lines. -/
theorem renderLines_eq_ownLines (format : Format) {fragment : Decided}
    (made : fragment.regular = true) :
    fragment.renderLines format = .ok (fragment.ownLines format) := by
  rw [renderLines, ownLines, renderInto_of_regular format fragment [] false "" made]

end Fragment

namespace Joint

theorem length_write (format : Format) (buffer : Buffer) (joint : Joint) :
    (joint.write format buffer).length = buffer.length + joint.added format := by
  unfold write added
  cases joint.joins with
  | false => simp
  | true =>
    cases joint.item.ownLines format with
    | nil => rfl
    | cons first others => simp [Buffer.joinOnto]

/-- An item that fits is written below or onto a line that shows something. -/
theorem applyAll_script (format : Format) {item : Decided} (made : item.regular = true)
    (full : item.isEmpty = false) (lines : Buffer) {last : String}
    (shows : isBlankText last = false) (join : Bool)
    (fit : Joint.fits { item := item, joins := join || item.leadsConnected } = true) :
    Edit.applyAll (lines ++ [last])
        ((item.script join 0 true).map (Step.toEdit format.unit "")) =
      Joint.write format (lines ++ [last])
        { item := item, joins := join || item.leadsConnected } := by
  have own := Fragment.ownLines_of_regular format made
  cases joins : (join || item.leadsConnected) with
  | true =>
    simp only [fits, joins, if_true, Fragment.leadsVisibly] at fit
    cases leads : item.lead? with
    | none => rw [leads] at fit; cases fit
    | some lead =>
      obtain ⟨_, starts⟩ := Fragment.script_of_lead item lead leads
      obtain ⟨others, starts⟩ := starts 0
      rw [leads, Option.any_some, Bool.not_eq_true'] at fit
      rw [Fragment.leadsConnected, leads, Option.any_some, Bool.or_comm] at joins
      -- Alone the leading line starts the buffer; here it comes after the last line.
      obtain ⟨first, below, alone, after⟩ :=
        Edit.applyAll_prefixed (last ++ " ") (others.map (Step.toEdit format.unit "")) lead.text fit
          (Step.hidesIndent_map_toEdit format.unit isBlankText_empty others)
      have ownShape : item.ownLines format = first :: below := by
        rw [own, starts, List.map_cons, Step.toEdit, Edit.applyAll_line_nil, IndentUnit.under,
          String.empty_append, alone]
      rw [starts, joins, List.map_cons, Step.toEdit, IndentUnit.under, Edit.applyAll_frame,
        Edit.applyAll_line_joins shows isBlankText_empty, after]
      simp only [write, if_true, ownShape, Buffer.joinOnto, Buffer.mapLast_concat,
        List.append_assoc, List.singleton_append]
  | false =>
    simp only [fits, joins, Bool.false_eq_true, if_false, Bool.not_eq_true'] at fit
    rw [Bool.or_eq_false_iff] at joins
    obtain ⟨text, others, starts⟩ :=
      Fragment.script_of_fresh item (Fragment.opening_eq_fresh made full fit) made 0
    have ownShape : item.ownLines format =
        Edit.applyAll ["" ++ text] (others.map (Step.toEdit format.unit "")) := by
      rw [own, starts, List.map_cons, Step.toEdit, Edit.applyAll_line_nil, IndentUnit.under]
    rw [joins.1, starts, List.map_cons, Step.toEdit, IndentUnit.under, Edit.applyAll_frame,
      Edit.applyAll_line_below shows, ← ownShape]
    exact (List.append_assoc lines [last] _).symm

/-- The lines that a fitting item adds are those the layout counts for it. -/
theorem growth_eq_added (format : Format) {item : Decided} (made : item.regular = true)
    (full : item.isEmpty = false) (join : Bool)
    (fit : Joint.fits { item := item, joins := join || item.leadsConnected } = true) :
    item.growth join true =
      Joint.added format { item := item, joins := join || item.leadsConnected } := by
  have shows : isBlankText "," = false := by decide
  have written := congrArg List.length (applyAll_script format made full [] shows join fit)
  rw [Edit.length_applyAll, Step.heightAfter_map_toEdit, length_write] at written
  have grown := Nat.add_left_cancel written
  rwa [← Fragment.growth_script item join 0 true made]

end Joint

namespace Fragment

/-! ## Writing the items of a list -/

/-- A list writes what it would write without its empty items. -/
theorem scriptItems_nonempty (separator : String) (inlining : Bool) (depth : Nat) :
    ∀ (body : List Decided) (place : ItemPlace) (occupied : Bool),
      scriptItems separator inlining body place depth occupied =
        scriptItems separator inlining (nonempty body) place depth occupied
  | [], _, _ => rfl
  | item :: rest, place, occupied => by
    cases empty : item.isEmpty with
    | true =>
      have left : nonempty (item :: rest) = nonempty rest :=
        List.filter_cons_of_neg (by rw [empty]; decide)
      rw [scriptItems, if_pos empty, left]
      exact scriptItems_nonempty separator inlining depth rest place occupied
    | false =>
      have kept : nonempty (item :: rest) = item :: nonempty rest :=
        List.filter_cons_of_pos (by rw [empty]; decide)
      rw [kept, scriptItems_cons _ _ _ _ _ _ empty, scriptItems_cons _ _ _ _ _ _ empty,
        scriptItems_nonempty separator inlining depth rest]

/-- Written onto a line, the items after the first are joined to it and put below it
one after another. -/
theorem applyAll_scriptItems (format : Format) {separator : String} (inlining : Bool)
    (shows : isBlankText separator = false) : ∀ (items : List Decided) (added : Nat)
      (buffer : Buffer), buffer ≠ [] →
      (∀ item ∈ items, item.regular = true ∧ item.isEmpty = false) →
      (∀ joint ∈ joints format inlining added items, joint.fits = true) →
      Edit.applyAll buffer
          ((scriptItems separator inlining items (.after (1 < added)) 0 true).map
            (Step.toEdit format.unit "")) =
        continued format separator buffer (joints format inlining added items)
  | [], added, buffer, _, _, _ => rfl
  | item :: rest, added, buffer, inhabited, sound, fit => by
    obtain ⟨made, full⟩ := sound item List.mem_cons_self
    obtain ⟨itemFits, restFits⟩ := List.forall_mem_cons.mp fit
    obtain ⟨lines, last, rfl⟩ : ∃ lines last, buffer = lines ++ [last] :=
      ⟨_, _, (List.dropLast_concat_getLast inhabited).symm⟩
    have glued : isBlankText (last ++ separator) = false := by
      rw [isBlankText_append, shows, Bool.and_false]
    have written : Edit.applyAll (lines ++ [last ++ separator])
        ((item.script ((ItemPlace.after (1 < added)).joins inlining item) 0 true).map
          (Step.toEdit format.unit "")) =
        (joint inlining added item).write format (lines ++ [last ++ separator]) :=
      Joint.applyAll_script format made full lines glued _ itemFits
    have grown : item.growth ((ItemPlace.after (1 < added)).joins inlining item) true =
        (joint inlining added item).added format :=
      Joint.growth_eq_added format made full _ itemFits
    have height := Joint.length_write format (lines ++ [last ++ separator])
      (joint inlining added item)
    have still : (joint inlining added item).write format (lines ++ [last ++ separator]) ≠ [] := by
      intro nothing
      rw [nothing, List.length_nil, List.length_append, List.length_singleton] at height
      omega
    rw [scriptItems_cons _ _ _ _ _ _ full, ItemPlace.opening, List.map_append,
      Edit.applyAll_append, List.map_append, Edit.applyAll_append]
    have separated : Edit.applyAll (lines ++ [last])
        ([Step.glue separator].map (Step.toEdit format.unit "")) =
          lines ++ [last ++ separator] := Buffer.glue_concat lines last separator
    rw [separated, written, grown, joints, continued, List.foldl_cons, Buffer.glue_concat]
    exact applyAll_scriptItems format inlining shows rest _ _ still
      (fun next member => sound next (List.mem_cons_of_mem item member)) restFits

/-- A fragment grows by its own lines where there is no line before. -/
theorem growth_eq_length_ownLines (format : Format) {fragment : Decided}
    (made : fragment.regular = true) :
    fragment.growth false false = (fragment.ownLines format).length := by
  have lengths := length_renderInto format fragment [] false "" made
  rw [List.length_nil, Nat.zero_add] at lengths
  exact lengths.symm

/-- A fragment that is not empty has lines. -/
theorem ownLines_ne_nil (format : Format) {fragment : Decided} (made : fragment.regular = true)
    (full : fragment.isEmpty = false) : fragment.ownLines format ≠ [] := by
  intro nothing
  have writes := occupies_script fragment false 0 false made
  have occupied := Step.occupied_after (fragment.script false 0 false) 0
  rw [bne_self_eq_false, growth_script fragment _ _ _ made, growth_eq_length_ownLines format made,
    nothing, writes, full] at occupied
  cases occupied

/-- **A list is put together from the own lines of its items.** Its lines are those of
its first item, continued by each next item with a separator before it, and by
one more separator if the trailing rule asks for it. -/
theorem renderLines_list (format : Format) {separator : String} {body : List Decided}
    (trailing : Trailing) (inlining : Bool) {first : Decided} {rest : List Decided}
    (made : allRegular body = true) (shows : isBlankText separator = false)
    (items : nonempty body = first :: rest)
    (fit : ∀ joint ∈ joints format inlining (first.ownLines format).length rest,
      joint.fits = true) :
    (∀ item ∈ first :: rest, item.renderLines format = .ok (item.ownLines format)) ∧
      (Fragment.list separator body trailing (.ok inlining)).renderLines format =
        .ok (assembled format separator trailing inlining first rest) := by
  have sound : ∀ item ∈ first :: rest, item.regular = true ∧ item.isEmpty = false := by
    intro item member
    rw [← items, nonempty, List.mem_filter, Bool.not_eq_true'] at member
    exact ⟨(allRegular_iff body).mp made item member.1, member.2⟩
  obtain ⟨firstMade, firstFull⟩ := sound first List.mem_cons_self
  refine ⟨fun item member => renderLines_eq_ownLines format (sound item member).1, ?_⟩
  have listMade : (Fragment.list separator body trailing (.ok inlining)).regular = true := made
  -- Before the trailing rule, the script of the items leaves the continued lines.
  have lines : Edit.applyAll []
      ((scriptItems separator inlining body (.first false) 0 false).map
        (Step.toEdit format.unit "")) =
      continued format separator (first.ownLines format)
        (joints format inlining (first.ownLines format).length rest) := by
    rw [scriptItems_nonempty, items, scriptItems_cons _ _ _ _ _ _ firstFull,
      ItemPlace.opening, List.nil_append, ItemPlace.joins, List.map_append, Edit.applyAll_append,
      ← ownLines_of_regular format firstMade, growth_eq_length_ownLines format firstMade]
    exact applyAll_scriptItems format inlining shows rest _ _
      (ownLines_ne_nil format firstMade firstFull)
      (fun item member => sound item (List.mem_cons_of_mem first member)) fit
  have height := congrArg List.length lines
  rw [Edit.length_applyAll, Step.heightAfter_map_toEdit, List.length_nil, Nat.zero_add,
    bne_self_eq_false, growth_scriptItems separator inlining body _ _ _ made] at height
  rw [renderLines_eq_ownLines format listMade, ownLines_of_regular format listMade, script,
    List.map_append, Edit.applyAll_append, Decision.holds_ok, lines, height, assembled]
  split
  · rfl
  · rfl

/-- After a block on several lines the next item joins its closing line. -/
theorem renderLines_list_around_block :
    (Fragment.list "," [.line "a", .concat [], .block "(" [.line "x"] ")" false (.ok false),
        .line "b"] .ifMultiLine (.ok false)).renderLines Format.standard =
      .ok ["a,", "(", "    x", "), b,"] := by
  have shows : isBlankText "," = false := by decide
  have items : nonempty ([.line "a", .concat [], .block "(" [.line "x"] ")" false (.ok false),
      .line "b"] : List Decided) =
        [.line "a", .block "(" [.line "x"] ")" false (.ok false), .line "b"] := rfl
  obtain ⟨_, lines⟩ := renderLines_list Format.standard .ifMultiLine false (by decide) shows
    items (by decide)
  exact lines.trans (congrArg Except.ok (by decide))

end Fragment

end CodeLayout
