import CodeLayout.Proofs.Script

/-!
# More inlining never takes more lines

Where a fragment connects to a line in the buffer, it adds at most one line less
than where it does not, and never a line more (`Fragment.growth_withinOne`). The
two ways of writing the first item of a list may disagree about the next item:
an item that took several lines lets the next one join, and one line less can
mean that it did not take several. The disagreement changes sides with every
item and never adds up to two lines.

The same holds for two fragments that differ in their decisions only, where the
second goes on a single line wherever the first does. At an item of a list the
second fragment may have a line to make up for, and only when the item before it
took several lines in the first fragment and did not in the second. By then the
second has saved that line.

Main statements: `Fragment.length_renderInto_connect` says that a fragment that
connects to a line saves a line or none, and `Fragment.length_renderInto_le` that
the second of two such fragments adds no more lines than the first.
-/

set_option autoImplicit false

namespace CodeLayout

/-- One number is less than another by one, or equal to it. -/
def WithinOne (fewer more : Nat) : Prop := fewer ≤ more ∧ more ≤ fewer + 1

theorem WithinOne.refl (lines : Nat) : WithinOne lines lines :=
  ⟨Nat.le_refl lines, Nat.le_succ lines⟩

theorem WithinOne.add_right {fewer more : Nat} (within : WithinOne fewer more) (lines : Nat) :
    WithinOne (fewer + lines) (more + lines) := by
  obtain ⟨less, close⟩ := within
  exact ⟨by omega, by omega⟩

/-- An item that joins saves at most a line. When it thereby stops taking several
lines, the rest gives up its saving. -/
theorem WithinOne.item {joined fresh : Nat} (item : WithinOne joined fresh) (rest : Bool → Nat)
    (rests : WithinOne (rest true) (rest false)) :
    WithinOne (joined + rest (1 < joined)) (fresh + rest (1 < fresh)) := by
  obtain ⟨less, close⟩ := item
  obtain ⟨restLess, restClose⟩ := rests
  by_cases same : joined = fresh
  · rw [same]
    exact WithinOne.refl _
  · have step : fresh = joined + 1 := by omega
    subst step
    by_cases tall : 1 < joined
    · have taller : 1 < joined + 1 := by omega
      simp only [tall, taller, decide_true]
      exact ⟨by omega, by omega⟩
    · simp only [tall, decide_false]
      by_cases taller : 1 < joined + 1
      · simp only [taller, decide_true]
        exact ⟨by omega, by omega⟩
      · simp only [taller, decide_false]
        exact ⟨by omega, by omega⟩

namespace Fragment

/-! ## Connecting saves at most one line -/

mutual

/-- **Connecting saves at most one line and never costs one.** -/
theorem growth_withinOne : ∀ fragment : Decided,
    WithinOne (fragment.growth true true) (fragment.growth false true)
  | .line text => ⟨Nat.zero_le 1, Nat.le_refl 1⟩
  | .block start body close connects inlining => by
    simp only [growth, Bool.or_true, Bool.or_false, Bool.and_true, if_true]
    refine WithinOne.add_right (WithinOne.add_right ?_ _) _
    cases connects with
    | true => exact WithinOne.refl 0
    | false => exact ⟨Nat.zero_le 1, Nat.le_refl 1⟩
  | .list separator body trailing inlining =>
    growthItems_first_withinOne inlining.holds body
  | .concat body => growthSequence_withinOne body
  | .foreign kind => WithinOne.refl 0

theorem growthSequence_withinOne : ∀ body : List Decided,
    WithinOne (growthSequence body true true) (growthSequence body false true)
  | [] => WithinOne.refl 0
  | first :: rest => by
    simp only [growthSequence]
    exact (growth_withinOne first).add_right _

/-- A list that connects. -/
theorem growthItems_first_withinOne (inlining : Bool) : ∀ body : List Decided,
    WithinOne (growthItems inlining body (.first true) true)
      (growthItems inlining body (.first false) true)
  | [] => WithinOne.refl 0
  | item :: rest => by
    cases empty : item.isEmpty with
    | true =>
      simp only [growthItems, empty, if_true]
      exact growthItems_first_withinOne inlining rest
    | false =>
      rw [growthItems_cons inlining rest _ _ empty, growthItems_cons inlining rest _ _ empty]
      exact (growth_withinOne item).item
        (fun tall => growthItems inlining rest (.after tall) true)
        (growthItems_after_withinOne inlining rest)

/-- The items of a list after one that took several lines, compared with the same
items after one that did not. -/
theorem growthItems_after_withinOne (inlining : Bool) : ∀ body : List Decided,
    WithinOne (growthItems inlining body (.after true) true)
      (growthItems inlining body (.after false) true)
  | [] => WithinOne.refl 0
  | item :: rest => by
    cases empty : item.isEmpty with
    | true =>
      simp only [growthItems, empty, if_true]
      exact growthItems_after_withinOne inlining rest
    | false =>
      rw [growthItems_cons inlining rest _ _ empty, growthItems_cons inlining rest _ _ empty]
      simp only [ItemPlace.joins, Bool.true_and, Bool.false_and, Bool.or_false]
      cases inlining with
      | true => exact WithinOne.refl _
      | false =>
        cases inline : item.isInlineBlock with
        | true => exact WithinOne.refl _
        | false =>
          exact (growth_withinOne item).item
            (fun tall => growthItems false rest (.after tall) true)
            (growthItems_after_withinOne false rest)

end

/-- **A wish to connect saves at most one line and never costs one.** Below a line, a regular
fragment is written with the wish and without it, and with the wish it adds as many lines as
without it or one line less. -/
theorem length_renderInto_connect (format : Format) (fragment : Decided) (buffer : Buffer)
    (indent : String) (made : fragment.regular = true) (occupied : buffer ≠ []) :
    ∃ joined fresh : Buffer,
      fragment.renderInto format buffer true indent = (joined, none) ∧
        fragment.renderInto format buffer false indent = (fresh, none) ∧
        ∃ fewer more : Nat, joined.length = buffer.length + fewer ∧
          fresh.length = buffer.length + more ∧ fewer ≤ more ∧ more ≤ fewer + 1 := by
  have below : (buffer.length != 0) = true := by
    simpa using occupied
  have done : ∀ connect : Bool, (fragment.renderInto format buffer connect indent).2 = none := by
    intro connect
    rw [renderInto_of_regular format fragment buffer connect indent made]
  have grown : ∀ connect : Bool,
      (fragment.renderInto format buffer connect indent).1.length =
        buffer.length + fragment.growth connect true := by
    intro connect
    rw [length_renderInto format fragment buffer connect indent made, below]
  obtain ⟨less, close⟩ := growth_withinOne fragment
  exact ⟨_, _, Prod.ext rfl (done true), Prod.ext rfl (done false), _, _, grown true, grown false,
    less, close⟩

/-- Three blocks without children in a list, below a line. A block that joins takes one line and
makes the next one start afresh, and a block that starts afresh takes two and lets the next
one join. -/
theorem length_renderInto_connect_blocks :
    let block : Decided := .block "(" [] ")" false (.ok false)
    let items : Decided := .list "," [block, block, block] .never (.ok false)
    items.regular = true ∧ ["x ="] ≠ ([] : Buffer) ∧
      ∃ joined fresh : Buffer,
        items.renderInto Format.standard ["x ="] true "" = (joined, none) ∧
          items.renderInto Format.standard ["x ="] false "" = (fresh, none) ∧
          joined = ["x = (", "),", "(", "), (", ")"] ∧
          fresh = ["x =", "(", "), (", "),", "(", ")"] ∧
          fresh.length ≤ joined.length + 1 := by
  intro block items
  have made : items.regular = true := by decide
  have occupied : ["x ="] ≠ ([] : Buffer) := by decide
  obtain ⟨joined, fresh, joins, starts, fewer, more, fewerLines, moreLines, -, close⟩ :=
    length_renderInto_connect Format.standard items ["x ="] "" made occupied
  have joinedText : items.renderInto Format.standard ["x ="] true "" =
      (["x = (", "),", "(", "), (", ")"], none) := by decide
  have freshText : items.renderInto Format.standard ["x ="] false "" =
      (["x =", "(", "), (", "),", "(", ")"], none) := by decide
  refine ⟨made, occupied, joined, fresh, joins, starts, ?_, ?_, ?_⟩
  · exact (Prod.mk.inj (joins.symm.trans joinedText)).1
  · exact (Prod.mk.inj (starts.symm.trans freshText)).1
  · omega

/-! ## Fragments that differ in their decisions -/

mutual

/-- Two fragments of the four kinds differ in their decisions only, and the second
goes on a single line wherever the first does. -/
inductive InlinesMore : Decided → Decided → Prop where
  | line (text : String) : InlinesMore (.line text) (.line text)
  | block (start close : String) (connect : Bool) {body body' : List Decided}
      {inline inline' : Bool} (bodies : AllInlineMore body body')
      (more : inline = true → inline' = true) :
      InlinesMore (.block start body close connect (.ok inline))
        (.block start body' close connect (.ok inline'))
  | list (separator : String) (trailing : Trailing) {body body' : List Decided}
      {inline inline' : Bool} (bodies : AllInlineMore body body')
      (more : inline = true → inline' = true) :
      InlinesMore (.list separator body trailing (.ok inline))
        (.list separator body' trailing (.ok inline'))
  | concat {body body' : List Decided} (bodies : AllInlineMore body body') :
      InlinesMore (.concat body) (.concat body')

/-- The same for two bodies, child by child. -/
inductive AllInlineMore : List Decided → List Decided → Prop where
  | nil : AllInlineMore [] []
  | cons {first first' : Decided} {rest rest' : List Decided}
      (heads : InlinesMore first first') (tails : AllInlineMore rest rest') :
      AllInlineMore (first :: rest) (first' :: rest')

end

mutual

/-- Both fragments are regular, and the one is empty where the other is. -/
theorem InlinesMore.regular : ∀ {fragment fragment' : Decided}, InlinesMore fragment fragment' →
    fragment.regular = true ∧ fragment'.regular = true ∧ fragment'.isEmpty = fragment.isEmpty
  | .line _, _, .line _ => ⟨rfl, rfl, rfl⟩
  | .block _ _ _ _ _, _, .block _ _ _ bodies _ => by
    obtain ⟨left, right, _⟩ := AllInlineMore.regular bodies
    exact ⟨left, right, rfl⟩
  | .list _ _ _ _, _, .list _ _ bodies _ => AllInlineMore.regular bodies
  | .concat _, _, .concat bodies => AllInlineMore.regular bodies

theorem AllInlineMore.regular : ∀ {body body' : List Decided}, AllInlineMore body body' →
    allRegular body = true ∧ allRegular body' = true ∧ allEmpty body' = allEmpty body
  | [], _, .nil => ⟨rfl, rfl, rfl⟩
  | _ :: _, _, .cons heads tails => by
    obtain ⟨left, right, empty⟩ := InlinesMore.regular heads
    obtain ⟨lefts, rights, empties⟩ := AllInlineMore.regular tails
    simp only [allRegular, allEmpty, left, right, empty, lefts, rights, empties]
    exact ⟨rfl, rfl, trivial⟩

end

/-! ## More inlining takes no more lines -/

/-- The line that the second fragment may have to make up for, when an item took
several lines in the first fragment and did not in the second. -/
def owed (tall tall' : Bool) : Nat := if tall && !tall' then 1 else 0

/-- A fragment that joins takes no more lines than one that may join or not. -/
theorem growth_joined_le (fragment : Decided) (connect : Bool) :
    fragment.growth true true ≤ fragment.growth connect true := by
  cases connect with
  | true => exact Nat.le_refl _
  | false => exact (growth_withinOne fragment).1

/-- When an item takes fewer lines, the items after it have at most the line to make
up for that it saved. -/
theorem add_owed_le {lines lines' before : Nat} (less : lines' ≤ lines + before) :
    lines' + owed (1 < lines) (1 < lines') ≤ lines + before := by
  unfold owed
  split
  · next several =>
    simp only [Bool.and_eq_true, Bool.not_eq_true', decide_eq_true_eq,
      decide_eq_false_iff_not] at several
    omega
  · exact less

/-- When the second fragment joins wherever the first does, it takes no more
lines. -/
theorem growth_le_of_connect {fragment fragment' : Decided}
    (less : ∀ connect, fragment'.growth connect true ≤ fragment.growth connect true)
    {connect connect' : Bool} (joins : connect = true → connect' = true) :
    fragment'.growth connect' true ≤ fragment.growth connect true := by
  cases connect' with
  | true => exact Nat.le_trans (less true) (growth_joined_le fragment connect)
  | false =>
    cases connect with
    | true => cases joins rfl
    | false => exact less false

/-- The second fragment's item takes no more lines than the first fragment's, up to
the line to make up for. It may be the only one that starts on a line of its own:
because the item before it was short, or because it is a block on a single line. -/
theorem joining_le {item item' : Decided}
    (less : ∀ connect, item'.growth connect true ≤ item.growth connect true)
    (collapsed : item.isInlineBlock = false → item'.isInlineBlock = true →
      item'.growth false true ≤ item.growth true true)
    {inlining inlining' : Bool} (more : inlining = true → inlining' = true) (tall tall' : Bool) :
    item'.growth ((ItemPlace.after tall').joins inlining' item') true ≤
      item.growth ((ItemPlace.after tall).joins inlining item) true + owed tall tall' := by
  have joins : ∀ connect connect' : Bool, (connect = true → connect' = true) →
      item'.growth connect' true ≤ item.growth connect true :=
    fun _ _ => growth_le_of_connect less
  cases inlining' with
  | true => exact Nat.le_trans (joins _ _ fun _ => rfl) (Nat.le_add_right _ _)
  | false =>
    cases inlining with
    | true => cases more rfl
    | false =>
      simp only [ItemPlace.joins, Bool.false_or]
      cases tall with
      | false => exact Nat.le_trans (joins _ _ (by simp)) (Nat.le_add_right _ _)
      | true =>
        cases tall' with
        | false =>
          have fresh := Nat.le_trans (less false) (growth_withinOne item).2
          simp only [Bool.true_and, Bool.false_and, owed, Bool.not_false, if_true]
          refine Nat.le_trans fresh (Nat.add_le_add_right ?_ 1)
          exact growth_joined_le item _
        | true =>
          simp only [Bool.true_and, owed, Bool.not_true, Bool.false_eq_true, if_false,
            Nat.add_zero]
          cases inline : item.isInlineBlock with
          | true => exact joins _ _ (by simp)
          | false =>
            cases inline' : item'.isInlineBlock with
            | true => exact collapsed inline inline'
            | false => exact less true

/-- A block closes on a line of its own in the second fragment only where it does in
the first. -/
theorem closing_le {inline inline' : Bool} (more : inline = true → inline' = true) :
    (if inline' then 0 else 1) ≤ (if inline then 0 else 1) := by
  cases inline with
  | true => exact Nat.le_of_eq (by rw [more rfl])
  | false => cases inline' <;> decide

mutual

/-- **Putting more on a single line takes no more lines.** -/
theorem growth_le_of_inlinesMore : ∀ {fragment fragment' : Decided},
    InlinesMore fragment fragment' → ∀ connect occupied : Bool,
      fragment'.growth connect occupied ≤ fragment.growth connect occupied
  | .line _, _, .line text, connect, occupied => Nat.le_refl _
  | .block _ _ _ _ _, _, .block start close connects bodies more, connect, occupied => by
    simp only [growth, Decision.holds_ok]
    exact Nat.add_le_add (Nat.add_le_add_left (growthAll_le bodies more) _) (closing_le more)
  | .list _ _ _ _, _, .list separator trailing bodies more, connect, occupied =>
    growthItems_first_le bodies more connect occupied
  | .concat _, _, .concat bodies, connect, occupied =>
    growthSequence_le bodies connect occupied

theorem growthAll_le : ∀ {body body' : List Decided}, AllInlineMore body body' →
    ∀ {connect connect' : Bool}, (connect = true → connect' = true) →
      growthAll body' connect' ≤ growthAll body connect
  | [], _, .nil, _, _, _ => Nat.le_refl 0
  | _ :: _, _, .cons heads tails, connect, connect', joins => by
    have less := fun connect => growth_le_of_inlinesMore heads connect true
    exact Nat.add_le_add (growth_le_of_connect less joins) (growthAll_le tails joins)

theorem growthSequence_le : ∀ {body body' : List Decided}, AllInlineMore body body' →
    ∀ connect occupied : Bool,
      growthSequence body' connect occupied ≤ growthSequence body connect occupied
  | [], _, .nil, _, _ => Nat.le_refl 0
  | _ :: _, _, .cons heads tails, connect, occupied => by
    obtain ⟨_, _, empty⟩ := heads.regular
    simp only [growthSequence, empty]
    exact Nat.add_le_add (growth_le_of_inlinesMore heads connect occupied)
      (growthSequence_le tails false _)

/-- A block that goes on a single line in the second fragment only. Its closing
line makes up for a start on a line of its own. -/
theorem growth_le_of_collapsed : ∀ {item item' : Decided}, InlinesMore item item' →
    item.isInlineBlock = false → item'.isInlineBlock = true →
      item'.growth false true ≤ item.growth true true
  | .line _, _, .line text, _, inline' => by cases inline'
  | .block _ _ _ _ _, _, .block start close connects bodies more, inline, inline' => by
    simp only [isInlineBlock, Decision.holds_ok] at inline inline'
    subst inline inline'
    have children : growthAll _ true ≤ growthAll _ false := growthAll_le bodies (fun _ => rfl)
    simp only [growth, Decision.holds_ok, Bool.or_true, Bool.and_true, if_true,
      Bool.false_eq_true, if_false]
    cases connects with
    | true =>
      simp only [Bool.true_or, if_true]
      omega
    | false =>
      simp only [Bool.or_false, Bool.false_eq_true, if_false]
      omega
  | .list _ _ _ _, _, .list separator trailing bodies more, _, inline' => by cases inline'
  | .concat _, _, .concat bodies, _, inline' => by cases inline'

theorem growthItems_first_le : ∀ {body body' : List Decided}, AllInlineMore body body' →
    ∀ {inlining inlining' : Bool}, (inlining = true → inlining' = true) →
      ∀ connect occupied : Bool,
        growthItems inlining' body' (.first connect) occupied ≤
          growthItems inlining body (.first connect) occupied
  | [], _, .nil, _, _, _, _, _ => Nat.le_refl 0
  | item :: rest, item' :: rest', .cons heads tails, inlining, inlining', more, connect,
      occupied => by
    obtain ⟨_, _, same⟩ := heads.regular
    cases empty : item.isEmpty with
    | true =>
      simp only [growthItems, same, empty, if_true]
      exact growthItems_first_le tails more connect occupied
    | false =>
      have own : item'.growth ((ItemPlace.first connect).joins inlining' item') occupied ≤
          item.growth ((ItemPlace.first connect).joins inlining item) occupied + 0 :=
        growth_le_of_inlinesMore heads connect occupied
      have owing := add_owed_le own
      have others := growthItems_after_le tails more
        (1 < item.growth ((ItemPlace.first connect).joins inlining item) occupied)
        (1 < item'.growth ((ItemPlace.first connect).joins inlining' item') occupied)
      rw [growthItems_cons _ _ _ _ empty, growthItems_cons _ _ _ _ (same.trans empty)]
      omega

/-- The items after one that took several lines or did not, in the first and in the
second fragment. -/
theorem growthItems_after_le : ∀ {body body' : List Decided}, AllInlineMore body body' →
    ∀ {inlining inlining' : Bool}, (inlining = true → inlining' = true) →
      ∀ tall tall' : Bool,
        growthItems inlining' body' (.after tall') true ≤
          growthItems inlining body (.after tall) true + owed tall tall'
  | [], _, .nil, _, _, _, _, _ => Nat.zero_le _
  | item :: rest, item' :: rest', .cons heads tails, inlining, inlining', more, tall, tall' => by
    obtain ⟨_, _, same⟩ := heads.regular
    cases empty : item.isEmpty with
    | true =>
      simp only [growthItems, same, empty, if_true]
      exact growthItems_after_le tails more tall tall'
    | false =>
      have less := fun connect => growth_le_of_inlinesMore heads connect true
      have own := joining_le less (growth_le_of_collapsed heads) more tall tall'
      have owing := add_owed_le own
      rw [growthItems_cons _ _ _ _ empty, growthItems_cons _ _ _ _ (same.trans empty)]
      have others := growthItems_after_le tails more
        (1 < item.growth ((ItemPlace.after tall).joins inlining item) true)
        (1 < item'.growth ((ItemPlace.after tall').joins inlining' item') true)
      omega

end

/-- **Inlining more never yields more lines.** Of two fragments that differ in their
decisions only, the one that goes on a single line wherever the other does adds
at most as many lines to a buffer. -/
theorem length_renderInto_le {fragment fragment' : Decided}
    (more : InlinesMore fragment fragment') (format : Format) (buffer : Buffer) (connect : Bool)
    (indent : String) :
    (fragment'.renderInto format buffer connect indent).1.length ≤
      (fragment.renderInto format buffer connect indent).1.length := by
  obtain ⟨regular, regular', _⟩ := more.regular
  rw [length_renderInto format fragment' buffer connect indent regular',
    length_renderInto format fragment buffer connect indent regular]
  exact Nat.add_le_add_left (growth_le_of_inlinesMore more connect _) _

/-- A block that goes on a single line gives up the line that the next item joined,
and saves two others. -/
theorem length_renderInto_le_block :
    ((Fragment.list "," [.block "(" [.line "x"] ")" false (.ok true), .line "b"] .never
        (.ok false)).renderInto Format.standard [] false "").1.length ≤
      ((Fragment.list "," [.block "(" [.line "x"] ")" false (.ok false), .line "b"] .never
        (.ok false)).renderInto Format.standard [] false "").1.length := by
  have block : InlinesMore (.block "(" [.line "x"] ")" false (.ok false))
      (.block "(" [.line "x"] ")" false (.ok true)) :=
    .block "(" ")" false (.cons (.line "x") .nil) (fun _ => rfl)
  exact length_renderInto_le
    (.list "," .never (.cons block (.cons (.line "b") .nil)) id) Format.standard [] false ""

end Fragment

end CodeLayout
