import CodeLayout.Proofs.LastLine

/-!
# Fragments on a single line

Where every block and every list goes on a single line and no concatenation has two
fragments, a wish to connect reaches every text but the first. Such a fragment renders to
one line, and the line can be said without a buffer: it consists of the texts in the order
of the tree. A line, the start of a block and its closing line stand apart from the text
before them by one space, and a separator is glued to the text before it.

That separators are glued rightly rests on the number of lines. Texts that all connect
after the first add at most one line (`Word.growth_steps_le`), so no list ends with a
separator unless it always does.

Main statement: `Fragment.renderLines_collapsed`.
-/

set_option autoImplicit false

namespace CodeLayout

/-! ## Words on a line -/

/-- A text on a line, with the way it is put behind the text before it. -/
inductive Word where
  /-- Apart from the text before by one space. -/
  | apart (text : String)
  /-- Glued to the text before. -/
  | glued (text : String)
deriving DecidableEq, Repr

namespace Word

/-- Whether a word stands apart. -/
def isApart : Word → Bool
  | .apart _ => true
  | .glued _ => false

/-- What words put behind a text. -/
def spaced : List Word → String
  | [] => ""
  | .apart text :: rest => " " ++ text ++ spaced rest
  | .glued text :: rest => text ++ spaced rest

/-- The line of some words, if there is a text in it. What would be glued before the first
text is lost. -/
def line? : List Word → Option String
  | [] => none
  | .apart text :: rest => some (text ++ spaced rest)
  | .glued _ :: rest => line? rest

/-- The steps that write words at a depth. Every text connects, except that the first one may
not. -/
def steps (depth : Nat) : Bool → List Word → List Step
  | _, [] => []
  | connect, .apart text :: rest => .line text connect depth :: steps depth true rest
  | connect, .glued text :: rest => .glue text :: steps depth connect rest

theorem steps_append (depth : Nat) (first second : List Word) : ∀ connect : Bool,
    steps depth connect (first ++ second) =
      steps depth connect first ++ steps depth (connect || first.any isApart) second := by
  induction first with
  | nil => intro connect; simp [steps]
  | cons word rest ih =>
    intro connect
    cases word with
    | apart text => simp [steps, ih, isApart]
    | glued text => simp [steps, ih, isApart]

/-- The steps of words write a line exactly when a word stands apart. -/
theorem occupies_steps (depth : Nat) (words : List Word) : ∀ connect : Bool,
    Step.occupies (steps depth connect words) = words.any isApart := by
  induction words with
  | nil => intro connect; rfl
  | cons word rest ih =>
    intro connect
    cases word with
    | apart text => simp [steps, isApart]
    | glued text => simp [steps, isApart, ih]

/-- Words that all connect add no line. -/
theorem growth_steps_joined (depth : Nat) (words : List Word) :
    Step.growth true (steps depth true words) = 0 := by
  induction words with
  | nil => rfl
  | cons word rest ih =>
    cases word with
    | apart text => simp [steps, Step.growth, ih]
    | glued text => simpa [steps, Step.growth] using ih

/-- Words add at most one line. -/
theorem growth_steps_le (depth : Nat) (words : List Word) : ∀ connect occupied : Bool,
    Step.growth occupied (steps depth connect words) ≤ 1 := by
  induction words with
  | nil => intro connect occupied; exact Nat.zero_le 1
  | cons word rest ih =>
    intro connect occupied
    cases word with
    | apart text =>
      simp only [steps, Step.growth, growth_steps_joined]
      split <;> decide
    | glued text => exact ih connect occupied

/-- Onto a line that is not empty, words that all connect go behind it. -/
theorem applyAll_steps_joined (unit : IndentUnit) (words : List Word) : ∀ last : String,
    last ≠ "" →
      Edit.applyAll [last] ((steps 0 true words).map (Step.toEdit unit "")) =
        [last ++ spaced words] := by
  induction words with
  | nil => intro last _; simp [steps, spaced]
  | cons word rest ih =>
    intro last written
    cases word with
    | apart text =>
      -- The indent is empty here, so every line that is not empty takes a space.
      have joined : Edit.apply [last] (.line text true "") = [last ++ " " ++ text] := by
        have joins := Buffer.appendLine_joins [] last text ""
        rw [Buffer.joined, if_neg (by simpa using written)] at joins
        exact joins
      have longer : last ++ " " ++ text ≠ "" := by
        simp [written]
      simp only [steps, List.map_cons, Step.toEdit, IndentUnit.under, Edit.applyAll_cons, joined]
      rw [ih _ longer, spaced]
      simp only [String.append_assoc]
    | glued text =>
      have glued : Edit.apply [last] (.glue text) = [last ++ text] := rfl
      have longer : last ++ text ≠ "" := by
        simp [written]
      simp only [steps, List.map_cons, Step.toEdit, Edit.applyAll_cons, glued]
      rw [ih _ longer, spaced, String.append_assoc]

/-- In an empty buffer words make their line, if none of their texts is empty. -/
theorem applyAll_steps (unit : IndentUnit) (words : List Word) : ∀ connect : Bool,
    (∀ text, .apart text ∈ words → text ≠ "") →
      Edit.applyAll [] ((steps 0 connect words).map (Step.toEdit unit "")) =
        (line? words).toList := by
  induction words with
  | nil => intro connect _; rfl
  | cons word rest ih =>
    intro connect written
    cases word with
    | apart text =>
      simp only [steps, List.map_cons, Step.toEdit, IndentUnit.under]
      rw [Edit.applyAll_line_nil, String.empty_append,
        applyAll_steps_joined unit rest text (written text (List.mem_cons_self ..))]
      rfl
    | glued text =>
      exact ih connect fun next member => written next (List.mem_cons_of_mem _ member)

/-- Words with one that stands apart make a line. -/
theorem exists_line (words : List Word) (full : words.any isApart = true) :
    ∃ line, line? words = some line := by
  induction words with
  | nil => cases full
  | cons word rest ih =>
    cases word with
    | apart text => exact ⟨_, rfl⟩
    | glued text => exact ih full

end Word

namespace Fragment

/-! ## The words of a fragment -/

section Words

variable {δ : Type}

mutual

/-- The texts of a fragment in their order. A list has its separator once between each two of
its items that are not empty, and once more at its end when its rule asks for it in any
case. -/
def words : Fragment δ → List Word
  | .line text => [.apart text]
  | .block start body close _ _ => .apart start :: (bodyWords body ++ [.apart close])
  | .list separator body trailing _ =>
    [.glued separator].intercalate (itemWords body) ++
      if trailing = .always then [.glued separator] else []
  | .concat body => bodyWords body
  | .foreign _ => []

/-- The texts of the fragments of a body, one after another. -/
def bodyWords : List (Fragment δ) → List Word
  | [] => []
  | first :: rest => words first ++ bodyWords rest

/-- The texts of each item of a list that is not empty. -/
def itemWords : List (Fragment δ) → List (List Word)
  | [] => []
  | item :: rest => if item.isEmpty then itemWords rest else words item :: itemWords rest

end

end Words

mutual

/-- Whether every block and every list goes on a single line, no concatenation has two
fragments and no text of a line or of a block is empty. -/
def collapsed : Decided → Bool
  | .line text => text != ""
  | .block start body close _ inlining =>
    inlining.holds && start != "" && close != "" && allCollapsed body
  | .list _ body _ inlining => inlining.holds && allCollapsed body
  | .concat body => body.length ≤ 1 && allCollapsed body
  | .foreign _ => false

/-- Whether this holds of every fragment of a body. -/
def allCollapsed : List Decided → Bool
  | [] => true
  | first :: rest => collapsed first && allCollapsed rest

end

end Fragment

/-- A decision that holds was made. -/
theorem Decision.eq_ok_of_holds {decision : Decision} (holds : decision.holds = true) :
    decision = .ok true := by
  cases decision with
  | ok answer => rw [← holds, Decision.holds_ok]
  | error error => cases holds

namespace Fragment

mutual

theorem regular_of_collapsed : ∀ fragment : Decided, fragment.collapsed = true →
    fragment.regular = true
  | .line _, _ => rfl
  | .block _ body _ _ inlining, single => by
    simp only [collapsed, Bool.and_eq_true] at single
    rw [regular, Decision.eq_ok_of_holds single.1.1.1, allRegular_of_allCollapsed body single.2]
    rfl
  | .list _ body _ inlining, single => by
    simp only [collapsed, Bool.and_eq_true] at single
    rw [regular, Decision.eq_ok_of_holds single.1, allRegular_of_allCollapsed body single.2]
    rfl
  | .concat body, single => by
    simp only [collapsed, Bool.and_eq_true] at single
    exact allRegular_of_allCollapsed body single.2
  | .foreign _, single => by cases single

theorem allRegular_of_allCollapsed : ∀ body : List Decided, allCollapsed body = true →
    allRegular body = true
  | [], _ => rfl
  | first :: rest, single => by
    simp only [allCollapsed, Bool.and_eq_true] at single
    rw [allRegular, regular_of_collapsed first single.1, allRegular_of_allCollapsed rest single.2]
    rfl

end

/-! ## The script of a fragment on a single line -/

/-- Where its script writes its words, a fragment has a word that stands apart exactly when it
is not empty. -/
theorem any_isApart_of_steps {fragment : Decided} {connect occupied joins : Bool} {depth : Nat}
    (made : fragment.regular = true)
    (own : fragment.script connect depth occupied = Word.steps depth joins fragment.words) :
    fragment.words.any Word.isApart = !fragment.isEmpty := by
  rw [← Word.occupies_steps depth fragment.words joins, ← own,
    occupies_script fragment connect depth occupied made]

/-- The words of items that stand behind another one. -/
theorem intercalate_words (separator : Word) (first : List Word) (others : List (List Word)) :
    [separator].intercalate (first :: others) =
      first ++ others.flatMap fun item => separator :: item := by
  induction others generalizing first with
  | nil => simp
  | cons next rest ih =>
    rw [List.intercalate_cons_cons, ih, List.flatMap_cons]
    simp

mutual

/-- **The script of a fragment on a single line writes its words.** -/
theorem script_of_collapsed : ∀ (fragment : Decided) (connect : Bool) (depth : Nat)
    (occupied : Bool), fragment.collapsed = true →
      ∃ joins : Bool, (connect = true → joins = true) ∧
        fragment.script connect depth occupied = Word.steps depth joins fragment.words
  | .line text, connect, depth, occupied, _ => ⟨connect, id, rfl⟩
  | .block start body close connects inlining, connect, depth, occupied, single => by
    simp only [collapsed, Bool.and_eq_true] at single
    obtain ⟨⟨⟨inline, -⟩, -⟩, bodies⟩ := single
    refine ⟨connects || connect, fun wish => by rw [wish, Bool.or_true], ?_⟩
    rw [script, inline, if_pos rfl, scriptAll_of_collapsed body depth bodies, words, Word.steps,
      Word.steps_append, Bool.true_or]
    rfl
  | .list separator body trailing inlining, connect, depth, occupied, single => by
    simp only [collapsed, Bool.and_eq_true] at single
    obtain ⟨joins, wish, items⟩ :=
      scriptItems_of_collapsed separator body connect depth occupied single.2
    -- The items add at most one line, so only a rule for any case asks for a last separator.
    have grown := growth_scriptItems separator true body (.first connect) depth occupied
      (allRegular_of_allCollapsed body single.2)
    have few := Word.growth_steps_le depth ([.glued separator].intercalate (itemWords body)) joins
      occupied
    have short : decide (1 < growthItems true body (.first connect) occupied) = false := by
      rw [← grown, items]
      exact decide_eq_false (Nat.not_lt.mpr few)
    refine ⟨joins, wish, ?_⟩
    rw [script, single.1, items, short, words, Word.steps_append]
    cases trailing <;> rfl
  | .concat [], connect, depth, occupied, _ => ⟨connect, id, rfl⟩
  | .concat [only], connect, depth, occupied, single => by
    simp only [collapsed, allCollapsed, Bool.and_eq_true] at single
    obtain ⟨joins, wish, own⟩ := script_of_collapsed only connect depth occupied single.2.1
    refine ⟨joins, wish, ?_⟩
    rw [script, scriptSequence, own, words, bodyWords, scriptSequence, bodyWords,
      List.append_nil, List.append_nil]
  | .concat (_ :: _ :: _), connect, depth, occupied, single => by simp [collapsed] at single
  | .foreign _, connect, depth, occupied, single => by cases single

theorem scriptAll_of_collapsed : ∀ (body : List Decided) (depth : Nat),
    allCollapsed body = true →
      scriptAll body true depth = Word.steps depth true (bodyWords body)
  | [], depth, _ => rfl
  | first :: rest, depth, single => by
    simp only [allCollapsed, Bool.and_eq_true] at single
    obtain ⟨joins, wish, own⟩ := script_of_collapsed first true depth true single.1
    rw [wish rfl] at own
    rw [scriptAll, own, scriptAll_of_collapsed rest depth single.2, bodyWords,
      Word.steps_append, Bool.true_or]

/-- The items of a list before which nothing was written. -/
theorem scriptItems_of_collapsed (separator : String) : ∀ (body : List Decided)
    (connect : Bool) (depth : Nat) (occupied : Bool), allCollapsed body = true →
      ∃ joins : Bool, (connect = true → joins = true) ∧
        scriptItems separator true body (.first connect) depth occupied =
          Word.steps depth joins ([.glued separator].intercalate (itemWords body))
  | [], connect, depth, occupied, _ => ⟨connect, id, rfl⟩
  | item :: rest, connect, depth, occupied, single => by
    simp only [allCollapsed, Bool.and_eq_true] at single
    cases empty : item.isEmpty with
    | true =>
      simp only [scriptItems, itemWords, empty, if_true]
      exact scriptItems_of_collapsed separator rest connect depth occupied single.2
    | false =>
      obtain ⟨joins, wish, own⟩ := script_of_collapsed item connect depth occupied single.1
      -- The item has a text of its own, and everything behind this text connects.
      have writes := any_isApart_of_steps (regular_of_collapsed item single.1) own
      rw [empty, Bool.not_false] at writes
      refine ⟨joins, wish, ?_⟩
      rw [scriptItems_cons _ _ _ _ _ _ empty, itemWords, empty, if_neg Bool.false_ne_true,
        intercalate_words, Word.steps_append, writes, Bool.or_true, ItemPlace.opening,
        List.nil_append, ItemPlace.joins, own,
        scriptItems_after_of_collapsed separator rest _ depth single.2]

/-- The items of a list behind another item. -/
theorem scriptItems_after_of_collapsed (separator : String) : ∀ (body : List Decided)
    (tall : Bool) (depth : Nat), allCollapsed body = true →
      scriptItems separator true body (.after tall) depth true =
        Word.steps depth true ((itemWords body).flatMap fun item => .glued separator :: item)
  | [], tall, depth, _ => rfl
  | item :: rest, tall, depth, single => by
    simp only [allCollapsed, Bool.and_eq_true] at single
    cases empty : item.isEmpty with
    | true =>
      simp only [scriptItems, itemWords, empty, if_true]
      exact scriptItems_after_of_collapsed separator rest tall depth single.2
    | false =>
      obtain ⟨joins, wish, own⟩ := script_of_collapsed item true depth true single.1
      rw [wish rfl] at own
      rw [scriptItems_cons _ _ _ _ _ _ empty, itemWords, empty, if_neg Bool.false_ne_true,
        List.flatMap_cons, List.cons_append, Word.steps, Word.steps_append, Bool.true_or,
        ItemPlace.opening, List.singleton_append, ItemPlace.joins, Bool.true_or, own,
        scriptItems_after_of_collapsed separator rest _ depth single.2]

end

/-! ## The line of a fragment -/

/-- A word that stands apart in items with separators between them is a word of an item. -/
theorem exists_item_of_apart {separator text : String} {items : List (List Word)}
    (member : .apart text ∈ [.glued separator].intercalate items) :
    ∃ item ∈ items, .apart text ∈ item := by
  cases items with
  | nil => simp at member
  | cons first others =>
    rw [intercalate_words, List.mem_append, List.mem_flatMap] at member
    rcases member with own | ⟨item, later, own⟩
    · exact ⟨first, List.mem_cons_self .., own⟩
    · rw [List.mem_cons] at own
      rcases own with same | own
      · cases same
      · exact ⟨item, List.mem_cons_of_mem _ later, own⟩

mutual

/-- No text of a fragment on a single line is empty. -/
theorem written_of_collapsed : ∀ (fragment : Decided) {text : String},
    fragment.collapsed = true → .apart text ∈ fragment.words → text ≠ ""
  | .line own, text, single, member => by
    simp only [words, List.mem_singleton, Word.apart.injEq] at member
    rw [member]
    simpa [collapsed] using single
  | .block start body close connects inlining, text, single, member => by
    simp only [collapsed, Bool.and_eq_true, bne_iff_ne, ne_eq] at single
    obtain ⟨⟨⟨-, starts⟩, closes⟩, bodies⟩ := single
    simp only [words, List.mem_cons, List.mem_append, List.not_mem_nil, or_false,
      Word.apart.injEq] at member
    rcases member with rfl | inside | rfl
    · exact starts
    · exact written_of_allCollapsed body bodies inside
    · exact closes
  | .list separator body trailing inlining, text, single, member => by
    simp only [collapsed, Bool.and_eq_true] at single
    rw [words, List.mem_append] at member
    rcases member with inside | last
    · obtain ⟨item, among, own⟩ := exists_item_of_apart inside
      exact written_of_itemWords body single.2 among own
    · split at last <;> simp at last
  | .concat body, text, single, member => by
    simp only [collapsed, Bool.and_eq_true] at single
    exact written_of_allCollapsed body single.2 member
  | .foreign _, _, single, _ => by cases single

theorem written_of_allCollapsed : ∀ (body : List Decided) {text : String},
    allCollapsed body = true → .apart text ∈ bodyWords body → text ≠ ""
  | [], _, _, member => by simp [bodyWords] at member
  | first :: rest, text, single, member => by
    simp only [allCollapsed, Bool.and_eq_true] at single
    rw [bodyWords, List.mem_append] at member
    rcases member with own | later
    · exact written_of_collapsed first single.1 own
    · exact written_of_allCollapsed rest single.2 later

theorem written_of_itemWords : ∀ (body : List Decided) {text : String} {item : List Word},
    allCollapsed body = true → item ∈ itemWords body → .apart text ∈ item → text ≠ ""
  | [], _, _, _, among, _ => by simp [itemWords] at among
  | first :: rest, text, item, single, among, own => by
    simp only [allCollapsed, Bool.and_eq_true] at single
    rw [itemWords] at among
    split at among
    · exact written_of_itemWords rest single.2 among own
    · rcases List.mem_cons.mp among with rfl | later
      · exact written_of_collapsed first single.1 own
      · exact written_of_itemWords rest single.2 later own

end

/-- **A fragment on a single line is one line, and its words are put together exactly.** Let every
block and every list go on a single line, no concatenation have two fragments and no text of a
line or of a block be empty. If the fragment is not empty, its words make a line, and it renders
to this line under every format. -/
theorem renderLines_collapsed (format : Format) {fragment : Decided}
    (single : fragment.collapsed = true) (full : fragment.isEmpty = false) :
    ∃ line : String, Word.line? fragment.words = some line ∧
      fragment.renderLines format = .ok [line] := by
  have made := regular_of_collapsed fragment single
  obtain ⟨joins, -, written⟩ := script_of_collapsed fragment false 0 false single
  have writes := any_isApart_of_steps made written
  rw [full, Bool.not_false] at writes
  obtain ⟨line, reads⟩ := Word.exists_line fragment.words writes
  refine ⟨line, reads, renderLines_eq_ok.mpr ?_⟩
  rw [renderInto_of_regular format fragment [] false "" made]
  refine congrArg (·, none) ?_
  have lines := Word.applyAll_steps format.unit fragment.words joins fun text =>
    written_of_collapsed fragment single
  rw [reads] at lines
  exact (congrArg (fun steps => Edit.applyAll [] (steps.map (Step.toEdit format.unit "")))
    written).trans lines

/-- A call with a list whose rule asks for a last separator, around one without items. -/
theorem renderLines_collapsed_call :
    let call : Decided := .block "f(" [.list "," [.line "a", .concat [], .block "g("
      [.concat [.list ";" [] .always (.ok true)]] ")" true (.ok true)] .always (.ok true)] ")" false
      (.ok true)
    call.collapsed = true ∧ call.isEmpty = false ∧
      call.renderLines Format.tabs = .ok ["f( a, g(; ), )"] := by
  intro call
  have single : call.collapsed = true := by decide
  have full : call.isEmpty = false := rfl
  obtain ⟨line, reads, rendered⟩ := renderLines_collapsed Format.tabs single full
  have own : Word.line? call.words = some "f( a, g(; ), )" := by decide
  rw [own, Option.some.injEq] at reads
  exact ⟨single, full, by rw [rendered, reads]⟩

end Fragment

end CodeLayout
