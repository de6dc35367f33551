import CodeLayout.Proofs.FormatLayers
import CodeLayout.Proofs.NodeOfTree
import CodeLayout.Proofs.Placeholder

/-!
# Filling in placeholders

A pattern is filled in by putting the values of its names between its plain texts. The values
are texts, and they are put in as they are: what looks like a template in a value is not read
again, and nothing is escaped or taken away. If a name has no value, the first of these names
is missing, and the error says so at the path of the text.

The variables are those of a document. Before a template is run they become objects, and this
notes where collections are but changes none (`Template.Yields`). So a pattern leaves its
variables as they are.

Main statement: `Node.fillText_pattern`.
-/

set_option autoImplicit false

namespace CodeLayout

/-! ## Values that can be followed -/

mutual

/-- A value can be followed down to its collections: it does not lie deeper in a knot than
anything can be followed, and the items of a tuple do not either. -/
def Value.IsFollowed : Value → Prop
  | .tuple items => Value.AllFollowed items
  | .knot _ inner => (inner ()).IsFollowed
  | .endless => False
  | _ => True

/-- Several values can be followed. -/
def Value.AllFollowed : List Value → Prop
  | [] => True
  | first :: rest => first.IsFollowed ∧ Value.AllFollowed rest

end

/-- The text that a variable has. Without one it is empty. -/
def Options.textOf (vars : Options) (name : String) : String :=
  ((vars.lookup name).bind Value.text?).getD ""

namespace Template

/-! ## Steps that change no collection -/

/-- With every store a step has a result for which something holds, and it changes no
collection. -/
def Yields {α : Type} (holds : α → Prop) (step : Run α) : Prop :=
  ∀ store, ∃ result later, runFrom store step = (.ok result, later) ∧
    later.changed = store.changed ∧ holds result

section Steps

variable {α β : Type}

/-- A step goes on with its result and the store after it, unless it fails. -/
theorem runFrom_bind (store : Store) (step : Run α) (next : α → Run β) :
    runFrom store (step >>= next) =
      match runFrom store step with
      | (.ok result, later) => runFrom later (next result)
      | (.error fault, later) => (.error fault, later) := by
  have unfolded : runFrom store (step >>= next) =
      (ExceptT.bindCont (fun result => (next result).run (machineOf greatestReentry))
        (runFrom store step).1).run (runFrom store step).2 := rfl
  rw [unfolded]
  rcases runFrom store step with ⟨fault | result, later⟩ <;> rfl

theorem yields_pure {holds : α → Prop} {result : α} (good : holds result) :
    Yields holds (pure result) := fun store => ⟨result, store, rfl, rfl, good⟩

theorem Yields.bind {first : α → Prop} {holds : β → Prop} {step : Run α} {next : α → Run β}
    (yields : Yields first step) (later : ∀ result, first result → Yields holds (next result)) :
    Yields holds (step >>= next) := by
  intro store
  obtain ⟨result, middle, ran, kept, good⟩ := yields store
  obtain ⟨last, after, ranNext, keptNext, goodNext⟩ := later result good middle
  refine ⟨last, after, ?_, keptNext.trans kept, goodNext⟩
  rw [runFrom_bind, ran]
  exact ranNext

theorem Yields.mono {first second : α → Prop} {step : Run α} (yields : Yields first step)
    (weaker : ∀ result, first result → second result) : Yields second step := by
  intro store
  obtain ⟨result, later, ran, kept, good⟩ := yields store
  exact ⟨result, later, ran, kept, weaker result good⟩

theorem yields_get : Yields (fun _ => True) (get : Run Store) :=
  fun _ => ⟨_, _, rfl, rfl, trivial⟩

theorem yields_knots (change : Store → List (Nat × Address)) :
    Yields (fun _ => True) (modify fun store => { store with knots := change store }) :=
  fun _ => ⟨_, _, rfl, rfl, trivial⟩

theorem yields_allocate (cell : Cell) : Yields (fun _ => True) (allocate cell) :=
  fun _ => ⟨_, _, rfl, rfl, trivial⟩

end Steps

/-! ## Variables as objects -/

/-- An object that stands for a value: a text stands for itself. -/
def StandsFor (value : Value) (object : Object) : Prop :=
  ∀ plain, value = .text plain → object = .text plain

/-- A new collection, unopened. -/
theorem yields_given {value : Value} (noText : ∀ plain, value ≠ .text plain)
    (collection : Address → Object) :
    Yields (StandsFor value) (do return collection (← allocate (.given value))) :=
  (yields_allocate _).bind fun _ _ => yields_pure fun plain same => (noText plain same).elim

mutual

/-- A value that can be followed becomes an object. -/
theorem yields_ofValue : ∀ value : Value, value.IsFollowed →
    Yields (StandsFor value) (Object.ofValue value)
  | .scalar plain, _ => yields_pure fun _ same => by cases same; rfl
  | .list items, _ => yields_given (by rintro plain ⟨⟩) .list
  | .set members, _ => yields_given (by rintro plain ⟨⟩) .set
  | .map entries, _ => yields_given (by rintro plain ⟨⟩) .map
  | .tuple items, followed =>
    (yields_ofValues items followed).bind fun _ _ => yields_pure (by rintro plain ⟨⟩)
  | .knot label inner, followed => by
    have opened := yields_ofValue (inner ()) followed
    have any : Yields (fun _ => True) (Object.ofValue (.knot label inner)) := by
      rw [Object.ofValue]
      refine yields_get.bind fun store _ => ?_
      -- A tuple becomes an object at once, and another collection has an address, which may
      -- be there already.
      split
      · exact opened.mono fun _ _ => trivial
      · exact yields_pure trivial
      · exact (yields_allocate _).bind fun _ _ =>
          (yields_knots _).bind fun _ _ => yields_pure trivial
    exact any.mono (by rintro object - plain ⟨⟩)
  | .endless, followed => followed.elim

theorem yields_ofValues : ∀ items : List Value, Value.AllFollowed items →
    Yields (fun _ => True) (Object.ofValues items)
  | [], _ => yields_pure trivial
  | first :: rest, followed =>
    (yields_ofValue first followed.1).bind fun _ _ =>
      (yields_ofValues rest followed.2).bind fun _ _ => yields_pure trivial

end

/-- A scope holds the variables of some options, those that are texts as they are. -/
structure Scope.Holds (scope : Scope) (vars : Options) : Prop where
  /-- No other names. -/
  absent : ∀ name, vars.lookup name = none → scope.lookup name = none
  /-- The texts. -/
  text : ∀ name plain, vars.lookup name = some (.text plain) →
    scope.lookup name = some (.text plain)

/-- Variables that can be followed become a scope that holds them. -/
theorem yields_ofEntries : ∀ vars : Options, (∀ option ∈ vars, option.2.IsFollowed) →
    Yields (fun scope => Scope.Holds scope vars) (Scope.ofEntries vars.toEntries)
  | [], _ => yields_pure ⟨fun _ _ => rfl, fun _ _ found => by cases found⟩
  | (key, value) :: rest, followed => by
    obtain ⟨follows, later⟩ := List.forall_mem_cons.mp followed
    have first := yields_ofValue value follows
    have others := yields_ofEntries rest later
    have entries : Options.toEntries ((key, value) :: rest) =
        (.text key, value) :: Options.toEntries rest := rfl
    rw [entries, Scope.ofEntries]
    refine first.bind fun object stands => others.bind fun scope holds => yields_pure ?_
    refine ⟨fun name none => ?_, fun name plain found => ?_⟩
    · rw [Options.lookup_cons] at none
      split at none
      · cases none
      · next other => rw [Options.lookup_cons, if_neg other, holds.absent name none]
    · rw [Options.lookup_cons] at found
      split at found
      · next same =>
        rw [Options.lookup_cons, if_pos same, stands plain (Option.some.inj found)]
      · next other => rw [Options.lookup_cons, if_neg other, holds.text name plain found]

/-! ## Statements before the rendering -/

/-- What a pattern looks like: a plain text, or a variable that is shown. -/
inductive Statement.IsPart : Statement → Prop
  | text (plain : String) : IsPart (.text plain)
  | slot (name : String) : IsPart (.show (.variable name))

/-- Nothing of a part has a value before the rendering. -/
theorem Statement.IsPart.prepared_eq {statement : Statement} (isPart : statement.IsPart)
    (soft : Bool) (known : List String) : statement.prepared soft known = pure statement := by
  cases isPart with
  | text plain => rw [Statement.prepared]
  | slot name =>
    rw [Statement.prepared, Expression.prepared]
    rfl

/-- A part assigns to no name. -/
theorem Statement.IsPart.uses_eq {statement : Statement} (isPart : statement.IsPart) :
    statement.uses = ([], statement.frameNames) := by
  cases isPart with
  | text plain => rfl
  | slot name => rfl

theorem hiddenAfter_parts : ∀ {body : List Statement} (used : List String),
    (∀ statement ∈ body, statement.IsPart) → hiddenAfter used body = []
  | [], _, _ => rfl
  | first :: rest, used, parts => by
    obtain ⟨isPart, others⟩ := List.forall_mem_cons.mp parts
    rw [hiddenAfter, isPart.uses_eq]
    exact hiddenAfter_parts _ others

theorem allPrepared_parts (soft : Bool) (known : List String) : ∀ {body : List Statement},
    (∀ statement ∈ body, statement.IsPart) →
      Statement.allPrepared soft known body = pure body
  | [], _ => by rw [Statement.allPrepared]
  | first :: rest, parts => by
    obtain ⟨isPart, others⟩ := List.forall_mem_cons.mp parts
    rw [Statement.allPrepared, isPart.prepared_eq, allPrepared_parts soft known others]
    rfl

/-- Parts stay as they are when they are made ready. -/
theorem framePrepared_parts {body : List Statement}
    (parts : ∀ statement ∈ body, statement.IsPart) :
    Statement.framePrepared [] [] body = pure body := by
  simp only [Statement.framePrepared, framed, allPrepared_parts _ _ parts,
    hiddenAfter_parts _ parts]
  rfl

namespace Pattern

theorem isPart_of_mem_textStatements {plain : String} {statement : Statement}
    (inside : statement ∈ textStatements plain) : statement.IsPart := by
  rw [textStatements] at inside
  split at inside
  · cases inside
  · rw [List.mem_singleton.mp inside]
    exact .text plain

theorem isPart_of_mem_body : ∀ (pattern : Pattern), ∀ statement ∈ pattern.body,
    statement.IsPart
  | .plain _ => fun _ => isPart_of_mem_textStatements
  | .slot literal name rest => by
    intro statement inside
    obtain before | rfl | after : statement ∈ textStatements literal.text ∨
        statement = .show (.variable name.name) ∨ statement ∈ rest.body := by
      simpa [body] using inside
    · exact isPart_of_mem_textStatements before
    · exact .slot name.name
    · exact isPart_of_mem_body rest statement after

end Pattern

/-! ## Running a pattern -/

/-- A pattern with the texts of variables instead of its placeholders. -/
def Pattern.filled (vars : Options) : Pattern → String
  | .plain literal => literal.text
  | .slot literal name rest => literal.text ++ vars.textOf name.name ++ rest.filled vars

section Running

variable {scope : Scope} {rest : List Statement} {others : String} {fault : Fault}

/-- A plain text is shown before what follows. -/
theorem runAll_textStatements (plain : String)
    (runs : Statement.runAll scope rest = pure (others, scope)) :
    Statement.runAll scope (Pattern.textStatements plain ++ rest) =
      pure (plain ++ others, scope) := by
  rw [Pattern.textStatements]
  split
  · next empty => rw [List.nil_append, runs, empty, String.empty_append]
  · rw [List.singleton_append, Statement.runAll, Statement.run, pure_bind]
    simp only [runs, pure_bind]

theorem runAll_textStatements_fail (plain : String)
    (fails : Statement.runAll scope rest = fail fault) :
    Statement.runAll scope (Pattern.textStatements plain ++ rest) = fail fault := by
  rw [Pattern.textStatements]
  split
  · rw [List.nil_append, fails]
  · rw [List.singleton_append, Statement.runAll, Statement.run, pure_bind]
    simp only [fails]
    rfl

/-- A variable that is a text is shown as it is. -/
theorem run_slot {name plain : String}
    (found : Stage.find name (.during scope) = pure (.text plain)) :
    Statement.run scope (.show (.variable name)) = pure (plain, scope) := by
  rw [Statement.run, Expression.value, found]
  rfl

theorem runAll_slot {name plain : String}
    (found : Stage.find name (.during scope) = pure (.text plain))
    (runs : Statement.runAll scope rest = pure (others, scope)) :
    Statement.runAll scope (.show (.variable name) :: rest) =
      pure (plain ++ others, scope) := by
  rw [Statement.runAll, run_slot found, pure_bind]
  simp only [runs, pure_bind]

theorem runAll_slot_fail {name plain : String}
    (found : Stage.find name (.during scope) = pure (.text plain))
    (fails : Statement.runAll scope rest = fail fault) :
    Statement.runAll scope (.show (.variable name) :: rest) = fail fault := by
  rw [Statement.runAll, run_slot found, pure_bind]
  simp only [fails]
  rfl

/-- A variable that is missing ends the rendering. -/
theorem runAll_slot_absent {name : String} {missing : Missing}
    (found : Stage.find name (.during scope) = pure (.absent missing)) :
    Statement.runAll scope (.show (.variable name) :: rest) = fail (.missing missing) := by
  have shown : Statement.run scope (.show (.variable name)) = fail (.missing missing) := by
    rw [Statement.run, Expression.value, found]
    rfl
  rw [Statement.runAll, shown]
  rfl

end Running

namespace Scope.Holds

variable {scope : Scope} {vars : Options}

theorem find_text (holds : scope.Holds vars) {name plain : String}
    (found : vars.lookup name = some (.text plain)) :
    Stage.find name (.during scope) = pure (.text plain) := by
  rw [Stage.find, Scope.find, holds.text name plain found, Option.isNone_some, Bool.and_false]
  rfl

theorem find_absent (holds : scope.Holds vars) (name : SlotName)
    (unbound : vars.lookup name.name = none) :
    Stage.find name.name (.during scope) = pure (.absent (.variable name.name)) := by
  rw [Stage.find, Scope.find, holds.absent _ unbound, name.noGlobal,
    decide_eq_false name.untaken, Bool.false_and]
  rfl

end Scope.Holds

namespace Pattern

variable {scope : Scope} {vars : Options}

/-- A pattern whose names are texts shows these texts in their places. -/
theorem runAll_body (holds : scope.Holds vars) : ∀ pattern : Pattern,
    (∀ name ∈ pattern.names, ∃ plain, vars.lookup name = some (.text plain)) →
      Statement.runAll scope pattern.body = pure (pattern.filled vars, scope)
  | .plain literal, _ => by
    have shown := runAll_textStatements literal.text
      (by rw [Statement.runAll] : Statement.runAll scope [] = pure ("", scope))
    rwa [List.append_nil, String.append_empty] at shown
  | .slot literal name rest, bound => by
    obtain ⟨⟨plain, found⟩, others⟩ := List.forall_mem_cons.mp bound
    have value : vars.textOf name.name = plain := by
      rw [Options.textOf, found]
      rfl
    rw [body, filled, value, String.append_assoc]
    exact runAll_textStatements _ (runAll_slot (holds.find_text found) (runAll_body holds rest others))

/-- A pattern with names that are missing ends at the first one. -/
theorem runAll_body_absent (holds : scope.Holds vars) {name : String} {after : List String}
    (unbound : vars.lookup name = none) : ∀ (pattern : Pattern) {before : List String},
      pattern.names = before ++ name :: after →
      (∀ earlier ∈ before, ∃ plain, vars.lookup earlier = some (.text plain)) →
        Statement.runAll scope pattern.body = fail (.missing (.variable name))
  | .plain _, before, split, _ => by
    cases before <;> cases split
  | .slot literal first rest, [], split, _ => by
    obtain ⟨rfl, -⟩ := List.cons.inj split
    exact runAll_textStatements_fail _ (runAll_slot_absent (holds.find_absent first unbound))
  | .slot literal first rest, earlier :: before, split, bound => by
    obtain ⟨rfl, later⟩ := List.cons.inj split
    obtain ⟨⟨plain, found⟩, others⟩ := List.forall_mem_cons.mp bound
    exact runAll_textStatements_fail _ (runAll_slot_fail (holds.find_text found)
      (runAll_body_absent holds unbound rest later others))

end Pattern

/-! ## Filling in a pattern -/

theorem isPartOf_iff {part : List Char} : ∀ {text : List Char},
    isPartOf part text = true ↔ part <:+: text
  | [] => by rw [isPartOf, List.isEmpty_iff, List.infix_nil]
  | first :: rest => by
    rw [isPartOf, Bool.or_eq_true, List.isPrefixOf_iff_prefix, isPartOf_iff, List.infix_cons_iff]

/-- A text without two opening braces in a row is no template. -/
theorem isTemplate_eq_false {text : String} (plain : ¬['\x7b', '\x7b'] <:+: text.toList) :
    isTemplate text = false := Bool.eq_false_iff.mpr fun found => plain (isPartOf_iff.mp found)

section Filling

variable {vars : Options}

/-- Statements that leave the store as it is leave their variables as they are. -/
theorem runWith_eq (followed : ∀ option ∈ vars, option.2.IsFollowed)
    (free : takenName ∉ vars.names) {body : List Statement} {result : Except Fault String}
    (runs : ∀ scope : Scope, scope.Holds vars → ∀ store,
      runFrom store (Statement.runAll scope body) = (result.map (·, scope), store)) :
    runWith vars.toEntries body = { result, bindings := vars.toEntries } := by
  obtain ⟨scope, store, ran, unchanged, holds⟩ := yields_ofEntries vars followed Store.empty
  have untaken : scope.lookup takenName = none := by
    cases found : vars.lookup takenName with
    | none => exact holds.absent _ found
    | some value => exact (free ((Options.mem_names_iff _ _).mpr ⟨value, found⟩)).elim
  have kept : store.changed = false := unchanged
  rw [runWith, ran]
  simp only [untaken, Option.isSome_none, Bool.false_eq_true, if_false, runs scope holds store,
    Store.bindingsAfter, kept]
  cases result with
  | error fault => rfl
  | ok shown => rfl

/-- A pattern with a placeholder is filled in by running what it looks like. -/
theorem fill_slot (literal : Literal) (name : SlotName) (rest : Pattern)
    (bindings : List (Value × Value)) :
    fill bindings (Pattern.slot literal name rest).text =
      runWith bindings (Pattern.slot literal name rest).body := by
  have template : isTemplate (Pattern.slot literal name rest).text = true := by
    rw [isTemplate, isPartOf_iff, Pattern.toList_slot]
    exact ⟨literal.text.toList, _, by rw [List.append_assoc]; rfl⟩
  have prepared := framePrepared_parts (Pattern.slot literal name rest).isPart_of_mem_body
  rw [fill, if_pos template, render, parse_pattern]
  simp only [prepared]
  rfl

/-- A pattern whose names are texts is filled in with them. -/
theorem fill_pattern (followed : ∀ option ∈ vars, option.2.IsFollowed)
    (free : takenName ∉ vars.names) : ∀ (pattern : Pattern),
      (∀ name ∈ pattern.names, ∃ plain, vars.lookup name = some (.text plain)) →
        fill vars.toEntries pattern.text =
          { result := .ok (pattern.filled vars), bindings := vars.toEntries }
  | .plain literal, _ => by
    have plain := isTemplate_eq_false (literal.unopened '\x7b' (by decide))
    rw [Pattern.text, fill, plain]
    rfl
  | .slot literal name rest, bound => by
    rw [fill_slot]
    refine runWith_eq followed free fun scope holds store => ?_
    rw [Pattern.runAll_body holds _ bound]
    rfl

/-- A pattern with names that are missing is not filled in, because of the first one. -/
theorem fill_pattern_absent (followed : ∀ option ∈ vars, option.2.IsFollowed)
    (free : takenName ∉ vars.names) {name : String} {before after : List String}
    (unbound : vars.lookup name = none) : ∀ (pattern : Pattern),
      pattern.names = before ++ name :: after →
      (∀ earlier ∈ before, ∃ plain, vars.lookup earlier = some (.text plain)) →
        fill vars.toEntries pattern.text =
          { result := .error (.missing (.variable name)), bindings := vars.toEntries }
  | .plain _, split, _ => by
    cases before <;> cases split
  | .slot literal first rest, split, bound => by
    rw [fill_slot]
    refine runWith_eq followed free fun scope holds store => ?_
    rw [Pattern.runAll_body_absent holds unbound _ split bound]
    rfl

end Filling

/-! ## The wording of a missing name -/

/-- A character of ASCII that an identifier may go on with is in simple quotes as it is, and
it is no quote itself. -/
theorem continues_apart {character : Char} (small : character.toNat < 0x80)
    (continues : continuesIdentifier character = true) :
    character ≠ '\'' ∧ escapeCharacter '\'' character = [character] := by
  have checked := ascii_all (fun character => !(beginsIdentifier character || character.isDigit) ||
    (character != '\'' && escapeCharacter '\'' character == [character])) (by decide +kernel) small
  rw [continuesIdentifier_ascii small] at continues
  simpa [continues] using checked

/-- A name is in simple quotes as it is. -/
theorem quoted_name (name : SlotName) : quoted name.name = "'" ++ name.name ++ "'" := by
  obtain ⟨-, -, -, -, -, continues⟩ := name.characters
  have apart : ∀ character ∈ name.name.toList,
      character ≠ '\'' ∧ escapeCharacter '\'' character = [character] := fun character inside =>
    continues_apart (name.ascii character inside) (continues character inside)
  have noQuote : name.name.toList.contains '\'' = false := by
    rw [List.contains_eq_mem, decide_eq_false_iff_not]
    exact fun inside => (apart _ inside).1 rfl
  have mark : quoteMark name.name.toList = '\'' := by
    rw [quoteMark, noQuote, Bool.false_and, if_neg Bool.false_ne_true]
  have kept : name.name.toList.flatMap (escapeCharacter '\'') = name.name.toList := by
    rw [List.flatMap_def, List.map_congr_left fun character inside => (apart character inside).2,
      ← List.flatMap_def]
    exact List.flatMap_singleton' _
  rw [quoted]
  simp only [mark, kept]
  apply String.toList_injective
  simp

/-- The placeholders of a pattern have names that stand for variables. -/
theorem Pattern.exists_slotName {name : String} : ∀ {pattern : Pattern},
    name ∈ pattern.names → ∃ slot : SlotName, slot.name = name
  | .slot _ first rest, inside => by
    obtain rfl | later := List.mem_cons.mp inside
    · exact ⟨first, rfl⟩
    · exact exists_slotName later

end Template

namespace Node

open Template

/-- What becomes of a text is what its filling gives. -/
theorem outcome_of_fill {text : String} {bindings after : Variables}
    {result : Except Fault String} (path : String)
    (filled : Template.fill bindings text = { result, bindings := after }) :
    (fillText text path).outcome bindings =
      (result.mapError fun fault =>
        if fault.isOfTemplate then problemAt path (.template fault) else .operation fault, after) := by
  simp only [fillText, outcome_bind, outcome_get, outcome_set, filled]
  cases result with
  | error fault => rfl
  | ok shown => rfl

/-- The error about a missing variable names it. -/
theorem message_missing (name : SlotName) :
    (DocumentProblem.template (.missing (.variable name.name))).message =
      "template error: '" ++ name.name ++ "' is undefined" := by
  have worded : (DocumentProblem.template (.missing (.variable name.name))).message =
      "template error: " ++ (quoted name.name ++ " is undefined") := rfl
  rw [worded, quoted_name]
  apply String.toList_injective
  simp

/-- **Placeholders are filled in verbatim and once.** A pattern whose names are variables, all
of them texts, gives its plain texts and these texts in order, whatever they hold. If names
are no variables, the error at the path of the text says that the first one is missing. The
variables stay as they are. A text without two opening braces in a row gives itself. -/
theorem fillText_pattern :
    (∀ (pattern : Pattern) (vars : Options) (path : String), takenName ∉ vars.names →
      (∀ option ∈ vars, option.2.IsFollowed) →
      (∀ name ∈ pattern.names, ∀ value, vars.lookup name = some value →
        ∃ plain, value = .text plain) →
      ((∀ name ∈ pattern.names, name ∈ vars.names) →
        (fillText pattern.text path).outcome vars.toEntries =
          (.ok (pattern.filled vars), vars.toEntries)) ∧
      ∀ name before after, pattern.names = before ++ name :: after →
        (∀ earlier ∈ before, earlier ∈ vars.names) → name ∉ vars.names →
          (fillText pattern.text path).outcome vars.toEntries =
            (.error (problemAt path (.template (.missing (.variable name)))), vars.toEntries) ∧
          (DocumentProblem.template (.missing (.variable name))).message =
            "template error: '" ++ name ++ "' is undefined") ∧
    ∀ (text path : String) (bindings : Variables), ¬['\x7b', '\x7b'] <:+: text.toList →
      (fillText text path).outcome bindings = (.ok text, bindings) := by
  refine ⟨?_, ?_⟩
  · intro pattern vars path free followed texts
    have bound {name : String} (inside : name ∈ pattern.names) (there : name ∈ vars.names) :
        ∃ plain, vars.lookup name = some (.text plain) := by
      obtain ⟨value, found⟩ := (Options.mem_names_iff _ _).mp there
      obtain ⟨plain, rfl⟩ := texts name inside value found
      exact ⟨plain, found⟩
    refine ⟨fun all => ?_, fun name before after split earlier absent => ?_⟩
    · exact outcome_of_fill path (fill_pattern followed free pattern fun name inside =>
        bound inside (all name inside))
    · have unbound : vars.lookup name = none := by
        cases found : vars.lookup name with
        | none => rfl
        | some value => exact (absent ((Options.mem_names_iff _ _).mpr ⟨value, found⟩)).elim
      have inside : name ∈ pattern.names := by
        rw [split]
        exact List.mem_append_right _ (List.mem_cons_self ..)
      obtain ⟨slot, rfl⟩ := Pattern.exists_slotName inside
      refine ⟨outcome_of_fill path (fill_pattern_absent followed free unbound pattern split
        fun other before => ?_), ?_⟩
      · exact bound (by rw [split]; exact List.mem_append_left _ before) (earlier other before)
      · exact message_missing slot
  · intro text path bindings plain
    exact outcome_fillText (by rw [isTemplate_eq_false plain]; rfl) path bindings

/-- The start of a call in a block, with a brace and a quote. -/
def callStart : Literal where
  text := "\x7b say(\""
  unopened := forall_of_checked (by decide +kernel)
  unfinished := by decide +kernel
  uniform := by decide +kernel

/-- The name of its first text. -/
def greetingName : SlotName where
  name := "greeting"
  identifier := by decide +kernel
  ascii := forall_of_checked (by decide +kernel)
  noWord := by decide
  noConstant := rfl
  noGlobal := rfl
  untaken := by decide

/-- What is between its texts. -/
def callMiddle : Literal where
  text := "\", "
  unopened := forall_of_checked (by decide +kernel)
  unfinished := by decide +kernel
  uniform := by decide +kernel

/-- The name of its second text. -/
def otherName : SlotName where
  name := "other"
  identifier := by decide +kernel
  ascii := forall_of_checked (by decide +kernel)
  noWord := by decide
  noConstant := rfl
  noGlobal := rfl
  untaken := by decide

/-- Its end, with a newline. -/
def callEnd : Literal where
  text := ") \x7d\n"
  unopened := forall_of_checked (by decide +kernel)
  unfinished := by decide +kernel
  uniform := by decide +kernel

/-- A call with two texts. -/
def callPattern : Pattern :=
  .slot callStart greetingName (.slot callMiddle otherName (.plain callEnd))

/-- A greeting that looks like a placeholder is put in as it is, and with it alone the other
text is missing. -/
theorem fillText_pattern_call :
    let greeting : Options := [("greeting", .text "<\x7b\x7b other \x7d\x7d>")]
    let vars : Options := ("other", .text "&\n") :: greeting
    let text := "\x7b say(\"\x7b\x7b greeting \x7d\x7d\", \x7b\x7b other \x7d\x7d) \x7d\n"
    callPattern.text = text ∧ takenName ∉ vars.names ∧ takenName ∉ greeting.names ∧
      (∀ option ∈ vars, option.2.IsFollowed) ∧
      (fillText text "root").outcome vars.toEntries =
        (.ok "\x7b say(\"<\x7b\x7b other \x7d\x7d>\", &\n) \x7d\n", vars.toEntries) ∧
      (fillText text "root").outcome greeting.toEntries =
        (.error (problemAt "root" (.template (.missing (.variable "other")))),
          greeting.toEntries) ∧
      (fillText "\x7b% if %\x7d" "root").outcome greeting.toEntries =
        (.ok "\x7b% if %\x7d", greeting.toEntries) := by
  intro greeting vars text
  have free : takenName ∉ vars.names := by decide
  have freeGreeting : takenName ∉ greeting.names := by decide
  have followed : ∀ option ∈ vars, option.2.IsFollowed := by
    simp [vars, greeting, Value.IsFollowed]
  have followedGreeting : ∀ option ∈ greeting, option.2.IsFollowed := fun option inside =>
    followed option (List.mem_cons_of_mem _ inside)
  have textsGreeting (name : String) (value : Value) (found : greeting.lookup name = some value) :
      ∃ plain, value = .text plain := by
    rw [Options.lookup_cons] at found
    split at found
    · exact ⟨_, (Option.some.inj found).symm⟩
    · cases found
  have texts (name : String) (value : Value) (found : vars.lookup name = some value) :
      ∃ plain, value = .text plain := by
    rw [Options.lookup_cons] at found
    split at found
    · exact ⟨_, (Option.some.inj found).symm⟩
    · exact textsGreeting name value found
  have written : callPattern.text = text := by decide +kernel
  have filled : callPattern.filled vars =
      "\x7b say(\"<\x7b\x7b other \x7d\x7d>\", &\n) \x7d\n" := by decide +kernel
  obtain ⟨patterns, plain⟩ := fillText_pattern
  have whole := (patterns callPattern vars "root" free followed fun name _ => texts name).1
    (by decide)
  have part := (patterns callPattern greeting "root" freeGreeting followedGreeting
    fun name _ => textsGreeting name).2 "other" ["greeting"] [] rfl (by decide) (by decide)
  rw [written, filled] at whole
  rw [written] at part
  exact ⟨written, free, freeGreeting, followed, whole, part.1,
    plain _ "root" greeting.toEntries (by decide +kernel)⟩

end Node

end CodeLayout
