import CodeLayout.Proofs.SoundValue

/-!
# Texts with placeholders

A placeholder is a name in double braces, with a blank at each side. A pattern is a plain
text, a placeholder, and so on in turn, and it ends with a plain text (`Template.Pattern`).
The plain texts hold nothing that begins a template part, and the names stand for variables
and for nothing else.

The text of a pattern is read as what it looks like: its plain texts stand for themselves,
and every placeholder shows the variable of its name (`Template.Pattern.body`). Of the plain
texts not a character is lost, since nothing inside of a brace takes blanks away.

Main statement: `Template.parse_pattern`.
-/

set_option autoImplicit false

namespace CodeLayout

namespace Template

/-! ## Patterns -/

/-- What begins a template part after an opening brace. -/
def openingMarks : List Char := ['\x7b', '%', '#']

/-- A plain text between placeholders: it has only line feeds for line breaks, nothing in it
begins a template part, and no brace at its end can be taken for a part of the braces that
follow. -/
structure Literal where
  /-- The text. -/
  text : String
  /-- Nothing begins a template part. -/
  unopened : ∀ mark ∈ openingMarks, ¬['\x7b', mark] <:+: text.toList
  /-- No brace that opens one is at the end. -/
  unfinished : text.toList.getLast? ≠ some '\x7b'
  /-- There are no other line breaks. -/
  uniform : '\r' ∉ text.toList

/-- A name that stands for a variable: it is an identifier of ASCII characters, and neither
the word for a negation, nor a constant, nor a function, nor the name that is taken. -/
structure SlotName where
  /-- The name. -/
  name : String
  /-- It is an identifier. -/
  identifier : isIdentifierText name.toList = true
  /-- Its characters are those of ASCII. -/
  ascii : ∀ character ∈ name.toList, character.toNat < 0x80
  /-- It is not the word that begins an expression. -/
  noWord : name ≠ "not"
  /-- It is no constant. -/
  noConstant : constantNames.lookup name = none
  /-- It is no function. -/
  noGlobal : globals.lookup name = none
  /-- It is not taken. -/
  untaken : name ≠ takenName

/-- A plain text, or a plain text and a placeholder before a pattern. -/
inductive Pattern where
  | plain (literal : Literal)
  | slot (literal : Literal) (name : SlotName) (rest : Pattern)

/-- A placeholder for a name. -/
def placeholder (name : String) : String := "\x7b\x7b " ++ name ++ " \x7d\x7d"

namespace Pattern

/-- The text of a pattern. -/
def text : Pattern → String
  | .plain literal => literal.text
  | .slot literal name rest => literal.text ++ placeholder name.name ++ rest.text

/-- The names of its placeholders, in order. -/
def names : Pattern → List String
  | .plain _ => []
  | .slot _ name rest => name.name :: rest.names

/-- A plain text as statements: none if it is empty. -/
def textStatements (plain : String) : List Statement :=
  if plain = "" then [] else [.text plain]

/-- What a pattern looks like: its plain texts, and a variable to be shown for every
placeholder. -/
def body : Pattern → List Statement
  | .plain literal => textStatements literal.text
  | .slot literal name rest =>
    textStatements literal.text ++ .show (.variable name.name) :: rest.body

end Pattern

/-! ## Plain texts -/

/-- Where there are no other line breaks, all are line feeds. -/
theorem uniformLines_eq_self : ∀ {text : List Char}, '\r' ∉ text → uniformLines text = text
  | [], _ => rfl
  | first :: rest, uniform => by
    have other : first ≠ '\r' := fun same => uniform (same ▸ List.mem_cons_self ..)
    have later : '\r' ∉ rest := fun inside => uniform (List.mem_cons_of_mem _ inside)
    rw [uniformLines, uniformLines_eq_self later]
    · exact fun _ same _ => other same
    · exact fun same => other same

/-- Nothing begins where no mark follows an opening brace. -/
theorem opening?_eq_none {text : List Char}
    (closed : ∀ mark ∈ openingMarks, ¬['\x7b', mark] <+: text) : opening? text = none := by
  rw [opening?.eq_def]
  split
  · next rest => exact (closed '%' (by decide) ⟨rest, rfl⟩).elim
  · next rest => exact (closed '\x7b' (by decide) ⟨rest, rfl⟩).elim
  · next rest => exact (closed '#' (by decide) ⟨rest, rfl⟩).elim
  · rfl

/-- A plain text is taken whole, whatever follows. -/
theorem plainPart_append (tail : List Char) : ∀ {text : List Char},
    (∀ mark ∈ openingMarks, ¬['\x7b', mark] <:+: text) → text.getLast? ≠ some '\x7b' →
      plainPart (text ++ tail) = (text ++ (plainPart tail).1, (plainPart tail).2)
  | [], _, _ => rfl
  | first :: rest, unopened, unfinished => by
    -- The brace that would open a part is not the last character, so its mark is in the text.
    have closed : ∀ mark ∈ openingMarks, ¬['\x7b', mark] <+: first :: (rest ++ tail) := by
      intro mark isMark starts
      obtain ⟨brace, next⟩ := List.cons_prefix_cons.mp starts
      cases rest with
      | nil => exact unfinished (by rw [brace]; rfl)
      | cons second others =>
        have same : mark = second := (List.cons_prefix_cons.mp next).1
        exact unopened mark isMark ⟨[], others, by rw [brace, same]; rfl⟩
    have later : ∀ mark ∈ openingMarks, ¬['\x7b', mark] <:+: rest := fun mark isMark inside =>
      unopened mark isMark (inside.trans (List.suffix_cons first rest).isInfix)
    have unfinishedLater : rest.getLast? ≠ some '\x7b' := by
      intro last
      cases rest with
      | nil => cases last
      | cons second others => exact unfinished (List.getLast?_cons_cons.trans last)
    rw [List.cons_append, plainPart, opening?_eq_none closed,
      plainPart_append tail later unfinishedLater]
    rfl

namespace Literal

variable (literal : Literal)

theorem plainPart_eq : plainPart literal.text.toList = (literal.text.toList, none) := by
  have whole := plainPart_append [] literal.unopened literal.unfinished
  rw [List.append_nil] at whole
  rw [whole, plainPart, List.append_nil]

/-- A plain text ends at the braces of a placeholder. -/
theorem plainPart_slot (rest : List Char) :
    plainPart (literal.text.toList ++ '\x7b' :: '\x7b' :: ' ' :: rest) =
      (literal.text.toList, some (.show, false, ' ' :: rest)) := by
  have braces : plainPart ('\x7b' :: '\x7b' :: ' ' :: rest) =
      ([], some (.show, false, ' ' :: rest)) := rfl
  rw [plainPart_append _ literal.unopened literal.unfinished, braces, List.append_nil]

end Literal

/-! ## Names -/

/-- What holds for the characters with the first codes. -/
theorem ascii_all (holds : Char → Bool)
    (checked : ∀ code < 0x80, holds (Char.ofNat code) = true) {character : Char}
    (small : character.toNat < 0x80) : holds character = true := by
  have found := checked character.toNat small
  rwa [Char.ofNat_toNat] at found

/-- What a check finds for every item of a list. -/
theorem forall_of_checked {α : Type} {holds : α → Prop} [DecidablePred holds] {items : List α}
    (checked : (items.all fun item => decide (holds item)) = true) : ∀ item ∈ items, holds item :=
  fun item inside => of_decide_eq_true (List.all_eq_true.mp checked item inside)

/-- An identifier of ASCII goes on with what may begin it and with digits. -/
theorem continuesIdentifier_ascii {character : Char} (small : character.toNat < 0x80) :
    continuesIdentifier character = (beginsIdentifier character || character.isDigit) := by
  have beyond : inRanges letterMarkRanges character.toNat = false := by
    rw [inRanges, List.any_eq_false]
    have above : ∀ range ∈ letterMarkRanges, 0x80 ≤ range.1 :=
      forall_of_checked (by decide +kernel)
    intro range inside
    have low := above range inside
    simp only [Bool.and_eq_true, decide_eq_true_eq]
    omega
  rw [continuesIdentifier, beyond, Bool.or_false]

/-- A character of ASCII that begins an identifier is no blank, and it begins no number and
no end of an expression. -/
theorem begins_apart {character : Char} (small : character.toNat < 0x80)
    (begins : beginsIdentifier character = true) :
    isBlank character = false ∧ isDecimal character = false ∧ character.isDigit = false ∧
      character ≠ '0' ∧ character ≠ '-' ∧ character ≠ '\x7d' := by
  have checked := ascii_all (fun character => !beginsIdentifier character ||
    (!isBlank character && !isDecimal character && !character.isDigit && character != '0' &&
      character != '-' && character != '\x7d')) (by decide +kernel) small
  simpa [begins, and_assoc] using checked

/-- No number begins with a character that is no digit. -/
theorem floatRun_eq_nil (afterPoint : Bool) {first : Char} (noDecimal : isDecimal first = false)
    (rest : List Char) : floatRun afterPoint (first :: rest) = [] := by
  have noDigits : decimals (first :: rest) = [] := by
    rw [decimals, List.head?_cons, Option.any_some, noDecimal, if_neg Bool.false_ne_true]
  rw [floatRun, noDigits, List.isEmpty_nil, Bool.or_true, Bool.true_or, if_pos rfl]

theorem integerRun_eq_nil {first : Char} (noZero : first ≠ '0') (noDigit : first.isDigit = false)
    (rest : List Char) : integerRun (first :: rest) = [] := by
  have noBase (base : Nat) : basedRun? base (first :: rest) = none := by
    rw [basedRun?.eq_def]
    split
    · next same => exact (noZero (List.cons.inj same).1).elim
    · rfl
  have otherHead : (some first == some '0') = false := by
    simpa using noZero
  simp only [integerRun, noBase, Option.or_none, List.head?_cons, otherHead, Bool.false_eq_true,
    if_false, Option.any_some, noDigit]

namespace SlotName

/-- A name has a first character, which begins an identifier, and goes on with others that
an identifier may go on with. -/
theorem characters (name : SlotName) : ∃ first rest, name.name.toList = first :: rest ∧
    first.toNat < 0x80 ∧ beginsIdentifier first = true ∧
      ∀ character ∈ name.name.toList, continuesIdentifier character = true := by
  have identifier := name.identifier
  have ascii := name.ascii
  cases shape : name.name.toList with
  | nil =>
    rw [shape] at identifier
    cases identifier
  | cons first rest =>
    rw [shape, isIdentifierText, Bool.and_eq_true, List.all_eq_true] at identifier
    rw [shape] at ascii
    obtain ⟨begins, others⟩ := identifier
    refine ⟨first, rest, rfl, ascii first (List.mem_cons_self ..), begins, ?_⟩
    intro character inside
    obtain rfl | later := List.mem_cons.mp inside
    · rw [continuesIdentifier, begins, Bool.true_or, Bool.true_or]
    · exact others character later

/-- A name is taken whole before a character that no identifier goes on with. -/
theorem takeToken_eq (name : SlotName) (afterPoint : Bool) (opened : List Char) {next : Char}
    (ends : continuesIdentifier next = false) (rest : List Char) :
    takeToken afterPoint opened (name.name.toList ++ next :: rest) =
      .ok (.name name.name, opened, next :: rest) := by
  obtain ⟨first, others, shape, small, begins, continues⟩ := name.characters
  obtain ⟨-, noDecimal, noDigit, noZero, -, -⟩ := begins_apart small begins
  have taken : (name.name.toList ++ next :: rest).takeWhile continuesIdentifier =
      name.name.toList := by
    rw [List.takeWhile_append_of_pos continues, List.takeWhile_cons, ends]
    exact List.append_nil _
  have left : (name.name.toList ++ next :: rest).drop name.name.toList.length = next :: rest :=
    List.drop_left
  rw [takeToken.eq_def]
  simp only [taken, left, String.ofList_toList]
  simp only [shape, List.cons_append, floatRun_eq_nil afterPoint noDecimal,
    integerRun_eq_nil noZero noDigit, List.isEmpty_nil, List.isEmpty_cons, Bool.not_true,
    Bool.not_false, Bool.false_eq_true, if_false, if_true, begins]

end SlotName

/-! ## Tokens -/

section Rounds

variable (limit line : Nat)

/-- A plain text at the end. -/
theorem scan_literal (literal : Literal) :
    scan (limit + 1) .plain line literal.text.toList =
      .ok (dataTokens line literal.text.toList) := by
  simp only [scan, literal.plainPart_eq]

/-- A plain text before the braces of a placeholder. -/
theorem scan_open (literal : Literal) (rest : List Char) :
    ∃ later, scan (limit + 1) .plain line
        (literal.text.toList ++ '\x7b' :: '\x7b' :: ' ' :: rest) =
      (scan limit (.tag true [] false) later (' ' :: rest)).map fun lexemes =>
        dataTokens line literal.text.toList ++
          { line := later, token := .openShow } :: lexemes := by
  refine ⟨line + linesBetween (literal.text.toList ++ '\x7b' :: '\x7b' :: ' ' :: rest)
    (' ' :: rest), ?_⟩
  simp only [scan, literal.plainPart_slot, Bool.false_eq_true, if_false]
  cases scan limit (.tag true [] false) _ (' ' :: rest) with
  | error unreadable => rfl
  | ok lexemes => rfl

/-- A blank before something that shows. -/
theorem scan_blank (afterPoint : Bool) {first : Char} (shows : isBlank first = false)
    (rest : List Char) :
    ∃ later, scan (limit + 1) (.tag true [] afterPoint) line (' ' :: first :: rest) =
      scan limit (.tag true [] false) later (first :: rest) := by
  have blank : isBlank ' ' = true := by decide
  have dropped : dropLeadingBlanks (' ' :: first :: rest) = first :: rest := by
    rw [dropLeadingBlanks, List.dropWhile_cons, if_pos blank, List.dropWhile_cons, shows,
      if_neg Bool.false_ne_true]
  refine ⟨line + linesBetween (' ' :: first :: rest) (first :: rest), ?_⟩
  have noEnd : afterEnd? true (' ' :: first :: rest) = none := rfl
  simp only [scan, List.isEmpty_nil, if_true, noEnd, blank, dropped]

/-- A name before a blank. -/
theorem scan_name (name : SlotName) (afterPoint : Bool) (rest : List Char) :
    ∃ later, scan (limit + 1) (.tag true [] afterPoint) line
        (name.name.toList ++ ' ' :: rest) =
      (scan limit (.tag true [] false) later (' ' :: rest)).map fun lexemes =>
        { line, token := .name name.name } :: lexemes := by
  obtain ⟨first, others, shape, small, begins, -⟩ := name.characters
  obtain ⟨shows, -, -, -, noMinus, noBrace⟩ := begins_apart small begins
  have text : name.name.toList ++ ' ' :: rest = first :: (others ++ ' ' :: rest) := by
    rw [shape, List.cons_append]
  have noEnd : afterEnd? true (name.name.toList ++ ' ' :: rest) = none := by
    have shown : afterEnd? true (name.name.toList ++ ' ' :: rest) =
        afterShowEnd? (name.name.toList ++ ' ' :: rest) := rfl
    rw [shown, text, afterShowEnd?.eq_def]
    split
    · next same => exact (noMinus (List.cons.inj same).1).elim
    · next same => exact (noBrace (List.cons.inj same).1).elim
    · rfl
  have blankEnds : continuesIdentifier ' ' = false := by decide +kernel
  have taken := name.takeToken_eq afterPoint [] blankEnds rest
  refine ⟨line + linesBetween (name.name.toList ++ ' ' :: rest) (' ' :: rest), ?_⟩
  rw [text] at noEnd taken ⊢
  simp only [scan, List.isEmpty_nil, if_true, noEnd, shows, Bool.false_eq_true, if_false, taken]

/-- The braces at the end of a placeholder. -/
theorem scan_close (afterPoint : Bool) (rest : List Char) :
    ∃ later, scan (limit + 1) (.tag true [] afterPoint) line ('\x7d' :: '\x7d' :: rest) =
      (scan limit .plain later rest).map fun lexemes =>
        { line, token := .closeShow } :: lexemes := by
  refine ⟨line + linesBetween ('\x7d' :: '\x7d' :: rest) rest, ?_⟩
  have ends : afterEnd? true ('\x7d' :: '\x7d' :: rest) = some rest := rfl
  simp only [scan, List.isEmpty_nil, if_true, ends, endToken]

/-- A plain text and a placeholder take five rounds. -/
theorem scan_slot (literal : Literal) (name : SlotName) (rest : List Char) :
    ∃ first second third later, scan (limit + 5) .plain line (literal.text.toList ++
        '\x7b' :: '\x7b' :: ' ' :: (name.name.toList ++ ' ' :: '\x7d' :: '\x7d' :: rest)) =
      (scan limit .plain later rest).map fun lexemes => dataTokens line literal.text.toList ++
        { line := first, token := .openShow } :: { line := second, token := .name name.name } ::
          { line := third, token := .closeShow } :: lexemes := by
  obtain ⟨start, others, shape, small, begins, -⟩ := name.characters
  obtain ⟨shows, -⟩ := begins_apart small begins
  obtain ⟨first, opens⟩ := scan_open (limit + 4) line literal
    (name.name.toList ++ ' ' :: '\x7d' :: '\x7d' :: rest)
  obtain ⟨second, blank⟩ := scan_blank (limit + 3) first false shows
    (others ++ ' ' :: '\x7d' :: '\x7d' :: rest)
  rw [← List.cons_append, ← shape] at blank
  obtain ⟨after, named⟩ := scan_name (limit + 2) second name false ('\x7d' :: '\x7d' :: rest)
  obtain ⟨third, again⟩ := scan_blank (limit + 1) after false (by decide : isBlank '\x7d' = false)
    ('\x7d' :: rest)
  obtain ⟨later, closes⟩ := scan_close limit third false rest
  refine ⟨first, second, third, later, ?_⟩
  rw [opens, blank, named, again, closes]
  cases scan limit .plain later rest with
  | error unreadable => rfl
  | ok lexemes => rfl

end Rounds

/-- Tokens that stand for plain texts and for shown variables, on any lines. -/
inductive Spells : List Lexeme → List Statement → Prop
  | nil : Spells [] []
  | text {line : Nat} {plain : String} {lexemes : List Lexeme} {body : List Statement}
    (rest : Spells lexemes body) :
    Spells ({ line, token := .data plain } :: lexemes) (.text plain :: body)
  | slot {first second third : Nat} {lexemes : List Lexeme} {body : List Statement}
    (name : SlotName) (rest : Spells lexemes body) :
    Spells ({ line := first, token := .openShow } :: { line := second, token := .name name.name } ::
      { line := third, token := .closeShow } :: lexemes) (.show (.variable name.name) :: body)

theorem Spells.dataTokens (line : Nat) (plain : String) {lexemes : List Lexeme}
    {body : List Statement} (rest : Spells lexemes body) :
    Spells (dataTokens line plain.toList ++ lexemes) (Pattern.textStatements plain ++ body) := by
  rw [Template.dataTokens, Pattern.textStatements, String.ofList_toList]
  by_cases empty : plain = ""
  · rw [if_pos empty, empty]
    exact rest
  · have filled : plain.toList.isEmpty = false := by
      simpa [List.isEmpty_eq_false_iff] using empty
    rw [if_neg empty, filled, if_neg Bool.false_ne_true]
    exact .text rest

theorem Pattern.toList_slot (literal : Literal) (name : SlotName) (rest : Pattern) :
    (Pattern.slot literal name rest).text.toList = literal.text.toList ++
      '\x7b' :: '\x7b' :: ' ' ::
        (name.name.toList ++ ' ' :: '\x7d' :: '\x7d' :: rest.text.toList) := by
  simp [text, placeholder]

/-- All line breaks of a pattern are line feeds. -/
theorem Pattern.uniform_text : ∀ pattern : Pattern, '\r' ∉ pattern.text.toList
  | .plain literal => literal.uniform
  | .slot literal name rest => by
    have noReturn : '\r' ∉ name.name.toList := by
      obtain ⟨-, -, -, -, -, continues⟩ := name.characters
      intro inside
      have ends : continuesIdentifier '\r' = false := by decide +kernel
      rw [continues _ inside] at ends
      cases ends
    rw [toList_slot]
    simp [literal.uniform, noReturn, rest.uniform_text]

/-- The tokens of a pattern stand for what it looks like. -/
theorem scan_pattern : ∀ (pattern : Pattern) (limit line : Nat),
    pattern.text.toList.length < limit →
      ∃ lexemes, scan limit .plain line pattern.text.toList = .ok lexemes ∧
        Spells lexemes pattern.body
  | .plain literal, limit + 1, line, _ => by
    have spells := Spells.dataTokens line literal.text .nil
    rw [List.append_nil, List.append_nil] at spells
    exact ⟨_, scan_literal limit line literal, spells⟩
  | .slot literal name rest, limit, line, enough => by
    rw [Pattern.toList_slot] at enough ⊢
    simp only [List.length_append, List.length_cons] at enough
    obtain ⟨fewer, rfl⟩ : ∃ fewer, limit = fewer + 5 := ⟨limit - 5, by omega⟩
    obtain ⟨first, second, third, later, found⟩ :=
      scan_slot fewer line literal name rest.text.toList
    obtain ⟨lexemes, scanned, spells⟩ := scan_pattern rest fewer later (by omega)
    rw [scanned] at found
    exact ⟨_, found, .dataTokens line literal.text (.slot name spells)⟩

/-! ## Expressions -/

section Reading

variable (limit last : Nat) (after : List Lexeme)

/-- What follows a name in a placeholder. -/
def closing (last : Nat) (after : List Lexeme) : List Lexeme :=
  { line := last, token := .closeShow } :: after

/-- No operator of a rank is at the end of a placeholder. -/
theorem takeOperator?_closing (rank : Rank) :
    takeOperator? rank (closing last after) = none := by
  cases rank <;> rfl

/-- An operand before the end of a placeholder is a chain of operators by itself. -/
theorem readRank_closing {rank : Rank} {tokens : List Lexeme} {expression : Expression}
    (read : readOperand (limit + 1) rank tokens = some (expression, closing last after)) :
    readRank (limit + 2) rank tokens = some (expression, closing last after) := by
  rw [readRank, read]
  simp only [Option.bind_eq_bind, Option.bind_some, rankTail, takeOperator?_closing]

variable (line : Nat) (name : SlotName)

/-- A name before the end of a placeholder is a variable. -/
theorem readPrimary_name :
    readPrimary (limit + 1) ({ line, token := .name name.name } :: closing last after) =
      some (.variable name.name, closing last after) := by
  rw [readPrimary, nameExpression, name.noConstant]

theorem readSigned_name :
    readSigned (limit + 2) true ({ line, token := .name name.name } :: closing last after) =
      some (.variable name.name, closing last after) := by
  rw [readSigned]
  simp only [afterSign?, readPrimary_name]
  rfl

/-- A product before the end of a placeholder. -/
theorem readRow_name :
    readRow (limit + 7) ({ line, token := .name name.name } :: closing last after) =
      some (.variable name.name, closing last after) := by
  have power : readOperand (limit + 3) .power
      ({ line, token := .name name.name } :: closing last after) =
        some (.variable name.name, closing last after) := by
    rw [readOperand, readSigned_name]
  have product : readOperand (limit + 5) .product
      ({ line, token := .name name.name } :: closing last after) =
        some (.variable name.name, closing last after) := by
    rw [readOperand, readRank_closing _ _ _ power]
  rw [readRow, readRank_closing _ _ _ product]
  rfl

/-- A name that is not the word for a negation is read as a comparison without any. -/
theorem readNegation_name :
    readNegation (limit + 10) ({ line, token := .name name.name } :: closing last after) =
      some (.variable name.name, closing last after) := by
  have sum : readOperand (limit + 8) .sum
      ({ line, token := .name name.name } :: closing last after) =
        some (.variable name.name, closing last after) := by
    rw [readOperand, readRow_name]
  have noWord : afterName? "not" ({ line, token := .name name.name } :: closing last after) =
      none := if_neg name.noWord
  rw [readNegation, noWord, readRank_closing _ _ _ sum]
  rfl

theorem readChoice_name :
    readChoice (limit + 15) ({ line, token := .name name.name } :: closing last after) =
      some (.variable name.name, closing last after) := by
  have both : readOperand (limit + 11) .both
      ({ line, token := .name name.name } :: closing last after) =
        some (.variable name.name, closing last after) := by
    rw [readOperand, readNegation_name]
  have either : readOperand (limit + 13) .either
      ({ line, token := .name name.name } :: closing last after) =
        some (.variable name.name, closing last after) := by
    rw [readOperand, readRank_closing _ _ _ both]
  rw [readChoice, readRank_closing _ _ _ either]
  rfl

/-- What a placeholder shows is the variable of its name. -/
theorem readTuple_name :
    readTuple (limit + 17) .shown ({ line, token := .name name.name } :: closing last after) =
      some (.variable name.name, closing last after) := by
  have sequence : readSequence (limit + 16) .shown
      ({ line, token := .name name.name } :: closing last after) =
        some ([.variable name.name], false, closing last after) := by
    have noEnd : TupleForm.shown.ends
        ({ line, token := .name name.name } :: closing last after) = false := rfl
    have choices : TupleForm.shown.choices = true := rfl
    simp only [readSequence, noEnd, choices, Bool.false_eq_true, if_false, if_true,
      readChoice_name]
    rfl
  rw [readTuple, sequence]
  rfl

end Reading

/-! ## Statements -/

/-- Tokens that stand for a body are read as this body. -/
theorem readBody_spells {lexemes : List Lexeme} {body : List Statement}
    (spells : Spells lexemes body) : ∀ limit, readingDepth lexemes ≤ limit →
      readBody limit [] lexemes = some (body, []) := by
  induction spells with
  | nil =>
    intro limit enough
    obtain ⟨fewer, rfl⟩ : ∃ fewer, limit = fewer + 1 :=
      ⟨limit - 1, by rw [readingDepth] at enough; omega⟩
    rfl
  | text rest ih =>
    intro limit enough
    rw [readingDepth, List.length_cons] at enough
    obtain ⟨fewer, rfl⟩ : ∃ fewer, limit = fewer + 1 := ⟨limit - 1, by omega⟩
    rw [readBody, ih fewer (by rw [readingDepth]; omega)]
    rfl
  | @slot first second third lexemes body name rest ih =>
    intro limit enough
    rw [readingDepth, List.length_cons, List.length_cons, List.length_cons] at enough
    obtain ⟨fewer, rfl⟩ : ∃ fewer, limit = fewer + 18 := ⟨limit - 18, by omega⟩
    have shown := readTuple_name fewer third lexemes second name
    rw [readBody, ← closing, shown]
    simp only [Option.bind_eq_bind, Option.bind_some, closing, afterCloseShow?,
      ih (fewer + 17) (by rw [readingDepth]; omega)]

/-- **A pattern is read as what it looks like**: its plain texts, and a variable to be shown
for every placeholder. -/
theorem parse_pattern (pattern : Pattern) : parse pattern.text = .ok pattern.body := by
  have uniform : uniformLines pattern.text.toList = pattern.text.toList :=
    uniformLines_eq_self pattern.uniform_text
  obtain ⟨lexemes, scanned, spells⟩ :=
    scan_pattern pattern (pattern.text.toList.length + 2) 1 (by omega)
  have read : statements? lexemes = some pattern.body := by
    rw [statements?, readBody_spells spells _ (Nat.le_refl _)]
  rw [parse, tokens]
  simp only [uniform, scanned, read]
  rfl

end Template

end CodeLayout
