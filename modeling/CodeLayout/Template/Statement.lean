import CodeLayout.Template.Expression

/-!
# Reading statements

The body of a template is read up to its end or up to a tag that ends the body. A tag
begins with a word: `if`, `for`, `set`, `with`, `filter` or `print`. A body between tags is
read by the same function, so bodies may be nested.

The tags by which templates take parts of each other, define functions and turn the marking
up of texts on have no meaning here (`unsupportedTags`). A template with one of them is not
read.
-/

set_option autoImplicit false

namespace CodeLayout

namespace Template

/-- What is left after the end of a tag, if it is next. -/
def afterCloseTag? : List Lexeme → Option (List Lexeme)
  | { token := .closeTag, .. } :: rest => some rest
  | _ => none

/-- What is left after the end of a shown expression, if it is next. -/
def afterCloseShow? : List Lexeme → Option (List Lexeme)
  | { token := .closeShow, .. } :: rest => some rest
  | _ => none

mutual

/-- An expression as something to assign to. -/
def Expression.target? : Expression → Option Target
  | .variable name => some (.name name)
  | .tuple items => (Expression.targets? items).map .tuple
  | _ => none

/-- Expressions as things to assign to. -/
def Expression.targets? : List Expression → Option (List Target)
  | [] => some []
  | first :: rest => do
    let target ← first.target?
    let targets ← Expression.targets? rest
    some (target :: targets)

end

/-- Where things to assign to stand. -/
structure TargetForm where
  /-- Whether parts of objects may be assigned to. -/
  members : Bool
  /-- A word that ends the targets. -/
  ending : Option String

namespace TargetForm

/-- The targets of an assignment. -/
def assigned : TargetForm := { members := true, ending := none }

/-- The targets of a repetition. -/
def repeated : TargetForm := { members := false, ending := some "in" }

/-- The targets of a binding. -/
def bound : TargetForm := { members := false, ending := none }

end TargetForm

/-- Reads one thing to assign to. -/
def readOneTarget (limit : Nat) (form : TargetForm) (tokens : List Lexeme) :
    Option (Target × List Lexeme) :=
  match form.members, tokens with
  | true, { token := .name owner, .. } :: { token := .sign ".", .. } :: rest =>
    if (constantNames.lookup owner).isSome then none
    else (takeName? rest).map fun (name, rest) => (.member owner name, rest)
  | _, tokens => do
    let (expression, rest) ← readPrimary limit tokens
    (expression.target?).map fun target => (target, rest)

/-- Reads things to assign to with commas between them, up to a word that ends them,
and whether a comma was there. -/
def readTargets : Nat → TargetForm → List Lexeme → Option (List Target × Bool × List Lexeme)
  | 0, _, _ => none
  | limit + 1, form, tokens =>
    if endNext tokens || form.ending.any (nameNext · tokens) then
      some ([], false, tokens)
    else do
      let (first, rest) ← readOneTarget limit form tokens
      match afterSign? "," rest with
      | none => some ([first], false, rest)
      | some rest =>
        let (others, _, rest) ← readTargets limit form rest
        some (first :: others, true, rest)

/-- Reads what is assigned to. -/
def readTarget (limit : Nat) (form : TargetForm) (tokens : List Lexeme) :
    Option (Target × List Lexeme) := do
  let (targets, comma, rest) ← readTargets limit form tokens
  match targets, comma with
  | [], _ => none
  | [only], false => some (only, rest)
  | targets, _ => some (.tuple targets, rest)

/-- Reads filters, each after a bar. -/
def readFilters : Nat → List Lexeme → Option (List FilterUse × List Lexeme)
  | 0, _ => none
  | limit + 1, tokens =>
    match afterSign? "|" tokens with
    | none => some ([], tokens)
    | some rest => do
      let (first, rest) ← readFilter limit rest
      let (others, rest) ← readFilters limit rest
      some (first :: others, rest)

/-- Reads values with names, up to the end of their tag. -/
def readBindings : Nat → Bool → List Lexeme →
    Option (List (Target × Expression) × List Lexeme)
  | 0, _, _ => none
  | limit + 1, atStart, tokens =>
    if endNext tokens then
      some ([], tokens)
    else do
      let rest ← if atStart then some tokens else afterSign? "," tokens
      let (target, rest) ← readTarget limit .bound rest
      let rest ← afterSign? "=" rest
      let (value, rest) ← readChoice limit rest
      let (others, rest) ← readBindings limit false rest
      some ((target, value) :: others, rest)

/-- Reads expressions to be shown in a row, up to the end of their tag. -/
def readShown : Nat → Bool → List Lexeme → Option (List Statement × List Lexeme)
  | 0, _, _ => none
  | limit + 1, atStart, tokens =>
    if endNext tokens then
      some ([], tokens)
    else do
      let rest ← if atStart then some tokens else afterSign? "," tokens
      let (first, rest) ← readChoice limit rest
      let (others, rest) ← readShown limit false rest
      some (.show first :: others, rest)

/-- The words of the tags that end the first body of a choice. -/
def choiceEnds : List String := ["elif", "else", "endif"]

/-- The words of the tags that end the first body of a repetition. -/
def repetitionEnds : List String := ["endfor", "else"]

mutual

/-- Reads a body up to one of the words of tags, with that word still to come, or
up to the end of the template. -/
def readBody : Nat → List String → List Lexeme → Option (List Statement × List Lexeme)
  | 0, _, _ => none
  | limit + 1, ends, tokens =>
    match tokens with
    | [] => some ([], [])
    | { token := .data plain, .. } :: rest => do
      let (others, rest) ← readBody limit ends rest
      some (.text plain :: others, rest)
    | { token := .openShow, .. } :: rest => do
      let (shown, rest) ← readTuple limit .shown rest
      let rest ← afterCloseShow? rest
      let (others, rest) ← readBody limit ends rest
      some (.show shown :: others, rest)
    | { token := .openTag, .. } :: rest => do
      let (word, after) ← takeName? rest
      if ends.contains word then
        some ([], rest)
      else
        let (statement, rest) ← readStatement limit word after
        let rest ← afterCloseTag? rest
        let (others, rest) ← readBody limit ends rest
        some (statement :: others, rest)
    | _ => none

/-- Reads a body after the end of its tag, which has to be ended by one of the
words. A colon may stand before the end of the tag. -/
def readInner : Nat → List String → List Lexeme →
    Option (List Statement × String × List Lexeme)
  | 0, _, _ => none
  | limit + 1, ends, tokens => do
    let rest ← afterCloseTag? ((afterSign? ":" tokens).getD tokens)
    let (body, rest) ← readBody limit ends rest
    let (word, rest) ← takeName? rest
    some (body, word, rest)

/-- Reads a statement after the word of its tag, up to the end of its last tag. -/
def readStatement : Nat → String → List Lexeme → Option (Statement × List Lexeme)
  | 0, _, _ => none
  | limit + 1, "if", tokens => readConditions limit tokens
  | limit + 1, "for", tokens => do
    let (target, rest) ← readTarget limit .repeated tokens
    let rest ← afterName? "in" rest
    let (source, rest) ← readTuple limit .source rest
    let (condition, rest) ←
      match afterName? "if" rest with
      | some rest => do
        let (condition, rest) ← readChoice limit rest
        some (some condition, rest)
      | none => some (none, rest)
    let reentrant := nameNext "recursive" rest
    let rest := (afterName? "recursive" rest).getD rest
    let (body, word, rest) ← readInner limit repetitionEnds rest
    if word = "else" then
      let (otherwise, _, rest) ← readInner limit ["endfor"] rest
      some (.repetition target source condition reentrant body otherwise, rest)
    else
      some (.repetition target source condition reentrant body [], rest)
  | limit + 1, "set", tokens => do
    let (target, rest) ← readTarget limit .assigned tokens
    match afterSign? "=" rest with
    | some rest =>
      let (value, rest) ← readTuple limit .shown rest
      some (.assignment target value, rest)
    | none =>
      let (filters, rest) ← readFilters limit rest
      let (body, _, rest) ← readInner limit ["endset"] rest
      some (.capture target filters body, rest)
  | limit + 1, "with", tokens => do
    let (bindings, rest) ← readBindings limit true tokens
    let (body, _, rest) ← readInner limit ["endwith"] rest
    some (.binding bindings body, rest)
  | limit + 1, "filter", tokens => do
    let (first, rest) ← readFilter limit tokens
    let (others, rest) ← readFilters limit rest
    let (body, _, rest) ← readInner limit ["endfilter"] rest
    some (.filtered (first :: others) body, rest)
  | limit + 1, "print", tokens => do
    let (shown, rest) ← readShown limit true tokens
    some (.binding [] shown, rest)
  | _, _, _ => none

/-- Reads a condition and the bodies that it chooses from. -/
def readConditions : Nat → List Lexeme → Option (Statement × List Lexeme)
  | 0, _ => none
  | limit + 1, tokens => do
    let (condition, rest) ← readTuple limit .condition tokens
    let (body, word, rest) ← readInner limit choiceEnds rest
    if word = "elif" then
      let (other, rest) ← readConditions limit rest
      some (.choice condition body [other], rest)
    else if word = "else" then
      let (otherwise, _, rest) ← readInner limit ["endif"] rest
      some (.choice condition body otherwise, rest)
    else
      some (.choice condition body [], rest)

end

/-- The words of the tags without a meaning here. -/
def unsupportedTags : List String :=
  ["autoescape", "block", "call", "extends", "from", "import", "include", "macro"]

/-- The word of the first tag without a meaning here. -/
def unsupportedTag? : List Lexeme → Option String
  | [] => none
  | { token := .openTag, .. } :: rest =>
    match takeName? rest with
    | some (word, _) => if unsupportedTags.contains word then some word else unsupportedTag? rest
    | none => unsupportedTag? rest
  | _ :: rest => unsupportedTag? rest

/-- Reads a whole template. -/
def statements? (tokens : List Lexeme) : Option (List Statement) :=
  match readBody (readingDepth tokens) [] tokens with
  | some (body, []) => some body
  | _ => none

end Template

end CodeLayout
