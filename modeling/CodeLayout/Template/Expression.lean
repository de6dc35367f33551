import CodeLayout.Template.Token
import CodeLayout.Template.Tree

/-!
# Reading expressions

An expression is read from the tokens of a template. From the loosest to the
tightest, the operators are: a choice, `or`, `and`, `not`, comparisons, sums, rows
of texts, products, powers and signs. Powers are read from the left like the
other operators. Access to parts and calls bind tighter than a sign, and filters
and tests come after it.

Every reading function takes the tokens and gives the tree with the tokens that
are left. The first argument of a function bounds the depth of its calls; the
number of tokens, times the number of ranks of operators, is enough.

A range of indices among several keys, and in a call a name with two arguments or a name
that calls use themselves, are read, but have no meaning here.
-/

set_option autoImplicit false

namespace CodeLayout

namespace Template

/-- The line of the next token. After the last one there is no line. -/
def nextLine : List Lexeme → Nat
  | [] => 0
  | first :: _ => first.line

/-- What is left after a sign, if it is next. -/
def afterSign? (sign : String) : List Lexeme → Option (List Lexeme)
  | { token := .sign next, .. } :: rest => if next = sign then some rest else none
  | _ => none

/-- What is left after a word, if it is next. -/
def afterName? (name : String) : List Lexeme → Option (List Lexeme)
  | { token := .name next, .. } :: rest => if next = name then some rest else none
  | _ => none

/-- Whether a sign is next. -/
def signNext (sign : String) (tokens : List Lexeme) : Bool := (afterSign? sign tokens).isSome

/-- Whether a word is next. -/
def nameNext (name : String) (tokens : List Lexeme) : Bool := (afterName? name tokens).isSome

/-- Whether the end of a tag or of a shown expression is next. -/
def endNext : List Lexeme → Bool
  | { token := .closeShow, .. } :: _ => true
  | { token := .closeTag, .. } :: _ => true
  | _ => false

/-- A name that is next. -/
def takeName? : List Lexeme → Option (String × List Lexeme)
  | { token := .name name, .. } :: rest => some (name, rest)
  | _ => none

/-- The texts in quotes that are next, put together. -/
def takeTexts : List Lexeme → String × List Lexeme
  | { token := .text first, .. } :: rest =>
    let others := takeTexts rest
    (first ++ others.1, others.2)
  | rest => ("", rest)

/-- Names after points, which belong to the name before them. -/
def takeDottedNames : List Lexeme → String × List Lexeme
  | { token := .sign ".", .. } :: { token := .name name, .. } :: rest =>
    let others := takeDottedNames rest
    ("." ++ name ++ others.1, others.2)
  | rest => ("", rest)

/-- The name of a filter or test that is next. -/
def takeFilterName? (tokens : List Lexeme) : Option (String × List Lexeme) :=
  (takeName? tokens).map fun first =>
    let others := takeDottedNames first.2
    (first.1 ++ others.1, others.2)

/-- The names that stand for constants. -/
def constantNames : List (String × Scalar) :=
  [("true", .bool true), ("True", .bool true), ("false", .bool false), ("False", .bool false),
    ("none", .null), ("None", .null)]

/-- The expression that a name stands for. -/
def nameExpression (name : String) : Expression :=
  match constantNames.lookup name with
  | some scalar => .constant scalar
  | none => .variable name

/-- The comparison that is next. -/
def takeComparison? : List Lexeme → Option (Comparison × List Lexeme)
  | { token := .sign "==", .. } :: rest => some (.equal, rest)
  | { token := .sign "!=", .. } :: rest => some (.different, rest)
  | { token := .sign "<", .. } :: rest => some (.less, rest)
  | { token := .sign "<=", .. } :: rest => some (.atMost, rest)
  | { token := .sign ">", .. } :: rest => some (.greater, rest)
  | { token := .sign ">=", .. } :: rest => some (.atLeast, rest)
  | { token := .name "in", .. } :: rest => some (.within, rest)
  | { token := .name "not", .. } :: { token := .name "in", .. } :: rest => some (.notWithin, rest)
  | _ => none

/-- The ranks of the operators that are read in chains from the left. -/
inductive Rank where
  | either
  | both
  | sum
  | product
  | power
deriving DecidableEq, Repr

/-- The operator of a rank that is next, as the way to combine two expressions. -/
def takeOperator? : Rank → List Lexeme →
    Option ((Expression → Expression → Expression) × List Lexeme)
  | .either, { token := .name "or", .. } :: rest => some (.either, rest)
  | .both, { token := .name "and", .. } :: rest => some (.both, rest)
  | .sum, { token := .sign "+", .. } :: rest => some (.operation .add, rest)
  | .sum, { token := .sign "-", .. } :: rest => some (.operation .subtract, rest)
  | .product, { token := .sign "*", .. } :: rest => some (.operation .multiply, rest)
  | .product, { token := .sign "/", .. } :: rest => some (.operation .divide, rest)
  | .product, { token := .sign "//", .. } :: rest => some (.operation .floorDivide, rest)
  | .product, { token := .sign "%", .. } :: rest => some (.operation .remainder, rest)
  | .power, { token := .sign "**", .. } :: rest => some (.operation .power, rest)
  | _, _ => none

/-- Whether an argument of a test is next, which needs no parentheses. -/
def argumentNext : List Lexeme → Bool
  | { token := .name name, .. } :: _ => !(["else", "or", "and"].contains name)
  | { token := .text _, .. } :: _ => true
  | { token := .int _, .. } :: _ => true
  | { token := .float _, .. } :: _ => true
  | { token := .sign sign, .. } :: _ => ["(", "[", "\x7b"].contains sign
  | _ => false

/-- How a sequence of expressions without brackets of its own is read. -/
structure TupleForm where
  /-- Whether choices are read, or only the ranks below. -/
  choices : Bool
  /-- Whether the sequence may be empty. -/
  mayBeEmpty : Bool
  /-- A word that ends the sequence after a comma. -/
  ending : Option String

namespace TupleForm

/-- The sequence inside parentheses. -/
def inParentheses : TupleForm := { choices := true, mayBeEmpty := true, ending := none }

/-- The sequence that is shown or assigned. -/
def shown : TupleForm := { choices := true, mayBeEmpty := false, ending := none }

/-- The condition of a tag. -/
def condition : TupleForm := { choices := false, mayBeEmpty := false, ending := none }

/-- The source of a repetition. -/
def source : TupleForm := { choices := false, mayBeEmpty := false, ending := some "recursive" }

/-- Whether the sequence ends here. -/
def ends (form : TupleForm) (tokens : List Lexeme) : Bool :=
  endNext tokens || signNext ")" tokens ||
    match form.ending with
    | some word => nameNext word tokens
    | none => false

end TupleForm

/-- The arguments of a call together with one more, if it may stand after them: those by
position come first, and nothing comes after named arguments that are spread out. -/
def Arguments.addPositional? (found : Arguments Expression) (value : Expression) :
    Option (Arguments Expression) :=
  if found.named.isEmpty && found.spread.isNone && found.namedSpread.isNone then
    some { found with positional := found.positional ++ [value] }
  else
    none

/-- The same with an argument by name. -/
def Arguments.addNamed? (found : Arguments Expression) (name : String) (value : Expression) :
    Option (Arguments Expression) :=
  if found.namedSpread.isNone then
    let wrong := (found.named.lookup name).isSome || reservedArguments.contains name
    some { found with named := found.named ++ [(name, if wrong then .unsupported name else value)] }
  else
    none

/-- The same with something whose items are arguments. -/
def Arguments.addSpread? (found : Arguments Expression) (value : Expression) :
    Option (Arguments Expression) :=
  if found.spread.isNone && found.namedSpread.isNone then some { found with spread := some value }
  else none

/-- The same with something whose entries are arguments. -/
def Arguments.addNamedSpread? (found : Arguments Expression) (value : Expression) :
    Option (Arguments Expression) :=
  if found.namedSpread.isNone then some { found with namedSpread := some value } else none

/-- What stands between commas in brackets: a key, or a range of indices. -/
inductive Subscript where
  | key (key : Expression)
  | slice (start stop step : Option Expression)

/-- The part of an expression that some subscripts lead to. -/
def Expression.subscripted (owner : Expression) : List Subscript → Expression
  | [.key only] => .item owner only
  | [.slice start stop step] => .slice owner start stop step
  | several =>
    match several.mapM key? with
    | some keys => .item owner (.tuple keys)
    | none => .item owner (.unsupported "slice")
where
  /-- The key that a subscript is, if it is one. -/
  key? : Subscript → Option Expression
    | .key key => some key
    | .slice _ _ _ => none

mutual

/-- Reads a choice or an expression of a lower rank. -/
def readChoice : Nat → List Lexeme → Option (Expression × List Lexeme)
  | 0, _ => none
  | limit + 1, tokens => do
    let (first, rest) ← readRank limit .either tokens
    choiceTail limit (nextLine tokens) first rest

/-- Reads the conditions after an expression. -/
def choiceTail : Nat → Nat → Expression → List Lexeme → Option (Expression × List Lexeme)
  | 0, _, _, _ => none
  | limit + 1, line, whenTrue, tokens =>
    match afterName? "if" tokens with
    | none => some (whenTrue, tokens)
    | some rest => do
      let (condition, rest) ← readRank limit .either rest
      match afterName? "else" rest with
      | some rest =>
        let (otherwise, rest) ← readChoice limit rest
        choiceTail limit (nextLine rest) (.choice line condition whenTrue (some otherwise)) rest
      | none => choiceTail limit (nextLine rest) (.choice line condition whenTrue none) rest

/-- Reads a chain of operators of a rank. -/
def readRank : Nat → Rank → List Lexeme → Option (Expression × List Lexeme)
  | 0, _, _ => none
  | limit + 1, rank, tokens => do
    let (first, rest) ← readOperand limit rank tokens
    rankTail limit rank first rest

/-- Reads the operators of a rank after an expression. -/
def rankTail : Nat → Rank → Expression → List Lexeme → Option (Expression × List Lexeme)
  | 0, _, _, _ => none
  | limit + 1, rank, left, tokens =>
    match takeOperator? rank tokens with
    | none => some (left, tokens)
    | some (combine, rest) => do
      let (right, rest) ← readOperand limit rank rest
      rankTail limit rank (combine left right) rest

/-- Reads an operand of a rank. -/
def readOperand : Nat → Rank → List Lexeme → Option (Expression × List Lexeme)
  | 0, _, _ => none
  | limit + 1, .either, tokens => readRank limit .both tokens
  | limit + 1, .both, tokens => readNegation limit tokens
  | limit + 1, .sum, tokens => readRow limit tokens
  | limit + 1, .product, tokens => readRank limit .power tokens
  | limit + 1, .power, tokens => readSigned limit true tokens

/-- Reads a negation or a comparison. -/
def readNegation : Nat → List Lexeme → Option (Expression × List Lexeme)
  | 0, _ => none
  | limit + 1, tokens =>
    match afterName? "not" tokens with
    | some rest => do
      let (operand, rest) ← readNegation limit rest
      some (.negation operand, rest)
    | none => do
      let (first, rest) ← readRank limit .sum tokens
      let (comparisons, rest) ← readComparisons limit rest
      some (if comparisons.isEmpty then first else .comparison first comparisons, rest)

/-- Reads the comparisons after an expression. -/
def readComparisons : Nat → List Lexeme → Option (List (Comparison × Expression) × List Lexeme)
  | 0, _ => none
  | limit + 1, tokens =>
    match takeComparison? tokens with
    | none => some ([], tokens)
    | some (comparison, rest) => do
      let (operand, rest) ← readRank limit .sum rest
      let (others, rest) ← readComparisons limit rest
      some ((comparison, operand) :: others, rest)

/-- Reads a row of texts. -/
def readRow : Nat → List Lexeme → Option (Expression × List Lexeme)
  | 0, _ => none
  | limit + 1, tokens => do
    let (first, rest) ← readRank limit .product tokens
    let (others, rest) ← rowTail limit rest
    some (if others.isEmpty then first else .row (first :: others), rest)

/-- Reads the further parts of a row of texts. -/
def rowTail : Nat → List Lexeme → Option (List Expression × List Lexeme)
  | 0, _ => none
  | limit + 1, tokens =>
    match afterSign? "~" tokens with
    | none => some ([], tokens)
    | some rest => do
      let (part, rest) ← readRank limit .product rest
      let (others, rest) ← rowTail limit rest
      some (part :: others, rest)

/-- Reads an expression that may have a sign, with filters or without. -/
def readSigned : Nat → Bool → List Lexeme → Option (Expression × List Lexeme)
  | 0, _, _ => none
  | limit + 1, filters, tokens => do
    let (core, rest) ←
      match afterSign? "-" tokens with
      | some rest => do
        let (operand, rest) ← readSigned limit false rest
        some (Expression.sign .minus operand, rest)
      | none =>
        match afterSign? "+" tokens with
        | some rest => do
          let (operand, rest) ← readSigned limit false rest
          some (Expression.sign .plus operand, rest)
        | none => readPrimary limit tokens
    let (accessed, rest) ← accessTail limit core rest
    if filters then filterTail limit accessed rest else some (accessed, rest)

/-- Reads a constant, a variable, or an expression in brackets. -/
def readPrimary : Nat → List Lexeme → Option (Expression × List Lexeme)
  | 0, _ => none
  | limit + 1, tokens =>
    match tokens with
    | { token := .name name, .. } :: rest => some (nameExpression name, rest)
    | { token := .text _, .. } :: _ =>
      let texts := takeTexts tokens
      some (.constant (.text texts.1), texts.2)
    | { token := .int number, .. } :: rest => some (.constant (.int number), rest)
    | { token := .float number, .. } :: rest => some (.constant (.float number), rest)
    | { token := .sign "(", .. } :: rest => do
      let (inner, rest) ← readTuple limit .inParentheses rest
      let rest ← afterSign? ")" rest
      some (inner, rest)
    | { token := .sign "[", .. } :: rest => do
      let (items, rest) ← readItems limit true rest
      some (.list items, rest)
    | { token := .sign "\x7b", .. } :: rest => do
      let (entries, rest) ← readEntries limit true rest
      some (.map entries, rest)
    | _ => none

/-- Reads expressions with commas between them: one alone is itself, others are a
tuple. -/
def readTuple : Nat → TupleForm → List Lexeme → Option (Expression × List Lexeme)
  | 0, _, _ => none
  | limit + 1, form, tokens => do
    let (items, comma, rest) ← readSequence limit form tokens
    match items with
    | [only] => some (if comma then .tuple [only] else only, rest)
    | [] => if form.mayBeEmpty then some (.tuple [], rest) else none
    | items => some (.tuple items, rest)

/-- Reads expressions with commas between them, and whether a comma was there. -/
def readSequence : Nat → TupleForm → List Lexeme →
    Option (List Expression × Bool × List Lexeme)
  | 0, _, _ => none
  | limit + 1, form, tokens =>
    if form.ends tokens then
      some ([], false, tokens)
    else do
      let (first, rest) ←
        if form.choices then readChoice limit tokens else readRank limit .either tokens
      match afterSign? "," rest with
      | none => some ([first], false, rest)
      | some rest => do
        let (others, _, rest) ← readSequence limit form rest
        some (first :: others, true, rest)

/-- Reads the items of a list up to its closing bracket. -/
def readItems : Nat → Bool → List Lexeme → Option (List Expression × List Lexeme)
  | 0, _, _ => none
  | limit + 1, atStart, tokens =>
    match afterSign? "]" tokens with
    | some rest => some ([], rest)
    | none => do
      let tokens ← if atStart then some tokens else afterSign? "," tokens
      match afterSign? "]" tokens with
      | some rest => some ([], rest)
      | none =>
        let (first, rest) ← readChoice limit tokens
        let (others, rest) ← readItems limit false rest
        some (first :: others, rest)

/-- Reads the entries of a mapping up to its closing brace. -/
def readEntries : Nat → Bool → List Lexeme → Option (List (Expression × Expression) × List Lexeme)
  | 0, _, _ => none
  | limit + 1, atStart, tokens =>
    match afterSign? "\x7d" tokens with
    | some rest => some ([], rest)
    | none => do
      let tokens ← if atStart then some tokens else afterSign? "," tokens
      match afterSign? "\x7d" tokens with
      | some rest => some ([], rest)
      | none =>
        let (key, rest) ← readChoice limit tokens
        let rest ← afterSign? ":" rest
        let (value, rest) ← readChoice limit rest
        let (others, rest) ← readEntries limit false rest
        some ((key, value) :: others, rest)

/-- Reads parts and calls after an expression. -/
def accessTail : Nat → Expression → List Lexeme → Option (Expression × List Lexeme)
  | 0, _, _ => none
  | limit + 1, owner, tokens =>
    match tokens with
    | { token := .sign ".", .. } :: { token := .name name, .. } :: rest =>
      accessTail limit (.member owner name) rest
    | { token := .sign ".", .. } :: { token := .int number, .. } :: rest =>
      accessTail limit (.item owner (.constant (.int number))) rest
    | { token := .sign ".", .. } :: _ => none
    | { token := .sign "[", .. } :: rest => do
      let (subscripts, rest) ← readSubscripts limit true rest
      accessTail limit (owner.subscripted subscripts) rest
    | { token := .sign "(", .. } :: rest => do
      let (arguments, rest) ← readArguments limit true .empty rest
      accessTail limit (.call owner arguments) rest
    | tokens => some (owner, tokens)

/-- Reads subscripts with commas between them, up to the closing bracket. -/
def readSubscripts : Nat → Bool → List Lexeme → Option (List Subscript × List Lexeme)
  | 0, _, _ => none
  | limit + 1, atStart, tokens =>
    match afterSign? "]" tokens with
    | some rest => some ([], rest)
    | none => do
      let rest ← if atStart then some tokens else afterSign? "," tokens
      let (first, rest) ← readSubscript limit rest
      let (others, rest) ← readSubscripts limit false rest
      some (first :: others, rest)

/-- Reads an index, a key or a range of indices. -/
def readSubscript : Nat → List Lexeme → Option (Subscript × List Lexeme)
  | 0, _ => none
  | limit + 1, tokens => do
    let (start, rest) ← readBound limit tokens
    match afterSign? ":" rest with
    | some rest =>
      let (stop, rest) ← readBound limit rest
      let (step, rest) ←
        match afterSign? ":" rest with
        | some rest => readBound limit rest
        | none => some (none, rest)
      some (.slice start stop step, rest)
    | none => start.map fun key => (.key key, rest)

/-- Reads a bound of a range of indices, which may be missing. -/
def readBound : Nat → List Lexeme → Option (Option Expression × List Lexeme)
  | 0, _ => none
  | limit + 1, tokens =>
    if signNext ":" tokens || signNext "]" tokens || signNext "," tokens then
      some (none, tokens)
    else do
      let (bound, rest) ← readChoice limit tokens
      some (some bound, rest)

/-- Reads further arguments of a call up to the closing parenthesis. -/
def readArguments : Nat → Bool → Arguments Expression → List Lexeme →
    Option (Arguments Expression × List Lexeme)
  | 0, _, _, _ => none
  | limit + 1, atStart, found, tokens =>
    match afterSign? ")" tokens with
    | some rest => some (found, rest)
    | none => do
      let tokens ← if atStart then some tokens else afterSign? "," tokens
      match tokens with
      | { token := .sign ")", .. } :: rest => some (found, rest)
      | { token := .sign "*", .. } :: rest =>
        let (value, rest) ← readChoice limit rest
        readArguments limit false (← found.addSpread? value) rest
      | { token := .sign "**", .. } :: rest =>
        let (value, rest) ← readChoice limit rest
        readArguments limit false (← found.addNamedSpread? value) rest
      | { token := .name name, .. } :: { token := .sign "=", .. } :: rest =>
        let (value, rest) ← readChoice limit rest
        readArguments limit false (← found.addNamed? name value) rest
      | tokens =>
        let (value, rest) ← readChoice limit tokens
        readArguments limit false (← found.addPositional? value) rest

/-- Reads filters, tests and calls after an expression. -/
def filterTail : Nat → Expression → List Lexeme → Option (Expression × List Lexeme)
  | 0, _, _ => none
  | limit + 1, operand, tokens =>
    match tokens with
    | { token := .sign "|", .. } :: rest => do
      let (filter, rest) ← readFilter limit rest
      filterTail limit (.filter operand filter.name filter.arguments) rest
    | { token := .name "is", .. } :: rest => do
      let negated := nameNext "not" rest
      let (name, rest) ← takeFilterName? ((afterName? "not" rest).getD rest)
      let (arguments, rest) ← readTestArguments limit rest
      let test := Expression.test operand name arguments
      filterTail limit (if negated then .negation test else test) rest
    | { token := .sign "(", .. } :: rest => do
      let (arguments, rest) ← readArguments limit true .empty rest
      filterTail limit (.call operand arguments) rest
    | tokens => some (operand, tokens)

/-- Reads a filter after its bar. -/
def readFilter : Nat → List Lexeme → Option (FilterUse × List Lexeme)
  | 0, _ => none
  | limit + 1, tokens => do
    let (name, rest) ← takeFilterName? tokens
    match afterSign? "(" rest with
    | some rest =>
      let (arguments, rest) ← readArguments limit true .empty rest
      some ({ name, arguments }, rest)
    | none => some ({ name, arguments := .empty }, rest)

/-- Reads the arguments of a test. A single one needs no parentheses. -/
def readTestArguments : Nat → List Lexeme → Option (Arguments Expression × List Lexeme)
  | 0, _ => none
  | limit + 1, tokens =>
    match afterSign? "(" tokens with
    | some rest => readArguments limit true .empty rest
    | none =>
      if nameNext "is" tokens then
        none
      else if argumentNext tokens then do
        let (core, rest) ← readPrimary limit tokens
        let (argument, rest) ← accessTail limit core rest
        some ({ Arguments.empty with positional := [argument] }, rest)
      else
        some (.empty, tokens)

end

/-- A bound for the depth of calls that read an expression from these tokens. -/
def readingDepth (tokens : List Lexeme) : Nat := 24 * (tokens.length + 1)

end Template

end CodeLayout
