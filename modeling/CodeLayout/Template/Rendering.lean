import CodeLayout.Template.Running
import CodeLayout.Template.Statement
import CodeLayout.Text.Surrogate

/-!
# Rendering templates

A template is read, made ready and run with variables. Only a text with two opening braces
in a row is a template. Any other text stands for itself.
-/

set_option autoImplicit false

namespace CodeLayout

namespace Template

/-- The wording for a constant on the first line that cannot be read. -/
def constantFault (wording : String) : Fault := .constant (wording ++ " (<unknown>, line 1)")

/-- The fault of a template that cannot be read as tokens. -/
def Unreadable.fault : Unreadable → Fault
  | .text => .malformed
  | .digits count => .value (.writtenDigits count)
  | .numeral digit =>
    let code := (hexText 4 (codeOf digit)).map Char.toUpper
    constantFault ("invalid character '" ++ String.singleton digit ++ "' (U+" ++
      String.ofList code ++ ")")
  | .exponent => constantFault "invalid decimal literal"

/-- The fault of tokens that are not read as statements. With a tag that has no meaning here
they may be well formed. -/
def unreadFault (lexemes : List Lexeme) : Fault :=
  match unsupportedTag? lexemes with
  | some word => .unsupported word
  | none => .malformed

/-- The statements of a template. -/
def parse (template : String) : Except Fault (List Statement) :=
  match tokens template with
  | .error unreadable => .error unreadable.fault
  | .ok lexemes => ((statements? lexemes).map Except.ok).getD (.error (unreadFault lexemes))

/-- The variables of a template from the entries of a mapping, whose keys have to be
texts. -/
def Scope.ofEntries : List (Value × Value) → Run Scope
  | [] => return []
  | (key, value) :: rest =>
    match key.text? with
    | some name => do
      let object ← Object.ofValue value
      return (name, object) :: (← Scope.ofEntries rest)
    | none => fail (.mismatch .variableName)

/-- A text that has been filled in, and the variables after that: an expression may change
the collections that they hold. -/
structure Filling where
  /-- The text, or why there is none. -/
  result : Except Fault String
  /-- The variables. -/
  bindings : List (Value × Value)

/-- The variables after a rendering. -/
def Store.bindingsAfter (store : Store) (scope : Scope) (bindings : List (Value × Value)) :
    List (Value × Value) :=
  if store.changed then
    (bindings.zip scope).map fun entry =>
      (entry.1.1, store.valueOf [] greatestNesting entry.2.2)
  else
    bindings

/-- Runs statements with variables. -/
def runWith (bindings : List (Value × Value)) (body : List Statement) : Filling :=
  match runFrom Store.empty (Scope.ofEntries bindings) with
  | (.error fault, _) => { result := .error fault, bindings }
  | (.ok scope, store) =>
    if (scope.lookup takenName).isSome then
      { result := .error (.mismatch .takenName), bindings }
    else
      let (result, store) := runFrom store (Statement.runAll scope body)
      { result := result.map (·.1), bindings := store.bindingsAfter scope bindings }

/-- Renders a template with variables. -/
def render (bindings : List (Value × Value)) (template : String) : Filling :=
  match parse template with
  | .error fault => { result := .error fault, bindings }
  | .ok body =>
    match (runFrom Store.empty (Statement.framePrepared [] [] body)).1 with
    | .error fault => { result := .error fault, bindings }
    | .ok prepared => runWith bindings prepared

/-- Whether a text is a template: two opening braces stand in a row in it. -/
def isTemplate (text : String) : Bool := isPartOf ['\x7b', '\x7b'] text.toList

/-- A text with its template parts filled in. -/
def fill (bindings : List (Value × Value)) (text : String) : Filling :=
  if isTemplate text then render bindings text else { result := .ok text, bindings }

end Template

end CodeLayout
