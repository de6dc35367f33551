import CodeLayout.Replacement.Field

/-!
# Filling replacement fields

The things for the fields come by position and by name. A field without a name
takes the next position; fields with numbers and fields without cannot be mixed. A specifier may
have fields of its own, which are filled first, but those may not have any again.

The pieces of a text are filled from the left, and the first error ends it.

What fills a field need not be a value of data: `Access` says what can be done with
it, and where its parts are found.
-/

set_option autoImplicit false

namespace CodeLayout

namespace Replacement

/-- The things for the fields of a text. -/
structure Supply (α : Type) where
  /-- The things by position. -/
  positional : List α
  /-- The things by name. -/
  named : List (String × α)

/-- What can be done with the things that fill fields. -/
structure Access (m : Type → Type) (α : Type) where
  /-- Ends with an error. -/
  fail : {β : Type} → FillError → m β
  /-- The part that a step leads to. -/
  follow : α → Step → m α
  /-- The written form. -/
  written : α → m String
  /-- The plain form. -/
  shown : α → m String
  /-- A text as a thing. -/
  ofText : String → α
  /-- The form that a specifier asks for. -/
  format : α → List Char → m String

/-- How the fields so far have chosen their positions. -/
inductive Numbering where
  /-- No field has chosen. -/
  | open
  /-- Fields take the next position, which is this one. -/
  | automatic (next : Nat)
  /-- Fields give their position. -/
  | manual
deriving DecidableEq, Repr

/-- The position of a field without a number, and the numbering after it. -/
def Numbering.next : Numbering → Except FillError (Nat × Numbering)
  | .open => .ok (0, .automatic 1)
  | .automatic next => .ok (next, .automatic (next + 1))
  | .manual => .error (.malformed .unnumbered)

/-- The numbering after a field with a number. -/
def Numbering.give : Numbering → Except FillError Numbering
  | .automatic _ => .error (.malformed .numbered)
  | _ => .ok .manual

section Filling

variable {m : Type → Type} [Monad m] {α : Type}

/-- The result of a step of the filling, or its end with an error. -/
def Access.take {β : Type} (access : Access m α) : Except FillError β → m β
  | .ok found => pure found
  | .error error => access.fail error

/-- What the first word of a name stands for, and the numbering after it. -/
def Supply.start (supply : Supply α) (numbering : Numbering) (first : List Char) :
    Except FillError (α × Numbering) := do
  let position ← match position? first with
    | .error malformation => .error (.malformed malformation)
    | .ok position => .ok position
  let at? (position : Nat) : Except FillError α :=
    match supply.positional[position]? with
    | some value => .ok value
    | none => .error (.noPosition position)
  if first.isEmpty then
    let (position, numbering) ← numbering.next
    .ok (← at? position, numbering)
  else
    match position with
    | some position =>
      let numbering ← numbering.give
      .ok (← at? position, numbering)
    | none =>
      match supply.named.lookup (String.ofList first) with
      | some value => .ok (value, numbering)
      | none => .error (.noKey (quoted (String.ofList first)))

/-- A text with every character outside of ASCII written by its code. -/
def asciiText (text : String) : String :=
  String.ofList (text.toList.flatMap fun character =>
    if character.toNat < 0x80 then [character] else escapeCode (codeOf character))

/-- Something after the conversion of a letter. -/
def Access.convert (access : Access m α) (thing : α) : Option Char → m α
  | none => pure thing
  | some 'r' => do pure (access.ofText (← access.written thing))
  | some 's' => do pure (access.ofText (← access.shown thing))
  | some 'a' => do pure (access.ofText (asciiText (← access.written thing)))
  | some letter => access.fail (.malformed (.conversion letter))

/-- What a field stands for, and the numbering after it. -/
def Access.field (access : Access m α) (supply : Supply α) (numbering : Numbering)
    (field : Field) : m (α × Numbering) := do
  let path := Path.ofName field.name
  let (start, numbering) ← access.take (supply.start numbering path.first)
  let found ← path.steps.foldlM access.follow start
  match path.malformation with
  | some malformation => access.fail (.malformed malformation)
  | none => pure (← access.convert found field.conversion, numbering)

/-- Fills pieces from the left, with a way to fill the specifiers that have fields
of their own. -/
def Access.fillPieces (access : Access m α) (supply : Supply α)
    (fillSpecifier : Numbering → List Char → m (String × Numbering)) :
    Numbering → List Piece → m (String × Numbering)
  | numbering, [] => pure ("", numbering)
  | numbering, .text plain :: rest => do
    let (others, numbering) ← access.fillPieces supply fillSpecifier numbering rest
    pure (String.ofList plain ++ others, numbering)
  | numbering, .field field :: rest => do
    let (value, numbering) ← access.field supply numbering field
    let (specifier, numbering) ←
      if field.nested then fillSpecifier numbering field.specifier
      else pure (String.ofList field.specifier, numbering)
    let shown ← access.format value specifier.toList
    let (others, numbering) ← access.fillPieces supply fillSpecifier numbering rest
    pure (shown ++ others, numbering)

/-- Fills a text in which fields may be nested so deep. -/
def Access.fillNested (access : Access m α) (supply : Supply α) :
    Nat → Numbering → List Char → m (String × Numbering)
  | 0, _, _ => access.fail (.malformed .tooDeep)
  | depth + 1, numbering, text => do
    let found := piecesOf text
    let filled ← access.fillPieces supply (access.fillNested supply depth) numbering found.1
    match found.2 with
    | some malformation => access.fail (.malformed malformation)
    | none => pure filled

/-- How deep fields may be nested. -/
def greatestDepth : Nat := 2

/-- A text with its replacement fields filled. -/
def Access.fill (access : Access m α) (template : String) (supply : Supply α) : m String := do
  let filled ← access.fillNested supply greatestDepth .open template.toList
  pure filled.1

end Filling

end Replacement

end CodeLayout
