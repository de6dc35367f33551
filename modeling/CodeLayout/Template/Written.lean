import CodeLayout.Template.Items

/-!
# Texts of objects

An object has a written form, in which texts have quotes, and a text where it is shown.
Inside of itself a collection is written with dots. A whole number with too many digits
has neither form, and what is missing is written but not shown.
-/

set_option autoImplicit false

namespace CodeLayout

namespace Template

/-- The written form of a scalar. -/
def writtenScalar (scalar : Scalar) : Run String :=
  if scalar.isWritable then pure scalar.written else fail (.value .digits)

/-- The written forms of objects, by the written form of one. -/
def writtenAll (write : Object → Run String) : List Object → Run (List String)
  | [] => pure []
  | first :: rest => do
    let text ← write first
    return text :: (← writtenAll write rest)

/-- The written forms of entries. -/
def writtenEntries (write : Object → Run String) :
    List (Object × Object) → Run (List (String × String))
  | [] => pure []
  | (key, value) :: rest => do
    let key ← write key
    let value ← write value
    return (key, value) :: (← writtenEntries write rest)

/-- The numbers of a range that is written. -/
def rangeNumbers (start stop step : Int) : List Object :=
  [.int start, .int stop] ++ (if step = 1 then [] else [.int step])

/-- The written form of a part of a number with an imaginary part. A whole number has no
point. -/
def partText (number : Float) : String :=
  let text := floatText number
  if text.endsWith ".0" then (text.dropEnd 2).toString else text

/-- The written form of a number with an imaginary part. -/
def complexText (real imaginary : Float) : String :=
  if real == 0.0 && (floatText real).front != '-' then
    partText imaginary ++ "j"
  else
    let second := partText imaginary
    "(" ++ partText real ++ (if second.front == '-' then "" else "+") ++ second ++ "j)"

/-- The written form of an object inside of some others. The first argument bounds how
deep it is nested. -/
def writtenIn : Nat → List Address → Object → Run String
  | 0, _, _ => fail .endless
  | depth + 1, around, object => do
    match object with
    | .scalar plain => writtenScalar plain
    | .safe plain => return "Markup(" ++ quoted plain ++ ")"
    | .tuple items => return tupleText (← writtenAll (writtenIn depth around) items)
    | .range start stop step =>
      let numbers ← writtenAll (writtenIn depth around) (rangeNumbers start stop step)
      return "range(" ++ ", ".intercalate numbers ++ ")"
    | .complex real imaginary => return complexText real imaginary
    | .duration microseconds => return durationConstructor microseconds
    | .clock moment => return moment.clockConstructor
    | .zone seconds => return Moment.zoneConstructor seconds
    | .list address =>
      if around.contains address then return "[...]"
      else return listText (← writtenAll (writtenIn depth (address :: around)) (← listAt address))
    | .map address =>
      if around.contains address then return "\x7b...\x7d"
      else
        return mapText (← writtenEntries (writtenIn depth (address :: around)) (← mapAt address))
    | .set address =>
      if around.contains address then return "set(...)"
      else return setText (← writtenAll (writtenIn depth (address :: around)) (← setAt address))
    | .listing kind address =>
      let parts := listedParts kind (← mapAt address)
      return Object.listingKind kind ++ "(" ++
        listText (← writtenAll (writtenIn depth around) parts) ++ ")"
    | .loop address =>
      let length ← loopLength address
      return "<LoopContext " ++ toString (← loopAt address).begun ++ "/" ++ toString length ++ ">"
    | .space address =>
      return "<Namespace " ++ (← writtenIn depth around (.map address)) ++ ">"
    | .kind name => return "<class " ++ quoted name ++ ">"
    | .function name => return "<function " ++ name ++ ">"
    | .method owner name =>
      return "<built-in method " ++ name ++ " of " ++ owner.typeName ++ " object>"
    | .absent _ => return "Undefined"
    | .blank _ => return "Undefined"
    | object => return "<" ++ object.kindName ++ " object>"

/-- The written form of an object. -/
def writtenOf (object : Object) : Run String := writtenIn greatestNesting [] object

/-- The text of an object where it is shown. -/
def shownOf (object : Object) : Run String := do
  match object with
  | .scalar plain => if plain.isWritable then return plain.shown else fail (.value .digits)
  | .safe plain => return plain
  | .duration microseconds => return durationText microseconds
  | .clock moment => return moment.clockText
  | .zone seconds => return Moment.zoneText seconds
  | .absent missing => fail (.missing missing)
  | .blank _ => return ""
  | object => writtenOf object

/-- The texts of objects. -/
def shownAll : List Object → Run (List String)
  | [] => pure []
  | first :: rest => do
    let text ← shownOf first
    return text :: (← shownAll rest)

/-- What an object has instead of a part under a key. -/
def missingItem (owner key : Object) : Run Object := do
  return .absent (.item owner.description ((← attempt (writtenOf key)).getD ""))

/-! ## Markup -/

/-- The written forms of the characters that mean something in markup. -/
def markupEscape : Char → List Char
  | '&' => "&amp;".toList
  | '<' => "&lt;".toList
  | '>' => "&gt;".toList
  | '\'' => "&#39;".toList
  | '"' => "&#34;".toList
  | character => [character]

/-- A text in which nothing means markup. -/
def escapeMarkup (text : String) : String :=
  String.ofList (text.toList.flatMap markupEscape)

/-- The text of an object in markup in which nothing means markup. A text that is safe
stays as it is. -/
def escapedText (object : Object) : Run String := do
  match object with
  | .safe plain => return plain
  | object => return escapeMarkup (← shownOf object)

end Template

end CodeLayout
