import CodeLayout.Fragment.Decision

/-!
# Building fragments from loose parts

A caller may hand in a text where a fragment is wanted, and one part where a
body is wanted. `Part` and `Parts` say what can arrive there, and the functions
below make fragments of it or say why that is impossible.
-/

set_option autoImplicit false

namespace CodeLayout

/-- Why no fragment could be built. -/
inductive BuildError where
  /-- A value of this type is neither a text nor a fragment. -/
  | notAFragment (typeName : String)
  /-- A value of this type is not a sequence of parts. -/
  | notABody (typeName : String)
  /-- The value, written out, is not the name of a trailing rule. -/
  | notATrailing (shown : String)
deriving DecidableEq, Repr

/-- The wording of a building error. -/
def BuildError.message : BuildError → String
  | .notAFragment typeName =>
    "Cannot convert " ++ typeName ++ " to a fragment; expected str or Fragment"
  | .notABody typeName => "'" ++ typeName ++ "' object is not iterable"
  | .notATrailing shown => shown ++ " is not a valid Trailing"

/-- What may arrive where a fragment is wanted. -/
inductive Part where
  /-- A text, which stands for a line. -/
  | text (text : String)
  /-- A fragment. -/
  | fragment (fragment : Sketch)
  /-- A value of some other type. -/
  | other (typeName : String)

/-- What may arrive where a body is wanted. -/
inductive Parts where
  /-- One part, which stands for a body of one child. -/
  | one (part : Part)
  /-- A sequence of parts. -/
  | many (parts : List Part)
  /-- A value that is not a sequence. -/
  | other (typeName : String)

/-- The fragment a part stands for. -/
def Part.toFragment : Part → Except BuildError Sketch
  | .text written => .ok (.line written)
  | .fragment built => .ok built
  | .other typeName => .error (.notAFragment typeName)

/-- The body that parts stand for. The first part that is no fragment decides
the error. -/
def Parts.toBody : Parts → Except BuildError (List Sketch)
  | .one part => part.toFragment.map fun fragment => [fragment]
  | .many parts => parts.mapM Part.toFragment
  | .other typeName => .error (.notABody typeName)

/-- The written names of the trailing rules. -/
def Trailing.name : Trailing → String
  | .ifMultiLine => "if_multiline"
  | .always => "always"
  | .never => "never"

/-- All trailing rules. -/
def Trailing.all : List Trailing := [.ifMultiLine, .always, .never]

/-- The trailing rule of a written name. -/
def Trailing.ofName? (name : String) : Option Trailing :=
  Trailing.all.find? fun trailing => trailing.name == name

end CodeLayout
