/-!
# YAML tokens

The tokens of a YAML text. Indentation shows as tokens of its own: the start of
a block collection and the end of a block.
-/

set_option autoImplicit false

namespace CodeLayout

namespace Yaml

/-- A directive before a document. -/
inductive Directive where
  /-- The version of the language. -/
  | version (major minor : Nat)
  /-- A short name for the beginning of tags. -/
  | tagHandle (handle replacement : String)
  /-- A directive without meaning here. -/
  | other
deriving DecidableEq, Repr

/-- A token. -/
inductive Token where
  | directive (directive : Directive)
  | documentStart
  | documentEnd
  | blockSequenceStart
  | blockMappingStart
  | blockEnd
  | flowSequenceStart
  | flowSequenceEnd
  | flowMappingStart
  | flowMappingEnd
  | blockEntry
  | flowEntry
  | key
  | value
  | alias (name : String)
  | anchor (name : String)
  /-- A tag, with a handle to be replaced or complete. -/
  | tag (handle : Option String) (suffix : String)
  /-- A scalar, plain or marked by quotes or an indicator. -/
  | scalar (text : String) (plain : Bool)
deriving DecidableEq, Repr

end Yaml

end CodeLayout
