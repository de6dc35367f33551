import CodeLayout.Fragment.Build
import CodeLayout.Fragment.Condition

/-!
# Inlining modes

A document says in one of four ways when a block or a list goes on a single line:
by what is inside it, always, never, or when it has at most so many children that
are not empty. A tree read from a document carries these modes, and every mode is
a condition or the absence of one.
-/

set_option autoImplicit false

namespace CodeLayout

/-- When a block or a list of a document goes on a single line. -/
inductive InlineMode where
  /-- As what is inside it does. -/
  | auto
  /-- Always. -/
  | always
  /-- Never. -/
  | never
  /-- With at most so many children that are not empty. -/
  | maxItems (limit : Nat)
deriving DecidableEq, Repr

namespace InlineMode

/-- The word for a mode without a limit. -/
def word? : InlineMode → Option String
  | .auto => some "auto"
  | .always => some "always"
  | .never => some "never"
  | .maxItems _ => none

/-- The modes without a limit. -/
def plain : List InlineMode := [.auto, .always, .never]

/-- The words for the modes without a limit. -/
def words : List String := plain.filterMap word?

/-- The mode of a word. -/
def ofWord? (word : String) : Option InlineMode :=
  plain.find? fun mode => mode.word? == some word

/-- The condition of a mode. -/
def condition : InlineMode → Option Condition
  | .auto => none
  | .always => some Condition.always
  | .never => some Condition.never
  | .maxItems limit => some (Condition.nonemptyAtMost limit)

end InlineMode

/-- A fragment as a document describes it. -/
abbrev DocumentTree := Fragment InlineMode

/-- A tree of a document with conditions in place of modes. -/
def DocumentTree.sketch (tree : DocumentTree) : Sketch := tree.map InlineMode.condition

end CodeLayout
