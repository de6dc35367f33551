/-!
# Fragments

A fragment describes a piece of code by its structure: a line, a block with an
indented body, a list of items with a separator, or fragments put one after
another.

The type has a parameter. Every block and every list carries one value of it,
which says something about putting the node on a single line. Fragments as a
caller builds them carry an optional condition, fragments ready for layout
carry a decision, and fragments read from a document carry a mode. Two
fragments that differ only in these values have the same `outline`.

The last variant stands for a node from outside the four kinds. It takes part
in every count and comparison, and no layout can be made of it.
-/

set_option autoImplicit false

namespace CodeLayout

/-- When a list writes its separator after the last item. -/
inductive Trailing where
  /-- Only when the list took more than one line. -/
  | ifMultiLine
  /-- Always. -/
  | always
  /-- Never. -/
  | never
deriving DecidableEq, Repr

/-- A piece of code. Blocks and lists carry a value about their inlining. -/
inductive Fragment (δ : Type) where
  /-- One line of text, taken as it is. -/
  | line (text : String)
  /-- A start line, an indented body and a closing line. A block with `connect`
  puts its start on the line before it. -/
  | block (start : String) (body : List (Fragment δ)) (close : String) (connect : Bool)
      (inlining : δ)
  /-- Items with a separator between them. Empty items are left out. -/
  | list (separator : String) (body : List (Fragment δ)) (trailing : Trailing) (inlining : δ)
  /-- Fragments one after another. -/
  | concat (body : List (Fragment δ))
  /-- A node of a kind that has no layout. -/
  | foreign (kind : String)

namespace Fragment

variable {δ ε : Type}

mutual

/-- Whether a fragment stands for no code at all. Only lists and concatenations
can be empty: a line or a block writes something even when its text is empty. -/
def isEmpty : Fragment δ → Bool
  | .line _ => false
  | .block _ _ _ _ _ => false
  | .list _ body _ _ => allEmpty body
  | .concat body => allEmpty body
  | .foreign _ => false

/-- Whether every fragment of a body is empty. -/
def allEmpty : List (Fragment δ) → Bool
  | [] => true
  | first :: rest => isEmpty first && allEmpty rest

end

mutual

/-- An upper bound for the number of lines of a fragment. -/
def sizeHint : Fragment δ → Nat
  | .line _ => 1
  | .block _ body _ _ _ => bodySizeHint body + 2
  | .list _ body _ _ => bodySizeHint body
  | .concat body => bodySizeHint body
  | .foreign _ => 0

/-- The bounds of the fragments of a body, added up. -/
def bodySizeHint : List (Fragment δ) → Nat
  | [] => 0
  | first :: rest => sizeHint first + bodySizeHint rest

end

mutual

/-- The number of nodes of a fragment, the fragment itself included. -/
def count : Fragment δ → Nat
  | .line _ => 1
  | .block _ body _ _ _ => bodyCount body + 1
  | .list _ body _ _ => bodyCount body + 1
  | .concat body => bodyCount body + 1
  | .foreign _ => 1

/-- The number of nodes of a body. -/
def bodyCount : List (Fragment δ) → Nat
  | [] => 0
  | first :: rest => count first + bodyCount rest

end

mutual

/-- Applies a function to every value about inlining and keeps the structure. -/
def map (f : δ → ε) : Fragment δ → Fragment ε
  | .line text => .line text
  | .block start body close connect inlining =>
    .block start (mapBody f body) close connect (f inlining)
  | .list separator body trailing inlining =>
    .list separator (mapBody f body) trailing (f inlining)
  | .concat body => .concat (mapBody f body)
  | .foreign kind => .foreign kind

/-- Applies a function to every value about inlining in a body. -/
def mapBody (f : δ → ε) : List (Fragment δ) → List (Fragment ε)
  | [] => []
  | first :: rest => map f first :: mapBody f rest

end

/-- A fragment with nothing said about inlining. -/
def outline (fragment : Fragment δ) : Fragment Unit :=
  fragment.map fun _ => ()

/-- The fragments directly inside a fragment, empty ones included. -/
def children : Fragment δ → List (Fragment δ)
  | .line _ => []
  | .block _ body _ _ _ => body
  | .list _ body _ _ => body
  | .concat body => body
  | .foreign _ => []

/-- The fragments of a body that are not empty. -/
def nonempty (body : List (Fragment δ)) : List (Fragment δ) :=
  body.filter fun child => !child.isEmpty

/-- The name of a fragment's kind. -/
def kindName : Fragment δ → String
  | .line _ => "Line"
  | .block _ _ _ _ _ => "Block"
  | .list _ _ _ _ => "List"
  | .concat _ => "Concat"
  | .foreign kind => kind

mutual

/-- Whether two outlines are the same. -/
def sameOutline : Fragment Unit → Fragment Unit → Bool
  | .line text, .line text' => text == text'
  | .block start body close connect _, .block start' body' close' connect' _ =>
    start == start' && sameOutlines body body' && close == close' && connect == connect'
  | .list separator body trailing _, .list separator' body' trailing' _ =>
    separator == separator' && sameOutlines body body' && trailing == trailing'
  | .concat body, .concat body' => sameOutlines body body'
  | .foreign kind, .foreign kind' => kind == kind'
  | _, _ => false

/-- Whether two bodies have the same outlines in the same order. -/
def sameOutlines : List (Fragment Unit) → List (Fragment Unit) → Bool
  | [], [] => true
  | first :: rest, first' :: rest' => sameOutline first first' && sameOutlines rest rest'
  | _, _ => false

end

mutual

theorem eq_of_sameOutline : ∀ {left right : Fragment Unit}, sameOutline left right = true →
    left = right
  | .line text, .line text', same => by
    simp only [sameOutline, beq_iff_eq] at same
    rw [same]
  | .block start body close connect (), .block start' body' close' connect' (), same => by
    simp only [sameOutline, Bool.and_eq_true, beq_iff_eq] at same
    obtain ⟨⟨⟨starts, bodies⟩, closes⟩, connects⟩ := same
    rw [starts, eq_of_sameOutlines bodies, closes, connects]
  | .list separator body trailing (), .list separator' body' trailing' (), same => by
    simp only [sameOutline, Bool.and_eq_true, beq_iff_eq] at same
    obtain ⟨⟨separators, bodies⟩, trailings⟩ := same
    rw [separators, eq_of_sameOutlines bodies, trailings]
  | .concat body, .concat body', same => by
    simp only [sameOutline] at same
    rw [eq_of_sameOutlines same]
  | .foreign kind, .foreign kind', same => by
    simp only [sameOutline, beq_iff_eq] at same
    rw [same]
  | .line _, .block _ _ _ _ _, same => by simp [sameOutline] at same
  | .line _, .list _ _ _ _, same => by simp [sameOutline] at same
  | .line _, .concat _, same => by simp [sameOutline] at same
  | .line _, .foreign _, same => by simp [sameOutline] at same
  | .block _ _ _ _ _, .line _, same => by simp [sameOutline] at same
  | .block _ _ _ _ _, .list _ _ _ _, same => by simp [sameOutline] at same
  | .block _ _ _ _ _, .concat _, same => by simp [sameOutline] at same
  | .block _ _ _ _ _, .foreign _, same => by simp [sameOutline] at same
  | .list _ _ _ _, .line _, same => by simp [sameOutline] at same
  | .list _ _ _ _, .block _ _ _ _ _, same => by simp [sameOutline] at same
  | .list _ _ _ _, .concat _, same => by simp [sameOutline] at same
  | .list _ _ _ _, .foreign _, same => by simp [sameOutline] at same
  | .concat _, .line _, same => by simp [sameOutline] at same
  | .concat _, .block _ _ _ _ _, same => by simp [sameOutline] at same
  | .concat _, .list _ _ _ _, same => by simp [sameOutline] at same
  | .concat _, .foreign _, same => by simp [sameOutline] at same
  | .foreign _, .line _, same => by simp [sameOutline] at same
  | .foreign _, .block _ _ _ _ _, same => by simp [sameOutline] at same
  | .foreign _, .list _ _ _ _, same => by simp [sameOutline] at same
  | .foreign _, .concat _, same => by simp [sameOutline] at same

theorem eq_of_sameOutlines : ∀ {left right : List (Fragment Unit)},
    sameOutlines left right = true → left = right
  | [], [], _ => rfl
  | first :: rest, first' :: rest', same => by
    simp only [sameOutlines, Bool.and_eq_true] at same
    rw [eq_of_sameOutline same.1, eq_of_sameOutlines same.2]
  | [], _ :: _, same => by simp [sameOutlines] at same
  | _ :: _, [], same => by simp [sameOutlines] at same

end

mutual

theorem sameOutline_self : ∀ fragment : Fragment Unit, sameOutline fragment fragment = true
  | .line _ => by simp [sameOutline]
  | .block _ body _ _ _ => by simp [sameOutline, sameOutlines_self body]
  | .list _ body _ _ => by simp [sameOutline, sameOutlines_self body]
  | .concat body => by simp [sameOutline, sameOutlines_self body]
  | .foreign _ => by simp [sameOutline]

theorem sameOutlines_self : ∀ body : List (Fragment Unit), sameOutlines body body = true
  | [] => rfl
  | first :: rest => by simp [sameOutlines, sameOutline_self first, sameOutlines_self rest]

end

/-- Outlines can be compared. -/
instance : DecidableEq (Fragment Unit) := fun left right =>
  if same : sameOutline left right = true then
    isTrue (eq_of_sameOutline same)
  else
    isFalse fun equal => same (equal ▸ sameOutline_self left)

/-- Whether two fragments are equal in everything but what is said about
inlining. -/
def equal (left right : Fragment δ) : Bool :=
  decide (left.outline = right.outline)

end Fragment

end CodeLayout
