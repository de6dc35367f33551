/-!
# Surrogates

The numbers from D800 to DFFF stand for halves of pairs of code units and are no
characters. An escape can name one all the same, and then it is part of a text
like a character: it counts, it can be looked up, and it is shown by its number.
Only when the text is written as bytes it has no place.

In a text a surrogate is kept as the character whose number is greater by 100000,
from the last range for private use.
-/

set_option autoImplicit false

namespace CodeLayout

/-- Whether a number stands for a surrogate. -/
def isSurrogateCode (code : Nat) : Bool := 0xD800 ≤ code && code ≤ 0xDFFF

/-- How far surrogates are moved to be characters. -/
def surrogateShift : Nat := 0x100000

/-- The character of a number, where a surrogate has its own. -/
def characterOfCode (code : Nat) : Char :=
  Char.ofNat (if isSurrogateCode code then code + surrogateShift else code)

/-- The number of a character, where a surrogate has its own. -/
def codeOf (character : Char) : Nat :=
  if isSurrogateCode (character.toNat - surrogateShift) then character.toNat - surrogateShift
  else character.toNat

/-- Whether a character stands for a surrogate. -/
def isSurrogate (character : Char) : Bool := isSurrogateCode (codeOf character)

/-- Whether a text has surrogates. -/
def hasSurrogates (text : String) : Bool := text.toList.any isSurrogate

theorem hasSurrogates_append (first second : String) :
    hasSurrogates (first ++ second) = (hasSurrogates first || hasSurrogates second) := by
  rw [hasSurrogates, String.toList_append, List.any_append]
  rfl

theorem isSurrogate_of_isDigit {character : Char} (digit : character.isDigit = true) :
    isSurrogate character = false := by
  have low : character.toNat ≤ 57 := by
    simp only [Char.isDigit, Bool.and_eq_true, decide_eq_true_eq] at digit
    exact digit.2
  have unshifted : character.toNat - surrogateShift = 0 := by
    rw [surrogateShift]
    omega
  have own : codeOf character = character.toNat := by
    rw [codeOf, unshifted]
    rfl
  rw [isSurrogate, own, isSurrogateCode]
  simp only [Bool.and_eq_false_iff, decide_eq_false_iff_not]
  omega

/-- The digits of a number are no surrogates. -/
theorem hasSurrogates_toString (number : Nat) : hasSurrogates (toString number) = false := by
  rw [hasSurrogates, List.any_eq_false, Nat.toString_eq_repr, Nat.toList_repr]
  intro character inside
  rw [isSurrogate_of_isDigit (Nat.isDigit_of_mem_toDigits (by decide) (by decide) inside)]
  exact Bool.false_ne_true

end CodeLayout
