/-!
# Terminal sequences

A terminal takes some characters as a command and does not show them. Such a sequence
starts with the escape character and an opening bracket, goes on with digits,
semicolons and question marks, and ends with a letter. Where a text is told to
somebody else than a terminal, its sequences are left out.
-/

set_option autoImplicit false

namespace CodeLayout

/-- The character that a sequence starts with. -/
def sequenceStart : Char := '\x1b'

/-- Whether a character may stand between the bracket and the letter of a sequence. -/
def isSequenceParameter (character : Char) : Bool :=
  character.isDigit || character == ';' || character == '?'

/-- The number of characters that a sequence has after its escape character, if one
starts there. -/
def sequenceRest? : List Char → Option Nat
  | '[' :: rest =>
    let parameters := rest.takeWhile isSequenceParameter
    match rest.drop parameters.length with
    | last :: _ => if last.isAlpha then some (parameters.length + 2) else none
    | [] => none
  | _ => none

/-- The characters without the first ones, so many as are given, and without the
sequences after them. -/
def leaveOutSequences : Nat → List Char → List Char
  | _, [] => []
  | more + 1, _ :: rest => leaveOutSequences more rest
  | 0, character :: rest =>
    match (if character = sequenceStart then sequenceRest? rest else none) with
    | some more => leaveOutSequences more rest
    | none => character :: leaveOutSequences 0 rest

/-- A text without its sequences. -/
def withoutSequences (text : String) : String :=
  String.ofList (leaveOutSequences 0 text.toList)

/-- Nothing is left out of a text without escape characters. -/
theorem withoutSequences_of_notMem {text : String} (absent : sequenceStart ∉ text.toList) :
    withoutSequences text = text := by
  have kept : ∀ characters : List Char, sequenceStart ∉ characters →
      leaveOutSequences 0 characters = characters := by
    intro characters
    induction characters with
    | nil => intro _; rfl
    | cons character rest ih =>
      intro absent
      rw [List.mem_cons, not_or] at absent
      rw [leaveOutSequences, if_neg fun same => absent.1 same.symm]
      exact congrArg (character :: ·) (ih absent.2)
  rw [withoutSequences, kept _ absent, String.ofList_toList]

/-- A bold word. -/
example : withoutSequences "\x1b[1mword\x1b[0m[" = "word[" := by decide

end CodeLayout
