import CodeLayout.Text.Blank

/-!
# Parts of texts

Finding, replacing and splitting at the places of a part. Places are taken from
the left and do not overlap. An empty part is found before every character and at
the end.
-/

set_option autoImplicit false

namespace CodeLayout

/-- Whether a text is part of another one. -/
def isPartOf (part : List Char) : List Char → Bool
  | [] => part.isEmpty
  | first :: rest => part.isPrefixOf (first :: rest) || isPartOf part rest

/-- A text cut at the places of a part that is not empty, up to a number of cuts.
The first argument is at least the length of the text. -/
def cutAt (part : List Char) : Nat → Option Nat → List Char → List (List Char)
  | 0, _, text => [text]
  | _, some 0, text => [text]
  | _, _, [] => [[]]
  | limit + 1, cuts, first :: rest =>
    if part.isPrefixOf (first :: rest) then
      [] :: cutAt part limit (cuts.map (· - 1)) ((first :: rest).drop part.length)
    else
      match cutAt part limit cuts rest with
      | [] => [[first]]
      | piece :: pieces => (first :: piece) :: pieces

/-- A text with an insertion before every character and at the end, up to a number
of insertions. -/
def insertBetween (insertion : List Char) : Option Nat → List Char → List Char
  | some 0, text => text
  | _, [] => insertion
  | count, first :: rest =>
    insertion ++ first :: insertBetween insertion (count.map (· - 1)) rest

/-- A text with a part replaced, up to a number of times. -/
def replacePart (part replacement : List Char) (count : Option Nat) (text : List Char) :
    List Char :=
  if part.isEmpty then insertBetween replacement count text
  else replacement.intercalate (cutAt part text.length count text)

/-- A text cut at blanks, without the blanks, up to a number of cuts. What is left
after the last cut loses its leading blanks only. -/
def cutAtBlanks : Nat → Option Nat → List Char → List (List Char)
  | 0, _, _ => []
  | limit + 1, cuts, text =>
    let rest := dropLeadingBlanks text
    if rest.isEmpty then
      []
    else if cuts = some 0 then
      [rest]
    else
      let word := rest.takeWhile fun character => !isBlank character
      word :: cutAtBlanks limit (cuts.map (· - 1)) (rest.drop word.length)

/-- A text without leading characters of a kind. -/
def trimLeading (drops : Char → Bool) (text : List Char) : List Char := text.dropWhile drops

/-- A text without trailing characters of a kind. -/
def trimTrailing (drops : Char → Bool) (text : List Char) : List Char :=
  (text.reverse.dropWhile drops).reverse

end CodeLayout
