import CodeLayout.Text.Quoted

/-!
# Paths of files

A path is a sequence of names, from the root of all files or from the directory
where one works. Empty names and single points say nothing and are left out; two
points lead to the directory above and stay.

The system takes a path as bytes up to the first zero. So there can be nothing at a path
with a zero in it, nor at one with surrogates, except for those that stand for bytes
which are no text.
-/

set_option autoImplicit false

namespace CodeLayout

/-- A path of a file or a directory. -/
structure FilePath where
  /-- The slashes at the beginning: none for a path from where one works. -/
  root : String
  /-- The names on the way. -/
  names : List String
deriving DecidableEq, Repr

/-- Why a path cannot be given to the system. -/
inductive PathFault where
  /-- The character with the number zero is in it. -/
  | zero
  /-- From a place on there are surrogates in it without bytes. -/
  | surrogates (place : Nat) (lost : List Char)
deriving DecidableEq, Repr

/-- The wording of the fault of a path. -/
def PathFault.message : PathFault → String
  | .zero => "embedded null byte"
  | .surrogates place lost => unencodable "utf-8" place lost "surrogates not allowed"

namespace FilePath

/-- The slashes at the beginning of a text. Two are kept, and more are one. -/
def rootOf (text : String) : String :=
  match text.toList.takeWhile (· == '/') with
  | [] => ""
  | [_, _] => "//"
  | _ => "/"

/-- The path that a text stands for. -/
def ofText (text : String) : FilePath where
  root := rootOf text
  names := ((text.toList.splitOn '/').map String.ofList).filter fun name =>
    name != "" && name != "."

/-- The text of a path. -/
def text (path : FilePath) : String :=
  if path.root = "" && path.names.isEmpty then "." else path.root ++ "/".intercalate path.names

/-- Whether a path begins at the root of all files. -/
def isAbsolute (path : FilePath) : Bool := path.root != ""

/-- The path without its last name. -/
def parent (path : FilePath) : FilePath := { path with names := path.names.dropLast }

/-- The path with one more name. -/
def child (path : FilePath) (name : String) : FilePath :=
  { path with names := path.names ++ [name] }

/-- Whether a character is a surrogate that stands for a byte. -/
def isByteSurrogate (character : Char) : Bool :=
  0xDC80 ≤ codeOf character && codeOf character ≤ 0xDCFF

/-- The surrogates of a text that have no bytes, with those behind them and the place of the
first one. The text begins at a place. -/
def lost? : Nat → List Char → Option (Nat × List Char)
  | _, [] => none
  | place, first :: rest =>
    if isSurrogate first && !isByteSurrogate first then
      some (place, first :: rest.takeWhile isSurrogate)
    else
      lost? (place + 1) rest

/-- What keeps a path from the system. Irreducible, because the characters of a path that is
not known say nothing. -/
@[irreducible] def fault? (path : FilePath) : Option PathFault :=
  match lost? 0 path.text.toList with
  | some (place, lost) => some (.surrogates place lost)
  | none => if path.text.toList.contains '\x00' then some .zero else none

/-- All paths that a sequence of names begins with, the longest first. -/
def namePrefixes (names : List String) : List (List String) :=
  ((List.range (names.length + 1)).map fun count => names.take count).reverse

/-- A path and all paths that it lies under, the nearest first. -/
def andAbove (path : FilePath) : List FilePath :=
  (namePrefixes path.names).map fun names => { path with names }

end FilePath

end CodeLayout
