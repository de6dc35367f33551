import CodeLayout.Files.Path
import CodeLayout.Text.Quoted

/-!
# Files

All files and directories, each with its place: the names that lead to it from the
root. A path is resolved name by name from the place where one works, and every
name but the last has to lead to a directory. A path that the system does not take leads
nowhere.

Reading and writing go through paths and fail with a problem of the path. Writing
gives the files as they are afterwards. Where directories are made before a file is
written, a failure gives the files too, because some directories may be there then.
-/

set_option autoImplicit false

namespace CodeLayout

/-- The names that lead from the root to a file or a directory. -/
abbrev Location := List String

/-- What is at a place. -/
inductive FileEntry where
  /-- A file with its bytes. -/
  | file (bytes : List UInt8)
  /-- A directory. -/
  | directory
deriving DecidableEq, Repr

/-- Why a path cannot be used. -/
inductive FileProblem where
  /-- There is nothing at the path. -/
  | missing
  /-- There is something at the path. -/
  | existing
  /-- A name on the way is no directory. -/
  | notDirectory
  /-- There is a directory at the path. -/
  | isDirectory
  /-- The system does not take the path. -/
  | path (fault : PathFault)
deriving DecidableEq, Repr

namespace FileProblem

/-- The number of a problem, if the system tells about it. -/
def number? : FileProblem → Option Nat
  | .missing => some 2
  | .existing => some 17
  | .notDirectory => some 20
  | .isDirectory => some 21
  | .path _ => none

/-- The wording of a problem. -/
def wording : FileProblem → String
  | .missing => "No such file or directory"
  | .existing => "File exists"
  | .notDirectory => "Not a directory"
  | .isDirectory => "Is a directory"
  | .path fault => fault.message

/-- The message about a problem with a path. -/
def message (problem : FileProblem) (path : FilePath) : String :=
  match problem.number? with
  | some number =>
    "[Errno " ++ toString number ++ "] " ++ problem.wording ++ ": " ++ quoted path.text
  | none => problem.wording

end FileProblem

/-- All files and directories with their places. The root is always there. -/
structure Files where
  /-- What is at the places below the root. -/
  entries : List (Location × FileEntry)

namespace Files

/-- No files. -/
def empty : Files := { entries := [] }

/-- What is at a place. -/
def find? (files : Files) (place : Location) : Option FileEntry :=
  if place = [] then some .directory else files.entries.lookup place

/-- Puts an entry at a place. -/
def put (files : Files) (place : Location) (entry : FileEntry) : Files :=
  { entries := (place, entry) :: files.entries.filter fun old => old.1 != place }

/-- The place that a name leads to from another place. -/
def step (files : Files) (place : Location) (name : String) : Except FileProblem Location :=
  match files.find? place with
  | none => .error .missing
  | some (.file _) => .error .notDirectory
  | some .directory =>
    if name = ".." then
      .ok place.dropLast
    else if (files.find? (place ++ [name])).isSome then
      .ok (place ++ [name])
    else
      .error .missing

/-- The place where a path begins, for somebody who works at a place. -/
def origin (work : Location) (path : FilePath) : Location :=
  if path.isAbsolute then [] else work

/-- Fails if the system does not take a path. -/
def accept (path : FilePath) : Except FileProblem Unit :=
  match path.fault? with
  | some fault => .error (.path fault)
  | none => .ok ()

/-- The place that a path leads to. -/
def resolve (files : Files) (work : Location) (path : FilePath) :
    Except FileProblem Location := do
  accept path
  path.names.foldlM files.step (origin work path)

/-- What is at the end of a path. -/
def at? (files : Files) (work : Location) (path : FilePath) : Option FileEntry :=
  match files.resolve work path with
  | .ok place => files.find? place
  | .error _ => none

/-- Whether a path leads to something. -/
def exists? (files : Files) (work : Location) (path : FilePath) : Bool :=
  (files.at? work path).isSome

/-- Whether a path leads to a file. -/
def isFile (files : Files) (work : Location) (path : FilePath) : Bool :=
  match files.at? work path with
  | some (.file _) => true
  | _ => false

/-- Whether a path leads to a directory. -/
def isDirectory (files : Files) (work : Location) (path : FilePath) : Bool :=
  files.at? work path == some .directory

/-- The bytes of the file at a path. -/
def read (files : Files) (work : Location) (path : FilePath) :
    Except FileProblem (List UInt8) := do
  let place ← files.resolve work path
  match files.find? place with
  | some (.file bytes) => .ok bytes
  | some .directory => .error .isDirectory
  | none => .error .missing

/-- The place of the directory that holds the last name of a path, with that name.
A path without a name of its own at the end has none. -/
def target? (files : Files) (work : Location) (path : FilePath) :
    Except FileProblem (Option (Location × String)) := do
  accept path
  let place ← files.resolve work path.parent
  match files.find? place, path.names.getLast? with
  | some (.file _), _ => .error .notDirectory
  | none, _ => .error .missing
  | some .directory, none => .ok none
  | some .directory, some name => .ok (if name = ".." then none else some (place, name))

/-- Writes a file at a path. Its directory has to be there. -/
def write (files : Files) (work : Location) (path : FilePath) (bytes : List UInt8) :
    Except FileProblem Files := do
  match ← files.target? work path with
  | none => .error .isDirectory
  | some (place, name) =>
    if files.find? (place ++ [name]) = some .directory then .error .isDirectory
    else .ok (files.put (place ++ [name]) (.file bytes))

/-- Makes a directory at a path where nothing is. -/
def makeDirectory (files : Files) (work : Location) (path : FilePath) :
    Except FileProblem Files := do
  match ← files.target? work path with
  | none => .error .existing
  | some (place, name) =>
    if (files.find? (place ++ [name])).isSome then .error .existing
    else .ok (files.put (place ++ [name]) .directory)

/-- Makes a directory at a path unless one is there. -/
def ensureDirectory (files : Files) (work : Location) (path : FilePath) :
    Except FileProblem Files :=
  match files.makeDirectory work path with
  | .ok files => .ok files
  | .error problem => if files.isDirectory work path then .ok files else .error problem

/-- Makes a directory at a path unless one is there, and before it the directories
on the way that are missing. The first argument is the number of names in the
path. A failure comes with the files as they are after it. -/
def ensureDirectories (work : Location) :
    Nat → Files → FilePath → Except (FileProblem × Files) Files
  | limit, files, path =>
    match files.makeDirectory work path, limit with
    | .ok made, _ => .ok made
    | .error .missing, limit + 1 =>
      match ensureDirectories work limit files path.parent with
      | .error failure => .error failure
      | .ok ready =>
        match ready.ensureDirectory work path with
        | .ok made => .ok made
        | .error problem => .error (problem, ready)
    | .error problem, _ =>
      if files.isDirectory work path then .ok files else .error (problem, files)

/-- Writes a file at a path, and makes the directories on the way that are missing.
A failure comes with the files as they are after it. -/
def writeDeep (files : Files) (work : Location) (path : FilePath) (bytes : List UInt8) :
    Except (FileProblem × Files) Files :=
  match ensureDirectories work path.parent.names.length files path.parent with
  | .error failure => .error failure
  | .ok ready =>
    match ready.write work path bytes with
    | .ok written => .ok written
    | .error problem => .error (problem, ready)

/-! ## Paths that the system takes -/

section Accepted

variable {files : Files} {work place : Location} {path : FilePath}

theorem accept_eq_ok_iff : accept path = .ok () ↔ path.fault? = none := by
  rw [accept]
  cases path.fault? with
  | none => exact iff_of_true rfl rfl
  | some fault => exact iff_of_false nofun nofun

/-- The names of a path that the system takes lead from where one starts. -/
theorem resolve_of_accepted (accepted : path.fault? = none) :
    files.resolve work path = path.names.foldlM files.step (origin work path) := by
  rw [resolve, accept, accepted]
  rfl

/-- A path leads to a place when the system takes it and its names lead there. -/
theorem resolve_eq_ok_iff : files.resolve work path = .ok place ↔
    path.fault? = none ∧ path.names.foldlM files.step (origin work path) = .ok place := by
  rw [resolve, accept]
  cases path.fault? with
  | none => exact (and_iff_right rfl).symm
  | some fault => exact iff_of_false nofun fun both => nomatch both.1

end Accepted

end Files

end CodeLayout
