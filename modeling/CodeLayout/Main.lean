import CodeLayout.Command.Run

/-!
# The command line program

Before a command runs, the files that it may ask for are read: those on the way to
the paths on the command line, and the files with options in the directories above.
The command works on what was read, and the files that are new or different
afterwards are written.
-/

set_option autoImplicit false

namespace CodeLayout

namespace Program

/-- The paths that a request names. -/
def pathsOf : Command.Request → List FilePath
  | .version => []
  | .help => []
  | .check request => [request.document]
  | .render request => request.document :: request.output.toList ++ request.config.toList

/-- The paths of the files with options for a place. -/
def optionPaths (work : Location) : List FilePath :=
  (Project.pathOf work).andAbove.map fun directory => directory.child Project.fileName

/-- All places on the way of a path, the first of them first. -/
def placesOf (work : Location) (path : FilePath) : List Location :=
  let places := path.names.foldl
    (fun (places : List Location × Location) name =>
      let next := if name = ".." then places.2.dropLast else places.2 ++ [name]
      (places.1 ++ [next], next)) ([], Files.origin work path)
  places.1

/-- What is at a place, if anything is. -/
def entryAt (place : Location) : IO (Option FileEntry) := do
  try
    let bytes ← IO.FS.readBinFile (Project.pathOf place).text
    pure (some (.file bytes.data.toList))
  catch problem =>
    match problem with
    | .inappropriateType .. => pure (some .directory)
    | _ => pure none

/-- The files with one more place looked at, unless it is known. -/
def look (files : Files) (place : Location) : IO Files := do
  if (files.find? place).isSome then
    pure files
  else
    match ← entryAt place with
    | none => pure files
    | some entry => pure (files.put place entry)

/-- Looks at all places on the way of a path. -/
def lookAlong (work : Location) (files : Files) (path : FilePath) : IO Files :=
  (placesOf work path).foldlM look files

/-- Makes the entries of one state of the files that another does not have. -/
def store (before after : Files) : IO Unit := do
  let changed := after.entries.filter fun entry => before.find? entry.1 != some entry.2
  for (place, entry) in changed.mergeSort fun left right => left.1.length ≤ right.1.length do
    match entry with
    | .directory => IO.FS.createDir (Project.pathOf place).text
    | .file bytes => IO.FS.writeBinFile (Project.pathOf place).text ⟨bytes.toArray⟩

/-- Runs a command line on the files of the system. -/
def perform (words : List String) : IO Int := do
  let work := (FilePath.ofText (toString (← IO.currentDir))).names
  let debugging := Command.isDebugging (← IO.getEnv Command.debugVariable)
  let paths := ((Command.request? words).map pathsOf).getD []
  let files ← (Project.pathOf work :: paths ++ optionPaths work).foldlM (lookAlong work) Files.empty
  let (outcome, changed) := Command.run files work debugging words
  store files changed
  for record in outcome.log do
    IO.eprintln (record.level.name ++ " " ++ record.message)
  IO.print outcome.output
  IO.eprint outcome.errorOutput
  match outcome.unwritten with
  | none => pure ()
  | some problem => IO.eprintln problem.wording
  pure outcome.exitCode

end Program

end CodeLayout

/-- The program: it runs its command line and ends with the exit code. -/
def main (words : List String) : IO UInt32 := do
  let code ← CodeLayout.Program.perform words
  pure (UInt32.ofNat (code % 256).toNat)
