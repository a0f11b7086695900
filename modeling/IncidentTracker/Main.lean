import IncidentTracker.CommandLine.Run
import IncidentTracker.Relational.Snapshot

/-!
# The Program

The outer layer: it reads the files that a run may look at, hands them to the run, and writes what
the run answers and the database it leaves behind.
-/

namespace IncidentTracker.Main

open CommandLine (Environment Parameter)

/-- The variables that parameters may come from. -/
def environment : IO Environment := do
  let mut env : Environment := .empty
  for name in Parameter.common.filterMap Parameter.variableName? do
    if let some value ← IO.getEnv name then
      env := env.insert name value
  return env

/-- Whether something lies at a path. -/
def lies (path : String) : IO Bool := do
  try
    let _ ← IO.FS.realPath path
    return true
  catch _ => return false

/-- Adds the folder that a path leads into, if there is one. -/
def addFolder (d : Directory) (path : String) : IO Directory := do
  let folder := (Directory.place path).dropLast
  return if ← lies (Directory.pathTo folder) then { d with folders := folder :: d.folders } else d

/-- Adds the text at a path, if there is one. What is no text is put in as what cannot be read as
    one. -/
def addText (d : Directory) (path : String) : IO Directory := do
  try
    return d.putText path (← IO.FS.readFile path)
  catch _ =>
    return if ← lies path then d.putDatabase { file := some path } .blank else d

/-- Adds the database at a location, if there is one, and the folder that it may lie in. -/
def addDatabase (d : Directory) (l : Relational.Location) : IO Directory := do
  match l.file with
  | none => return d
  | some path =>
    let d ← addFolder d path
    try
      let text ← IO.FS.readFile path
      match Relational.Database.ofSnapshot? text with
      | some db => return d.putDatabase l db
      | none => return d.putText path text
    catch _ => return d

/-- The part of the directory that a run may look at. -/
def directory (env : Environment) (words : List String) : IO Directory := do
  let d ← addText .empty CommandLine.variableFile
  match CommandLine.environmentIn d env with
  | none => return d
  | some env =>
    match CommandLine.read env words with
    | .error _ => return d
    | .ok invocation =>
      let d ← addText d (invocation.settings.file.getD usualSettingsFile)
      match (loadSettings d invocation.settings).result with
      | .error _ => return d
      | .ok settings =>
        match Relational.Location.ofText settings.storage.databasePath with
        | .error _ => return d
        | .ok l => if settings.storage.backend == .relational then addDatabase d l else return d

/-- The time by the clock of the file system, in seconds. -/
def clock : IO Int := do
  let (_, file) ← IO.FS.createTempFile
  let time := (← file.metadata).modified.sec
  IO.FS.removeFile file
  return time

/-- Writes the files that a run has changed. -/
def store (before after : Directory) : IO Unit := do
  for (path, text) in after.texts.entries do
    if before.texts.get? path != some text then
      IO.FS.writeFile path text
  for (path, db) in after.databases.entries do
    if before.databases.get? path != some db then
      IO.FS.writeFile path db.snapshot

end IncidentTracker.Main

/-- Runs the program. -/
def main (words : List String) : IO UInt32 := do
  let env ← IncidentTracker.Main.environment
  let d ← IncidentTracker.Main.directory env words
  let (ending, after) := IncidentTracker.CommandLine.run d env words (← IncidentTracker.Main.clock)
  IncidentTracker.Main.store d after
  IO.print ending.output
  IO.eprint ending.complaint
  return ending.code.toUInt32
