import IncidentTracker.CommandLine.Explanation
import IncidentTracker.CommandLine.VariableFile
import IncidentTracker.Entity.Wire
import IncidentTracker.Filtering.Param

/-!
# Runs

A run of the program: from its words, its environment, the directory it is run in and the time, to
what it prints and what it leaves in the directory. A filter to list by is read before the settings are
loaded, a filter to explain afterwards.
-/

namespace IncidentTracker.CommandLine

open Json (Value)

/-- Why a command fails. -/
inductive RunError where
  | filter (error : Filtering.ParamError)
  | settings (error : SettingsError)
  | store (backend : Backend) (error : StoreError)
  | listing (error : StoreError)
  | adding (error : StoreError)
  deriving DecidableEq, Repr

/-- What is said of a failure. -/
def RunError.message : RunError → String
  | .filter e => e.message ++ " (" ++ e.code ++ ")"
  | .settings e => e.message
  | .store backend _ => "Failed to initialize " ++ backend.name ++ " incident store"
  | .listing _ => "Failed to list incidents"
  | .adding _ => "Failed to add incident"

/-- How a run ends. -/
inductive Ending where
  /-- There was no environment to run in. -/
  | brokenOff
  /-- No command was given. -/
  | stopped (stop : Stop)
  | failed (error : RunError)
  | answered (answer : Value)

/-- The exit code of a run. -/
def Ending.code : Ending → Nat
  | .brokenOff => 101
  | .stopped stop => if stop.isWanted then 0 else 2
  | .failed _ => 1
  | .answered _ => 0

/-- How the program is used. -/
def usage : String :=
  "Usage: incidents [OPTIONS] <list|add|explain|help>"

/-- What a run writes to its output. -/
def Ending.output : Ending → String
  | .brokenOff => ""
  | .stopped .help => usage ++ "\n"
  | .stopped .version => versionText ++ "\n"
  | .stopped _ => ""
  | .failed _ => ""
  | .answered answer => answer.pretty ++ "\n"

/-- What a run says of its failure. -/
def Ending.complaint : Ending → String
  | .brokenOff => "A variable cannot have a value with a null character.\n"
  | .stopped stop => if stop.isWanted then "" else usage ++ "\n"
  | .failed e => "\nError: " ++ e.message ++ "\n\n"
  | .answered _ => ""

/-! ## §1 Stores -/

/-- Loads the settings. -/
def settingsFor (d : Directory) (command : CommandSettings) : Except RunError Settings :=
  (loadSettings d command).result.mapError .settings

/-- Opens the store at some time, and tells what the directory is like afterwards. No credentials
    are at hand for the service of a wide-column table, so nothing is ever delivered to it. -/
def openStore (d : Directory) (settings : Settings) (now : Int) :
    Except RunError IncidentStore × Directory :=
  let (store, d) := IncidentStore.init settings.storage settings.semantics d [] now
  (store.mapError (.store settings.storage.backend), d)

/-- Uses the store that the settings choose: what comes of it, and the directory afterwards. -/
def withStore {α : Type} (d : Directory) (command : CommandSettings) (now : Int)
    (use : Repository (StateM IncidentStore) → StateM IncidentStore (Except RunError α)) :
    Except RunError α × Directory :=
  match settingsFor d command with
  | .error e => (.error e, d)
  | .ok settings =>
    match openStore d settings now with
    | (.error e, d) => (.error e, d)
    | (.ok store, d) =>
      let (answer, store) := use (IncidentStore.repository store.backend).service store
      -- whatever was answered, the store is released and leaves its database behind
      (answer, store.save d)

/-! ## §2 Commands -/

/-- Lists the incidents that pass a filter: `incidents list`. -/
def runList (d : Directory) (command : CommandSettings) (now : Int) (filter : Option String) :
    Except RunError Value × Directory :=
  -- the filter is read first, so a wrong one is reported before any settings are loaded
  match (Filtering.parseParam filter).result with
  | .error e => (.error (.filter e), d)
  | .ok filter =>
    withStore d command now fun service => do
      let answer ← service.list filter
      return (answer.mapError .listing).map fun incidents =>
        .list (incidents.map Incident.toJson)

/-- Adds an incident: `incidents add`. -/
def runAdd (d : Directory) (command : CommandSettings) (now : Int) (new : NewIncident) :
    Except RunError Value × Directory :=
  withStore d command now fun service => do
    let answer ← service.add new
    return (answer.mapError .adding).map Incident.toJson

/-- Explains a filter: `incidents explain`. -/
def runExplain (d : Directory) (command : CommandSettings) (filter : String) :
    Except RunError Value := do
  let settings ← settingsFor d command
  let request ← (Filtering.parse filter).result.mapError .filter
  return explanation settings.semantics request

/-- Carries a command out. -/
def runCommand (d : Directory) (invocation : Invocation) (now : Int) :
    Except RunError Value × Directory :=
  match invocation.command with
  | .list filter => runList d invocation.settings now filter
  | .add new => runAdd d invocation.settings now new
  | .explain filter => (runExplain d invocation.settings filter, d)

/-! ## §3 The program -/

/-- Runs the program. The time is that of the clock, in seconds. -/
def run (d : Directory) (env : Environment) (words : List String) (now : Int := 0) :
    Ending × Directory :=
  match environmentIn d env with
  -- a variable that cannot be set ends the program before a word is read
  | none => (.brokenOff, d)
  | some env =>
    match read env words with
    | .error stop => (.stopped stop, d)
    | .ok invocation =>
      match runCommand d invocation now with
      | (.ok answer, d) => (.answered answer, d)
      | (.error e, d) => (.failed e, d)

end IncidentTracker.CommandLine
