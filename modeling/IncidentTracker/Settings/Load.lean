import IncidentTracker.Settings.File

/-!
# Loading Settings

The settings of a run: what the command says lies over what the settings file says. The file is
the one the command names, which must exist, or else the one of the usual name, if it exists.
-/

namespace IncidentTracker

/-- What a command says about settings. -/
structure CommandSettings where
  /-- The settings file. -/
  file : Option String := none
  layer : Layer := .blank
  deriving DecidableEq, Repr

/-- Why settings cannot be loaded. -/
inductive SettingsError where
  | fileMissing (path : String)
  | fileUnreadable (path : String)
  | fileMalformed (path : String) (problem : Json.Problem)
  | regionMissing
  deriving DecidableEq, Repr

/-- The wording of an error. -/
def SettingsError.message : SettingsError → String
  | .fileMissing path => "Config file not found: " ++ path
  | .fileUnreadable path => "Failed to read config file: " ++ path
  | .fileMalformed path _ => "Failed to parse config file: " ++ path
  | .regionMissing => "storage.dynamodb.region is required for the dynamodb backend"

/-- Settings that have been loaded, or why they were not, with the unknown fields of the file. -/
structure SettingsReading where
  unknown : List String
  result : Except SettingsError Settings

/-- The name of the settings file if the command names none. -/
def usualSettingsFile : String := "incidents.json"

/-- The remark that unknown fields are worth. -/
def unknownFieldsRemark : String := "Unknown fields in config file (possible typos)"

/-- The settings file that was found at a path. -/
def readSettingsAt (path : String) (found : Directory.Found) : Except SettingsError SettingsFile :=
  match found with
  | .nothing => .error (.fileMissing path)
  | .unreadable => .error (.fileUnreadable path)
  | .text content =>
    let reading : Json.Reading Empty SettingsFile := Json.read readSettingsFile content.toList
    reading.result.mapError (.fileMalformed path)

/-- The settings file of a run; without one everything is left open. -/
def settingsFile (d : Directory) (path : Option String) : Except SettingsError SettingsFile :=
  match path with
  | some path => readSettingsAt path (d.read path)
  | none =>
    match d.read usualSettingsFile with
    | .nothing => .ok ⟨.blank, []⟩
    | found => readSettingsAt usualSettingsFile found

/-- The settings of what a command says over a settings file. -/
def SettingsFile.under (file : SettingsFile) (layer : Layer) : SettingsReading :=
  match (layer.above file.layer).settings? with
  | some settings => ⟨file.unknown, .ok settings⟩
  | none => ⟨file.unknown, .error .regionMissing⟩

/-- Loads the settings of a run. -/
def loadSettings (d : Directory) (command : CommandSettings) : SettingsReading :=
  match settingsFile d command.file with
  | .error e => ⟨[], .error e⟩
  | .ok file => file.under command.layer

end IncidentTracker
