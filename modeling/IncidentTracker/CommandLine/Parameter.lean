import IncidentTracker.Settings.Load
import IncidentTracker.Text.Blank
import IncidentTracker.Text.Lowercase

/-!
# Parameters of Commands

What a command can be told, under which names, and which values are accepted. Some parameters
belong to one verb; the others say how the incidents are stored, may stand before or after the
verb, and may also come from a variable of the environment.
-/

namespace IncidentTracker

open Filtering (Semantics)

/-! ## §1 Words for choices -/

/-- The kind of store that a word names, `parse_storage_backend`, in any case; one of them has a
    short name too. -/
def Backend.ofWord? (word : String) : Option Backend :=
  let words := Backend.choices ++ [("dynamo", Backend.wideColumn)]
  (words.find? fun choice => choice.1 == Text.lowercase word).map (·.2)

/-- The semantics that a word names, `parse_filter_semantics`, in any case. -/
def Filtering.Semantics.ofWord? (word : String) : Option Semantics :=
  (Semantics.choices.find? fun choice => choice.1 == Text.lowercase word).map (·.2)

namespace CommandLine

/-- The name and the value of an attribute, `parse_key_value`, split at the first equals sign.
    Blanks around the name are dropped, and there must be something left of it. -/
def keyValue? (text : String) : Option (String × String) :=
  let key := Text.trimBlank (text.toList.takeWhile (· ≠ '='))
  match text.toList.dropWhile (· ≠ '=') with
  | [] => none
  | _ :: value => if key.isEmpty then none else some (String.ofList key, String.ofList value)

/-- The message about a text that is no attribute. -/
def invalidAttribute (text : String) : String :=
  "Invalid attribute '" ++ text ++ "'. Expected key=value"

/-! ## §2 Why there is no command -/

/-- Why reading the words of a command line stops without a command. -/
inductive Stop where
  /-- Help is asked for. -/
  | help
  /-- The version is asked for. -/
  | version
  /-- Nothing is said at all. -/
  | nothingSaid
  | verbMissing
  | verbUnknown
  | wordUnknown
  /-- A parameter has no value, or an empty one where there must be a path. -/
  | valueMissing
  /-- A value is given to what takes none. -/
  | valueUnwanted
  /-- A parameter that takes one value is given twice. -/
  | repeated
  | requiredMissing
  | valueInvalid (message : String)
  deriving DecidableEq, Repr

/-- Whether a stop is what the words asked for. -/
def Stop.isWanted : Stop → Bool
  | .help => true
  | .version => true
  | _ => false

/-- The name and the version of the program. -/
def versionText : String := "incidents 0.3.0"

/-! ## §3 Parameters -/

/-- What a command can be told. -/
inductive Parameter where
  | filter
  | reporter
  | state
  | description
  | kind
  | attributeEntry
  | settingsFile
  | backend
  | databasePath
  | region
  | table
  | endpoint
  | semantics
  deriving DecidableEq, Repr

namespace Parameter

/-- The long name of a parameter. -/
def long : Parameter → String
  | .filter => "filter"
  | .reporter => "reporter"
  | .state => "state"
  | .description => "description"
  | .kind => "type"
  | .attributeEntry => "attr"
  | .settingsFile => "config"
  | .backend => "backend"
  | .databasePath => "sqlite-path"
  | .region => "dynamodb-region"
  | .table => "dynamodb-table"
  | .endpoint => "dynamodb-endpoint"
  | .semantics => "filter-semantics"

/-- The one-letter name of a parameter, if it has one. -/
def letter? : Parameter → Option Char
  | .filter => some 'f'
  | .settingsFile => some 'c'
  | _ => none

/-- The variable that gives a parameter its value if no word does. -/
def variableName? : Parameter → Option String
  | .settingsFile => some "INCIDENTS_CONFIG"
  | .backend => some "INCIDENTS_BACKEND"
  | .databasePath => some "INCIDENTS_SQLITE_PATH"
  | .region => some "INCIDENTS_DYNAMODB_REGION"
  | .table => some "INCIDENTS_DYNAMODB_TABLE"
  | .endpoint => some "INCIDENTS_DYNAMODB_ENDPOINT"
  | .semantics => some "INCIDENTS_FILTER_SEMANTICS"
  | _ => none

/-- Whether a parameter may be given several times. -/
def isRepeatable : Parameter → Bool
  | .attributeEntry => true
  | _ => false

/-- Refuses a value that a parameter does not take. -/
def check (parameter : Parameter) (value : String) : Except Stop Unit :=
  match parameter with
  | .backend =>
    if (Backend.ofWord? value).isSome then .ok ()
    else .error (.valueInvalid
      ("Invalid backend '" ++ value ++ "'. Valid options: memory, sqlite, dynamodb"))
  | .semantics =>
    if (Semantics.ofWord? value).isSome then .ok ()
    else .error (.valueInvalid
      ("Invalid filter semantics '" ++ value ++ "'. Valid options: legacy, consistent"))
  -- an attribute is split here only to see whether it can be
  | .attributeEntry =>
    if (keyValue? value).isSome then .ok ()
    else .error (.valueInvalid (invalidAttribute value))
  -- paths are the only plain texts that must not be empty
  | .settingsFile => if value.isEmpty then .error .valueMissing else .ok ()
  | .databasePath => if value.isEmpty then .error .valueMissing else .ok ()
  | _ => .ok ()

/-- The parameters that say how the incidents are stored. -/
def common : List Parameter :=
  [.settingsFile, .backend, .databasePath, .region, .table, .endpoint, .semantics]

end Parameter

/-! ## §4 Verbs -/

/-- What a command can do. -/
inductive Verb where
  | list
  | add
  | explain
  deriving DecidableEq, Repr

namespace Verb

/-- The verbs by name. -/
def all : List (String × Verb) :=
  [("list", .list), ("add", .add), ("explain", .explain)]

/-- The verb with a name. -/
def ofName? (name : String) : Option Verb :=
  (all.find? fun entry => entry.1 == name).map (·.2)

/-- The parameters that belong to a verb. -/
def parameters : Verb → List Parameter
  | .list => [.filter]
  | .add => [.reporter, .state, .description, .kind, .attributeEntry]
  | .explain => [.filter]

/-- The parameters that a verb cannot do without. -/
def required : Verb → List Parameter
  | .list => []
  | .add => [.reporter, .state]
  | .explain => [.filter]

end Verb

end CommandLine

end IncidentTracker
