import IncidentTracker.Store.Backend

/-!
# Layers of Settings

Settings come from several sources, each of which may leave anything open. Sources are laid over
one another, what is still open takes a default, and only then is it checked that nothing
required is missing.
-/

namespace IncidentTracker

open Filtering (Semantics)

/-- The settings of a run. -/
structure Settings where
  storage : StorageSettings
  semantics : Semantics
  deriving DecidableEq, Repr

/-- What one source says about the settings. -/
structure Layer where
  backend : Option Backend := none
  databasePath : Option String := none
  region : Option String := none
  table : Option String := none
  endpoint : Option String := none
  semantics : Option Semantics := none
  deriving DecidableEq, Repr

namespace Layer

/-- A source that leaves everything open. -/
def blank : Layer := {}

/-- One source above another: what the upper one leaves open is taken from the lower one. -/
def above (upper lower : Layer) : Layer where
  backend := upper.backend <|> lower.backend
  databasePath := upper.databasePath <|> lower.databasePath
  region := upper.region <|> lower.region
  table := upper.table <|> lower.table
  endpoint := upper.endpoint <|> lower.endpoint
  semantics := upper.semantics <|> lower.semantics

/-- The path of the database if none is given. -/
def defaultDatabasePath : String := "incidents.db"

/-- The name of the table if none is given. -/
def defaultTable : String := "Incidents"

/-- How the service of the table is reached; there is no default for its region, and it must not
    be empty. -/
def service? (layer : Layer) : Option ServiceSettings :=
  match layer.region with
  | none => none
  | some region =>
    if region.isEmpty then none
    else some ⟨region, layer.table.getD defaultTable, layer.endpoint⟩

/-- The backend, which is the store in memory if none is given. -/
def chosenBackend (layer : Layer) : Backend :=
  layer.backend.getD .memory

/-- The settings with defaults for what is open, `from_sources`. They are missing only if the
    service of a table is needed and cannot be reached. -/
def settings? (layer : Layer) : Option Settings :=
  let path := layer.databasePath.getD defaultDatabasePath
  let semantics := layer.semantics.getD .legacy
  match layer.chosenBackend, layer.service? with
  | .wideColumn, none => none
  | .wideColumn, some service => some ⟨⟨.wideColumn, path, some service⟩, semantics⟩
  | backend, _ => some ⟨⟨backend, path, none⟩, semantics⟩

end Layer

end IncidentTracker
