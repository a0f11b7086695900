import IncidentTracker.Relational.Evaluation
import IncidentTracker.Relational.Location

/-!
# The Database

Two tables: one of incidents, and one of their attributes with a row for each. Rows of incidents
are kept in ascending order of their identifiers, rows of attributes in ascending order of their
incidents and then of their names. An identifier is one more than the largest that was ever given,
so none is given twice, not even after the row that had it is gone.

A third table notes the version of the others. A script creates what is missing and notes the
current version with the time; it is executed when a database is used that is not current.

A query joins every row of an incident with its attribute rows, and `foldRows` puts incidents
together again from joined rows, in whatever order these come.
-/

namespace IncidentTracker.Relational

/-- A row of the attribute table. -/
structure AttributeRow where
  incidentId : Int
  name : String
  value : String
  deriving DecidableEq, Repr

/-- A row of `schema_version`: its `id`, the `version` it notes, and when that was `applied_at`. -/
structure VersionRow where
  id : Int
  version : Int
  /-- When the version was noted, in seconds. -/
  appliedAt : Int
  deriving DecidableEq, Repr

/-- What is created in a database: three tables, and an index of the names of attributes. -/
inductive SchemaPart where
  | versions
  | incidents
  | attributes
  | attributeNames
  deriving DecidableEq, Repr

/-- The name of a part of the schema. -/
def SchemaPart.name : SchemaPart → String
  | .versions => "schema_version"
  | .incidents => "Incidents"
  | .attributes => "IncidentAttributes"
  | .attributeNames => "idx_incident_attributes_name"

/-- The tables, in ascending order of their names. -/
def SchemaPart.tables : List SchemaPart :=
  [.attributes, .incidents, .versions]

/-- A database with the tables `Incidents`, `IncidentAttributes` and `schema_version`. Before its
    tables are created there is nothing in it. -/
structure Database where
  incidents : List IncidentRow := []
  attributes : List AttributeRow := []
  /-- The largest identifier ever given. -/
  lastId : Nat := 0
  /-- The rows of the table of versions. -/
  versionRows : List VersionRow := []
  /-- The parts of the schema that have been created, in order. -/
  created : List SchemaPart := []
  /-- Whether changes are written to a log that connections share. -/
  hasLog : Bool := false
  deriving DecidableEq, Repr

/-- The version of the tables that this library works with, `SCHEMA_VERSION`. -/
def currentVersion : Int := 1

namespace Database

/-! ## §1 The schema -/

/-- A database that has just been created. -/
def blank : Database := {}

/-- Turns to the log of changes that connections share, `PRAGMA journal_mode = WAL`. Where the
    location does without one, a database that has one cannot be opened; and a database that has
    none can be given one only if it may be written. -/
def joinLog (db : Database) (l : Location) : Except Error Database :=
  if l.isFrozen then .ok db
  else if db.hasLog then if l.sharesLog then .ok db else .error .cannotOpen
  else if !l.sharesLog then .ok db
  else if l.isReadOnly then .error .readOnly
  else .ok { db with hasLog := true }

/-- Whether all tables have been created. -/
def hasTables (db : Database) : Bool :=
  SchemaPart.tables.all fun table => db.created.contains table

/-- The names of the tables that have been created, in ascending order. -/
def tables (db : Database) : List String :=
  (SchemaPart.tables.filter fun table => db.created.contains table).map SchemaPart.name

/-- The versions that are noted. -/
def versions (db : Database) : List Int :=
  db.versionRows.map VersionRow.version

/-- The version in the row with the identifier one: `SELECT version FROM schema_version WHERE id =
    1`. -/
def version (db : Database) : Option Int :=
  (db.versionRows.find? fun row => row.id == 1).map VersionRow.version

/-- Notes another version, or that none is known. -/
def setVersion (db : Database) (version : Option Int) (now : Int := 0) : Database :=
  { db with
    versionRows := (db.versionRows.filter fun row => row.id != 1) ++
      version.toList.map fun version => ⟨1, version, now⟩ }

/-- A statement that brings a database up to date: `CREATE ... IF NOT EXISTS` of a part of the
    schema, or the `INSERT OR REPLACE` that notes the current version. -/
inductive Statement where
  /-- Creates a part of the schema unless it exists. -/
  | create (part : SchemaPart)
  /-- Puts a version and the time into the row with the identifier one, replacing what is there. -/
  | note (version : Int)
  deriving DecidableEq, Repr

/-- Executes a statement at a time. No row of an incident or of an attribute is touched. -/
def execute (now : Int) (db : Database) : Statement → Database
  | .create part =>
    if db.created.contains part then db else { db with created := db.created ++ [part] }
  | .note version => db.setVersion (some version) now

/-- The statements that bring a database up to date, in order. -/
def script : List Statement :=
  [.create .versions, .create .incidents, .create .attributes, .create .attributeNames,
    .note currentVersion]

/-- Executes the script in one transaction: `apply_schema`. -/
def applySchema (db : Database) (now : Int) : Database :=
  script.foldl (execute now) db

/-- Whether a table of versions exists that notes the current version or a later one. -/
def isCurrent (db : Database) : Bool :=
  db.created.contains .versions && decide (currentVersion ≤ db.version.getD 0)

/-- Executes the script unless the database is current already: `run_migrations`. -/
def migrate (db : Database) (now : Int) : Database :=
  if db.isCurrent then db else db.applySchema now

/-- Refuses a version that does not fit a signed 32-bit word. -/
def checkVersion (db : Database) : Except Error Unit :=
  match db.version with
  | none => .ok ()
  | some version =>
    if 2147483647 < version then .error .versionTooLarge
    else if version < -2147483648 then .error .versionTooSmall
    else .ok ()

/-! ## §2 Rows -/

/-- Stores an incident and gives it its identifier: `create_incident`. -/
def insert (db : Database) (new : NewIncident) : Incident × Database :=
  -- an identifier that was given once is never given again
  let id : Int := db.lastId + 1
  let row : IncidentRow := ⟨id, new.kind, new.description, new.reporter, new.state⟩
  let attributes := new.attributes.entries.map fun entry => ⟨id, entry.1, entry.2⟩
  (new.withId id,
    { db with
      incidents := db.incidents ++ [row]
      attributes := db.attributes ++ attributes
      lastId := db.lastId + 1 })

/-- Removes the row of an incident together with its attribute rows, and tells how many rows of
    incidents there were to remove. -/
def delete (db : Database) (id : Int) : Nat × Database :=
  ((db.incidents.filter fun row => row.id == id).length,
    { db with
      incidents := db.incidents.filter fun row => row.id != id
      attributes := db.attributes.filter fun row => row.incidentId != id })

/-- The names and values of the attribute rows of an incident. -/
def attributesOf (db : Database) (id : Int) : List (String × String) :=
  (db.attributes.filter fun row => row.incidentId == id).map fun row => (row.name, row.value)

/-- The rows of incidents with what tests may look up. -/
def rows (db : Database) : List Row :=
  db.incidents.map fun row => ⟨row, db.attributesOf row.id⟩

end Database

/-! ## §3 Joined rows -/

/-- A row of an incident joined with one of its attribute rows, or with none if it has none. -/
structure JoinRow where
  incident : IncidentRow
  entry : Option (String × String)
  deriving DecidableEq, Repr

/-- The rows that an incident is joined to. -/
def Row.joined (row : Row) : List JoinRow :=
  match row.attributes with
  | [] => [⟨row.incident, none⟩]
  | entries => entries.map fun entry => ⟨row.incident, some entry⟩

/-- The incident of a row with the given attributes. -/
def IncidentRow.toIncident (row : IncidentRow) (attributes : Attributes) : Incident :=
  ⟨row.kind, row.id, row.description, row.reporter, row.state, attributes⟩

/-- Adds what a joined row tells of its attribute. -/
def JoinRow.addTo (row : JoinRow) (attributes : Attributes) : Attributes :=
  match row.entry with
  | some (name, value) => attributes.insert name value
  | none => attributes

/-- Takes a joined row into a list of incidents in ascending order of their identifiers. -/
def foldRow (row : JoinRow) : List Incident → List Incident
  | [] => [row.incident.toIncident (row.addTo .empty)]
  | i :: rest =>
    -- a further row of an incident that is known brings an attribute only
    if row.incident.id = i.id then { i with attributes := row.addTo i.attributes } :: rest
    else if row.incident.id < i.id then row.incident.toIncident (row.addTo .empty) :: i :: rest
    else i :: foldRow row rest

/-- The incidents that joined rows tell of, in ascending order of their identifiers: `fold_rows`. -/
def foldRows (rows : List JoinRow) : List Incident :=
  rows.foldl (fun incidents row => foldRow row incidents) []

/-- The incidents of some rows. -/
def incidentsOf (rows : List Row) : List Incident :=
  foldRows (rows.flatMap Row.joined)

/-! ## §4 Queries -/

/-- The rows that meet a clause, tested one after the other. -/
def Clause.keep (clause : Clause) : List Row → Except Error (List Row)
  | [] => .ok []
  | row :: rows => do
    let wanted ← clause.holds row
    let others ← clause.keep rows
    return if wanted then row :: others else others

namespace Database

/-- The incidents that meet a clause: `list_incidents`. -/
def select (db : Database) (clause : Clause) : Except Error (List Incident) := do
  clause.checkLimits
  let rows ← clause.keep db.rows
  return incidentsOf rows

/-- The incident with an identifier: `get_incident`. -/
def find? (db : Database) (id : Int) : Option Incident :=
  (incidentsOf (db.rows.filter fun row => row.incident.id == id)).head?

end Database

end IncidentTracker.Relational
