import IncidentTracker.Json.Decode
import IncidentTracker.Json.Render
import IncidentTracker.Relational.Database

/-!
# Snapshots

The written form of a database, in which it is kept in a file between runs, and its reader.
-/

namespace IncidentTracker.Relational

open Json (Decoder Field Record Value)

/-! ## §1 Writing -/

/-- The written form of a row of the incident table. -/
def IncidentRow.toJson (row : IncidentRow) : Value :=
  .object [("id", .integer row.id), ("kind", .text row.kind),
    ("description", .text row.description), ("reporter", .text row.reporter),
    ("state", .text row.state)]

/-- The written form of a row of the attribute table. -/
def AttributeRow.toJson (row : AttributeRow) : Value :=
  .object [("incident", .integer row.incidentId), ("name", .text row.name),
    ("value", .text row.value)]

/-- The written form of a row of the table of versions. -/
def VersionRow.toJson (row : VersionRow) : Value :=
  .object [("id", .integer row.id), ("version", .integer row.version),
    ("appliedAt", .integer row.appliedAt)]

/-- The written form of a database. -/
def Database.toJson (db : Database) : Value :=
  .object [("schema", .list (db.created.map fun part => .text part.name)),
    ("versions", .list (db.versionRows.map VersionRow.toJson)), ("log", .boolean db.hasLog),
    ("lastId", .integer db.lastId),
    ("incidents", .list (db.incidents.map IncidentRow.toJson)),
    ("attributes", .list (db.attributes.map AttributeRow.toJson))]

/-! ## §2 Reading -/

variable {ν σ α : Type}

/-- A required field. -/
def rowField (name : String) (item : Decoder ν α) (get : σ → Option α) (set : α → σ → σ) :
    Field ν σ where
  name := name
  presence := .required
  isSet := fun draft => (get draft).isSome
  read := fun depth d => set <$> item depth d

/-- A row being read. -/
structure RowDraft where
  id : Option Int := none
  first : Option String := none
  second : Option String := none
  third : Option String := none
  fourth : Option String := none

/-- The fields of a row with an identifier and texts. -/
def rowRecord (id first second : String) (more : List (Field ν RowDraft)) :
    Record ν RowDraft where
  expected := "a row"
  fields :=
    rowField id Json.integer RowDraft.id (fun n draft => { draft with id := some n }) ::
      rowField first Json.text RowDraft.first (fun s draft => { draft with first := some s }) ::
      rowField second Json.text RowDraft.second (fun s draft => { draft with second := some s }) ::
      more
  empty := {}

/-- Reads a row of the incident table. -/
def readIncidentRow : Decoder ν IncidentRow := fun depth d => do
  let draft ← (rowRecord "id" "kind" "description"
    [rowField "reporter" Json.text RowDraft.third (fun s draft => { draft with third := some s }),
     rowField "state" Json.text RowDraft.fourth
       (fun s draft => { draft with fourth := some s })]).read depth d
  return ⟨draft.id.getD 0, draft.first.getD "", draft.second.getD "", draft.third.getD "",
    draft.fourth.getD ""⟩

/-- Reads a row of the attribute table. -/
def readAttributeRow : Decoder ν AttributeRow := fun depth d => do
  let draft ← (rowRecord "incident" "name" "value" []).read depth d
  return ⟨draft.id.getD 0, draft.first.getD "", draft.second.getD ""⟩

/-- A row of the table of versions being read. -/
structure VersionDraft where
  id : Option Int := none
  version : Option Int := none
  appliedAt : Option Int := none

/-- The fields of a row of the table of versions. -/
def versionRecord : Record ν VersionDraft where
  expected := "a row"
  fields :=
    [rowField "id" Json.integer VersionDraft.id (fun n draft => { draft with id := some n }),
     rowField "version" Json.integer VersionDraft.version
       (fun n draft => { draft with version := some n }),
     rowField "appliedAt" Json.integer VersionDraft.appliedAt
       (fun n draft => { draft with appliedAt := some n })]
  empty := {}

/-- Reads a row of the table of versions. -/
def readVersionRow : Decoder ν VersionRow := fun depth d => do
  let draft ← versionRecord.read depth d
  return ⟨draft.id.getD 0, draft.version.getD 0, draft.appliedAt.getD 0⟩

/-- The parts of a schema by name. -/
def SchemaPart.choices : List (String × SchemaPart) :=
  [SchemaPart.versions, .incidents, .attributes, .attributeNames].map fun part => (part.name, part)

/-- Reads a truth value. -/
def readTruth : Decoder ν Bool
  | _, .scalar _ (.ok (.boolean value)) _ => pure value
  | _, d => throw (d.unexpected "a truth value")

/-- A database being read. -/
structure DatabaseDraft where
  schema : Option (List SchemaPart) := none
  versions : Option (List VersionRow) := none
  hasLog : Option Bool := none
  lastId : Option Int := none
  incidents : Option (List IncidentRow) := none
  attributes : Option (List AttributeRow) := none

/-- The fields of a database. -/
def databaseRecord : Record ν DatabaseDraft where
  expected := "a database"
  fields :=
    [rowField "schema" (Json.listOf (Json.choice SchemaPart.choices)) DatabaseDraft.schema
       (fun schema draft => { draft with schema := some schema }),
     rowField "versions" (Json.listOf readVersionRow) DatabaseDraft.versions
       (fun rows draft => { draft with versions := some rows }),
     rowField "log" readTruth DatabaseDraft.hasLog
       (fun hasLog draft => { draft with hasLog := some hasLog }),
     rowField "lastId" Json.integer DatabaseDraft.lastId
       (fun lastId draft => { draft with lastId := some lastId }),
     rowField "incidents" (Json.listOf readIncidentRow) DatabaseDraft.incidents
       (fun rows draft => { draft with incidents := some rows }),
     rowField "attributes" (Json.listOf readAttributeRow) DatabaseDraft.attributes
       (fun rows draft => { draft with attributes := some rows })]
  empty := {}

/-- Reads a database. -/
def readDatabase : Decoder ν Database := fun depth d => do
  let draft ← databaseRecord.read depth d
  return { incidents := draft.incidents.getD []
           attributes := draft.attributes.getD []
           lastId := (draft.lastId.getD 0).toNat
           versionRows := draft.versions.getD []
           created := draft.schema.getD []
           hasLog := draft.hasLog.getD false }

/-- The database that a text is the written form of. -/
def Database.ofSnapshot? (text : String) : Option Database :=
  let reading : Json.Reading Empty Database := Json.read readDatabase text.toList
  reading.result.toOption

/-- The text in which a database is kept. -/
def Database.snapshot (db : Database) : String :=
  db.toJson.pretty ++ "\n"

end IncidentTracker.Relational
