import IncidentTracker.Json.Decode
import IncidentTracker.Settings.Layer

/-!
# Settings Files

A settings file is a record of records in which everything may be left out or be null. Unknown
fields at the top are collected, because they may be misspelt; deeper ones are passed over.
-/

namespace IncidentTracker

open Json (Decoder Field Record)
open Filtering (Semantics)

variable {ν σ α : Type}

/-- A field that may be null, and may be left out of an object. -/
def openField (name : String) (item : Decoder ν α) (get : σ → Option (Option α))
    (set : Option α → σ → σ) : Field ν σ where
  name := name
  presence := .listed
  isSet := fun draft => (get draft).isSome
  read := fun depth d => set <$> Json.optional item depth d

/-! ## §1 Records -/

/-- What a file says about the database. -/
structure DatabaseDraft where
  path : Option (Option String) := none

/-- The fields about the database. -/
def databaseRecord : Record ν DatabaseDraft where
  expected := "struct SqliteFileConfig"
  fields :=
    [openField "path" (Json.textAs "path string") DatabaseDraft.path
      fun path draft => { draft with path := some path }]
  empty := {}

/-- What a file says about the service of a table. -/
structure ServiceDraft where
  region : Option (Option String) := none
  table : Option (Option String) := none
  endpoint : Option (Option String) := none

/-- The fields about the service of a table. -/
def serviceRecord : Record ν ServiceDraft where
  expected := "struct DynamodbFileConfig"
  fields :=
    [openField "region" Json.text ServiceDraft.region
      fun region draft => { draft with region := some region },
     openField "incident_table" Json.text ServiceDraft.table
      fun table draft => { draft with table := some table },
     openField "endpoint" Json.text ServiceDraft.endpoint
      fun endpoint draft => { draft with endpoint := some endpoint }]
  empty := {}

/-- What a file says about the store. -/
structure StorageDraft where
  backend : Option (Option Backend) := none
  database : Option (Option DatabaseDraft) := none
  service : Option (Option ServiceDraft) := none

/-- The fields about the store. -/
def storageRecord : Record ν StorageDraft where
  expected := "struct StorageFileConfig"
  fields :=
    [openField "backend" (Json.choice Backend.choices) StorageDraft.backend
      fun backend draft => { draft with backend := some backend },
     openField "sqlite" databaseRecord.read StorageDraft.database
      fun database draft => { draft with database := some database },
     openField "dynamodb" serviceRecord.read StorageDraft.service
      fun service draft => { draft with service := some service }]
  empty := {}

/-- What a file says about filters. -/
structure FiltersDraft where
  semantics : Option (Option Semantics) := none

/-- The fields about filters. -/
def filtersRecord : Record ν FiltersDraft where
  expected := "struct FiltersFileConfig"
  fields :=
    [openField "semantics" (Json.choice Semantics.choices) FiltersDraft.semantics
      fun semantics draft => { draft with semantics := some semantics }]
  empty := {}

/-- What a file says. -/
structure FileDraft where
  storage : Option (Option StorageDraft) := none
  filters : Option (Option FiltersDraft) := none

/-- The fields of a file. -/
def fileRecord : Record ν FileDraft where
  expected := "struct FileConfig"
  fields :=
    [openField "storage" storageRecord.read FileDraft.storage
      fun storage draft => { draft with storage := some storage },
     openField "filters" filtersRecord.read FileDraft.filters
      fun filters draft => { draft with filters := some filters }]
  empty := {}

/-! ## §2 Layers -/

/-- What a file says as a layer of settings. -/
def FileDraft.layer (draft : FileDraft) : Layer :=
  let storage := draft.storage.join.getD {}
  let database := storage.database.join.getD {}
  let service := storage.service.join.getD {}
  let filters := draft.filters.join.getD {}
  { backend := storage.backend.join
    databasePath := database.path.join
    region := service.region.join
    table := service.table.join
    endpoint := service.endpoint.join
    semantics := filters.semantics.join }

/-- A settings file that has been read. -/
structure SettingsFile where
  layer : Layer
  /-- The unknown fields at the top, each once, in the order of the file. -/
  unknown : List String
  deriving DecidableEq, Repr

/-- Reads a settings file. -/
def readSettingsFile : Decoder ν SettingsFile := fun depth d => do
  let (draft, unknown) ← fileRecord.readOpen depth d
  return ⟨draft.layer, unknown.eraseDups⟩

end IncidentTracker
