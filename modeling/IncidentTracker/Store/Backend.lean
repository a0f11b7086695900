import IncidentTracker.Directory
import IncidentTracker.Relational.Store
import IncidentTracker.Store.Memory
import IncidentTracker.WideColumn.Store

/-!
# Backends

The kinds of stores there are, how one is chosen and opened, and the store that was opened as a
repository, whichever it is.
-/

namespace IncidentTracker

open Filtering (Semantics)

/-- The kinds of stores. -/
inductive Backend where
  | memory
  | relational
  | wideColumn
  deriving DecidableEq, Repr, Inhabited

/-- The name of a kind of store. -/
def Backend.name : Backend → String
  | .memory => "memory"
  | .relational => "sqlite"
  | .wideColumn => "dynamodb"

/-- The kinds of stores by name. -/
def Backend.choices : List (String × Backend) :=
  [Backend.memory, Backend.relational, Backend.wideColumn].map fun b => (b.name, b)

/-- How the service of a wide-column table is reached. -/
structure ServiceSettings where
  region : String
  table : String
  endpoint : Option String
  deriving DecidableEq, Repr

/-- Which store is used, and where it is. -/
structure StorageSettings where
  backend : Backend
  databasePath : String
  /-- Needed for a wide-column table only. -/
  service : Option ServiceSettings
  deriving DecidableEq, Repr

/-- A store of incidents that has been opened. -/
inductive IncidentStore where
  | memory (store : MemoryStore)
  /-- A database, with the location it is kept at. -/
  | relational (location : Relational.Location) (store : Relational.Store)
  | wideColumn (store : WideColumn.Store)

namespace IncidentStore

/-- The kind of a store. -/
def backend : IncidentStore → Backend
  | .memory _ => .memory
  | .relational _ _ => .relational
  | .wideColumn _ => .wideColumn

/-- Opens the database at a location at some time, and tells what the directory is like
    afterwards. The database is looked at over one connection and brought up to date over
    another. -/
def initRelational (l : Relational.Location) (s : Semantics) (d : Directory) (now : Int) :
    Except Relational.Error IncidentStore × Directory :=
  match d.connect l with
  | (.error e, d) => (.error e, d)
  | (.ok db, d) => ((Relational.Store.startAt s l db now).map (.relational l), d)

/-- Opens the store that some settings choose, and tells what the directory that databases lie in
    is like afterwards. The service of a wide-column table replies as given. The time is that of
    the clock, in seconds. -/
def init (settings : StorageSettings) (s : Semantics) (d : Directory)
    (replies : List WideColumn.Reply) (now : Int := 0) :
    Except StoreError IncidentStore × Directory :=
  match settings.backend with
  | .memory => (.ok (.memory .empty), d)
  | .relational =>
    match Relational.Location.ofText settings.databasePath with
    | .error e => (.error (.relational e), d)
    | .ok l =>
      let (store, d) := initRelational l s d now
      (store.mapError .relational, d)
  | .wideColumn =>
    match settings.service with
    -- the settings were loaded without a service
    | none => (.error (.configuration "DynamoDB configuration required"), d)
    | some _ =>
      match WideColumn.Store.prepare ⟨s, replies, []⟩ with
      | (.ok (), store) => (.ok (.wideColumn store), d)
      | (.error e, _) => (.error e, d)

/-- What a store leaves behind in its directory. -/
def save (d : Directory) : IncidentStore → Directory
  | .memory _ => d
  | .relational location store => d.putDatabase location store.database
  | .wideColumn _ => d

/-- Releases what a store holds. A store in memory holds nothing and goes on. -/
def close : IncidentStore → IncidentStore
  | .memory store => .memory store
  | .relational location store => .relational location store.close
  | .wideColumn store => .wideColumn store

/-- An operation of a repository on the store that was opened. -/
def dispatch {α : Type} (memory : StateM MemoryStore α) (relational : StateM Relational.Store α)
    (wideColumn : StateM WideColumn.Store α) : StateM IncidentStore α
  | .memory store => let (answer, store) := memory store; (answer, .memory store)
  | .relational location store =>
    let (answer, store) := relational store; (answer, .relational location store)
  | .wideColumn store => let (answer, store) := wideColumn store; (answer, .wideColumn store)

/-- The store that was opened as a repository. -/
def repository (b : Backend) : Repository (StateM IncidentStore) where
  name := b.name
  add := fun new =>
    dispatch (MemoryStore.repository.add new) (Relational.Store.repository.add new)
      (WideColumn.Store.repository.add new)
  get := fun id =>
    dispatch (MemoryStore.repository.get id) (Relational.Store.repository.get id)
      (WideColumn.Store.repository.get id)
  list := fun filter =>
    dispatch (MemoryStore.repository.list filter) (Relational.Store.repository.list filter)
      (WideColumn.Store.repository.list filter)

end IncidentStore

end IncidentTracker
