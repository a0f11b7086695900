import IncidentTracker.Relational.Database
import IncidentTracker.Store.Repository

/-!
# The Relational Store

A database in use. Opening it brings its tables up to date, which a database that may only be read
does not allow; after it has been closed every operation fails and nothing changes. The filter of
a list becomes the clause of a query in the semantics the store was opened with. Where every
connection has a database of its own, two of them take turns, and one has no tables.
-/

namespace IncidentTracker.Relational

open Filtering (Semantics)

/-- A database in use. -/
structure Store where
  semantics : Semantics
  /-- The database of the connection that is used next. -/
  database : Database
  /-- That of the connection that is used in turn with it, if each has one of its own. -/
  spare : Option Database := none
  isOpen : Bool := true
  isReadOnly : Bool := false
  deriving DecidableEq, Repr

namespace Store

/-! ## §1 Opening and closing -/

/-- Starts using a database, at some time. -/
def start (s : Semantics) (db : Database) (now : Int) : Store :=
  { semantics := s, database := db.migrate now }

/-- Starts using a database of which nothing may be changed. -/
def startReading (s : Semantics) (db : Database) : Except Error Store :=
  if db.isCurrent then .ok { semantics := s, database := db, isReadOnly := true }
  else .error .readOnly

/-- Starts using a database when every connection has one of its own. The tables are created on
    the second connection, and then it is the turn of the first. -/
def startPrivate (s : Semantics) (db : Database) (now : Int) : Store :=
  { semantics := s, database := db, spare := some (db.migrate now) }

/-- Starts using the database at a location, at some time. -/
def startAt (s : Semantics) (l : Location) (db : Database) (now : Int) : Except Error Store := do
  db.checkVersion
  if l.isReadOnly then startReading s db
  else return if l.isPrivate then startPrivate s db now else start s db now

/-- Stops using the database. -/
def close (s : Store) : Store :=
  { s with isOpen := false }

/-! ## §2 Operations -/

/-- The store when it is the turn of the other connection, if there is one. -/
def next (s : Store) : Store :=
  match s.spare with
  | none => s
  | some db => { s with database := db, spare := some s.database }

/-- What an operation on the database answers and leaves behind, if the store is open and has its
    tables. -/
def act {α : Type} (s : Store) (operation : Database → α × Database) : Except Error α × Store :=
  if !s.isOpen then (.error .closed, s)
  else if !s.database.hasTables then (.error .tableMissing, s.next)
  else
    let (answer, db) := operation s.database
    (.ok answer, { s with database := db }.next)

/-- What a question to the database answers, if the store is open and has its tables. -/
def ask {α : Type} (s : Store) (question : Database → Except Error α) :
    Except Error α × Store :=
  if !s.isOpen then (.error .closed, s)
  else if !s.database.hasTables then (.error .tableMissing, s.next)
  else (question s.database, s.next)

/-- Stores an incident. -/
def add (s : Store) (new : NewIncident) : Except Error Incident × Store :=
  if s.isOpen && s.isReadOnly then (.error .readOnly, s) else s.act fun db => db.insert new

/-- The incident with an identifier. -/
def get (s : Store) (id : Int) : Except Error (Option Incident) × Store :=
  s.ask fun db => .ok (db.find? id)

/-- The incidents that pass a filter. -/
def list (s : Store) (filter : Option Filtering.Request) : Except Error (List Incident) × Store :=
  s.ask fun db => db.select (Clause.ofFilter s.semantics filter)

/-- The store as a repository. -/
def repository : Repository (StateM Store) where
  name := "sqlite"
  add := fun new s => let (answer, s) := s.add new; (answer.mapError StoreError.relational, s)
  get := fun id s => let (answer, s) := s.get id; (answer.mapError StoreError.relational, s)
  list := fun filter s =>
    let (answer, s) := s.list filter
    (answer.mapError StoreError.relational, s)

end Store

end IncidentTracker.Relational
