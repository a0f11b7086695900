import IncidentTracker.Entity.Property
import IncidentTracker.Store.Repository

/-!
# The Store in Memory

Incidents in the order of their identifiers. A new one gets as its identifier the number of those
there are, and takes the place of whatever is stored under it. Nothing is kept when the store is
closed and opened again.
-/

namespace IncidentTracker

/-- Incidents in ascending order of their identifiers. -/
structure MemoryStore where
  incidents : List Incident := []
  deriving DecidableEq

namespace MemoryStore

/-- A store without incidents. -/
def empty : MemoryStore := {}

/-- How many incidents there are. -/
def size (s : MemoryStore) : Nat :=
  s.incidents.length

/-- Whether there is no incident. -/
def isEmpty (s : MemoryStore) : Bool :=
  s.incidents.isEmpty

/-- Puts an incident into its place, replacing one of the same identifier. -/
def put (incident : Incident) : List Incident → List Incident
  | [] => [incident]
  | other :: rest =>
    if incident.id = other.id then incident :: rest
    else if incident.id < other.id then incident :: other :: rest
    else other :: put incident rest

/-- Stores an incident under the number of those that are stored. -/
def add (s : MemoryStore) (new : NewIncident) : Incident × MemoryStore :=
  let incident := new.withId s.size
  (incident, ⟨put incident s.incidents⟩)

/-- The incident with an identifier. -/
def get? (s : MemoryStore) (id : Int) : Option Incident :=
  s.incidents.find? fun incident => incident.id == id

/-- The incidents among some that pass a filter, looked at one after the other. -/
def matching (filter : Option Filtering.Request) : List Incident → Logged (List Incident)
  | [] => return []
  | incident :: rest => do
    let wanted ← evaluate filter incident
    let others ← matching filter rest
    return if wanted then incident :: others else others

/-- Looks for the incidents that pass a filter, and says how many there are and how many pass. -/
def search (s : MemoryStore) (filter : Option Filtering.Request) : Logged (List Incident) := do
  let matched ← matching filter s.incidents
  Logged.say ⟨.trace, "Evaluated filter in memory",
    [("scanned", toString s.size), ("matched", toString matched.length)]⟩
  return matched

/-- The incidents that pass a filter. -/
def list (s : MemoryStore) (filter : Option Filtering.Request) : List Incident :=
  (s.search filter).value

/-- The store as a repository. -/
def repository : Repository (StateM MemoryStore) where
  name := "memory"
  add := fun new s => let (incident, s) := s.add new; (.ok incident, s)
  get := fun id s => (.ok (s.get? id), s)
  list := fun filter s => (.ok (s.list filter), s)

end MemoryStore

end IncidentTracker
