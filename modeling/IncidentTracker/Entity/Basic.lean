import IncidentTracker.Dictionary
import IncidentTracker.Text.Decimal

/-!
# Incidents and Users

The entities that are stored and filtered. An incident that has not been stored yet has no
identifier; the store that takes it in assigns one.
-/

namespace IncidentTracker

/-- Free-form attributes: texts under names. -/
abbrev Attributes := Dictionary String

/-- A tracked incident. -/
structure Incident where
  kind : String := ""
  id : Int
  description : String := ""
  reporter : String := ""
  state : String := ""
  attributes : Attributes := .empty
  deriving DecidableEq

/-- What an incident is made from. -/
structure NewIncident where
  kind : String := ""
  description : String := ""
  reporter : String := ""
  state : String := ""
  attributes : Attributes := .empty
  deriving DecidableEq

/-- The incident stored under an assigned identifier. -/
def NewIncident.withId (new : NewIncident) (id : Int) : Incident :=
  ⟨new.kind, id, new.description, new.reporter, new.state, new.attributes⟩

/-- What an incident was made from. -/
def Incident.payload (i : Incident) : NewIncident :=
  ⟨i.kind, i.description, i.reporter, i.state, i.attributes⟩

/-- A registered user. -/
structure User where
  emailAddress : String := ""
  userName : String := ""
  firstName : String := ""
  lastName : String := ""
  gender : String := ""
  id : Int
  deriving DecidableEq

@[simp] theorem NewIncident.id_withId (new : NewIncident) (id : Int) : (new.withId id).id = id :=
  rfl

end IncidentTracker
