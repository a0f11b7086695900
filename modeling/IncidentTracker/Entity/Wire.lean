import IncidentTracker.Entity.Basic
import IncidentTracker.Json.Decode
import IncidentTracker.Json.Render

/-!
# Entities as JSON

The written forms of incidents, new incidents and users, and their readers. Everything but an
identifier may be left out and is then empty.
-/

namespace IncidentTracker

open Json (Decoder Field Record Value)

/-! ## §1 Writing -/

/-- The written form of attributes. -/
def attributesToJson (attributes : Attributes) : Value :=
  .object (attributes.entries.map fun entry => (entry.1, .text entry.2))

/-- The written form of an incident. -/
def Incident.toJson (i : Incident) : Value :=
  .object [("type", .text i.kind), ("id", .integer i.id), ("description", .text i.description),
    ("reporter", .text i.reporter), ("state", .text i.state),
    ("attributes", attributesToJson i.attributes)]

/-- The written form of a new incident. -/
def NewIncident.toJson (new : NewIncident) : Value :=
  .object [("type", .text new.kind), ("description", .text new.description),
    ("reporter", .text new.reporter), ("state", .text new.state),
    ("attributes", attributesToJson new.attributes)]

/-- The written form of a user. -/
def User.toJson (u : User) : Value :=
  .object [("emailAddress", .text u.emailAddress), ("userName", .text u.userName),
    ("firstName", .text u.firstName), ("lastName", .text u.lastName), ("gender", .text u.gender),
    ("id", .integer u.id)]

/-! ## §2 Reading -/

variable {ν : Type}

/-- Reads attributes; of several entries under one name the last counts. -/
def readAttributes : Decoder ν Attributes := fun depth d =>
  Dictionary.ofList <$> Json.mapOf Json.text depth d

/-- An incident being read. -/
structure IncidentDraft where
  kind : Option String := none
  id : Option Int := none
  description : Option String := none
  reporter : Option String := none
  state : Option String := none
  attributes : Option Attributes := none

/-- A field of a record that holds a text and may be left out. -/
def textField {σ : Type} (name : String) (get : σ → Option String) (set : String → σ → σ) :
    Field ν σ where
  name := name
  presence := .defaulted
  isSet := fun draft => (get draft).isSome
  read := fun depth d => set <$> Json.text depth d

/-- The field that holds an identifier. -/
def idField {σ : Type} (get : σ → Option Int) (set : Int → σ → σ) : Field ν σ where
  name := "id"
  presence := .required
  isSet := fun draft => (get draft).isSome
  read := fun depth d => set <$> Json.integer depth d

/-- The field that holds the attributes. -/
def attributesField : Field ν IncidentDraft where
  name := "attributes"
  presence := .defaulted
  isSet := fun draft => draft.attributes.isSome
  read := fun depth d =>
    (fun attributes draft => { draft with attributes := some attributes }) <$>
      readAttributes depth d

/-- The field that holds the kind of an incident. -/
def kindField : Field ν IncidentDraft :=
  textField "type" IncidentDraft.kind fun s draft => { draft with kind := some s }

/-- The fields that follow the kind, and the identifier if there is one. -/
def detailFields : List (Field ν IncidentDraft) :=
  [textField "description" IncidentDraft.description
      fun s draft => { draft with description := some s },
   textField "reporter" IncidentDraft.reporter fun s draft => { draft with reporter := some s },
   textField "state" IncidentDraft.state fun s draft => { draft with state := some s },
   attributesField]

/-- The fields of an incident. -/
def incidentRecord : Record ν IncidentDraft where
  expected := "struct Incident"
  fields :=
    kindField :: idField IncidentDraft.id (fun n draft => { draft with id := some n }) ::
      detailFields
  empty := {}

/-- The fields of a new incident. -/
def newIncidentRecord : Record ν IncidentDraft where
  expected := "struct NewIncident"
  fields := kindField :: detailFields
  empty := {}

/-- The new incident a draft stands for. -/
def IncidentDraft.payload (draft : IncidentDraft) : NewIncident :=
  ⟨draft.kind.getD "", draft.description.getD "", draft.reporter.getD "", draft.state.getD "",
    draft.attributes.getD .empty⟩

/-- Reads an incident. -/
def readIncident : Decoder ν Incident := fun depth d => do
  let draft ← incidentRecord.read depth d
  match draft.id with
  | some id => return draft.payload.withId id
  | none => throw (.mismatch (.missingField "id"))

/-- Reads a new incident. -/
def readNewIncident : Decoder ν NewIncident := fun depth d =>
  IncidentDraft.payload <$> newIncidentRecord.read depth d

/-- A user being read. -/
structure UserDraft where
  emailAddress : Option String := none
  userName : Option String := none
  firstName : Option String := none
  lastName : Option String := none
  gender : Option String := none
  id : Option Int := none

/-- The fields of a user. -/
def userRecord : Record ν UserDraft where
  expected := "struct User"
  fields :=
    [textField "emailAddress" UserDraft.emailAddress
        fun s draft => { draft with emailAddress := some s },
     textField "userName" UserDraft.userName fun s draft => { draft with userName := some s },
     textField "firstName" UserDraft.firstName fun s draft => { draft with firstName := some s },
     textField "lastName" UserDraft.lastName fun s draft => { draft with lastName := some s },
     textField "gender" UserDraft.gender fun s draft => { draft with gender := some s },
     idField UserDraft.id fun n draft => { draft with id := some n }]
  empty := {}

/-- Reads a user. -/
def readUser : Decoder ν User := fun depth d => do
  let draft ← userRecord.read depth d
  match draft.id with
  | some id =>
    return ⟨draft.emailAddress.getD "", draft.userName.getD "", draft.firstName.getD "",
      draft.lastName.getD "", draft.gender.getD "", id⟩
  | none => throw (.mismatch (.missingField "id"))

end IncidentTracker
