import IncidentTracker.Entity.Basic
import IncidentTracker.Filtering.Tree

/-!
# Properties

A criterion names a property, and every entity gives a text for every name. Well-known members
come first, their names compared without regard to the case of ASCII letters; any other name is
looked up among the free-form attributes. A name that is found nowhere stands for the empty text.
-/

namespace IncidentTracker

/-- Entities whose properties a filter can test. -/
class HasProperties (ε : Type) where
  /-- The well-known members by name. -/
  members : List (String × (ε → String))
  /-- The free-form attribute a name finds, if any. -/
  freeForm : ε → String → Option String

variable {ε : Type} [HasProperties ε]

/-- The well-known member a name stands for. -/
def findMember (name : String) : Option (String × (ε → String)) :=
  HasProperties.members.find? fun entry => Text.sameIgnoringAsciiCase entry.1 name

/-- Whether a name stands for a well-known member: `is_field`. -/
def isMember (ε : Type) [HasProperties ε] (name : String) : Bool :=
  (findMember (ε := ε) name).isSome

/-- The text of a property, `property_value`: that of the member, else that of the attribute, else
    the empty one. -/
def propertyValue (entity : ε) (name : String) : String :=
  match findMember name with
  | some entry => entry.2 entity
  | none => (HasProperties.freeForm entity name).getD ""

/-- Whether an entity passes a filter: `matches`. -/
def Filtering.Forest.accepts (r : Filtering.Request) (entity : ε) : Bool :=
  r.eval fun c => c.comparison.test (propertyValue entity c.property) c.value

/-- Evaluates a filter that may be absent on an entity. Nothing is said of a criterion. -/
def evaluate (filter : Option Filtering.Request) (entity : ε) : Logged Bool :=
  match filter with
  | none => return true
  | some r => r.evaluate fun c => return c.comparison.test (propertyValue entity c.property) c.value

/-- Whether an entity passes a filter that may be absent; without one everything passes. -/
def passes (filter : Option Filtering.Request) (entity : ε) : Bool :=
  match filter with
  | none => true
  | some r => r.accepts entity

/-! ## §1 The two kinds of entities -/

/-- The decimal text of an identifier. -/
def idText (id : Int) : String :=
  String.ofList (Text.Decimal.ofInt id)

/-- An attribute is found under its exact name first, then under the first name that differs only
    in the case of ASCII letters. -/
def Incident.attribute? (i : Incident) (name : String) : Option String :=
  i.attributes.get? name <|> i.attributes.getIgnoringCase? name

instance : HasProperties Incident where
  members :=
    [("id", fun i => idText i.id), ("type", Incident.kind), ("description", Incident.description),
     ("reporter", Incident.reporter), ("state", Incident.state)]
  freeForm := Incident.attribute?

instance : HasProperties User where
  members :=
    [("id", fun u => idText u.id), ("username", User.userName), ("firstname", User.firstName),
     ("lastname", User.lastName), ("gender", User.gender), ("emailaddress", User.emailAddress)]
  freeForm := fun _ _ => none

end IncidentTracker
