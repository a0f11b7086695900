import IncidentTracker.Text.Ascii

/-!
# Columns

The columns of the incident table, and the properties that read them. A property is compared
without regard to the case of ASCII letters; only these five ever choose a column, so no text of a
caller becomes part of a query.
-/

namespace IncidentTracker.Relational

/-- A column of the incident table. -/
inductive Column where
  | id
  | kind
  | description
  | reporter
  | state
  deriving DecidableEq, Repr

/-- Every column with the property that reads it, in order. -/
def Column.all : List (String × Column) :=
  [("id", .id), ("type", .kind), ("description", .description), ("reporter", .reporter),
   ("state", .state)]

/-- A column as a query names it. -/
def Column.name : Column → String
  | .id => "i.Id"
  | .kind => "i.Type"
  | .description => "i.Description"
  | .reporter => "i.Reporter"
  | .state => "i.State"

/-- The column a property reads, if it is a well-known one: `map_incident_column`. -/
def Column.ofProperty? (property : String) : Option Column :=
  (Column.all.find? fun entry => Text.sameIgnoringAsciiCase entry.1 property).map (·.2)

end IncidentTracker.Relational
