import IncidentTracker.Relational.Error
import IncidentTracker.Text.Occurrence

/-!
# Errors of Stores

Why an operation on a store of incidents fails, whatever the store is, and the wording.
-/

namespace IncidentTracker

/-- Why an operation on a store of incidents fails. -/
inductive StoreError where
  /-- The database failed. -/
  | relational (error : Relational.Error)
  /-- A request to the wide-column service failed. -/
  | wideColumn (reason : String)
  /-- The store is not configured as it must be. -/
  | configuration (reason : String)
  /-- An item and an incident do not fit together. -/
  | invalidItem (reason : String)
  /-- An incident could not be written. -/
  | serialization (reason : String)
  deriving DecidableEq, Repr

namespace StoreError

/-- The wording of an error. -/
def message : StoreError → String
  | .relational e => "SQLite error: " ++ e.message
  | .wideColumn reason => "DynamoDB error: " ++ reason
  | .configuration reason => "Configuration error: " ++ reason
  | .invalidItem reason => "Invalid item: " ++ reason
  | .serialization reason => "Serialization error: " ++ reason

/-- The name of the store an error comes from. -/
def backend : StoreError → String
  | .relational _ => "sqlite"
  | .wideColumn _ => "dynamodb"
  | .invalidItem _ => "dynamodb"
  | .configuration _ => "unknown"
  | .serialization _ => "unknown"

/-- The words by which a failed request is known to be worth another try. -/
def transientWords : List String :=
  ["timeout", "dispatch", "throttl"]

/-- Whether trying again may help. -/
def isTransient : StoreError → Bool
  | .relational e => e.isTransient
  | .wideColumn reason => transientWords.any fun word => Text.occursIn word.toList reason.toList
  | _ => false

end StoreError

end IncidentTracker
