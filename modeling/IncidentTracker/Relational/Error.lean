/-!
# Errors of the Relational Store

Why an operation on a database fails, and the wording.
-/

namespace IncidentTracker.Relational

/-- Why an operation on a database fails. -/
inductive Error where
  /-- The store has been closed. -/
  | closed
  /-- No connection became free in time. -/
  | timedOut
  /-- A row that must exist does not. -/
  | rowNotFound
  /-- Communication with the database failed. -/
  | communication (reason : String)
  /-- The database sent what makes no sense. -/
  | malformed (reason : String)
  /-- A value does not fit what it is read as. -/
  | undecodable (column : Nat) (reason : String)
  /-- The database refused, with a code and a reason. -/
  | refused (code : Nat) (reason : String)
  deriving DecidableEq, Repr

namespace Error

/-- A pattern is longer than the database takes. -/
def patternTooLong : Error := .refused 1 "LIKE or GLOB pattern too complex"

/-- A condition is nested deeper than the database takes. -/
def conditionTooDeep : Error := .refused 1 "Expression tree is too large (maximum depth 1000)"

/-- A query has more arguments than the database takes. -/
def tooManyArguments : Error := .refused 1 "too many SQL variables"

/-- The version noted in a database is larger than a signed 32-bit word. -/
def versionTooLarge : Error := .undecodable 0 "number too large to fit in target type"

/-- The version noted in a database is smaller than a signed 32-bit word. -/
def versionTooSmall : Error := .undecodable 0 "number too small to fit in target type"

/-- A path contains a null character. -/
def nullInPath : Error := .communication "filename passed to SQLite must not contain nul bytes"

/-- A URI leads to another host. -/
def foreignHost (host : String) : Error := .refused 1 ("invalid uri authority: " ++ host)

/-- A parameter of a URI asks for a mode that does not exist. -/
def unknownMode (kind mode : String) : Error := .refused 1 ("no such " ++ kind ++ " mode: " ++ mode)

/-- A parameter of a URI asks for a mode that others have ruled out. -/
def modeRuledOut (kind mode : String) : Error := .refused 3 (kind ++ " mode not allowed: " ++ mode)

/-- A parameter of a URI asks for a file system that does not exist. -/
def unknownFileSystem (name : String) : Error := .refused 1 ("no such vfs: " ++ name)

/-- A database has no tables. -/
def tableMissing : Error := .refused 1 "no such table: Incidents"

/-- A database may only be read. -/
def readOnly : Error := .refused 8 "attempt to write a readonly database"

/-- A database file cannot be read. -/
def cannotRead : Error := .refused 266 "disk I/O error"

/-- A database file cannot be opened. -/
def cannotOpen : Error := .refused 14 "unable to open database file"

/-- A file is something else than a database. -/
def notADatabase : Error := .refused 26 "file is not a database"

/-- The wording of an error. -/
def message : Error → String
  | .closed => "attempted to acquire a connection on a closed pool"
  | .timedOut => "pool timed out while waiting for an open connection"
  | .rowNotFound => "no rows returned by a query that expected to return at least one row"
  | .communication reason => "error communicating with database: " ++ reason
  | .malformed reason => "encountered unexpected or invalid data: " ++ reason
  | .undecodable column reason =>
    "error occurred while decoding column " ++ toString column ++ ": " ++ reason
  | .refused code reason =>
    "error returned from database: (code: " ++ toString code ++ ") " ++ reason

/-- Whether trying again may help. -/
def isTransient : Error → Bool
  | .closed => true
  | .timedOut => true
  | .communication _ => true
  | _ => false

end Error

end IncidentTracker.Relational
