import IncidentTracker.Filtering.Wire

/-!
# Filter Parameters

A filter arrives as a text from outside. It is refused if it is too long, cannot be read, nests
too deeply or has too many criteria; these are checked in this order.
-/

namespace IncidentTracker.Filtering

/-- The most bytes a filter text may have. -/
def maxBytes : Nat := 65536

/-- The deepest nesting of groups a filter may have. -/
def maxDepth : Nat := 16

/-- The most criteria a filter may have, shadowed ones included. -/
def maxCriteria : Nat := 100

/-- Why a filter text is refused. -/
inductive ParamError where
  | unreadable (problem : Json.Problem)
  | tooLarge
  | tooDeep
  | tooMany
  deriving DecidableEq, Repr

/-- The code by which other programs know a refusal. -/
def ParamError.code : ParamError → String
  | .unreadable _ => "INVALID_FILTER_JSON"
  | .tooLarge => "FILTER_JSON_TOO_LARGE"
  | .tooDeep => "FILTER_TOO_DEEP"
  | .tooMany => "TOO_MANY_FILTERS"

/-- The message of a refusal. -/
def ParamError.message : ParamError → String
  | .unreadable (.fault .endOfText) => "Invalid filter JSON: the text ends too soon"
  | .unreadable (.fault .grammar) => "Invalid filter JSON: the text is not JSON"
  | .unreadable (.mismatch mismatch) => "Invalid filter JSON: " ++ mismatch.message
  | .tooLarge => "Filter JSON exceeds maximum size of " ++ toString maxBytes ++ " bytes"
  | .tooDeep => "Filter nesting exceeds maximum depth of " ++ toString maxDepth
  | .tooMany => "Maximum " ++ toString maxCriteria ++ " filters allowed"

/-- The outcome of reading a filter parameter: remarks made on the way, and the filter or why it
    is refused. -/
structure ParamReading (α : Type) where
  notices : List Notice
  result : Except ParamError α

/-- An outcome with its remarks as they are logged. -/
def ParamReading.logged {α : Type} (reading : ParamReading α) : Logged (Except ParamError α) :=
  ⟨reading.notices.map Notice.event, reading.result⟩

/-- The limits on a filter that has been read: first the depth, then the number of criteria. -/
def checkLimits (r : Request) : Except ParamError Request :=
  if maxDepth < r.depth then .error .tooDeep
  else if maxCriteria < r.size then .error .tooMany
  else .ok r

/-- Reads a filter text within the limits: `parse_filter_request`. -/
def parse (text : String) : ParamReading Request :=
  if maxBytes < text.utf8ByteSize then ⟨[], .error .tooLarge⟩
  else
    let reading := Json.read readRequest text.toList
    match reading.result with
    | .error problem => ⟨reading.notices, .error (.unreadable problem)⟩
    | .ok request => ⟨reading.notices, checkLimits request⟩

/-- Reads a filter parameter, `parse_filter_param`; without one there is no filter. -/
def parseParam : Option String → ParamReading (Option Request)
  | none => ⟨[], .ok none⟩
  | some text =>
    let reading := parse text
    ⟨reading.notices, reading.result.map some⟩

end IncidentTracker.Filtering
