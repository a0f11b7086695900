import IncidentTracker.Json.Numeral

/-!
# Documents

A document is a JSON text laid out as a tree. Where the text ends too soon or breaks the grammar,
the tree holds the fault at that very place, and nothing of what follows: a reader that walks the
tree from left to right therefore reports the first problem it meets, be it a fault of the text
or a value of the wrong shape.

Some texts are good enough to be passed over but not to be read: a text with half a surrogate
pair, or a number that is too large. A scalar therefore says what reading it gives and, apart
from that, whether it can be passed over.
-/

namespace IncidentTracker.Json

/-- What the first character of a scalar announces. -/
inductive Start where
  | nothing
  | null
  | boolean
  | number
  | text
  | other
  deriving DecidableEq, Repr

/-- A scalar that has been read. -/
inductive Scalar where
  | null
  | boolean (value : Bool)
  | number (value : Number)
  | text (value : String)

/-- A JSON text laid out as a tree, up to its first fault. -/
inductive Document where
  /-- A scalar, with the outcome of reading it and the fault met in passing over it. -/
  | scalar (start : Start) (content : Except Fault Scalar) (skipped : Option Fault)
  /-- A list, with the fault that broke it off. -/
  | list (items : List Document) (fault : Option Fault)
  /-- An object, with the fault that broke it off. What stands in the place of a key is kept even
      when it is not a text. -/
  | object (members : List (Document × Document)) (fault : Option Fault)

namespace Document

/-- A place where nothing readable stands. -/
def broken (start : Start) (fault : Fault) : Document :=
  .scalar start (.error fault) (some fault)

/-- The fault met in passing over a document, if any. -/
def skipped : Document → Option Fault
  | .scalar _ _ fault => fault
  | .list _ fault => fault
  | .object _ fault => fault

end Document

/-- A scalar as messages name it. -/
def Scalar.found : Scalar → Found
  | .null => .null
  | .boolean value => .boolean value
  | .number value => value.found
  | .text value => .text value

end IncidentTracker.Json
