import IncidentTracker.Json.Render
import IncidentTracker.Relational.Condition
import IncidentTracker.WideColumn.Expression

/-!
# Explanations

What becomes of a filter in either kind of store, as JSON: the clause of a query with its
arguments, and the expression of a scan with what its placeholders stand for.
-/

namespace IncidentTracker

open Filtering (Semantics)
open Json (Value)

/-- The written form of a value that a placeholder stands for. -/
def WideColumn.Bound.toJson : WideColumn.Bound → Value
  | .text s => .object [("S", .text s)]
  | .number digits => .object [("N", .text digits)]

/-- The written form of the filter of a scan. -/
def WideColumn.Expression.toJson (e : WideColumn.Expression) : Value :=
  .object [("expression", .text e.text),
    ("names", .object (e.names.entries.map fun entry => (entry.1, .text entry.2))),
    ("values", .object (e.values.entries.map fun entry => (entry.1, entry.2.toJson)))]

/-- The written form of a scan. -/
def WideColumn.Scan.toJson : WideColumn.Scan → Value
  | .all => .object [("scan", .text "all")]
  | .nothing => .object [("scan", .text "none")]
  | .filtered expression => .object [("scan", .text "filtered"), ("filter", expression.toJson)]

/-- The written form of a clause. -/
def Relational.Clause.toJson (clause : Relational.Clause) : Value :=
  .object [("clause", .text clause.text), ("args", .list (clause.args.map .text))]

/-- What becomes of a filter: `explain`. -/
def explanation (s : Semantics) (r : Filtering.Request) : Value :=
  .object [("semantics", .text s.name), ("leaves", .integer r.size),
    ("sql", (Relational.Clause.ofRequest s r).toJson),
    ("dynamodb", (WideColumn.Scan.ofRequest s r).toJson)]

end IncidentTracker
