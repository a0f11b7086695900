import IncidentTracker.Text.CaseInsensitive

/-!
# Criteria

The pieces of a filter: junctions that combine truth values, comparisons of a text with a wanted
one, and criteria that name a property, a comparison and a value.
-/

namespace IncidentTracker.Filtering

/-- How the parts of a group combine: `and` or `or`. -/
inductive Junction where
  | and
  | or
  deriving DecidableEq, Repr, Inhabited

/-- How the text of a property is compared with the value of a criterion: `equals`, `notequals` or
    `contains`. -/
inductive Comparison where
  | equals
  | notEquals
  | contains
  deriving DecidableEq, Repr

/-- A condition on one property. -/
structure Criterion where
  property : String
  comparison : Comparison
  value : String
  deriving DecidableEq, Repr

/-- How a store translates a filter: `legacy` or `consistent`. -/
inductive Semantics where
  /-- Every top-level node's own criteria must hold; junctions and children are not consulted. -/
  | legacy
  /-- The whole tree, with the meaning of its evaluation. -/
  | consistent
  deriving DecidableEq, Repr, Inhabited

/-! ## §1 Junctions -/

/-- The truth value of a group, `combine`: all of nothing is true, any of nothing is false. -/
def Junction.combine (j : Junction) (parts : List Bool) : Bool :=
  match j with
  | .and => parts.all id
  | .or => parts.any id

/-- The word for a junction. -/
def Junction.name : Junction → String
  | .and => "and"
  | .or => "or"

/-- Whether a text is a word for a junction, or empty. -/
def Junction.isKnown (word : String) : Bool :=
  word.isEmpty || Text.sameIgnoringAsciiCase word "or" || Text.sameIgnoringAsciiCase word "and"

/-- The junction a text stands for, `from_str_loose`: only the word for `or`, in any case, selects
    `or`. -/
def Junction.ofText (word : String) : Junction :=
  if Text.sameIgnoringAsciiCase word "or" then .or else .and

/-! ## §2 Comparisons -/

/-- The word for a comparison. -/
def Comparison.name : Comparison → String
  | .equals => "equals"
  | .notEquals => "notequals"
  | .contains => "contains"

/-- Every comparison. -/
def Comparison.all : List Comparison :=
  [.equals, .notEquals, .contains]

/-- The comparison a text stands for, in any case. -/
def Comparison.ofText? (word : String) : Option Comparison :=
  Comparison.all.find? fun c => Text.sameIgnoringAsciiCase word c.name

/-- Whether the text of a property passes a comparison with a value: `leaf_matches`. -/
def Comparison.test (c : Comparison) (actual value : String) : Bool :=
  match c with
  | .equals => Text.eqIgnoreCase actual value
  | .notEquals => !Text.eqIgnoreCase actual value
  | .contains => Text.containsIgnoreCase actual value

/-! ## §3 Semantics -/

/-- The word for a semantics. -/
def Semantics.name : Semantics → String
  | .legacy => "legacy"
  | .consistent => "consistent"

/-- The semantics by name. -/
def Semantics.choices : List (String × Semantics) :=
  [("legacy", .legacy), ("consistent", .consistent)]

end IncidentTracker.Filtering
