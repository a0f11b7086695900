import IncidentTracker.Entity.Property
import IncidentTracker.WideColumn.Folded

/-!
# Scan Expressions

A scan is filtered by an expression in which neither names nor values appear: the `n`-th criterion
is written with the placeholders `#namen` and `:valuen`, and two dictionaries say what they stand
for. Criteria are numbered in the order in which they are written, so every placeholder that is
defined is used, and used once.
-/

namespace IncidentTracker.WideColumn

open Filtering (Comparison Criterion Junction Semantics)

/-- A value that a placeholder stands for. -/
inductive Bound where
  | text (s : String)
  | number (digits : String)
  deriving DecidableEq, Repr

/-- The filter of a scan: its text, and the maps behind the placeholders `#name0` and `:value0`. -/
structure Expression where
  text : String
  names : Dictionary String
  values : Dictionary Bound
  deriving DecidableEq

/-- How a table is scanned for a filter. -/
inductive Scan where
  /-- Every item is wanted. -/
  | all
  /-- The items that pass an expression are wanted. -/
  | filtered (expression : Expression)
  /-- Nothing can be wanted, so nothing is scanned. -/
  | nothing
  deriving DecidableEq

/-! ## §1 Placeholders -/

/-- The placeholder of the `n`-th name. -/
def namePlaceholder (n : Nat) : String :=
  "#name" ++ toString n

/-- The placeholder of the `n`-th value. -/
def valuePlaceholder (n : Nat) : String :=
  ":value" ++ toString n

/-- The placeholder of the map of free-form attributes. -/
def attributesPlaceholder : String := "#attributes"

/-- The name of the map of free-form attributes. -/
def attributesName : String := "attributes"

/-- Whether a criterion is looked up in the map of free-form attributes. -/
def isNested (s : Semantics) (c : Criterion) : Bool :=
  s == .consistent && !isMember Incident (Text.lowercase c.property)

/-- The name a criterion asks for: a free-form attribute as sent, a well-known one in lower
    case. -/
def nameOf (s : Semantics) (c : Criterion) : String :=
  if isNested s c then c.property else Text.lowercase c.property

/-- The value a criterion asks for. Identifiers are numbers, so equality with an identifier asks
    for a number wherever the value is one. -/
def valueOf (c : Criterion) : Bound :=
  if Text.lowercase c.property == "id" && c.comparison != .contains &&
      (Text.Decimal.toWord? c.value.toList).isSome then
    .number c.value
  else .text c.value

/-- What the placeholders of names stand for, when the first criterion has a given number. -/
def namesFrom (s : Semantics) : Nat → List Criterion → Dictionary String
  | _, [] => .empty
  | n, c :: rest =>
    -- the placeholder of the map is defined once, however many criteria use it
    let names := (namesFrom s (n + 1) rest).insert (namePlaceholder n) (nameOf s c)
    if isNested s c then names.insert attributesPlaceholder attributesName else names

/-- What the placeholders of values stand for, when the first criterion has a given number. -/
def valuesFrom : Nat → List Criterion → Dictionary Bound
  | _, [] => .empty
  | n, c :: rest => (valuesFrom (n + 1) rest).insert (valuePlaceholder n) (valueOf c)

/-! ## §2 Text -/

/-- The text of the `n`-th criterion. -/
def criterionText (s : Semantics) (n : Nat) (c : Criterion) : String :=
  let target :=
    if isNested s c then attributesPlaceholder ++ "." ++ namePlaceholder n else namePlaceholder n
  match c.comparison with
  | .equals => target ++ " = " ++ valuePlaceholder n
  | .notEquals => target ++ " <> " ++ valuePlaceholder n
  | .contains => "contains( " ++ target ++ ", " ++ valuePlaceholder n ++ " )"

/-- What stands between the parts of a group. -/
def joinWord : Junction → String
  | .and => " and "
  | .or => " or "

mutual

/-- The text of a folded filter whose first criterion has number `n`: `render`. -/
def foldedText (n : Nat) : Folded Criterion → String
  | .constant _ => ""
  | .member c => criterionText .consistent n c
  | .group j parts => "(" ++ (joinWord j).intercalate (foldedTextEach n parts) ++ ")"

def foldedTextEach (n : Nat) : List (Folded Criterion) → List String
  | [] => []
  | part :: parts => foldedText n part :: foldedTextEach (n + part.members.length) parts

end

/-- The texts of criteria numbered through. -/
def criteriaText (s : Semantics) : Nat → List Criterion → List String
  | _, [] => []
  | n, c :: rest => criterionText s n c :: criteriaText s (n + 1) rest

/-! ## §3 Scans of filters -/

/-- The expression with a given text over given criteria. -/
def Expression.ofCriteria (s : Semantics) (criteria : List Criterion) (text : String) : Expression :=
  ⟨text, namesFrom s 0 criteria, valuesFrom 0 criteria⟩

/-- The scan of a filter: `legacy_scan` or `consistent_scan`. -/
def Scan.ofRequest (s : Semantics) (r : Filtering.Request) : Scan :=
  match s with
  | .legacy =>
    let criteria := r.ownMembers
    if criteria.isEmpty then .all
    else
      -- each criterion ends in a blank here, the last one too
      let texts := (criteriaText .legacy 0 criteria).map (· ++ " ")
      .filtered (.ofCriteria .legacy criteria ("and ".intercalate texts))
  | .consistent =>
    match Folded.ofForest r with
    -- a filter that is constant needs no expression, and a false one no scan
    | .constant true => .all
    | .constant false => .nothing
    | folded => .filtered (.ofCriteria .consistent folded.members (foldedText 0 folded))

/-- Compiles a filter that may be absent, and says what became of one that is not constant. -/
def Scan.compile (s : Semantics) : Option Filtering.Request → Logged Scan
  | none => return .all
  | some r => do
    let scan := Scan.ofRequest s r
    if let .filtered expression := scan then
      Logged.say ⟨.debug, "Compiled DynamoDB filter",
        [("expression", expression.text),
          ("placeholders", toString expression.names.entries.length), ("semantics", s.name)]⟩
    return scan

/-- The scan of a filter that may be absent. -/
def Scan.ofFilter (s : Semantics) (filter : Option Filtering.Request) : Scan :=
  (Scan.compile s filter).value

@[simp] theorem Scan.ofFilter_none (s : Semantics) : Scan.ofFilter s none = .all := rfl

@[simp] theorem Scan.ofFilter_some (s : Semantics) (r : Filtering.Request) :
    Scan.ofFilter s (some r) = .ofRequest s r := by
  simp only [Scan.ofFilter, Scan.compile]
  split <;> rfl

end IncidentTracker.WideColumn
