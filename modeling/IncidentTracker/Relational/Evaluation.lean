import IncidentTracker.Entity.Basic
import IncidentTracker.Relational.Condition
import IncidentTracker.Relational.Error
import IncidentTracker.Relational.Numeric
import IncidentTracker.Text.Bytes

/-!
# Evaluation of Conditions

What the database makes of a condition on a row. Folding touches ASCII letters only. The collation
compares texts up to their first null character and then by their size in bytes. A pattern and the
text it is matched with both end at their first null character, two characters that Unicode keeps
free are read as replacement characters in both, and a pattern that is too long is refused, but
only when a row is actually tested with it.

Groups are evaluated from left to right and no further than needed; which of the conditions that
must all hold is evaluated first is up to the database, see `Condition.inOrder`.
-/

namespace IncidentTracker.Relational

open Filtering (Junction)

/-- A row of the incident table. -/
structure IncidentRow where
  id : Int
  kind : String
  description : String
  reporter : String
  state : String
  deriving DecidableEq, Repr

/-- A row of the incident table with the names and values of its attribute rows, in ascending
    order of the names. -/
structure Row where
  incident : IncidentRow
  attributes : List (String × String)

/-! ## §1 Texts -/

/-- A text up to its first null character. -/
def upToNull (text : List Char) : List Char :=
  text.takeWhile (· ≠ '\x00')

/-- Equality by the collation that folds ASCII letters. -/
def collatedSame (a b : List Char) : Bool :=
  -- the sizes count what stands behind a null character as well
  Text.byteSize a == Text.byteSize b && Text.asciiFold (upToNull a) == Text.asciiFold (upToNull b)

/-- The lower-case form the database gives a text. -/
def lower (text : List Char) : List Char :=
  Text.asciiFold text

/-- A character as it is read for a pattern match: the two that are kept free at the end of the
    first plane of Unicode count as replacement characters. -/
def matchChar (c : Char) : Char :=
  if c = '\uFFFE' || c = '\uFFFF' then '\uFFFD' else c

/-- What a pattern match reads of a text. -/
def matchText (text : List Char) : List Char :=
  (upToNull (lower text)).map matchChar

/-- The most bytes a pattern may have. -/
def maxPatternBytes : Nat := 50000

/-! ## §2 Tests -/

/-- What a test finds in a row. -/
inductive Cell where
  | integer (value : Int)
  | text (value : List Char)
  deriving DecidableEq, Repr

/-- The text of a cell; an integer turns into its decimal text. -/
def Cell.chars : Cell → List Char
  | .integer n => Text.Decimal.ofInt n
  | .text s => s

/-- The content of a column. -/
def Column.cell (row : IncidentRow) : Column → Cell
  | .id => .integer row.id
  | .kind => .text row.kind.toList
  | .description => .text row.description.toList
  | .reporter => .text row.reporter.toList
  | .state => .text row.state.toList

/-- The value of the first attribute whose lower-case name is that of the given one, and otherwise
    the empty text. -/
def lookUp (attributes : List (String × String)) (name : String) : String :=
  match attributes.find? fun entry => lower entry.1.toList == lower name.toList with
  | some entry => entry.2
  | none => ""

/-- What a test finds in a row. -/
def Subject.cell (row : Row) : Subject → Cell
  | .column c => c.cell row.incident
  | .attributeNamed name => .text (lookUp row.attributes name).toList

/-- Equality of a cell with an argument by the collation; a column of integers compares by
    number. -/
def collatedEqual (cell : Cell) (argument : List Char) : Bool :=
  match cell with
  | .integer n =>
    match Numeric.ofText? argument with
    | some number => number.equals n
    -- an argument that is no number stays a text, and no integer equals a text
    | none => false
  | .text s => collatedSame s argument

/-- Whether a cell passes a test. -/
def Operator.holds (cell : Cell) (argument : List Char) : Operator → Except Error Bool
  | .collatedEqual => .ok (Relational.collatedEqual cell argument)
  | .collatedDifferent => .ok (!Relational.collatedEqual cell argument)
  | .collatedMember => .ok (Relational.collatedEqual cell argument)
  | .lowerEqual => .ok (lower cell.chars == lower argument)
  | .lowerDifferent => .ok (!(lower cell.chars == lower argument))
  | .lowerLike =>
    -- the length of a pattern is looked at only when a row is tested
    if maxPatternBytes < Text.byteSize argument then .error .patternTooLong
    else .ok (Text.Like.isMatch (matchText argument) (matchText cell.chars))

/-- Whether a row passes a test. -/
def Test.holds (row : Row) (t : Test) : Except Error Bool :=
  t.operator.holds (t.subject.cell row) t.argument.toList

/-! ## §3 Conditions -/

mutual

/-- Whether a row meets a condition. -/
def Condition.holds (row : Row) : Condition → Except Error Bool
  | .test t => t.holds row
  | .constant b => .ok b
  | .group .and parts => Condition.allHold row parts
  | .group .or parts => Condition.anyHolds row parts

/-- Whether a row meets all of some conditions, asked from left to right. -/
def Condition.allHold (row : Row) : List Condition → Except Error Bool
  | [] => .ok true
  | part :: parts => do
    if ← Condition.holds row part then Condition.allHold row parts else return false

/-- Whether a row meets any of some conditions, asked from left to right. -/
def Condition.anyHolds (row : Row) : List Condition → Except Error Bool
  | [] => .ok false
  | part :: parts => do
    if ← Condition.holds row part then return true else Condition.anyHolds row parts

end

/-! ## §4 Order of evaluation -/

mutual

/-- The conditions that must all hold for a condition to hold. -/
def Condition.conjuncts : Condition → List Condition
  | .group .and parts => Condition.conjunctsEach parts
  | .group .or parts => [.group .or parts]
  | .test t => [.test t]
  | .constant b => [.constant b]

/-- The conditions that must all hold for several conditions to hold. -/
def Condition.conjunctsEach : List Condition → List Condition
  | [] => []
  | part :: parts => Condition.conjuncts part ++ Condition.conjunctsEach parts

end

/-- Whether a test reads an attribute. -/
def Test.readsAttribute (t : Test) : Bool :=
  match t.subject with
  | .attributeNamed _ => true
  | .column _ => false

/-- Conditions in the order in which the database evaluates them: those without any test, then
    those that read columns only, then those that look up attributes. -/
def Condition.inOrder (parts : List Condition) : List Condition :=
  -- a condition that fails early keeps those behind it from being evaluated
  let (constants, others) := parts.partition fun part => part.tests.isEmpty
  let (attributes, columns) := others.partition fun part => part.tests.any Test.readsAttribute
  constants ++ columns ++ attributes

/-- The conditions of a clause that must all hold. -/
def Clause.conjuncts : Clause → List Condition
  | .unfiltered => []
  | .conjunction tests => tests.map .test
  | .condition c => c.conjuncts

/-- Whether a row meets a clause. -/
def Clause.holds (clause : Clause) (row : Row) : Except Error Bool :=
  Condition.allHold row (Condition.inOrder clause.conjuncts)

/-! ## §5 Limits -/

/-- The deepest nesting of a query. -/
def maxHeight : Nat := 1000

/-- The most arguments of a query. -/
def maxArguments : Nat := 32766

/-- The nesting of a test. A collation hides what stands before it, and membership in a list of
    one is equality with something made of that one. -/
def Test.height (t : Test) : Nat :=
  match t.operator with
  | .collatedEqual | .collatedDifferent => 2
  | .collatedMember => 3
  | .lowerEqual | .lowerDifferent | .lowerLike => if t.readsAttribute then 9 else 4

/-- The nesting of a constant condition. -/
def constantHeight : Nat := 2

/-- What is known of the part of a query that has been read. -/
structure Extent where
  /-- How deeply what was read last is nested. -/
  height : Nat
  /-- How many arguments there were so far. -/
  arguments : Nat
  deriving DecidableEq, Repr

/-- Refuses an extent that is too deep. -/
def Extent.checkHeight (e : Extent) : Except Error Extent :=
  if maxHeight < e.height then .error .conditionTooDeep else .ok e

/-- Refuses an extent that has too many arguments. -/
def Extent.checkArguments (e : Extent) : Except Error Extent :=
  if maxArguments < e.arguments then .error .tooManyArguments else .ok e

/-- Reads a test after some arguments. -/
def Test.extent (arguments : Nat) (t : Test) : Except Error Extent :=
  Extent.checkArguments ⟨t.height, arguments + t.args.length⟩

/-- Two conditions put together, of which the second was read last. -/
def Extent.chain (height : Nat) (e : Extent) : Except Error Extent :=
  Extent.checkHeight ⟨max height e.height + 1, e.arguments⟩

mutual

/-- Reads a condition after some arguments. -/
def Condition.extent (arguments : Nat) : Condition → Except Error Extent
  | .test t => t.extent arguments
  | .constant _ => .ok ⟨constantHeight, arguments⟩
  | .group _ [] => .ok ⟨constantHeight, arguments⟩
  | .group _ (part :: parts) => do
    let e ← Condition.extent arguments part
    Condition.extentEach e parts

/-- Reads conditions one after the other and adds each to the chain of those before it. -/
def Condition.extentEach (e : Extent) : List Condition → Except Error Extent
  | [] => .ok e
  | part :: parts => do
    let next ← Condition.extent e.arguments part
    let e ← next.chain e.height
    Condition.extentEach e parts

end

/-- The nesting of the condition that joins incidents with their attributes. -/
def joinHeight : Nat := 3

/-- The nesting of the condition by which an attribute is looked up. -/
def lookUpHeight : Nat := 5

/-- The condition that a clause reads as. -/
def Clause.reading : Clause → Condition
  | .unfiltered => .group .and []
  | .conjunction tests => .group .and (tests.map .test)
  | .condition c => c

/-- Refuses a clause that exceeds the limits of the database. It is read from left to right; then
    the condition of the join is put in front, and lookups of attributes are nested below all of
    it. -/
def Clause.checkLimits (clause : Clause) : Except Error Unit := do
  let e ← Condition.extent 0 clause.reading
  let e ← e.chain joinHeight
  -- whatever is looked up is nested below the condition as a whole
  if clause.tests.any Test.readsAttribute then
    let _ ← Extent.checkHeight ⟨e.height + lookUpHeight, e.arguments⟩
  return ()

end IncidentTracker.Relational
