import IncidentTracker.Filtering.Tree
import IncidentTracker.Relational.Column
import IncidentTracker.Text.Like

/-!
# Conditions

What the clause of a query demands of a row, and its text. A condition is built from tests of one
column or one attribute against one bound argument. Arguments never become part of the text: the
text of a test has a question mark for each, and the arguments are listed in the same order.
-/

namespace IncidentTracker.Relational

open Filtering (Comparison Criterion Junction Semantics)

/-- What a test reads. -/
inductive Subject where
  | column (c : Column)
  /-- The attribute with a bound name; without one the empty text. -/
  | attributeNamed (name : String)
  deriving DecidableEq, Repr

/-- How a test compares what it reads with its argument. -/
inductive Operator where
  /-- Equality by the collation that folds ASCII letters. -/
  | collatedEqual
  /-- The denial of that equality. -/
  | collatedDifferent
  /-- Membership by that collation in a list of one argument. -/
  | collatedMember
  /-- Equality of the lower-case texts. -/
  | lowerEqual
  /-- The denial of that equality. -/
  | lowerDifferent
  /-- The lower-case text matches the lower-case pattern. -/
  | lowerLike
  deriving DecidableEq, Repr

/-- A test of one subject against one bound argument. -/
structure Test where
  subject : Subject
  operator : Operator
  argument : String
  deriving DecidableEq, Repr

/-- A condition on rows. -/
inductive Condition where
  | test (test : Test)
  | constant (value : Bool)
  | group (junction : Junction) (parts : List Condition)

/-! ## §1 Text and arguments -/

/-- The text of what a test reads. -/
def Subject.text : Subject → String
  | .column c => c.name
  | .attributeNamed _ =>
    "COALESCE((SELECT ia.AttributeValue FROM IncidentAttributes ia WHERE ia.IncidentId = i.Id" ++
      " AND LOWER(ia.AttributeName) = LOWER(?) LIMIT 1), '')"

/-- The arguments of what a test reads. -/
def Subject.args : Subject → List String
  | .column _ => []
  | .attributeNamed name => [name]

/-- The text of a test whose subject has the given text. -/
def Operator.text (subject : String) : Operator → String
  | .collatedEqual => subject ++ " COLLATE NOCASE = ?"
  | .collatedDifferent => subject ++ " COLLATE NOCASE != ?"
  | .collatedMember => subject ++ " COLLATE NOCASE IN (?)"
  | .lowerEqual => "LOWER(" ++ subject ++ ") = LOWER(?)"
  | .lowerDifferent => "LOWER(" ++ subject ++ ") != LOWER(?)"
  | .lowerLike => "LOWER(" ++ subject ++ ") LIKE LOWER(?) ESCAPE '\\'"

/-- The text of a test. -/
def Test.text (t : Test) : String :=
  t.operator.text t.subject.text

/-- The arguments of a test, in the order of the question marks of its text. -/
def Test.args (t : Test) : List String :=
  t.subject.args ++ [t.argument]

/-- What stands between the parts of a group: ` AND ` or ` OR `. -/
def joinWord : Junction → String
  | .and => " AND "
  | .or => " OR "

mutual

/-- The text of a condition. -/
def Condition.text : Condition → String
  | .test t => t.text
  | .constant true => "1=1"
  | .constant false => "1=0"
  | .group j parts => "(" ++ (joinWord j).intercalate (Condition.textEach parts) ++ ")"

def Condition.textEach : List Condition → List String
  | [] => []
  | part :: parts => Condition.text part :: Condition.textEach parts

end

mutual

/-- The tests of a condition, in the order of its text. -/
def Condition.tests : Condition → List Test
  | .test t => [t]
  | .constant _ => []
  | .group _ parts => Condition.testsEach parts

def Condition.testsEach : List Condition → List Test
  | [] => []
  | part :: parts => Condition.tests part ++ Condition.testsEach parts

end

/-! ## §2 Clauses -/

/-- The clause of a query. -/
inductive Clause where
  /-- No clause: every row is wanted. -/
  | unfiltered
  /-- All of some tests, not put in parentheses. -/
  | conjunction (tests : List Test)
  /-- A condition. -/
  | condition (condition : Condition)

/-- The text of a clause; that of no clause is empty. -/
def Clause.text : Clause → String
  | .unfiltered => ""
  | .conjunction tests => "WHERE " ++ " AND ".intercalate (tests.map Test.text)
  | .condition c => "WHERE " ++ c.text

/-- The tests of a clause, in the order of its text. -/
def Clause.tests : Clause → List Test
  | .unfiltered => []
  | .conjunction tests => tests
  | .condition c => c.tests

/-- The arguments of a clause, in the order of the question marks of its text. -/
def Clause.args (clause : Clause) : List String :=
  clause.tests.flatMap Test.args

/-! ## §3 Clauses of filters -/

/-- What a criterion on a property reads. -/
def Subject.ofProperty (property : String) : Subject :=
  match Column.ofProperty? property with
  | some c => .column c
  | none => .attributeNamed property

/-- The pattern that finds a value literally inside a text: `contains_pattern`. -/
def containsPattern (value : String) : String :=
  String.ofList (Text.Like.containing value.toList)

/-- The test of a criterion. Under `legacy` a member is looked for with `IN (?)`, so the value is
    compared as a whole. -/
def Test.ofCriterion (s : Semantics) (c : Criterion) : Test :=
  let subject := Subject.ofProperty c.property
  match s, c.comparison with
  | .legacy, .equals => ⟨subject, .collatedEqual, c.value⟩
  | .legacy, .notEquals => ⟨subject, .collatedDifferent, c.value⟩
  | .legacy, .contains => ⟨subject, .collatedMember, c.value⟩
  | .consistent, .equals => ⟨subject, .lowerEqual, c.value⟩
  | .consistent, .notEquals => ⟨subject, .lowerDifferent, c.value⟩
  | .consistent, .contains => ⟨subject, .lowerLike, containsPattern c.value⟩

/-- A group of conditions, `join_group`. One part stands for itself, and a group of none is
    constant: `1=1` or `1=0`. -/
def Condition.join (j : Junction) : List Condition → Condition
  | [] => .constant (j.combine [])
  | [part] => part
  | parts => .group j parts

mutual

/-- The condition of a group of a filter: `node_sql`. -/
def Condition.ofTree : Filtering.Tree Criterion → Condition
  | .branch j children _ => .join j (Condition.ofTrees children)
  | .group j members =>
    .join j (members.map fun c => .test (Test.ofCriterion .consistent c))

def Condition.ofTrees : List (Filtering.Tree Criterion) → List Condition
  | [] => []
  | node :: nodes => Condition.ofTree node :: Condition.ofTrees nodes

end

/-- The clause of a filter: `legacy_condition` or `consistent_condition`. -/
def Clause.ofRequest (s : Semantics) (r : Filtering.Request) : Clause :=
  match s with
  | .legacy =>
    -- only members of the first level count, and without any there is no clause
    match r.ownMembers.map (Test.ofCriterion .legacy) with
    | [] => .unfiltered
    | tests => .conjunction tests
  | .consistent => .condition (.join r.junction (Condition.ofTrees r.nodes))

/-- Compiles a filter that may be absent, and says what became of one. -/
def Clause.compile (s : Semantics) : Option Filtering.Request → Logged Clause
  | none => return .unfiltered
  | some r => do
    let clause := Clause.ofRequest s r
    Logged.say ⟨.debug, "Compiled SQL filter",
      [("sql", clause.text), ("args", toString clause.args.length), ("semantics", s.name)]⟩
    return clause

/-- The clause of a filter that may be absent. -/
def Clause.ofFilter (s : Semantics) (filter : Option Filtering.Request) : Clause :=
  (Clause.compile s filter).value

@[simp] theorem Clause.ofFilter_none (s : Semantics) : Clause.ofFilter s none = .unfiltered := rfl

@[simp] theorem Clause.ofFilter_some (s : Semantics) (r : Filtering.Request) :
    Clause.ofFilter s (some r) = .ofRequest s r := rfl

end IncidentTracker.Relational
