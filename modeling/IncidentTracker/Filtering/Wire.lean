import IncidentTracker.Filtering.Tree
import IncidentTracker.Json.Decode
import IncidentTracker.Json.Render

/-!
# Filters as JSON

The written form of a filter and its reader. A group that has children is written with them, and
with the members it carries only if there are any; a group without is written with its members.
Reading goes the other way: a group with at least one child is a branch, any other is a group of
members. Hence a branch without children comes back as a group of its shadowed members.
-/

namespace IncidentTracker.Filtering

open Json (Decoder Value)

/-- What reading a filter may remark upon. -/
inductive Notice where
  /-- A word for a junction that is not known, and was taken for `and`. -/
  | unknownJunction (word : String)
  deriving DecidableEq, Repr

/-- The wording of a remark, without its subject. -/
def Notice.message : Notice → String
  | .unknownJunction _ => "Unrecognized junction, defaulting to and"

/-- A remark as it is logged: a warning with its subject. -/
def Notice.event (notice : Notice) : Event :=
  match notice with
  | .unknownJunction word => ⟨.warn, notice.message, [("junction", word)]⟩

/-! ## §1 Writing -/

/-- The written form of a criterion: `property`, `comparison` and `value`. -/
def Criterion.toJson (c : Criterion) : Value :=
  .object [("property", .text c.property), ("comparison", .text c.comparison.name),
    ("value", .text c.value)]

/-- The written form of a list of criteria. -/
def criteriaToJson (criteria : List Criterion) : Value :=
  .list (criteria.map Criterion.toJson)

mutual

/-- The written form of a group: `children` if it is a branch, `filters` unless there are none, and
    the `junction`. -/
def Tree.toJson : Tree Criterion → Value
  | .branch j children shadowed =>
    .object ([("children", .list (Tree.toJsonEach children))] ++
      (if shadowed.isEmpty then [] else [("filters", criteriaToJson shadowed)]) ++
      [("junction", .text j.name)])
  | .group j members =>
    .object [("filters", criteriaToJson members), ("junction", .text j.name)]

def Tree.toJsonEach : List (Tree Criterion) → List Value
  | [] => []
  | node :: nodes => Tree.toJson node :: Tree.toJsonEach nodes

end

/-- The written form of a filter: `complexfilters` and `union`. -/
def Forest.toJson (r : Request) : Value :=
  .object [("complexfilters", .list (Tree.toJsonEach r.nodes)), ("union", .text r.junction.name)]

/-! ## §2 Reading the pieces -/

/-- Reads a `junction`: a word, or null for the default. An unknown word is remarked upon. -/
def readJunction : Decoder Notice Junction := fun depth d => do
  match ← Json.optional Json.text depth d with
  | none => return .and
  | some word =>
    unless Junction.isKnown word do Json.note (.unknownJunction word)
    return Junction.ofText word

/-- Reads a `comparison`. -/
def readComparison : Decoder Notice Comparison := fun depth d => do
  let word ← Json.text depth d
  match Comparison.ofText? word with
  | some comparison => return comparison
  | none => throw (.mismatch (.unknownVariant word (Comparison.all.map Comparison.name)))

/-- A criterion being read. -/
structure CriterionDraft where
  property : Option String := none
  comparison : Option Comparison := none
  value : Option String := none

/-- The fields of a criterion. -/
def criterionRecord : Json.Record Notice CriterionDraft where
  expected := "struct Filter"
  fields :=
    [{ name := "property", presence := .defaulted, isSet := fun draft => draft.property.isSome
       read := fun depth d => do
        let s ← Json.text depth d
        return fun draft => { draft with property := some s } },
     { name := "comparison", presence := .required, isSet := fun draft => draft.comparison.isSome
       read := fun depth d => do
        let c ← readComparison depth d
        return fun draft => { draft with comparison := some c } },
     { name := "value", presence := .defaulted, isSet := fun draft => draft.value.isSome
       read := fun depth d => do
        let s ← Json.text depth d
        return fun draft => { draft with value := some s } }]
  empty := {}

/-- Reads a criterion. -/
def readCriterion : Decoder Notice Criterion := fun depth d => do
  let draft ← criterionRecord.read depth d
  match draft.comparison with
  | some comparison => return ⟨draft.property.getD "", comparison, draft.value.getD ""⟩
  | none => throw (.mismatch (.missingField "comparison"))

/-- Reads a list of criteria. -/
def readCriteria : Decoder Notice (List Criterion) := Json.listOf readCriterion

/-! ## §3 Reading groups -/

/-- A group being read. -/
structure TreeDraft where
  children : Option (Option (List (Tree Criterion))) := none
  filters : Option (Option (List Criterion)) := none
  junction : Option Junction := none

/-- The fields of a group whose children are read as given. -/
def treeRecord (readChildren : Decoder Notice (List (Tree Criterion))) :
    Json.Record Notice TreeDraft where
  expected := "struct ComplexFilterWire"
  fields :=
    [{ name := "children", presence := .defaulted, isSet := fun draft => draft.children.isSome
       read := fun depth d => do
        let children ← Json.optional readChildren depth d
        return fun draft => { draft with children := some children } },
     { name := "filters", presence := .defaulted, isSet := fun draft => draft.filters.isSome
       read := fun depth d => do
        let filters ← Json.optional readCriteria depth d
        return fun draft => { draft with filters := some filters } },
     { name := "junction", presence := .defaulted, isSet := fun draft => draft.junction.isSome
       read := fun depth d => do
        let junction ← readJunction depth d
        return fun draft => { draft with junction := some junction } }]
  empty := {}

/-- The group a draft stands for: a branch if it has children at all. -/
def TreeDraft.tree (draft : TreeDraft) : Tree Criterion :=
  -- a list that is absent and one that is null are both empty
  let children := (draft.children.getD none).getD []
  let filters := (draft.filters.getD none).getD []
  let junction := draft.junction.getD .and
  if children.isEmpty then .group junction filters else .branch junction children filters

mutual

/-- Reads a group. Each level of groups takes two containers, the object and its list of
    children, so the number that may still be opened bounds the recursion. -/
def readTree : Decoder Notice (Tree Criterion)
  | 0, d => TreeDraft.tree <$> (treeRecord fun _ _ => throw (.fault .grammar)).read 0 d
  | depth + 1, d =>
    TreeDraft.tree <$> (treeRecord fun _ children => readTrees depth children).read (depth + 1) d

/-- Reads a list of groups. -/
def readTrees : Decoder Notice (List (Tree Criterion))
  -- the list is one container too many already, so no item of it is read
  | 0, d => Json.listOf (fun _ _ => throw (.fault .grammar)) 0 d
  | depth + 1, d => Json.listOf (fun _ node => readTree depth node) (depth + 1) d

end

/-! ## §4 Reading filters -/

/-- A filter being read. -/
structure RequestDraft where
  nodes : Option (Option (List (Tree Criterion))) := none
  union : Option Junction := none

/-- The fields of a filter. -/
def requestRecord : Json.Record Notice RequestDraft where
  expected := "struct FilterRequest"
  fields :=
    [{ name := "complexfilters", presence := .defaulted, isSet := fun draft => draft.nodes.isSome
       read := fun depth d => do
        let nodes ← Json.optional readTrees depth d
        return fun draft => { draft with nodes := some nodes } },
     { name := "union", presence := .defaulted, isSet := fun draft => draft.union.isSome
       read := fun depth d => do
        let union ← readJunction depth d
        return fun draft => { draft with union := some union } }]
  empty := {}

/-- Reads a filter. -/
def readRequest : Decoder Notice Request := fun depth d => do
  let draft ← requestRecord.read depth d
  return ⟨draft.union.getD .and, (draft.nodes.getD none).getD []⟩

end IncidentTracker.Filtering
