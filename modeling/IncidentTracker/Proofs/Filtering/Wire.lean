import IncidentTracker.Filtering.Wire
import IncidentTracker.Proofs.Filtering.Settled
import IncidentTracker.Proofs.Json.Reading

/-!
# The Written Form of Filters Read Back

The written form of a filter nests two containers for each level of groups, and at the last level
up to three: the group, the list of its members, and a member. What may be opened below a group is
always odd in number, so the third one never decides: a group is read exactly where its depth is at
most half of that number.

Main statement: `Forest.read_toJson`.
-/

namespace IncidentTracker.Filtering

open Json (Decode Decoder Document Value documents memberDocuments)

/-! ## §1 Written values fit -/

theorem fits_criteriaToJson (criteria : List Criterion) : (criteriaToJson criteria).fits = true := by
  rw [criteriaToJson, Value.fits]
  induction criteria with
  | nil => rfl
  | cons c criteria ih =>
    rw [List.map_cons, Json.allFit, ih, Criterion.toJson]
    simp [Value.fits, Json.allMembersFit]

mutual

theorem Tree.fits_toJson : ∀ t : Tree Criterion, t.toJson.fits = true
  | .branch j children shadowed => by
    have hchildren := Tree.fits_toJsonEach children
    have hshadowed := fits_criteriaToJson shadowed
    rw [Tree.toJson]
    -- without shadowed criteria there is no member "filters"
    split <;> simp [Value.fits, Json.allMembersFit, hchildren, hshadowed]
  | .group j members => by
    have hmembers := fits_criteriaToJson members
    rw [Tree.toJson]
    simp [Value.fits, Json.allMembersFit, hmembers]

theorem Tree.fits_toJsonEach : ∀ nodes : List (Tree Criterion), Json.allFit (Tree.toJsonEach nodes) = true
  | [] => by rw [Tree.toJsonEach, Json.allFit]
  | node :: nodes => by
    rw [Tree.toJsonEach, Json.allFit, Tree.fits_toJson node, Tree.fits_toJsonEach nodes]
    rfl

end

theorem Forest.fits_toJson (r : Request) : (Forest.toJson r).fits = true := by
  have hnodes := Tree.fits_toJsonEach r.nodes
  rw [Forest.toJson]
  simp [Value.fits, Json.allMembersFit, hnodes]

/-! ## §2 Pieces -/

@[simp] theorem readJunction_ofText (j : Junction) (depth : Nat) :
    readJunction depth (.ofText j.name) = pure j := by
  cases j <;> rfl

@[simp] theorem readComparison_ofText (c : Comparison) (depth : Nat) :
    readComparison depth (.ofText c.name) = pure c := by
  cases c <;> rfl

/-- A criterion takes one container. -/
theorem readCriterion_toJson (depth : Nat) (c : Criterion) :
    readCriterion (depth + 1) c.toJson.document = pure c := by
  -- the three members are read into the draft in the order in which they are written
  have hmembers : (memberDocuments [("property", .text c.property),
      ("comparison", .text c.comparison.name), ("value", .text c.value)]).foldlM
        (criterionRecord.readMember depth) criterionRecord.empty =
      pure ⟨some c.property, some c.comparison, some c.value⟩ := by
    simp [memberDocuments, Json.Record.readMember, criterionRecord]
  rw [Criterion.toJson, readCriterion, Json.Record.read_object, hmembers]
  rfl

/-- A list of criteria takes one container more. -/
theorem readCriteria_toJson (depth : Nat) (criteria : List Criterion) :
    readCriteria (depth + 2) (criteriaToJson criteria).document = pure criteria := by
  rw [criteriaToJson, readCriteria, Json.listOf_succ]
  exact Json.mapM_documents_eq_pure fun c _ => readCriterion_toJson depth c

/-! ## §3 Groups -/

private theorem optional_criteria (depth : Nat) (criteria : List Criterion) :
    Json.optional readCriteria (depth + 2) (criteriaToJson criteria).document =
      pure (some criteria) := by
  have hread := readCriteria_toJson depth criteria
  rw [criteriaToJson] at hread ⊢
  rw [Json.optional_list, hread, map_pure]

/-- A branch with room for its members below it is what its children make it. -/
private theorem readTree_branch (depth : Nat) (j : Junction) (children : List (Tree Criterion))
    (shadowed : List Criterion) :
    readTree (depth + 3) (Tree.branch j children shadowed).toJson.document =
      (documents (Tree.toJsonEach children)).mapM (readTree (depth + 1)) >>= fun nodes =>
        pure (if nodes.isEmpty then .group j shadowed else .branch j nodes shadowed) := by
  have hread : readTrees (depth + 2) (Value.list (Tree.toJsonEach children)).document =
      (documents (Tree.toJsonEach children)).mapM (readTree (depth + 1)) := by
    rw [readTrees, Json.listOf_succ]
  rw [Tree.toJson, readTree, Json.Record.read_object]
  -- without shadowed criteria the member "filters" is left out, so it is read as absent
  cases shadowed with
  | nil =>
    simp [memberDocuments, Json.Record.readMember, treeRecord, hread, Json.Record.finish,
      Json.Record.firstMissing, TreeDraft.tree]
  | cons c shadowed =>
    simp [memberDocuments, Json.Record.readMember, treeRecord, hread, optional_criteria,
      Json.Record.finish, Json.Record.firstMissing, TreeDraft.tree]

private theorem readTree_group (depth : Nat) (j : Junction) (members : List Criterion) :
    readTree (depth + 3) (Tree.group j members).toJson.document = pure (.group j members) := by
  rw [Tree.toJson, readTree, Json.Record.read_object]
  simp [memberDocuments, Json.Record.readMember, treeRecord, optional_criteria,
    Json.Record.finish, Json.Record.firstMissing, TreeDraft.tree]

/-- Every group takes a second container, for the list that it begins with. -/
private theorem readTree_one (t : Tree Criterion) :
    readTree 1 t.toJson.document = throw (.fault .grammar) := by
  -- neither list of parts has a container left
  cases t with
  | branch j children shadowed =>
    have hchildren : readTrees 0 (Value.list (Tree.toJsonEach children)).document =
        throw (.fault .grammar) := by
      rw [readTrees, Json.listOf_zero]
    rw [Tree.toJson, readTree, Json.Record.read_object]
    simp [memberDocuments, Json.Record.readMember, treeRecord, hchildren]
  | group j members =>
    have hmembers : readCriteria 0 (criteriaToJson members).document = throw (.fault .grammar) := by
      rw [criteriaToJson, readCriteria, Json.listOf_zero]
    rw [criteriaToJson] at hmembers
    rw [Tree.toJson, criteriaToJson, readTree, Json.Record.read_object]
    simp [memberDocuments, Json.Record.readMember, treeRecord, hmembers]

-- A group and the list of its children are two containers, so each level of the tree takes the number
-- of those that may be opened down by two.
mutual

/-- A group is read back, settled, exactly where half of what may be opened is enough for it. -/
theorem readTree_toJson :
    ∀ (t : Tree Criterion) (half : Nat), readTree (2 * half + 1) t.toJson.document =
      if t.depth ≤ half then pure t.settled else throw (.fault .grammar)
  | t, 0 => by
    have hdepth : ¬t.depth ≤ 0 := Nat.not_le.mpr t.depth_pos
    rw [if_neg hdepth]
    exact readTree_one t
  | .branch j children shadowed, half + 1 => by
    have hread := readTrees_toJsonEach children half
    have hdouble : 2 * (half + 1) + 1 = 2 * half + 3 := by omega
    rw [hdouble, readTree_branch, hread, Tree.depth, Tree.settled]
    -- a branch is as deep as its children and one level more
    by_cases hle : Tree.depthEach children ≤ half
    · rw [if_pos hle, if_pos (Nat.succ_le_succ hle), pure_bind, Tree.settledEach_isEmpty]
    · have hlt : ¬Tree.depthEach children + 1 ≤ half + 1 := by omega
      rw [if_neg hle, if_neg hlt, Json.throw_bind]
  | .group j members, half + 1 => by
    have hdouble : 2 * (half + 1) + 1 = 2 * half + 3 := by omega
    rw [hdouble, readTree_group, Tree.depth, if_pos (by omega), Tree.settled]

/-- Several groups are read back where half is enough for the deepest of them. -/
theorem readTrees_toJsonEach :
    ∀ (nodes : List (Tree Criterion)) (half : Nat),
      (documents (Tree.toJsonEach nodes)).mapM (readTree (2 * half + 1)) =
        if Tree.depthEach nodes ≤ half then pure (Tree.settledEach nodes)
        else throw (.fault .grammar)
  | [], half => by
    rw [Tree.toJsonEach, documents, List.mapM_nil, Tree.depthEach, if_pos (Nat.zero_le half),
      Tree.settledEach]
  | node :: nodes, half => by
    have hnode := readTree_toJson node half
    have hnodes := readTrees_toJsonEach nodes half
    rw [Tree.toJsonEach, documents, List.mapM_cons, hnode, hnodes, Tree.depthEach,
      Tree.settledEach]
    -- the first group that is too deep stops the reading, with the same problem for each
    by_cases hfirst : node.depth ≤ half
    · by_cases hrest : Tree.depthEach nodes ≤ half
      · rw [if_pos hfirst, if_pos hrest, if_pos (Nat.max_le.mpr ⟨hfirst, hrest⟩), pure_bind,
          pure_bind]
      · have hmax : ¬max node.depth (Tree.depthEach nodes) ≤ half :=
          fun h => hrest (Nat.max_le.mp h).2
        rw [if_pos hfirst, if_neg hrest, if_neg hmax, pure_bind, Json.throw_bind]
    · have hmax : ¬max node.depth (Tree.depthEach nodes) ≤ half :=
        fun h => hfirst (Nat.max_le.mp h).1
      rw [if_neg hfirst, if_neg hmax, Json.throw_bind]

end

/-! ## §4 Filters -/

theorem readRequest_toJson (r : Request) :
    readRequest Json.nestingLimit (Forest.toJson r).document =
      if r.depth ≤ 62 then pure r.settled else throw (.fault .grammar) := by
  -- the request and its list of nodes take two of the levels, the nodes the others
  have hread : readTrees 126 (Value.list (Tree.toJsonEach r.nodes)).document =
      if Tree.depthEach r.nodes ≤ 62 then pure (Tree.settledEach r.nodes)
      else throw (.fault .grammar) := by
    rw [readTrees, Json.listOf_succ]
    exact readTrees_toJsonEach r.nodes 62
  have hdepth : r.depth = Tree.depthEach r.nodes := rfl
  rw [Forest.toJson, readRequest, Json.nestingLimit, Json.Record.read_object, hdepth]
  split
  case isTrue hle =>
    rw [if_pos hle] at hread
    simp [memberDocuments, Json.Record.readMember, requestRecord, hread, Json.Record.finish,
      Json.Record.firstMissing, Forest.settled]
  case isFalse hlt =>
    rw [if_neg hlt] at hread
    simp [memberDocuments, Json.Record.readMember, requestRecord, hread]

/-- The written form of a filter is read back exactly where the filter is at most 62 levels deep,
    and what is read is the filter settled. -/
theorem Forest.read_toJson (r : Request) :
    Json.read readRequest (Forest.toJson r).compact.toList =
        ⟨[], if r.depth ≤ 62 then .ok r.settled else .error (.fault .grammar)⟩ ∧
      (r.settled = r ↔ r.isFull = true) ∧
      r.settled.depth = r.depth ∧ r.settled.size = r.size := by
  refine ⟨?_, Forest.settled_eq_self_iff r, Forest.depth_settled r, Forest.size_settled r⟩
  apply Json.read_compact (Forest.fits_toJson r)
  rw [readRequest_toJson]
  -- beyond depth 62 the text nests too many levels to be read
  by_cases hdepth : r.depth ≤ 62
  · rw [if_pos hdepth, if_pos hdepth]
  · rw [if_neg hdepth, if_neg hdepth]

end IncidentTracker.Filtering
