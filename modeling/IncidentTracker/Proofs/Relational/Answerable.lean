import IncidentTracker.Proofs.Filtering.Accepted
import IncidentTracker.Proofs.Relational.Limits
import IncidentTracker.Proofs.Relational.Listing
import IncidentTracker.Proofs.Relational.Reachable

/-!
# Which Filters Are Answered

What the limits on a filter parameter say about the query for the filter. The arguments of the
query stay far below the limit of the database, but its nesting grows with the number of groups,
which the parameter does not limit, and a pattern may be about twice as long as its value. So not
every filter that is accepted is answered: beyond 885 groups the query may be nested too deeply, and
a search for a text of 25,000 bytes or more may need a pattern that is too long. There is no other
reason for a list to fail.

Main statements: `Store.list_accepted` and `Store.list_many_groups`.
-/

namespace IncidentTracker.Relational

open Filtering (Criterion Request maxCriteria)
open Filtering.Tree (groupsEach leavesEach)

/-! ## §1 Nesting -/

namespace Condition

theorem length_ofTrees (nodes : List (Filtering.Tree Criterion)) :
    (ofTrees nodes).length = nodes.length := by
  induction nodes with
  | nil => rfl
  | cons node nodes ih => rw [ofTrees, List.length_cons, ih, List.length_cons]

/-- A group is nested at most one level deeper for each of its parts. -/
theorem height_group_le {k : Nat} (hk : constantHeight ≤ k) (j : Filtering.Junction)
    {parts : List Condition} (h : ∀ part ∈ parts, part.height ≤ k) :
    (group j parts).height ≤ k + parts.length := by
  cases parts with
  | nil => exact hk
  | cons part parts =>
    have hpart := h part List.mem_cons_self
    -- each of the other parts adds one level at most
    have hchain := chainHeight_le (fun other hmem => h other (List.mem_cons_of_mem part hmem))
      part.height
    rw [height, List.length_cons]
    omega

theorem height_join_ofTrees_le {nodes : List (Filtering.Tree Criterion)}
    (h : ∀ part ∈ ofTrees nodes,
      part.height + nodes.length ≤ 9 + (leavesEach nodes).length + groupsEach nodes)
    (j : Filtering.Junction) :
    (join j (ofTrees nodes)).height ≤
      9 + (leavesEach nodes).length + groupsEach nodes := by
  -- each group is lower than the bound by as much as joining all of them can add
  have hroom := Filtering.Tree.length_le_groupsEach nodes
  have hk : constantHeight ≤
      9 + (leavesEach nodes).length + groupsEach nodes - nodes.length := by
    rw [constantHeight]
    omega
  have hjoin := height_join_le hk j fun part hpart => Nat.le_sub_of_add_le (h part hpart)
  rw [length_ofTrees] at hjoin
  omega

mutual

/-- The condition of a group is nested no deeper than it has leaves and groups. -/
theorem height_ofTree_le : ∀ t : Filtering.Tree Criterion,
    (ofTree t).height ≤ 8 + t.leaves.length + t.groups
  | .branch j children _ => by
    have hjoin := height_join_ofTrees_le (height_add_length_le children) j
    rw [ofTree, Filtering.Tree.leaves, Filtering.Tree.groups]
    omega
  | .group j members => by
    -- a test has height 9 at most, and each further member adds one
    have htest : ∀ part ∈ members.map fun c => test (.ofCriterion .consistent c),
        part.height ≤ 9 := by
      intro part hpart
      obtain ⟨c, -, rfl⟩ := List.mem_map.mp hpart
      exact Test.height_le _
    have hjoin := height_join_le (by decide) j htest
    rw [List.length_map] at hjoin
    rw [ofTree, Filtering.Tree.leaves, Filtering.Tree.groups]
    omega

theorem height_add_length_le : ∀ nodes : List (Filtering.Tree Criterion), ∀ part ∈ ofTrees nodes,
    part.height + nodes.length ≤ 9 + (leavesEach nodes).length + groupsEach nodes
  | [] => fun _ hpart => nomatch hpart
  | node :: nodes => by
    intro part hpart
    -- every node has a group of its own, so the nodes that are left are paid for by their groups
    have hnode := node.groups_pos
    have hnodes := Filtering.Tree.length_le_groupsEach nodes
    rw [leavesEach, groupsEach, List.length_append, List.length_cons]
    rw [ofTrees] at hpart
    rcases List.mem_cons.mp hpart with rfl | hpart
    · -- each of the others counts at least for one
      have hheight := height_ofTree_le node
      omega
    · have hheight := height_add_length_le nodes part hpart
      omega

end

end Condition

namespace Clause

/-- A query is at most six levels deeper than the condition of its clause. -/
theorem height_le (clause : Clause) : clause.height ≤ max joinHeight clause.reading.height + 6 := by
  unfold height lookUpHeight
  split <;> omega

/-- The deepest nesting of a query for a filter with some criteria and groups; the groups do not
    matter where the tree is not consulted. -/
def heightBound (semantics : Filtering.Semantics) (criteria groups : Nat) : Nat :=
  match semantics with
  | .legacy => 15 + criteria
  | .consistent => 15 + criteria + groups

/-- Without members of its own a filter is no clause, but that reads as all of no tests. -/
theorem reading_ofRequest_legacy (r : Request) :
    (ofRequest .legacy r).reading = .group .and ((ofRequest .legacy r).tests.map .test) := by
  cases hmap : r.ownMembers.map (Test.ofCriterion .legacy) <;>
    simp [ofRequest, hmap, reading, tests]

theorem height_ofRequest_le (semantics : Filtering.Semantics) (r : Request) :
    (ofRequest semantics r).height ≤ heightBound semantics r.size r.groups := by
  have hclause := (ofRequest semantics r).height_le
  rw [joinHeight] at hclause
  cases semantics with
  | legacy =>
    -- one group of tests, however the filter is nested
    have hmembers := r.length_ownMembers_le
    have htest : ∀ part ∈ (ofRequest .legacy r).tests.map Condition.test, part.height ≤ 9 := by
      intro part hpart
      obtain ⟨t, -, rfl⟩ := List.mem_map.mp hpart
      exact t.height_le
    have hreading := Condition.height_group_le (by decide) .and htest
    rw [← reading_ofRequest_legacy, List.length_map, tests_ofRequest_legacy,
      List.length_map] at hreading
    rw [heightBound]
    omega
  | consistent =>
    have hleaves := r.length_leaves_le
    have hreading : (ofRequest .consistent r).reading.height ≤ 9 + r.leaves.length + r.groups :=
      Condition.height_join_ofTrees_le (Condition.height_add_length_le r.nodes) r.junction
    rw [heightBound]
    omega

/-! ## §2 Arguments -/

theorem length_tests_ofRequest_le (semantics : Filtering.Semantics) (r : Request) :
    (ofRequest semantics r).tests.length ≤ r.size := by
  cases semantics with
  | legacy =>
    rw [tests_ofRequest_legacy, List.length_map]
    exact r.length_ownMembers_le
  | consistent =>
    rw [tests_ofRequest_consistent, List.length_map]
    exact r.length_leaves_le

/-- Each test has one argument or two. -/
theorem length_args_le (clause : Clause) : clause.args.length ≤ 2 * clause.tests.length := by
  unfold args
  induction clause.tests with
  | nil => exact Nat.le_refl 0
  | cons t tests ih =>
    have ht : t.args.length ≤ 2 := by
      unfold Test.args Subject.args
      split <;> simp
    rw [List.flatMap_cons, List.length_append, List.length_cons]
    omega

theorem length_args_ofRequest_le (semantics : Filtering.Semantics) (r : Request) :
    (ofRequest semantics r).args.length ≤ 2 * r.size :=
  Nat.le_trans (length_args_le _) (Nat.mul_le_mul_left 2 (length_tests_ofRequest_le semantics r))

end Clause

/-! ## §3 Failures -/

/-- A computation in two steps fails if the first step does, or else the second. -/
private theorem bind_eq_error {α β : Type} {x : Except Error α} {f : α → Except Error β}
    {e : Error} (h : x >>= f = .error e) : x = .error e ∨ ∃ a, x = .ok a ∧ f a = .error e := by
  cases x with
  | error _ =>
    cases h
    exact .inl rfl
  | ok a => exact .inr ⟨a, rfl, h⟩

theorem Extent.eq_of_checkHeight_eq_error {x : Extent} {e : Error}
    (h : x.checkHeight = .error e) : e = .conditionTooDeep := by
  unfold checkHeight at h
  split at h
  · cases h
    rfl
  · cases h

namespace Condition

mutual

/-- If there are not too many arguments, reading a condition can only fail for its depth. -/
theorem eq_of_extent_eq_error {n : Nat} {e : Error} : ∀ {c : Condition},
    n + c.args.length ≤ maxArguments → c.extent n = .error e → e = .conditionTooDeep
  -- the arguments fit, so a test alone cannot fail
  | .test t, hargs, h => by
    have hfits : n + t.args.length ≤ maxArguments := by simpa [args, tests] using hargs
    rw [extent, Test.extent, Extent.checkArguments_eq_ok_iff.mpr ⟨hfits, rfl⟩] at h
    cases h
  | .constant _, _, h => nomatch h
  | .group _ [], _, h => nomatch h
  | .group j (part :: parts), hargs, h => by
    have hsplit : (group j (part :: parts)).args = part.args ++ argsEach parts :=
      argsEach_cons part parts
    rw [hsplit, List.length_append] at hargs
    rw [extent] at h
    -- the first part fails, or it is counted and one of the others does
    obtain hpart | ⟨first, hfirst, hrest⟩ := bind_eq_error h
    · exact eq_of_extent_eq_error (c := part) (by omega) hpart
    · obtain ⟨rfl, -⟩ := eq_of_extent (by omega) hfirst
      exact eq_of_extentEach_eq_error (x := ⟨part.height, n + part.args.length⟩)
        (by simp only; omega) hrest

theorem eq_of_extentEach_eq_error {x : Extent} {e : Error} : ∀ {parts : List Condition},
    x.arguments + (argsEach parts).length ≤ maxArguments → extentEach x parts = .error e →
      e = .conditionTooDeep
  | [], _, h => nomatch h
  | part :: parts, hargs, h => by
    rw [argsEach_cons, List.length_append] at hargs
    rw [extentEach] at h
    obtain hpart | ⟨next, hnext, h⟩ := bind_eq_error h
    · exact eq_of_extent_eq_error (c := part) (by omega) hpart
    · obtain ⟨rfl, -⟩ := eq_of_extent (by omega) hnext
      -- or the link between two parts is one level too high
      obtain hlink | ⟨link, hlink, hrest⟩ := bind_eq_error h
      · exact Extent.eq_of_checkHeight_eq_error hlink
      · obtain ⟨-, rfl⟩ := Extent.chain_eq_ok_iff.mp hlink
        exact eq_of_extentEach_eq_error
          (x := ⟨max x.height part.height + 1, x.arguments + part.args.length⟩)
          (by simp only; omega) hrest

end

end Condition

/-- A clause with few arguments is accepted, or it is too deep. -/
theorem Clause.checkLimits_of_args {clause : Clause} (h : clause.args.length ≤ maxArguments) :
    clause.checkLimits =
      if maxHeight < clause.height then .error .conditionTooDeep else .ok () := by
  split
  · next hdeep =>
    cases hcheck : clause.checkLimits with
    | ok _ => exact absurd (checkLimits_eq_ok_iff.mp hcheck).1 (Nat.not_le.mpr hdeep)
    | error e =>
      have hargs : 0 + clause.reading.args.length ≤ maxArguments := by
        rw [args_reading, Nat.zero_add]
        exact h
      rw [checkLimits] at hcheck
      -- whichever of the three checks fails, it is one of height
      obtain hread | ⟨_, -, hcheck⟩ := bind_eq_error hcheck
      · rw [Condition.eq_of_extent_eq_error hargs hread]
      · obtain hchain | ⟨_, -, hcheck⟩ := bind_eq_error hcheck
        · rw [Extent.eq_of_checkHeight_eq_error hchain]
        · split at hcheck
          · obtain hlookUp | ⟨_, -, hdone⟩ := bind_eq_error hcheck
            · rw [Extent.eq_of_checkHeight_eq_error hlookUp]
            · cases hdone
          · cases hcheck
  · next hfits => exact checkLimits_eq_ok_iff.mpr ⟨Nat.not_lt.mp hfits, h⟩

/-! ## §4 Patterns -/

/-- Whether the argument of a test is a pattern that is too long. -/
def Test.IsOverlong (t : Test) : Prop :=
  t.operator = .lowerLike ∧ maxPatternBytes < Text.byteSize t.argument.toList

theorem Test.holds_eq_error {row : Row} {t : Test} {e : Error} (h : t.holds row = .error e) :
    e = .patternTooLong ∧ t.IsOverlong := by
  unfold Test.holds at h
  -- only a pattern can be too long; the other operators always answer
  cases hoperator : t.operator with
  | lowerLike =>
    rw [hoperator, Operator.holds] at h
    split at h
    · next hlong =>
      cases h
      exact ⟨rfl, hoperator, hlong⟩
    · cases h
  | _ =>
    rw [hoperator] at h
    cases h

namespace Condition

mutual

/-- A row that has no answer was tested with a pattern that is too long. -/
theorem eq_of_holds_eq_error {row : Row} {e : Error} : ∀ {c : Condition},
    c.holds row = .error e → e = .patternTooLong
  | .test _, h => (Test.holds_eq_error h).1
  | .constant _, h => nomatch h
  | .group .and _, h => eq_of_allHold_eq_error h
  | .group .or _, h => eq_of_anyHolds_eq_error h

theorem eq_of_allHold_eq_error {row : Row} {e : Error} : ∀ {parts : List Condition},
    allHold row parts = .error e → e = .patternTooLong
  | [], h => nomatch h
  | part :: parts, h => by
    rw [allHold] at h
    obtain hpart | ⟨answer, -, hrest⟩ := bind_eq_error h
    · exact eq_of_holds_eq_error hpart
    · -- a part that fails to hold ends the conjunction, and nothing after it is asked
      cases answer with
      | true => exact eq_of_allHold_eq_error hrest
      | false => cases hrest

theorem eq_of_anyHolds_eq_error {row : Row} {e : Error} : ∀ {parts : List Condition},
    anyHolds row parts = .error e → e = .patternTooLong
  | [], h => nomatch h
  | part :: parts, h => by
    rw [anyHolds] at h
    obtain hpart | ⟨answer, -, hrest⟩ := bind_eq_error h
    · exact eq_of_holds_eq_error hpart
    · -- a part that holds ends the disjunction
      cases answer with
      | true => cases hrest
      | false => exact eq_of_anyHolds_eq_error hrest

end

end Condition

namespace Clause

/-- If there are rows without an answer, there are rows, and there is a pattern that is too
    long. -/
theorem eq_of_keep_eq_error {clause : Clause} {rows : List Row} {e : Error}
    (h : clause.keep rows = .error e) :
    e = .patternTooLong ∧ rows ≠ [] ∧ ∃ t ∈ clause.tests, t.IsOverlong := by
  refine ⟨?_, fun hnone => ?_, Classical.byContradiction fun hshort => ?_⟩
  · induction rows with
    | nil => cases h
    | cons row rows ih =>
      obtain hrow | ⟨_, -, h⟩ := bind_eq_error h
      · exact Condition.eq_of_allHold_eq_error hrow
      · obtain hrows | ⟨_, -, hdone⟩ := bind_eq_error h
        · exact ih hrows
        · cases hdone
  · rw [hnone] at h
    cases h
  · -- with short patterns every test has an answer, and so has every row
    let value : Row → Test → Bool := fun row t =>
      match t.holds row with
      | .ok b => b
      | .error _ => false
    have htests : ∀ row, ∀ t ∈ clause.tests, t.holds row = .ok (value row t) := by
      intro row t ht
      cases hanswer : t.holds row with
      | ok b => simp only [value, hanswer]
      | error e => exact absurd ⟨t, ht, (Test.holds_eq_error hanswer).2⟩ hshort
    have hrows : ∀ row ∈ rows, clause.holds row = .ok (clause.eval (value row)) :=
      fun row _ => holds_eq_eval (htests row)
    rw [keep_eq_filter hrows] at h
    cases h

/-- A query with few arguments fails if it is nested too deeply, and otherwise only if some row is
    tested with a pattern that is too long. -/
theorem select_cases {clause : Clause} (hargs : clause.args.length ≤ maxArguments) (db : Database) :
    if maxHeight < clause.height then db.select clause = .error .conditionTooDeep
    else (∃ incidents, db.select clause = .ok incidents) ∨
      (db.select clause = .error .patternTooLong ∧ db.stored ≠ [] ∧
        ∃ t ∈ clause.tests, t.IsOverlong) := by
  have hlimits := checkLimits_of_args hargs
  split
  · next hdeep =>
    rw [if_pos hdeep] at hlimits
    rw [Database.select, hlimits]
    rfl
  · next hfits =>
    rw [if_neg hfits] at hlimits
    -- within the limits, only a row whose test has no answer stops the query
    cases hkeep : clause.keep db.rows with
    | ok rows =>
      rw [Database.select, hlimits, hkeep]
      exact .inl ⟨_, rfl⟩
    | error e =>
      obtain ⟨rfl, hrows, hlong⟩ := eq_of_keep_eq_error hkeep
      rw [Database.select, hlimits, hkeep]
      exact .inr ⟨rfl, by simpa [Database.stored] using hrows, hlong⟩

end Clause

/-- Patterns are made under the consistent semantics only, from the values to be searched for. -/
theorem Test.isOverlong_ofCriterion {semantics : Filtering.Semantics} {c : Criterion}
    (h : (Test.ofCriterion semantics c).IsOverlong) :
    semantics = .consistent ∧ c.comparison = .contains ∧
      maxPatternBytes < Text.byteSize (containsPattern c.value).toList := by
  obtain ⟨property, comparison, value⟩ := c
  obtain ⟨hoperator, hlong⟩ := h
  -- only a search of the consistent semantics becomes a match against a pattern
  cases semantics with
  | legacy => cases comparison <;> cases hoperator
  | consistent =>
    cases comparison with
    | equals => cases hoperator
    | notEquals => cases hoperator
    | contains => exact ⟨rfl, rfl, hlong⟩

/-- The tests of the query for a filter are made from its criteria, under the consistent semantics
    from its leaves. -/
theorem Clause.exists_of_mem_tests {semantics : Filtering.Semantics} {r : Request} {t : Test}
    (ht : t ∈ (ofRequest semantics r).tests) :
    ∃ c, (semantics = .consistent → c ∈ r.leaves) ∧ Test.ofCriterion semantics c = t := by
  -- under `.legacy` the criterion need not be a leaf: it may be shadowed
  cases semantics with
  | legacy =>
    rw [tests_ofRequest_legacy] at ht
    obtain ⟨c, -, hc⟩ := List.mem_map.mp ht
    exact ⟨c, nofun, hc⟩
  | consistent =>
    rw [tests_ofRequest_consistent] at ht
    obtain ⟨c, hmem, hc⟩ := List.mem_map.mp ht
    exact ⟨c, fun _ => hmem, hc⟩

/-! ## §5 Accepted filters -/

namespace Store

/-- A filter that was accepted, listed in any store: its query has two arguments for each criterion
    at most, and is nested not much deeper than there are criteria and groups. The list fails if the
    query is nested too deeply, and otherwise only if there are incidents to be searched for a
    text whose pattern is too long. -/
theorem list_accepted {s : Store} (hs : s.Reachable) (hopen : s.isOpen = true) {text : String}
    {r : Request} (h : (Filtering.parseParam (some text)).result = .ok (some r)) :
    (Clause.ofRequest s.semantics r).args.length ≤ 2 * maxCriteria ∧
    (Clause.ofRequest s.semantics r).height ≤
      Clause.heightBound s.semantics maxCriteria r.groups ∧
    if maxHeight < (Clause.ofRequest s.semantics r).height then
      (s.list (some r)).1 = .error .conditionTooDeep
    else (∃ incidents, (s.list (some r)).1 = .ok incidents) ∨
      ((s.list (some r)).1 = .error .patternTooLong ∧ s.semantics = .consistent ∧
        s.database.stored ≠ [] ∧ ∃ c ∈ r.leaves, c.comparison = .contains ∧
          maxPatternBytes < Text.byteSize (containsPattern c.value).toList) := by
  obtain ⟨-, hsize⟩ := Filtering.parseParam_eq_ok h
  have hargs := Clause.length_args_ofRequest_le s.semantics r
  have hheight := Clause.height_ofRequest_le s.semantics r
  have hbound : (Clause.ofRequest s.semantics r).args.length ≤ 2 * maxCriteria := by omega
  refine ⟨hbound, ?_, ?_⟩
  · refine Nat.le_trans hheight ?_
    unfold Clause.heightBound
    split <;> omega
  · -- the arguments stay below the limit, so what is left is the height and the patterns
    rw [list_eq_select hs.ready hopen]
    have hcases := Clause.select_cases (Nat.le_trans hbound (by decide)) s.database
    show if maxHeight < (Clause.ofRequest s.semantics r).height then _ else _
    split
    · next hdeep => rwa [if_pos hdeep] at hcases
    · next hfits =>
      rw [if_neg hfits] at hcases
      refine hcases.imp_right fun ⟨herror, hstored, t, ht, hlong⟩ => ⟨herror, ?_⟩
      -- the test that failed belongs to a criterion that searches, under `.consistent`
      obtain ⟨c, hc, rfl⟩ := Clause.exists_of_mem_tests ht
      obtain ⟨hsemantics, hcontains, hlong⟩ := Test.isOverlong_ofCriterion hlong
      exact ⟨hsemantics, hstored, c, hc hsemantics, hcontains, hlong⟩

theorem list_accepted_search :
    let r : Request := ⟨.or, [.branch .and [.group .or []] [⟨"", .equals, ""⟩],
      .group .and [⟨"Severity", .contains, "50%"⟩]]⟩
    let news : List NewIncident := [{ attributes := .ofList [("severity", "50% up")] }]
    let s := ((fresh .consistent true 0).addEach news).2
    (Filtering.parseParam (some (Filtering.Forest.toJson r).compact)).result = .ok (some r) ∧
      s.Reachable ∧ s.isOpen = true ∧ ∃ incidents, (s.list (some r)).1 = .ok incidents := by
  intro r news s
  have htext : (Filtering.parseParam (some (Filtering.Forest.toJson r).compact)).result =
      .ok (some r) :=
    Filtering.parseParam_compact (by decide +kernel) (by decide) (by decide)
  have hs : s.Reachable := (Reachable.begun .consistent true 0).addEach _
  have hlist := (list_accepted hs rfl htext).2.2
  -- the clause is low enough and its one search is short
  rw [if_neg (by decide)] at hlist
  refine ⟨htext, hs, rfl, hlist.resolve_right ?_⟩
  rintro ⟨-, -, -, c, hc, -, hlong⟩
  rw [List.mem_singleton.mp hc] at hlong
  exact absurd hlong (by decide)

end Store

/-! ## §6 Many groups -/

namespace Condition

theorem two_le_height : ∀ c : Condition, 2 ≤ c.height
  | .test t => by
    rw [height, Test.height]
    split
    · exact Nat.le_refl 2
    · exact Nat.le_refl 2
    · decide
    all_goals split <;> decide
  | .constant _ => Nat.le_refl 2
  | .group _ [] => Nat.le_refl 2
  | .group _ (part :: parts) => Nat.le_trans (two_le_height part) (le_chainHeight _ parts)

/-- Every part makes a chain at least one level deeper. -/
theorem add_length_le_chainHeight (height : Nat) (parts : List Condition) :
    height + parts.length ≤ chainHeight height parts := by
  induction parts generalizing height with
  | nil => exact Nat.le_refl height
  | cons part parts ih =>
    have hnext := ih (max height part.height + 1)
    rw [chainHeight, List.length_cons]
    omega

theorem length_lt_height_join {j : Filtering.Junction} {parts : List Condition}
    (h : 2 ≤ parts.length) : parts.length < (join j parts).height := by
  rcases parts with _ | ⟨first, _ | ⟨second, rest⟩⟩
  · cases h
  · exact absurd h (by simp)
  · -- the first part has height 2, and each link to another one adds at least one
    have hfirst := two_le_height first
    have hchain := add_length_le_chainHeight first.height (second :: rest)
    show rest.length + 2 < chainHeight first.height (second :: rest)
    rw [List.length_cons] at hchain
    omega

end Condition

namespace Store

/-- A filter of groups without members. -/
def emptyGroups (n : Nat) : Request :=
  ⟨.and, List.replicate n (.group .and [])⟩

/-- A filter with 999 groups or more on the first level is never answered, whatever is stored. -/
theorem list_many_groups {s : Store} (hs : s.Ready) (hopen : s.isOpen = true)
    (hsemantics : s.semantics = .consistent) {r : Request} (hsize : r.size ≤ maxCriteria)
    (hgroups : 999 ≤ r.nodes.length) : (s.list (some r)).1 = .error .conditionTooDeep := by
  have hargs : (Clause.ofRequest .consistent r).args.length ≤ maxArguments := by
    have hle := Clause.length_args_ofRequest_le .consistent r
    have hroom : 2 * maxCriteria ≤ maxArguments := by decide
    omega
  -- the parts of a junction are chained, so each of them adds a level
  have hdeep : maxHeight < (Clause.ofRequest .consistent r).height := by
    have hparts := Condition.length_ofTrees r.nodes
    have hjoin : (Condition.ofTrees r.nodes).length <
        (Clause.ofRequest .consistent r).reading.height :=
      Condition.length_lt_height_join (by omega)
    rw [Clause.height, maxHeight]
    omega
  have hcases := Clause.select_cases hargs s.database
  rw [if_pos hdeep] at hcases
  rw [list_eq_select hs hopen, hsemantics]
  exact hcases

/-- Each group without members takes 31 bytes, and one for the comma before the next. -/
theorem byteSize_emptyGroups_le (n : Nat) (rest : List Char) :
    Text.byteSize (Json.compactItems (Filtering.Tree.toJsonEach (emptyGroups n).nodes) rest) ≤
      32 * n + Text.byteSize rest := by
  -- one group takes 31 bytes, and a comma one more
  have hone : ∀ rest : List Char, Text.byteSize (Json.compactChars
      (Filtering.Tree.toJson (.group .and [])) rest) = 31 + Text.byteSize rest := by
    intro rest
    have hchars : Json.compactChars (Filtering.Tree.toJson (.group .and [])) rest =
        "\x7b\"filters\":[],\"junction\":\"and\"\x7d".toList ++ rest := rfl
    rw [hchars, Text.byteSize_append]
    rfl
  induction n with
  | zero => exact Nat.le_add_left _ _
  | succ n ih =>
    cases n with
    | zero =>
      show Text.byteSize (Json.compactChars (Filtering.Tree.toJson (.group .and [])) rest) ≤ _
      rw [hone]
      omega
    | succ n =>
      show Text.byteSize (Json.compactChars (Filtering.Tree.toJson (.group .and [])) (',' ::
        Json.compactItems (Filtering.Tree.toJsonEach (emptyGroups (n + 1)).nodes) rest)) ≤ _
      rw [hone, Text.byteSize_cons]
      have hcomma : ','.utf8Size = 1 := rfl
      omega

/-- Groups without members are settled, flat, and count for nothing. -/
theorem emptyGroups_measures (n : Nat) :
    (emptyGroups n).isFull = true ∧ (emptyGroups n).depth ≤ 1 ∧ (emptyGroups n).size = 0 := by
  induction n with
  | zero => exact ⟨rfl, Nat.zero_le 1, rfl⟩
  | succ n ih =>
    obtain ⟨hfull, hdepth, hsize⟩ := ih
    refine ⟨hfull, Nat.max_le.mpr ⟨Nat.le_refl 1, hdepth⟩, ?_⟩
    show 0 + (emptyGroups n).size = 0
    rw [hsize]

/-- The limits on a parameter let two thousand groups without members pass. -/
theorem parseParam_emptyGroups {n : Nat} (h : n ≤ 2000) :
    (Filtering.parseParam (some (Filtering.Forest.toJson (emptyGroups n)).compact)).result =
      .ok (some (emptyGroups n)) := by
  obtain ⟨hfull, hdepth, hsize⟩ := emptyGroups_measures n
  -- 19 bytes in front of the groups, 16 behind them
  have hbytes : Text.byteSize (Json.compactChars (Filtering.Forest.toJson (emptyGroups n)) []) ≤
      Filtering.maxBytes := by
    have hopening : ∀ rest : List Char,
        '\x7b' :: Json.textChars "complexfilters" (':' :: '[' :: rest) =
        "\x7b\"complexfilters\":[".toList ++ rest := fun _ => rfl
    have hitems := byteSize_emptyGroups_le n
      (']' :: ',' :: Json.textChars "union" (':' :: Json.textChars "and" ['\x7d']))
    have hsizes : Text.byteSize "\x7b\"complexfilters\":[".toList = 19 ∧ Text.byteSize
        (']' :: ',' :: Json.textChars "union" (':' :: Json.textChars "and" ['\x7d'])) = 16 :=
      ⟨rfl, rfl⟩
    rw [Filtering.Forest.toJson, Json.compactChars, Json.compactMembers, Json.compactMembers,
      Json.compactChars, Json.compactChars, hopening, Text.byteSize_append, Filtering.maxBytes]
    · show _ + Text.byteSize (Json.compactItems _ (']' :: ',' :: Json.textChars "union"
        (':' :: Json.textChars "and" ['\x7d']))) ≤ _
      omega
    · exact List.cons_ne_nil _ _
  rw [Filtering.parseParam_compact hbytes (Nat.le_trans hdepth (by decide))
    (by rw [hsize]; exact Nat.zero_le _), (Filtering.Forest.settled_eq_self_iff _).mpr hfull]

/-- A thousand groups without members are accepted, and make a filter of no criteria at all, but the
    list with it is refused even where nothing is stored. -/
theorem list_emptyGroups_refused :
    (Filtering.parseParam (some (Filtering.Forest.toJson (emptyGroups 1000)).compact)).result =
        .ok (some (emptyGroups 1000)) ∧
      (fresh .consistent true 0).Reachable ∧ (fresh .consistent true 0).isOpen = true ∧
      ((fresh .consistent true 0).list (some (emptyGroups 1000))).1 = .error .conditionTooDeep := by
  have hreachable : (fresh .consistent true 0).Reachable := .begun .consistent true 0
  have hlength : (emptyGroups 1000).nodes.length = 1000 := List.length_replicate
  refine ⟨parseParam_emptyGroups (by decide), hreachable, rfl,
    list_many_groups hreachable.ready rfl rfl ?_ (by omega)⟩
  rw [(emptyGroups_measures 1000).2.2]
  exact Nat.zero_le _

end Store

end IncidentTracker.Relational
