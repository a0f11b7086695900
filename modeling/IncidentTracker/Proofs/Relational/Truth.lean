import IncidentTracker.Proofs.Filtering.Interpretation
import IncidentTracker.Relational.Database

/-!
# Truth of Conditions

Evaluation on a row can fail and takes its time over the order in which it asks. Where every test
of a condition has an answer, all of that falls away: what is left is the truth value of the
condition when its tests have those answers, and for the condition of a filter that is the truth
value of the filter's tree.

Main statements: `Clause.holds_eq_eval`, `Clause.keep_eq_filter`, `Condition.eval_ofTree` and
`Condition.tests_ofTree`.
-/

namespace IncidentTracker.Relational

open Filtering (Criterion Interpretation Junction)

/-! ## §1 Truth values -/

mutual

/-- The truth value of a condition when its tests have the given ones. -/
def Condition.eval (value : Test → Bool) : Condition → Bool
  | .test t => value t
  | .constant b => b
  | .group j parts => j.combine (Condition.evalEach value parts)

def Condition.evalEach (value : Test → Bool) : List Condition → List Bool
  | [] => []
  | part :: parts => Condition.eval value part :: Condition.evalEach value parts

end

/-- The truth value of a clause when its tests have the given ones. -/
def Clause.eval (value : Test → Bool) : Clause → Bool
  | .unfiltered => true
  | .conjunction tests => tests.all value
  | .condition c => c.eval value

namespace Condition

theorem evalEach_eq_map (value : Test → Bool) (parts : List Condition) :
    evalEach value parts = parts.map (eval value) := by
  induction parts with
  | nil => rfl
  | cons part parts ih => rw [evalEach, ih, List.map_cons]

theorem testsEach_eq_flatMap (parts : List Condition) : testsEach parts = parts.flatMap tests := by
  induction parts with
  | nil => rfl
  | cons part parts ih => rw [testsEach, ih, List.flatMap_cons]

theorem testsEach_map_test (tests : List Test) : testsEach (tests.map .test) = tests := by
  rw [testsEach_eq_flatMap, List.flatMap_map]
  exact List.flatMap_singleton' tests

/-! ## §2 Evaluation where every test has an answer -/

mutual

/-- Where every test has an answer, so has the condition. -/
theorem holds_eq_eval {row : Row} {value : Test → Bool} :
    ∀ c : Condition, (∀ t ∈ c.tests, t.holds row = .ok (value t)) →
      c.holds row = .ok (c.eval value)
  | .test t, h => h t (List.mem_singleton.mpr rfl)
  | .constant _, _ => rfl
  | .group .and parts, h => allHold_eq_all parts h
  | .group .or parts, h => anyHolds_eq_any parts h

/-- All of some conditions are asked as far as needed, and the answer is that of all of them. -/
theorem allHold_eq_all {row : Row} {value : Test → Bool} :
    ∀ parts : List Condition, (∀ t ∈ testsEach parts, t.holds row = .ok (value t)) →
      allHold row parts = .ok ((evalEach value parts).all id)
  | [], _ => rfl
  | part :: parts, h => by
    simp only [testsEach, List.mem_append] at h
    have hpart := holds_eq_eval part fun t ht => h t (.inl ht)
    have hparts := allHold_eq_all parts fun t ht => h t (.inr ht)
    rw [allHold, hpart, evalEach, List.all_cons]
    -- the first part that is false ends the asking, and decides
    cases part.eval value
    · rfl
    · exact hparts

/-- The same of any of some conditions. -/
theorem anyHolds_eq_any {row : Row} {value : Test → Bool} :
    ∀ parts : List Condition, (∀ t ∈ testsEach parts, t.holds row = .ok (value t)) →
      anyHolds row parts = .ok ((evalEach value parts).any id)
  | [], _ => rfl
  | part :: parts, h => by
    simp only [testsEach, List.mem_append] at h
    have hpart := holds_eq_eval part fun t ht => h t (.inl ht)
    have hparts := anyHolds_eq_any parts fun t ht => h t (.inr ht)
    rw [anyHolds, hpart, evalEach, List.any_cons]
    -- and here it is the first part that is true
    cases part.eval value
    · exact hparts
    · rfl

end

/-! ## §3 Order of evaluation -/

mutual

/-- A condition holds if all its conjuncts do. -/
theorem all_conjuncts (value : Test → Bool) :
    ∀ c : Condition, (evalEach value c.conjuncts).all id = c.eval value
  | .test t => by simp [conjuncts, evalEach, eval]
  | .constant b => by simp [conjuncts, evalEach, eval]
  | .group .or parts => by simp [conjuncts, evalEach]
  | .group .and parts => all_conjunctsEach value parts

theorem all_conjunctsEach (value : Test → Bool) :
    ∀ parts : List Condition,
      (evalEach value (conjunctsEach parts)).all id = (evalEach value parts).all id
  | [] => rfl
  | part :: parts => by
    have hpart := all_conjuncts value part
    have hparts := all_conjunctsEach value parts
    rw [evalEach_eq_map] at hpart hparts
    rw [conjunctsEach, evalEach_eq_map, List.map_append, List.all_append, hpart, hparts, evalEach,
      List.all_cons]
    rfl

end

mutual

/-- The tests of a condition are those of its conjuncts. -/
theorem testsEach_conjuncts : ∀ c : Condition, testsEach c.conjuncts = c.tests
  | .test t => by simp [conjuncts, testsEach]
  | .constant b => by simp [conjuncts, testsEach]
  | .group .or parts => by simp [conjuncts, testsEach]
  | .group .and parts => testsEach_conjunctsEach parts

theorem testsEach_conjunctsEach :
    ∀ parts : List Condition, testsEach (conjunctsEach parts) = testsEach parts
  | [] => rfl
  | part :: parts => by
    have hpart := testsEach_conjuncts part
    have hparts := testsEach_conjunctsEach parts
    rw [testsEach_eq_flatMap] at hpart hparts
    rw [conjunctsEach, testsEach_eq_flatMap, List.flatMap_append, hpart, hparts, testsEach]

end

/-- Putting conditions into the order of evaluation drops none and adds none. -/
theorem inOrder_perm (parts : List Condition) : (inOrder parts).Perm parts := by
  -- two partitions one after the other, either of which only moves its parts
  simp only [inOrder, List.partition_eq_filter_filter, List.append_assoc]
  refine List.Perm.trans (List.Perm.append_left _ ?_) (List.filter_append_perm _ _)
  exact List.perm_append_comm.trans (List.filter_append_perm _ _)

end Condition

/-! ## §4 Clauses -/

namespace Clause

theorem all_conjuncts (value : Test → Bool) (clause : Clause) :
    (Condition.evalEach value clause.conjuncts).all id = clause.eval value := by
  cases clause with
  | unfiltered => rfl
  | conjunction tests =>
    simp [conjuncts, Condition.evalEach_eq_map, eval, Condition.eval, Function.comp_def]
  | condition c => exact Condition.all_conjuncts value c

theorem testsEach_conjuncts (clause : Clause) :
    Condition.testsEach clause.conjuncts = clause.tests := by
  cases clause with
  | unfiltered => rfl
  | conjunction tests => exact Condition.testsEach_map_test tests
  | condition c => exact Condition.testsEach_conjuncts c

/-- Where every test of a clause has an answer on a row, the order in which they are asked does
    not show. -/
theorem holds_eq_eval {row : Row} {value : Test → Bool} {clause : Clause}
    (h : ∀ t ∈ clause.tests, t.holds row = .ok (value t)) :
    clause.holds row = .ok (clause.eval value) := by
  -- whatever the order, the same conjuncts are asked, and all of them answer
  have hperm := Condition.inOrder_perm clause.conjuncts
  have htests : ∀ t ∈ Condition.testsEach (Condition.inOrder clause.conjuncts),
      t.holds row = .ok (value t) := by
    intro t ht
    rw [Condition.testsEach_eq_flatMap, (hperm.flatMap_right _).mem_iff,
      ← Condition.testsEach_eq_flatMap, testsEach_conjuncts] at ht
    exact h t ht
  rw [holds, Condition.allHold_eq_all _ htests, ← all_conjuncts, Condition.evalEach_eq_map,
    Condition.evalEach_eq_map, (hperm.map _).all_eq]

/-- If every row has an answer, those with the answer yes are kept. -/
theorem keep_eq_filter {clause : Clause} {wanted : Row → Bool} {rows : List Row}
    (h : ∀ row ∈ rows, clause.holds row = .ok (wanted row)) :
    clause.keep rows = .ok (rows.filter wanted) := by
  induction rows with
  | nil => rfl
  | cons row rows ih =>
    have hrow := h row List.mem_cons_self
    have hrows := ih fun other hmem => h other (List.mem_cons_of_mem row hmem)
    rw [keep, hrow, hrows, List.filter_cons]
    rfl

end Clause

/-! ## §5 Conditions of filters -/

namespace Condition

theorem eval_join (value : Test → Bool) (j : Junction) (parts : List Condition) :
    (join j parts).eval value = j.combine (evalEach value parts) := by
  rcases parts with _ | ⟨part, _ | ⟨next, parts⟩⟩
  · rfl
  · cases j <;> simp [join, evalEach, Junction.combine]
  · rfl

theorem tests_join (j : Junction) (parts : List Condition) :
    (join j parts).tests = testsEach parts := by
  rcases parts with _ | ⟨part, _ | ⟨next, parts⟩⟩
  · rfl
  · simp [join, testsEach]
  · rfl

/-- The interpretation by conditions. -/
def interpretation : Interpretation Criterion Condition :=
  ⟨fun c => .test (Test.ofCriterion .consistent c), join⟩

theorem ofTrees_eq_map (nodes : List (Filtering.Tree Criterion)) :
    ofTrees nodes = nodes.map ofTree := by
  induction nodes with
  | nil => rfl
  | cons node nodes ih => rw [ofTrees, ih, List.map_cons]

theorem ofTree_eq_interpret (t : Filtering.Tree Criterion) :
    ofTree t = t.interpret interpretation := by
  refine Filtering.Tree.eq_interpret ?_ ?_ t
  · intro j children shadowed
    rw [ofTree, ofTrees_eq_map]
    rfl
  · intro j members
    rw [ofTree]
    rfl

/-- The condition of a group means what the group means. -/
theorem eval_ofTree (value : Test → Bool) (t : Filtering.Tree Criterion) :
    (ofTree t).eval value = t.eval fun c => value (.ofCriterion .consistent c) := by
  rw [ofTree_eq_interpret, Filtering.Tree.eval_eq_interpret]
  refine Filtering.Tree.map_interpret (fun _ => rfl) ?_ t
  intro j parts
  rw [← evalEach_eq_map]
  exact eval_join value j parts

/-- The tests of the condition of a group are those of its leaves. -/
theorem tests_ofTree (t : Filtering.Tree Criterion) :
    (ofTree t).tests = t.leaves.map (.ofCriterion .consistent) := by
  rw [ofTree_eq_interpret, List.map_eq_flatMap, Filtering.Tree.flatMap_leaves_eq_interpret]
  refine Filtering.Tree.map_interpret (fun _ => rfl) ?_ t
  intro j parts
  exact (tests_join j parts).trans (testsEach_eq_flatMap parts)

end Condition

namespace Clause

theorem eval_ofRequest_consistent (value : Test → Bool) (r : Filtering.Request) :
    (ofRequest .consistent r).eval value = r.eval fun c => value (.ofCriterion .consistent c) :=
  Condition.eval_ofTree value r.asBranch

theorem tests_ofRequest_consistent (r : Filtering.Request) :
    (ofRequest .consistent r).tests = r.leaves.map (.ofCriterion .consistent) :=
  Condition.tests_ofTree r.asBranch

theorem tests_ofRequest_legacy (r : Filtering.Request) :
    (ofRequest .legacy r).tests = r.ownMembers.map (.ofCriterion .legacy) := by
  cases hmap : r.ownMembers.map (Test.ofCriterion .legacy) <;> simp [ofRequest, hmap, tests]

theorem eval_ofRequest_legacy (value : Test → Bool) (r : Filtering.Request) :
    (ofRequest .legacy r).eval value =
      r.ownMembers.all fun c => value (.ofCriterion .legacy c) := by
  have hall : (r.ownMembers.all fun c => value (.ofCriterion .legacy c)) =
      (r.ownMembers.map (Test.ofCriterion .legacy)).all value := by
    rw [List.all_map]
    rfl
  rw [hall]
  cases hmap : r.ownMembers.map (Test.ofCriterion .legacy) <;> simp [ofRequest, hmap, eval]

end Clause

/-! ## §6 Answers of leaves -/

/-- The answer to a test on a row; without one, no. -/
def Test.answer (row : Row) (t : Test) : Bool :=
  (t.holds row).toOption.getD false

theorem Test.answer_eq {row : Row} {t : Test} {b : Bool} (h : t.holds row = .ok b) :
    t.answer row = b := by
  rw [answer, h]
  rfl

namespace Clause

/-- Where every leaf has an answer, the clause of a filter comes to what the filter comes to with
    these answers. -/
theorem holds_consistent_eq_eval {row : Row} {r : Filtering.Request} {answer : Criterion → Bool}
    (h : ∀ c ∈ r.leaves, (Test.ofCriterion .consistent c).holds row = .ok (answer c)) :
    (ofRequest .consistent r).holds row = .ok (r.eval answer) := by
  -- every test belongs to a leaf, so each has an answer
  have htests : ∀ t ∈ (ofRequest .consistent r).tests, t.holds row = .ok (t.answer row) := by
    intro t ht
    rw [tests_ofRequest_consistent] at ht
    obtain ⟨c, hc, rfl⟩ := List.mem_map.mp ht
    rw [Test.answer_eq (h c hc), h c hc]
  have hleaves : r.eval (fun c => (Test.ofCriterion .consistent c).answer row) = r.eval answer :=
    Filtering.Forest.eval_congr fun c hc => Test.answer_eq (h c hc)
  rw [holds_eq_eval htests, eval_ofRequest_consistent, hleaves]

/-- The same of the members that the groups of the first level carry, all of which must hold. -/
theorem holds_legacy_eq_all {row : Row} {r : Filtering.Request} {answer : Criterion → Bool}
    (h : ∀ c ∈ r.ownMembers, (Test.ofCriterion .legacy c).holds row = .ok (answer c)) :
    (ofRequest .legacy r).holds row = .ok (r.ownMembers.all answer) := by
  -- every test belongs to a member of the request itself
  have htests : ∀ t ∈ (ofRequest .legacy r).tests, t.holds row = .ok (t.answer row) := by
    intro t ht
    rw [tests_ofRequest_legacy] at ht
    obtain ⟨c, hc, rfl⟩ := List.mem_map.mp ht
    rw [Test.answer_eq (h c hc), h c hc]
  have hmembers : (r.ownMembers.all fun c => (Test.ofCriterion .legacy c).answer row) =
      r.ownMembers.all answer := by
    rw [Bool.eq_iff_iff, List.all_eq_true, List.all_eq_true]
    exact forall₂_congr fun c hc => by rw [Test.answer_eq (h c hc)]
  rw [holds_eq_eval htests, eval_ofRequest_legacy, hmembers]

end Clause

end IncidentTracker.Relational
