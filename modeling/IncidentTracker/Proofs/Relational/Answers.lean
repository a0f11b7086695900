import IncidentTracker.Proofs.Relational.WholeIncidents

/-!
# Answers of Queries That Succeed

A query may fail on a row, and whether it does depends on the order in which its tests are asked. But
if it succeeds, its answer is the truth value of the clause, with a test that has no answer counted as
failed: such a test has not been asked. So clauses with the same truth values select the same
incidents wherever both select any, however they are written.

Main statements: `Clause.eval_eq_of_holds` and `Store.list_eq_of_eval_eq`.
-/

namespace IncidentTracker.Relational

/-! ## §1 Conditions -/

namespace Condition

mutual

/-- An answer to a condition is the one that the answers of its tests give. -/
theorem eval_eq_of_holds {row : Row} {b : Bool} :
    ∀ {c : Condition}, c.holds row = .ok b → c.eval (Test.answer row) = b
  | .test _, h => Test.answer_eq h
  | .constant _, h => by
    cases h
    rfl
  | .group .and _, h => all_eq_of_allHold h
  | .group .or _, h => any_eq_of_anyHolds h

theorem all_eq_of_allHold {row : Row} {b : Bool} :
    ∀ {parts : List Condition}, allHold row parts = .ok b →
      (evalEach (Test.answer row) parts).all id = b
  | [], h => by
    cases h
    rfl
  | part :: parts, h => by
    rw [allHold] at h
    obtain ⟨first, hfirst, h⟩ := bind_eq_ok_iff.mp h
    rw [evalEach, List.all_cons, eval_eq_of_holds hfirst]
    -- a part that does not hold decides, and those behind it have not been asked
    cases first with
    | false =>
      cases h
      rfl
    | true => exact all_eq_of_allHold h

theorem any_eq_of_anyHolds {row : Row} {b : Bool} :
    ∀ {parts : List Condition}, anyHolds row parts = .ok b →
      (evalEach (Test.answer row) parts).any id = b
  | [], h => by
    cases h
    rfl
  | part :: parts, h => by
    rw [anyHolds] at h
    obtain ⟨first, hfirst, h⟩ := bind_eq_ok_iff.mp h
    rw [evalEach, List.any_cons, eval_eq_of_holds hfirst]
    -- here a part that holds decides
    cases first with
    | false => exact any_eq_of_anyHolds h
    | true =>
      cases h
      rfl

end

end Condition

/-! ## §2 Clauses -/

namespace Clause

/-- An answer to a clause is the one that the answers of its tests give, in whatever order they were
    asked. -/
theorem eval_eq_of_holds {row : Row} {clause : Clause} {b : Bool} (h : clause.holds row = .ok b) :
    clause.eval (Test.answer row) = b := by
  have hperm := Condition.inOrder_perm clause.conjuncts
  rw [← Condition.all_eq_of_allHold h, ← all_conjuncts, Condition.evalEach_eq_map,
    Condition.evalEach_eq_map, (hperm.map _).all_eq]

/-- The rows that are kept are those with the answer yes. -/
theorem eq_filter_of_keep {clause : Clause} {rows kept : List Row} (h : clause.keep rows = .ok kept) :
    kept = rows.filter fun row => clause.eval (Test.answer row) := by
  induction rows generalizing kept with
  | nil =>
    cases h
    rfl
  | cons row rows ih =>
    -- the row has an answer, the rows behind it have theirs
    obtain ⟨wanted, hwanted, h⟩ := bind_eq_ok_iff.mp h
    obtain ⟨others, hothers, h⟩ := bind_eq_ok_iff.mp h
    cases h
    rw [List.filter_cons, eval_eq_of_holds hwanted, ih hothers]

end Clause

/-! ## §3 Lists -/

/-- What is selected, if anything is, are the incidents of the rows with the answer yes. -/
theorem Database.eq_map_of_select {db : Database} (hdb : db.WellFormed) {clause : Clause}
    {selected : List Incident} (h : db.select clause = .ok selected) :
    selected = (db.rows.filter fun row => clause.eval (Test.answer row)).map Row.toIncident := by
  obtain ⟨_, -, h⟩ := bind_eq_ok_iff.mp h
  obtain ⟨kept, hkept, h⟩ := bind_eq_ok_iff.mp h
  cases h
  rw [Clause.eq_filter_of_keep hkept]
  exact incidentsOf_eq_map ((rows_pairwise hdb).filter _)

/-- Two lists that both succeed are the same if the clauses of their filters have the same truth
    values, whatever the answers of tests are. -/
theorem Store.list_eq_of_eval_eq {s : Store} (hs : s.Attainable) {r r' : Filtering.Request}
    (heval : ∀ value : Test → Bool,
      (Clause.ofRequest s.semantics r).eval value = (Clause.ofRequest s.semantics r').eval value)
    {listed listed' : List Incident} (h : (s.list (some r)).1 = .ok listed)
    (h' : (s.list (some r')).1 = .ok listed') : listed = listed' := by
  have hdb := hs.inOrder.wellFormed
  obtain ⟨-, -, hselect⟩ := ask_eq_ok_iff.mp h
  obtain ⟨-, -, hselect'⟩ := ask_eq_ok_iff.mp h'
  rw [Database.eq_map_of_select hdb hselect, Database.eq_map_of_select hdb hselect']
  simp only [Clause.ofFilter_some, heval]

end IncidentTracker.Relational
