import IncidentTracker.Proofs.Filtering.Dual
import IncidentTracker.Proofs.Filtering.Evaluation
import IncidentTracker.Proofs.Relational.Answers
import Mathlib.Data.List.Nodup

/-!
# Lists That Split a Store

A list with a filter and one with its dual split the incidents of a store between them: none is in
both and none is missing. In memory this is how evaluation treats dual filters. In a database the
clause of a filter is tested, whose equality is not that of the evaluation; but what a list consists
of are the rows with the answer yes, and the denial of a test has the opposite answer on every row, be
there an attribute or not. So nothing is asked of the texts here.

Main statement: `lists_split`.
-/

namespace IncidentTracker

open Filtering (Criterion Request)

/-! ## §1 Splitting a list -/

/-- Two lists split a third: they have nothing in common, and together they make it up. -/
structure Splits {α : Type} (first second all : List α) : Prop where
  disjoint : first.Disjoint second
  perm : (first ++ second).Perm all

theorem splits_filter {α : Type} (wanted : α → Bool) (all : List α) :
    Splits (all.filter wanted) (all.filter fun a => !wanted a) all where
  disjoint := by
    intro a hfirst hsecond
    have hwanted := (List.mem_filter.mp hfirst).2
    have hunwanted := (List.mem_filter.mp hsecond).2
    simp [hwanted] at hunwanted
  perm := List.filter_append_perm wanted all

/-! ## §2 In memory -/

theorem MemoryStore.splits_list {r : Request} (h : r.IsSearchFree) (s : MemoryStore) :
    Splits (s.list (some r)) (s.list (some r.dual)) (s.list none) := by
  -- the dual takes exactly what the request leaves
  have hdual : s.list (some r.dual) = s.incidents.filter fun i => !r.accepts i := by
    rw [s.list_eq_filter]
    exact List.filter_congr fun i _ => Filtering.Forest.accepts_dual h i
  have hall : s.list none = s.incidents := by
    rw [s.list_eq_filter]
    exact List.filter_eq_self.mpr fun _ _ => rfl
  rw [hdual, hall, s.list_eq_filter]
  exact splits_filter (fun i => r.accepts i) s.incidents

namespace Relational

/-! ## §3 Answers of tests -/

/-- The dual test reads the same cell and the same argument, and answers the opposite. -/
theorem Test.answer_dual {c : Criterion} (h : c.comparison ≠ .contains) (row : Row) :
    (Test.ofCriterion .consistent c.dual).answer row =
      !(Test.ofCriterion .consistent c).answer row := by
  obtain ⟨property, comparison, value⟩ := c
  cases comparison with
  | equals => rfl
  | notEquals => exact (Bool.not_not _).symm
  | contains => exact absurd rfl h

/-- Whether a row passes a filter without searches. -/
def Row.passes (r : Request) (row : Row) : Bool :=
  r.eval fun c => (Test.ofCriterion .consistent c).answer row

theorem Row.passes_dual {r : Request} (h : r.IsSearchFree) (row : Row) :
    row.passes r.dual = !row.passes r :=
  Filtering.Forest.eval_dual fun c hc => Test.answer_dual (h c hc) row

/-! ## §4 In a database -/

/-- What is selected, if anything is, are the incidents of the rows that pass. -/
theorem Database.eq_map_passes {db : Database} (hdb : db.WellFormed) {r : Request}
    {selected : List Incident} (h : db.select (.ofRequest .consistent r) = .ok selected) :
    selected = (db.rows.filter (Row.passes r)).map Row.toIncident := by
  have hpasses (row : Row) :
      (Clause.ofRequest .consistent r).eval (Test.answer row) = row.passes r :=
    Clause.eval_ofRequest_consistent (Test.answer row) r
  rw [eq_map_of_select hdb h, funext hpasses]

/-- Rows that are split between them make incidents that are, for no two rows make the same one. -/
theorem Database.splits_stored {db : Database} (hdb : db.WellFormed) (wanted : Row → Bool) :
    Splits ((db.rows.filter wanted).map Row.toIncident)
      ((db.rows.filter fun row => !wanted row).map Row.toIncident) db.stored := by
  obtain ⟨hdisjoint, hperm⟩ := splits_filter wanted db.rows
  refine ⟨?_, ?_⟩
  · -- the identifiers ascend strictly, so no incident is stored twice
    have hnodup : db.stored.Nodup := by
      refine (stored_pairwise hdb).imp fun hlt heq => ?_
      rw [heq] at hlt
      exact Int.lt_irrefl _ hlt
    have happend := (hperm.map Row.toIncident).nodup_iff.mpr hnodup
    rw [List.map_append] at happend
    exact List.disjoint_of_nodup_append happend
  · rw [← List.map_append]
    exact hperm.map Row.toIncident

theorem Store.isOpen_of_list {s : Store} {filter : Option Request} {listed : List Incident}
    (h : (s.list filter).1 = .ok listed) : s.isOpen = true := by
  cases hopen : s.isOpen with
  | true => rfl
  | false =>
    rw [list, ask, hopen] at h
    cases h

/-- Where both lists succeed, they split what is listed without a filter. -/
theorem Store.splits_list {s : Store} (hs : s.Reachable) (hsemantics : s.semantics = .consistent)
    {r : Request} (h : r.IsSearchFree) {listed others : List Incident}
    (hlisted : (s.list (some r)).1 = .ok listed)
    (hothers : (s.list (some r.dual)).1 = .ok others) :
    ∃ all, (s.list none).1 = .ok all ∧ Splits listed others all := by
  have hready := hs.ready
  have hdb := hready.wellFormed
  have hopen := isOpen_of_list hlisted
  rw [list_eq_select hready hopen, hsemantics] at hlisted hothers
  -- each of the two lists is made of the rows that pass its filter
  have hfirst := Database.eq_map_passes hdb hlisted
  have hsecond := Database.eq_map_passes hdb hothers
  rw [funext (Row.passes_dual h)] at hsecond
  refine ⟨s.database.stored, ?_, ?_⟩
  · rw [list_eq_select hready hopen]
    exact Database.select_unfiltered hdb
  · rw [hfirst, hsecond]
    exact Database.splits_stored hdb (Row.passes r)

end Relational

/-! ## §5 Dual filters -/

/-- The dual of a filter without searches accepts what the filter does not, and where lists with
    both succeed, they split the list of all incidents: in memory always, and in every database
    under the consistent semantics, whatever texts are stored and asked for. -/
theorem lists_split {r : Request} (h : r.IsSearchFree) :
    (∀ (ε : Type) [HasProperties ε] (entity : ε), r.dual.accepts entity = !r.accepts entity) ∧
      (∀ s : MemoryStore, Splits (s.list (some r)) (s.list (some r.dual)) (s.list none)) ∧
      ∀ s : Relational.Store, s.Reachable → s.semantics = .consistent →
        ∀ listed others, (s.list (some r)).1 = .ok listed →
          (s.list (some r.dual)).1 = .ok others →
          ∃ all, (s.list none).1 = .ok all ∧ Splits listed others all := by
  refine ⟨?_, ?_, ?_⟩
  · intro ε _ entity
    exact Filtering.Forest.accepts_dual h entity
  · intro s
    exact s.splits_list h
  · -- the database answers as the evaluation does, so its lists split as well
    intro s hs hsemantics listed others hlisted hothers
    exact Relational.Store.splits_list hs hsemantics h hlisted hothers

theorem lists_split_empty_groups :
    let news : List NewIncident :=
      [⟨"Bug", "a\x00b", "", "Größe", .ofList [("Team", "K\x00Ä")]⟩,
        ⟨"Task", "a\x00c", "", "", .empty⟩]
    let r : Request :=
      ⟨.or,
        [.branch .and
          [.group .and [⟨"TEAM", .equals, "k\x00Ä"⟩, ⟨"state", .notEquals, "GRÖSSE"⟩], .group .and []]
          [⟨"type", .contains, "u"⟩],
          .group .or []]⟩
    let s := ((Relational.Store.fresh .consistent true 0).addEach news).2
    r.IsSearchFree ∧
      ∃ all, (s.list none).1 = .ok all ∧
        Splits [(⟨"Bug", "a\x00b", "", "Größe", .ofList [("Team", "K\x00Ä")]⟩ : NewIncident).withId 1]
          [(⟨"Task", "a\x00c", "", "", .empty⟩ : NewIncident).withId 2] all := by
  intro news r s
  have hr : r.IsSearchFree := by decide
  have hs : s.Reachable := (Relational.Store.Reachable.begun .consistent true 0).addEach news
  exact ⟨hr, (lists_split hr).2.2 s hs rfl _ _ (by decide +kernel) (by decide +kernel)⟩

end IncidentTracker
