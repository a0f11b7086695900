import IncidentTracker.Proofs.Relational.Agreement
import IncidentTracker.Proofs.Relational.Limits
import IncidentTracker.Proofs.Relational.Truth

/-!
# Listing

Under the consistent semantics, a list with a filter is what evaluation of the filter leaves of the
incidents that are stored. The clause of the filter is put together, checked against the limits of
the database, asked of every row in an order of its own, and the rows that pass are joined with
their attributes and folded to incidents; nothing of that shows as long as all texts are plain.

Main statements: `Store.list_eq_filter`, and for runs of additions
`Store.list_addEach_eq_filter`.
-/

namespace IncidentTracker.Relational

open Filtering (Criterion Request)

/-! ## §1 Rows -/

namespace Database

/-- Where all that is stored is plain, so is every row. -/
theorem isPlain_of_mem_rows {db : Database} (h : db.WellFormed)
    (hplain : ∀ i ∈ db.stored, i.payload.IsPlain ∧ i.attributes.AreDistinct) {row : Row}
    (hrow : row ∈ db.rows) : row.IsPlain :=
  have ⟨hpayload, hdistinct⟩ := hplain row.toIncident (List.mem_map_of_mem hrow)
  ⟨hpayload, hdistinct, entries_toIncident h hrow⟩

/-- The rows that pass a test of their incidents make the incidents that pass it. -/
theorem incidentsOf_filter_rows {db : Database} (h : db.WellFormed) (wanted : Incident → Bool) :
    incidentsOf (db.rows.filter fun row => wanted row.toIncident) = db.stored.filter wanted := by
  have hpairwise := (rows_pairwise h).filter fun row => wanted row.toIncident
  rw [incidentsOf_eq_map hpairwise, stored, List.filter_map]
  rfl

theorem find?_eq {db : Database} (h : db.WellFormed) (id : Int) :
    db.find? id = db.stored.find? fun i => i.id == id := by
  -- folding the rows with an identifier gives the incidents with it, in the same order
  have hrows := incidentsOf_filter_rows h fun i => i.id == id
  rw [find?, ← List.head?_filter, ← hrows]
  rfl

end Database

/-- On a plain row the clause of a plain filter comes to what the filter comes to on the incident of
    the row. -/
theorem Clause.holds_ofRequest {row : Row} (hrow : row.IsPlain) {r : Request}
    (hr : ∀ c ∈ r.leaves, c.IsPlain)
    (hpatterns : ∀ c ∈ r.leaves, c.comparison = .contains →
      Text.byteSize (containsPattern c.value).toList ≤ maxPatternBytes) :
    (ofRequest .consistent r).holds row = .ok (r.accepts row.toIncident) := by
  rw [holds_consistent_eq_eval fun c hc => Test.holds_ofCriterion hrow (hr c hc) (hpatterns c hc)]
  rfl

/-! ## §2 Stores -/

namespace Store

/-- A list with a filter that stays within the limits of the database consists of the incidents in
    it that the filter accepts. -/
theorem list_eq_filter {s : Store} (h : s.Usable) (hdb : s.database.WellFormed)
    (hsemantics : s.semantics = .consistent)
    (hplain : ∀ i ∈ s.database.stored, i.payload.IsPlain ∧ i.attributes.AreDistinct) {r : Request}
    (hr : ∀ c ∈ r.leaves, c.IsPlain)
    (hheight : (Clause.ofRequest .consistent r).height ≤ maxHeight)
    (hargs : (Clause.ofRequest .consistent r).args.length ≤ maxArguments)
    (hpatterns : ∀ c ∈ r.leaves, c.comparison = .contains →
      Text.byteSize (containsPattern c.value).toList ≤ maxPatternBytes) :
    (s.list (some r)).1 = .ok (s.database.stored.filter fun i => r.accepts i) := by
  -- the query is accepted, every row has an answer, and the rows kept make the incidents wanted
  have hlimits := Clause.checkLimits_eq_ok_iff.mpr ⟨hheight, hargs⟩
  have hkeep : (Clause.ofRequest .consistent r).keep s.database.rows =
      .ok (s.database.rows.filter fun row => r.accepts row.toIncident) :=
    Clause.keep_eq_filter fun row hrow =>
      Clause.holds_ofRequest (Database.isPlain_of_mem_rows hdb hplain hrow) hr hpatterns
  have hselect : s.database.select (Clause.ofRequest .consistent r) =
      .ok (s.database.stored.filter fun i => r.accepts i) := by
    rw [Database.select, hlimits, hkeep, ← Database.incidentsOf_filter_rows hdb]
    rfl
  simp [list, ask, h.isOpen, h.hasTables, hsemantics, Clause.ofFilter_some, hselect]

/-- A list fails if the query for its filter has more arguments than the database takes. -/
theorem list_ne_ok {s : Store} (h : s.Usable) {r : Request}
    (hargs : maxArguments < (Clause.ofRequest s.semantics r).args.length)
    (incidents : List Incident) : (s.list (some r)).1 ≠ .ok incidents := by
  have hlimits : (Clause.ofRequest s.semantics r).checkLimits ≠ .ok () := fun hok =>
    Nat.not_le.mpr hargs (Clause.checkLimits_eq_ok_iff.mp hok).2
  simp only [list, ask, h.isOpen, h.hasTables, Clause.ofFilter_some, Database.select]
  cases hcheck : (Clause.ofRequest s.semantics r).checkLimits with
  | error e => exact fun heq => nomatch heq
  | ok u => exact absurd hcheck hlimits

/-! ## §3 Runs of additions -/

theorem payload_mem_of_mem_numbered {first : Int} {news : List NewIncident} {i : Incident}
    (h : i ∈ numbered first news) : i.payload ∈ news := by
  induction news generalizing first with
  | nil => cases h
  | cons new news ih =>
    rcases List.mem_cons.mp h with rfl | h
    · exact List.mem_cons_self
    · exact List.mem_cons_of_mem new (ih h)

/-- Whatever plain incidents have been added to a fresh store, each under the next identifier, a
    list with a plain filter consists of those the filter accepts, in ascending order of their
    identifiers. -/
theorem list_addEach_eq_filter (hasLog : Bool) (now : Int) {news : List NewIncident}
    (hnews : ∀ new ∈ news, new.IsPlain ∧ new.attributes.AreDistinct) {r : Request}
    (hr : ∀ c ∈ r.leaves, c.IsPlain)
    (hheight : (Clause.ofRequest .consistent r).height ≤ maxHeight)
    (hargs : (Clause.ofRequest .consistent r).args.length ≤ maxArguments)
    (hpatterns : ∀ c ∈ r.leaves, c.comparison = .contains →
      Text.byteSize (containsPattern c.value).toList ≤ maxPatternBytes) :
    let run := (fresh .consistent hasLog now).addEach news
    let accepted := (numbered 1 news).filter fun i => r.accepts i
    run.1 = (numbered 1 news).map .ok ∧
      (run.2.list (some r)).1 = .ok accepted ∧
      accepted.Pairwise fun a b => a.id < b.id := by
  intro run accepted
  obtain ⟨hanswers, hrun⟩ :=
    addEach_spec (usable_fresh .consistent hasLog now) (wellFormed_fresh .consistent hasLog now) news
  have hstored : run.2.database.stored = numbered 1 news := hrun.stored
  -- what is stored has the payloads that were added, so it is as plain as they are
  have hplain : ∀ i ∈ run.2.database.stored, i.payload.IsPlain ∧ i.attributes.AreDistinct := by
    intro i hi
    rw [hstored] at hi
    exact hnews i.payload (payload_mem_of_mem_numbered hi)
  have hlist := list_eq_filter hrun.usable hrun.wellFormed hrun.semantics hplain hr hheight hargs
    hpatterns
  have hascending := Database.stored_pairwise hrun.wellFormed
  rw [hstored] at hlist hascending
  exact ⟨hanswers, hlist, hascending.filter _⟩

theorem list_addEach_eq_filter_nested :
    let news : List NewIncident :=
      [⟨"Bug", "Crash_1", "ann", "Open", .ofList [("Team", "Core")]⟩,
        ⟨"Task", "", "bob", "Closed", .empty⟩]
    let r : Request :=
      ⟨.or,
        [.branch .and [.group .and [⟨"STATE", .equals, "open"⟩], .group .or []]
          [⟨"type", .equals, "Task"⟩],
          .group .and [⟨"team", .contains, "OR"⟩, ⟨"id", .notEquals, "2"⟩]]⟩
    (((fresh .consistent true 0).addEach news).2.list (some r)).1 =
      .ok [⟨"Bug", 1, "Crash_1", "ann", "Open", .ofList [("Team", "Core")]⟩] :=
  (list_addEach_eq_filter true 0 (by decide) (by decide) (by decide) (by decide) (by decide)).2.1

end Store

/-! ## §4 Too many arguments -/

/-- A filter of groups that are all alike, as many as each has members, and all of them one
    criterion. -/
def square (n : Nat) (c : Criterion) : Request :=
  ⟨.and, List.replicate n (.group .and (List.replicate n c))⟩

/-- The leaves of groups that are all alike. -/
private theorem leavesEach_replicate (node : Filtering.Tree Criterion) (n : Nat) :
    Filtering.Tree.leavesEach (List.replicate n node) =
      (List.replicate n node.leaves).flatten := by
  induction n with
  | zero => rfl
  | succ n ih =>
    rw [List.replicate_succ, List.replicate_succ, Filtering.Tree.leavesEach, ih, List.flatten_cons]

private theorem ofTrees_replicate (node : Filtering.Tree Criterion) (n : Nat) :
    Condition.ofTrees (List.replicate n node) = List.replicate n (Condition.ofTree node) := by
  induction n with
  | zero => rfl
  | succ n ih => rw [List.replicate_succ, List.replicate_succ, Condition.ofTrees, ih]

theorem leaves_square (n : Nat) (c : Criterion) :
    (square n c).leaves = List.replicate (n * n) c := by
  unfold square Filtering.Forest.leaves
  rw [leavesEach_replicate, Filtering.Tree.leaves, List.flatten_replicate_replicate]

/-- A square has quadratically many arguments, -/
theorem length_args_square (n : Nat) (c : Criterion) :
    (Clause.ofRequest .consistent (square n c)).args.length =
      n * n * (Test.ofCriterion .consistent c).args.length := by
  rw [Clause.args, Clause.tests_ofRequest_consistent, leaves_square, List.map_replicate,
    List.length_flatMap, List.map_replicate, List.sum_replicate_nat]

theorem Test.height_le (t : Test) : t.height ≤ 9 := by
  unfold height
  cases t.operator with
  | collatedEqual | collatedDifferent | collatedMember => simp
  | lowerEqual | lowerDifferent | lowerLike =>
    dsimp only
    split <;> simp

/-- but it is nested linearly only. -/
theorem height_square_le (n : Nat) (c : Criterion) :
    (Clause.ofRequest .consistent (square n c)).height ≤ 2 * n + 15 := by
  have htest : ∀ part ∈ (List.replicate n c).map fun c =>
      Condition.test (Test.ofCriterion .consistent c), part.height ≤ 9 := by
    intro part hpart
    obtain ⟨other, -, rfl⟩ := List.mem_map.mp hpart
    exact Test.height_le _
  -- joining the members of a group adds a level for each, and joining the groups as many again
  have hgroup := Condition.height_join_le (by decide) .and htest
  have hgroups : ∀ part ∈ Condition.ofTrees (square n c).nodes, part.height ≤ 9 + n := by
    intro part hpart
    rw [square, ofTrees_replicate] at hpart
    rw [List.eq_of_mem_replicate hpart, Condition.ofTree]
    simpa using hgroup
  have hjoin : (Clause.ofRequest .consistent (square n c)).reading.height ≤ 9 + n + n := by
    have hle := Condition.height_join_le (by simp [constantHeight]; omega) .and hgroups
    rw [square, ofTrees_replicate, List.length_replicate, ← ofTrees_replicate] at hle
    exact hle
  unfold Clause.height joinHeight
  split
  · simp only [lookUpHeight]
    omega
  · omega

namespace Store

/-- Every pattern is short and nothing is nested deeply, and yet the list is refused: the query has
    two arguments for each of the criteria. -/
theorem list_square_refused :
    let r := square 128 ⟨"", .equals, ""⟩
    (∀ new ∈ [({} : NewIncident)], new.IsPlain ∧ new.attributes.AreDistinct) ∧
      (∀ c ∈ r.leaves, c.IsPlain) ∧
      (Clause.ofRequest .consistent r).height ≤ maxHeight ∧
      (∀ c ∈ r.leaves, c.comparison = .contains →
        Text.byteSize (containsPattern c.value).toList ≤ maxPatternBytes) ∧
      ∀ incidents, (((fresh .consistent true 0).addEach [{}]).2.list (some r)).1 ≠ .ok incidents := by
  intro r
  -- the filter is too large to be looked at leaf by leaf, but all its leaves are the same
  have hmem : ∀ c ∈ r.leaves, c = ⟨"", .equals, ""⟩ := by
    intro c hc
    rw [leaves_square] at hc
    exact List.eq_of_mem_replicate hc
  have hrun := (addEach_spec (usable_fresh .consistent true 0) (wellFormed_fresh .consistent true 0)
    [{}]).2
  refine ⟨by decide, ?_, ?_, ?_, ?_⟩
  · intro c hc
    rw [hmem c hc]
    decide
  · exact Nat.le_trans (height_square_le 128 _) (by decide)
  · intro c hc
    rw [hmem c hc]
    exact fun h => nomatch h
  · refine list_ne_ok hrun.usable ?_
    rw [hrun.semantics]
    show maxArguments < (Clause.ofRequest .consistent r).args.length
    rw [length_args_square]
    decide

end Store

end IncidentTracker.Relational
