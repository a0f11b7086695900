import IncidentTracker.Proofs.Filtering.Accepted
import IncidentTracker.Proofs.Relational.Answerable
import IncidentTracker.Proofs.Relational.ClauseText
import IncidentTracker.Proofs.WideColumn.Placeholders
import Mathlib.Data.List.Perm.Subperm

/-!
# The Size of Queries

What a filter parameter may hold is limited by a count of its criteria, and each store consults some
of them: the legacy semantics what the groups of the first level carry, the consistent one the leaves
of the tree. Both are among the criteria that are counted, wherever these stand, and a query has one
fragment, at most two arguments, one value and one name for each that is consulted, besides a name
for the map of free-form attributes.

Main statement: `queries_of_accepted`.
-/

namespace IncidentTracker

open Filtering (Criterion Forest Request Semantics)

/-- A dictionary whose names are all among the given ones has no more entries than there are of
    them, since no name stands in it twice. -/
theorem Dictionary.length_entries_le {β : Type} {d : Dictionary β} {names : List String}
    (h : ∀ key ∈ d.keys, key ∈ names) : d.entries.length ≤ names.length := by
  have hascending : d.keys.Pairwise (· < ·) := List.pairwise_map.mpr d.ascending
  have hnodup : d.keys.Nodup := hascending.imp String.ne_of_lt
  have hlength : d.keys.length ≤ names.length := (List.subperm_of_subset hnodup h).length_le
  rwa [keys, List.length_map] at hlength

/-! ## §1 Criteria that are consulted -/

/-- The members of a filter that decide what a store selects by it. -/
def Filtering.Forest.consulted {α : Type} (s : Semantics) (f : Forest α) : List α :=
  match s with
  | .legacy => f.ownMembers
  | .consistent => f.leaves

theorem Filtering.Forest.consulted_sublist {α : Type} (s : Semantics) (f : Forest α) :
    (f.consulted s).Sublist f.everyMember := by
  cases s with
  | legacy => exact f.ownMembers_sublist_everyMember
  | consistent => exact f.leaves_sublist_everyMember

/-! ## §2 Clauses -/

namespace Relational.Clause

/-- What a clause says is made of a fragment for each criterion that is consulted, in their order;
    without any under the legacy semantics there is no clause. -/
theorem exists_says (s : Semantics) (r : Request) :
    (ofRequest s r).text = "" ∨
      ∃ φ, (ofRequest s r).Says s φ ∧ φ.leaves = (r.consulted s).zipIdx := by
  -- under `.legacy` the own members alone are consulted, under `.consistent` all leaves
  cases s with
  | legacy =>
    by_cases h : r.ownMembers = []
    · left
      rw [ofRequest, h, List.map_nil]
      rfl
    · exact .inr ⟨_, says_legacy h, Formula.leaves_ofTree _⟩
  | consistent =>
    refine .inr ⟨_, says_consistent r, ?_⟩
    rw [Formula.leaves_ofForest, Filtering.Forest.leaves_number]
    rfl

theorem length_tests_ofRequest (s : Semantics) (r : Request) :
    (ofRequest s r).tests.length = (r.consulted s).length := by
  cases s with
  | legacy => rw [tests_ofRequest_legacy, List.length_map, Forest.consulted]
  | consistent => rw [tests_ofRequest_consistent, List.length_map, Forest.consulted]

end Relational.Clause

/-! ## §3 Scans -/

namespace WideColumn

theorem rendered_sublist (s : Semantics) (r : Request) :
    (rendered s r).Sublist (r.consulted s) := by
  cases s with
  | legacy => exact List.Sublist.refl _
  | consistent => exact Folded.members_ofForest_sublist r

/-- The number of a criterion is below the number of all of them. -/
private theorem token_mem {criteria : List Criterion} {a : Criterion × Nat} (token : Nat → String)
    (h : a ∈ criteria.zipIdx) : token a.2 ∈ (List.range criteria.length).map token := by
  have hlt : a.2 < criteria.length := by simpa using (List.mem_zipIdx h).2.1
  exact List.mem_map_of_mem (List.mem_range.mpr hlt)

/-- An expression has a value for each criterion that it is written with, and a name for each besides
    that of the map of free-form attributes. -/
theorem Scan.length_entries_le {s : Semantics} {r : Request} {e : Expression}
    (h : Scan.ofRequest s r = .filtered e) :
    e.values.entries.length ≤ (r.consulted s).length ∧
      e.names.entries.length ≤ (r.consulted s).length + 1 := by
  obtain ⟨-, hnames, hvalues, -⟩ := Scan.exists_of_ofRequest h
  have hwritten := (rendered_sublist s r).length_le
  -- one value and one name for each leaf that is rendered, and the name of the attributes
  constructor
  · have hkeys : ∀ key ∈ e.values.keys,
        key ∈ (List.range (rendered s r).length).map valuePlaceholder := by
      intro key hkey
      rw [hvalues, mem_keys_valuesFrom] at hkey
      obtain ⟨a, ha, rfl⟩ := hkey
      exact token_mem valuePlaceholder ha
    have hlength := Dictionary.length_entries_le hkeys
    rw [List.length_map, List.length_range] at hlength
    exact Nat.le_trans hlength hwritten
  · have hkeys : ∀ key ∈ e.names.keys,
        key ∈ attributesPlaceholder :: (List.range (rendered s r).length).map namePlaceholder := by
      intro key hkey
      rw [hnames, mem_keys_namesFrom] at hkey
      rcases hkey with ⟨a, ha, rfl⟩ | ⟨rfl, -⟩
      · exact List.mem_cons_of_mem _ (token_mem namePlaceholder ha)
      · exact List.mem_cons_self
    have hlength := Dictionary.length_entries_le hkeys
    rw [List.length_cons, List.length_map, List.length_range] at hlength
    omega

end WideColumn

/-! ## §4 Accepted filters -/

/-- What is known of the queries for a filter that was accepted. No criterion of it escapes the count,
    in whatever group it stands, shadowed or not; what each semantics consults is part of what is
    counted, and each part of a query is bounded by it. -/
theorem queries_of_accepted {text : String} {r : Request}
    (h : (Filtering.parseParam (some text)).result = .ok (some r)) (s : Semantics) :
    r.depth ≤ 16 ∧ r.everyMember.length = r.size ∧ r.size ≤ 100 ∧
      (r.consulted s).Sublist r.everyMember ∧
      ((Relational.Clause.ofRequest s r).text = "" ∨
        ∃ φ, (Relational.Clause.ofRequest s r).Says s φ ∧ φ.leaves = (r.consulted s).zipIdx ∧
          φ.leaves.length ≤ 100) ∧
      (Relational.Clause.ofRequest s r).text.toList.count '?' =
        (Relational.Clause.ofRequest s r).args.length ∧
      (Relational.Clause.ofRequest s r).args.length ≤ 200 ∧
      ∀ e, WideColumn.Scan.ofRequest s r = .filtered e →
        e.values.entries.length ≤ 100 ∧ e.names.entries.length ≤ 101 := by
  obtain ⟨hdepth, hsize⟩ := Filtering.parseParam_eq_ok h
  rw [Filtering.maxDepth] at hdepth
  rw [Filtering.maxCriteria] at hsize
  -- the leaves that are consulted are among the members, which are counted
  have hconsulted : (r.consulted s).length ≤ 100 := by
    have hlength := (r.consulted_sublist s).length_le
    rw [r.length_everyMember] at hlength
    exact Nat.le_trans hlength hsize
  refine ⟨hdepth, r.length_everyMember, hsize, r.consulted_sublist s, ?_,
    Relational.Clause.count_text _, ?_, ?_⟩
  · refine (Relational.Clause.exists_says s r).imp_right ?_
    rintro ⟨φ, hsays, hleaves⟩
    exact ⟨φ, hsays, hleaves, by rwa [hleaves, List.length_zipIdx]⟩
  · -- a test has two arguments at most
    have hargs := Relational.Clause.length_args_le (Relational.Clause.ofRequest s r)
    rw [Relational.Clause.length_tests_ofRequest] at hargs
    omega
  · intro e he
    obtain ⟨hvalues, hnames⟩ := WideColumn.Scan.length_entries_le he
    exact ⟨by omega, by omega⟩

/-- A criterion next to children is counted as well as those below, and each semantics consults one
    of the two. -/
theorem queries_of_accepted_shadowed :
    let below : Criterion := ⟨"Severity", .contains, "50%"⟩
    let besides : Criterion := ⟨"state", .equals, "open"⟩
    let r : Request := ⟨.or, [.branch .and [.group .or [], .group .and [below]] [besides]]⟩
    (Filtering.parseParam (some (Forest.toJson r).compact)).result = .ok (some r) ∧
      r.everyMember = [besides, below] ∧
      (r.consulted .legacy = [besides] ∧ r.consulted .consistent = [below]) ∧
      r.everyMember.length = r.size ∧ r.depth ≤ 16 ∧ r.size ≤ 100 ∧
      (Relational.Clause.ofRequest .legacy r).args.length ≤ 200 ∧
      (Relational.Clause.ofRequest .consistent r).args.length ≤ 200 := by
  intro below besides r
  have htext : (Filtering.parseParam (some (Forest.toJson r).compact)).result = .ok (some r) :=
    Filtering.parseParam_compact (by decide +kernel) (by decide) (by decide)
  -- one request, whose group hides a member below from the one semantics and one besides from the
  -- other
  obtain ⟨hdepth, hcounted, hsize, -, -, -, hlegacy, -⟩ := queries_of_accepted htext .legacy
  obtain ⟨-, -, -, -, -, -, hconsistent, -⟩ := queries_of_accepted htext .consistent
  exact ⟨htext, rfl, ⟨rfl, rfl⟩, hcounted, hdepth, hsize, hlegacy, hconsistent⟩

end IncidentTracker
