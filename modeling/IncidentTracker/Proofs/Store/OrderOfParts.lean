import IncidentTracker.Proofs.Relational.Answers
import IncidentTracker.Proofs.WideColumn.Verdict

/-!
# The Order of Parts

In what order the parts of groups are written does not matter, at whatever depth they are put into
another one. Evaluation and the kind of a scan are interpretations that do not look at the order. The
order of the tests in a clause does show, in whether a test is asked that has no answer; but where two
clauses both get through, they select what their truth values say.

Main statement: `answers_eq_of_shuffled`.
-/

namespace IncidentTracker

open Filtering (Forest Request)

/-- Under both semantics the clauses of shuffled filters have the same truth values. -/
theorem Relational.Clause.eval_eq_of_shuffled {r r' : Request} (h : r.Shuffled r')
    (s : Filtering.Semantics) (value : Relational.Test → Bool) :
    (ofRequest s r).eval value = (ofRequest s r').eval value := by
  cases s with
  | legacy =>
    rw [eval_ofRequest_legacy, eval_ofRequest_legacy]
    exact h.ownMembers_perm.all_eq
  | consistent =>
    rw [eval_ofRequest_consistent, eval_ofRequest_consistent]
    exact h.eval_eq _

/-- Filters that differ in the order of parts only accept the same entities, become scans of the same
    kind, and list the same incidents in the same order wherever both list any, under both semantics
    and in every store that the program can lead to. -/
theorem answers_eq_of_shuffled {r r' : Request} (h : r.Shuffled r') :
    (∀ (ε : Type) [HasProperties ε] (entity : ε), r.accepts entity = r'.accepts entity) ∧
      (WideColumn.Scan.ofRequest .consistent r).kind =
        (WideColumn.Scan.ofRequest .consistent r').kind ∧
      ∀ s : Relational.Store, s.Attainable → ∀ listed listed',
        (s.list (some r)).1 = .ok listed → (s.list (some r')).1 = .ok listed' → listed = listed' := by
  refine ⟨?_, ?_, ?_⟩
  · intro ε _ entity
    exact h.eval_eq _
  · -- the kind of a scan is an interpretation that does not ask for the order
    rw [WideColumn.Scan.kind_ofRequest, WideColumn.Scan.kind_ofRequest,
      h.interpret_eq WideColumn.verdicts_ignoresOrder]
  · -- two lists that succeed are filters of one list by clauses of one value
    intro s hs listed listed' hlisted hlisted'
    exact Relational.Store.list_eq_of_eval_eq hs
      (Relational.Clause.eval_eq_of_shuffled h s.semantics) hlisted hlisted'

/-- Groups, members and shadowed members change places on three levels. -/
theorem answers_eq_of_shuffled_nested :
    let bug : Filtering.Criterion := ⟨"type", .equals, "Bug"⟩
    let team : Filtering.Criterion := ⟨"Team", .equals, "core"⟩
    let isOpen : Filtering.Criterion := ⟨"state", .notEquals, "Closed"⟩
    let r : Request := ⟨.or, [.branch .and [.group .or [bug, team], .group .and [isOpen]] [team, bug],
      .group .or []]⟩
    let r' : Request := ⟨.or, [.group .or [],
      .branch .and [.group .and [isOpen], .group .or [team, bug]] [bug, team]]⟩
    let news : List NewIncident :=
      [{ kind := "Bug", state := "Closed" }, { attributes := .ofList [("team", "Core")] }]
    let s := ((Relational.Store.fresh .consistent true 0).addEach news).2
    let found := ({ attributes := .ofList [("team", "Core")] } : NewIncident).withId 2
    r.Shuffled r' ∧
      (∀ (ε : Type) [HasProperties ε] (entity : ε), r.accepts entity = r'.accepts entity) ∧
      (WideColumn.Scan.ofRequest .consistent r).kind =
        (WideColumn.Scan.ofRequest .consistent r').kind ∧
      (s.list (some r)).1 = .ok [found] ∧ (s.list (some r')).1 = .ok [found] := by
  intro bug team isOpen r r' news s found
  have hbranch : Filtering.Tree.Shuffled
      (.branch .and [.group .or [bug, team], .group .and [isOpen]] [team, bug])
      (.branch .and [.group .and [isOpen], .group .or [team, bug]] [bug, team]) :=
    .branch .and (.cons (.group .or (.swap team bug [])) (.cons (.group .and (.refl _)) .nil))
      (.swap _ _ []) (.swap bug team [])
  have hshuffled : r.Shuffled r' :=
    .branch .or (.cons hbranch (.cons (.group .or .nil) .nil)) (.swap _ _ []) .nil
  have hs : s.Reachable := (Relational.Store.Reachable.begun .consistent true 0).addEach news
  have hlisted : (s.list (some r)).1 = .ok [found] := by decide +kernel
  -- the second list succeeds as well; that it is the same one is the theorem
  obtain ⟨listed', hlisted'⟩ : ∃ listed', (s.list (some r')).1 = .ok listed' :=
    ⟨[found], by decide +kernel⟩
  obtain ⟨haccepts, hkind, hlists⟩ := answers_eq_of_shuffled hshuffled
  have hsame : [found] = listed' := hlists s hs.attainable _ _ hlisted hlisted'
  exact ⟨hshuffled, haccepts, hkind, hlisted, hsame ▸ hlisted'⟩

end IncidentTracker
