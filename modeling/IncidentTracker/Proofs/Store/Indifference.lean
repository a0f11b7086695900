import IncidentTracker.Proofs.Relational.Truth
import IncidentTracker.Proofs.WideColumn.Verdict

/-!
# What Makes No Difference

Of a filter, each semantics reads a part of its own and nothing else: legacy queries are made of the
members that the groups of the first level carry, consistent ones and evaluation of everything but the
shadowed members. And where a group has a single part, neither the group nor its junction shows.

The condition of a clause and the folded filter of a scan are interpretations, as the truth value is.
Both keep parts that are alone, the folded filter even where the part is a constant; so two filters
that all such interpretations take for one are evaluated and queried as one.

Main statements: `compiled_eq_of_ownMembers_of_unshadowed` and `compiled_eq_of_rewrapped`.
-/

namespace IncidentTracker

open Filtering (Criterion Forest Interpretation Junction Request)

/-! ## §1 Interpretations -/

namespace Relational

theorem Condition.keepsSingle_interpretation : interpretation.KeepsSingle :=
  fun _ _ => rfl

theorem Clause.ofRequest_eq_interpret (r : Request) :
    ofRequest .consistent r = .condition (r.interpret Condition.interpretation) :=
  congrArg Clause.condition (Condition.ofTree_eq_interpret r.asBranch)

end Relational

/-- Filters that stand for the same under all interpretations that keep single parts are evaluated and
    queried as one. -/
theorem compiled_eq_of_interpret_eq {r r' : Request}
    (h : ∀ {β : Type} (i : Interpretation Criterion β), i.KeepsSingle →
      r.interpret i = r'.interpret i) :
    (∀ (ε : Type) [HasProperties ε] (entity : ε), r.accepts entity = r'.accepts entity) ∧
      Relational.Clause.ofRequest .consistent r = Relational.Clause.ofRequest .consistent r' ∧
      WideColumn.Scan.ofRequest .consistent r = WideColumn.Scan.ofRequest .consistent r' := by
  -- truth, conditions and folded expressions are three interpretations of the tree
  refine ⟨?_, ?_, ?_⟩
  · intro ε _ entity
    rw [Forest.accepts, Forest.accepts, Forest.eval_eq_interpret, Forest.eval_eq_interpret]
    exact h _ (Interpretation.keepsSingle_truth _)
  · rw [Relational.Clause.ofRequest_eq_interpret, Relational.Clause.ofRequest_eq_interpret]
    exact congrArg _ (h _ Relational.Condition.keepsSingle_interpretation)
  · have hfolded := h _ WideColumn.Folded.keepsSingle_interpretation
    rw [← WideColumn.Folded.ofForest_eq_interpret, ← WideColumn.Folded.ofForest_eq_interpret] at hfolded
    simp only [WideColumn.Scan.ofRequest, hfolded]

/-! ## §2 Parts that are not read -/

/-- The legacy clause and scan depend on the members that the groups of the first level carry and on
    nothing else; evaluation and the consistent clause and scan do not depend on the members that
    branches shadow, at whatever depth. Of what is read nothing is left out: the clauses have a test
    for each of these members, and for each leaf, in order. -/
theorem compiled_eq_of_ownMembers_of_unshadowed (r r' : Request) :
    (r.ownMembers = r'.ownMembers →
      Relational.Clause.ofRequest .legacy r = Relational.Clause.ofRequest .legacy r' ∧
        WideColumn.Scan.ofRequest .legacy r = WideColumn.Scan.ofRequest .legacy r') ∧
      (r.unshadowed = r'.unshadowed →
        (∀ (ε : Type) [HasProperties ε] (entity : ε), r.accepts entity = r'.accepts entity) ∧
          Relational.Clause.ofRequest .consistent r = Relational.Clause.ofRequest .consistent r' ∧
          WideColumn.Scan.ofRequest .consistent r = WideColumn.Scan.ofRequest .consistent r') ∧
      (Relational.Clause.ofRequest .legacy r).tests = r.ownMembers.map (.ofCriterion .legacy) ∧
      (Relational.Clause.ofRequest .consistent r).tests = r.leaves.map (.ofCriterion .consistent) := by
  refine ⟨?_, ?_, ?_, ?_⟩
  · intro h
    constructor
    · rw [Relational.Clause.ofRequest, h, ← Relational.Clause.ofRequest]
    · simp only [WideColumn.Scan.ofRequest, h]
  · intro h
    -- no interpretation looks at what is shadowed
    apply compiled_eq_of_interpret_eq
    intro β i _
    rw [← Forest.interpret_unshadowed, h, Forest.interpret_unshadowed]
  · exact Relational.Clause.tests_ofRequest_legacy r
  · exact Relational.Clause.tests_ofRequest_consistent r

theorem compiled_eq_of_ownMembers_of_unshadowed_nested :
    let bug : Criterion := ⟨"type", .equals, "Bug"⟩
    let team : Criterion := ⟨"Team", .contains, "core"⟩
    let isOpen : Criterion := ⟨"state", .notEquals, "Closed"⟩
    let r : Request := ⟨.or, [.branch .or [.branch .and [.group .or [isOpen]] [team]] [bug, team],
      .group .and [isOpen]]⟩
    -- the same members on the first level, and the same filter with other members shadowed
    let flat : Request := ⟨.and, [.group .or [bug], .branch .or [] [team, isOpen]]⟩
    let bare : Request := ⟨.or, [.branch .or [.branch .and [.group .or [isOpen]] []] [isOpen],
      .group .and [isOpen]]⟩
    (r.ownMembers = flat.ownMembers ∧
        Relational.Clause.ofRequest .legacy r = Relational.Clause.ofRequest .legacy flat ∧
        WideColumn.Scan.ofRequest .legacy r = WideColumn.Scan.ofRequest .legacy flat) ∧
      r.unshadowed = bare.unshadowed ∧
      (∀ (ε : Type) [HasProperties ε] (entity : ε), r.accepts entity = bare.accepts entity) ∧
      Relational.Clause.ofRequest .consistent r = Relational.Clause.ofRequest .consistent bare ∧
      WideColumn.Scan.ofRequest .consistent r = WideColumn.Scan.ofRequest .consistent bare := by
  intro bug team isOpen r flat bare
  exact ⟨⟨rfl, (compiled_eq_of_ownMembers_of_unshadowed r flat).1 rfl⟩, rfl,
    (compiled_eq_of_ownMembers_of_unshadowed r bare).2.1 rfl⟩

/-! ## §3 Groups of one part -/

/-- However often and wherever groups are wrapped in branches with one child, or the junctions of
    single parts are changed, no entity is treated differently, and the consistent clause and scan are
    the same with all that is bound. -/
theorem compiled_eq_of_rewrapped {r r' : Request} (h : Relation.EqvGen Forest.Rewrapped r r') :
    (∀ (ε : Type) [HasProperties ε] (entity : ε), r.accepts entity = r'.accepts entity) ∧
      Relational.Clause.ofRequest .consistent r = Relational.Clause.ofRequest .consistent r' ∧
      WideColumn.Scan.ofRequest .consistent r = WideColumn.Scan.ofRequest .consistent r' :=
  compiled_eq_of_interpret_eq fun _ hi => Forest.interpret_eq_of_rewrapped hi h

/-- A group of nothing is wrapped twice beside a group of one, deep in a branch that is alone. -/
theorem compiled_eq_of_rewrapped_twice :
    let bug : Criterion := ⟨"type", .equals, "Bug"⟩
    let r : Request := ⟨.or, [.branch .or [.group .and [], .group .and [bug]] [bug]]⟩
    let wrapped : Request :=
      ⟨.and, [.branch .or [.branch .or [.branch .and [.group .and []] [bug]] [], .group .or [bug]] [bug]]⟩
    Relation.EqvGen Forest.Rewrapped r wrapped ∧
      (∀ (ε : Type) [HasProperties ε] (entity : ε), r.accepts entity = wrapped.accepts entity) ∧
      Relational.Clause.ofRequest .consistent r = Relational.Clause.ofRequest .consistent wrapped ∧
      WideColumn.Scan.ofRequest .consistent r = WideColumn.Scan.ofRequest .consistent wrapped := by
  intro bug r wrapped
  let once : Filtering.Tree Criterion := .branch .and [.group .and []] [bug]
  let twice : Filtering.Tree Criterion := .branch .or [once] []
  let before (node : Filtering.Tree Criterion) : Request :=
    ⟨.or, [.branch .or [node, .group .and [bug]] [bug]]⟩
  -- any node may be wrapped, at the place that `before` leaves open
  have hwrapped (j : Junction) (node : Filtering.Tree Criterion) (shadowed : List Criterion) :
      Forest.Rewrapped (before node) (before (.branch j [node] shadowed)) :=
    Filtering.Tree.Rewrapped.inside .or [] [] []
      (.inside .or [] [_] [bug] (.wrapped j node shadowed))
  have hgroup : Forest.Rewrapped (before twice)
      ⟨.or, [.branch .or [twice, .group .or [bug]] [bug]]⟩ :=
    Filtering.Tree.Rewrapped.inside .or [] [] []
      (.inside .or [twice] [] [bug] (.group .and .or bug))
  have hroot : Forest.Rewrapped ⟨.or, [.branch .or [twice, .group .or [bug]] [bug]]⟩ wrapped :=
    Filtering.Tree.Rewrapped.branch .or .and _ []
  have hsteps : Relation.EqvGen Forest.Rewrapped r wrapped :=
    .trans _ _ _ (.trans _ _ _ (.rel _ _ (hwrapped .and (.group .and []) [bug]))
        (.rel _ _ (hwrapped .or once [])))
      (.trans _ _ _ (.rel _ _ hgroup) (.rel _ _ hroot))
  exact ⟨hsteps, compiled_eq_of_rewrapped hsteps⟩

end IncidentTracker
