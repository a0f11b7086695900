import IncidentTracker.Proofs.Filtering.Interpretation
import Mathlib.Data.List.Forall2

/-!
# Shuffled Filters

A filter is shuffled by putting the parts of its groups into another order, at every level
independently of the others: the groups of the first level, the children of branches, the members of
groups, and the members that branches shadow. An interpretation whose junctions do not look at the
order of parts does not see any of that.

Main statements: `Forest.Shuffled.interpret_eq` and `Forest.Shuffled.ownMembers_perm`.
-/

namespace IncidentTracker.Filtering

variable {α β : Type}

/-! ## §1 Shuffling -/

/-- Groups that differ in the order of parts only, at whatever depth. -/
inductive Tree.Shuffled : Tree α → Tree α → Prop
  /-- Each child is shuffled by itself, and then they are put into another order. -/
  | branch (j : Junction) {children middle children' : List (Tree α)} {shadowed shadowed' : List α} :
    List.Forall₂ Tree.Shuffled children middle → middle.Perm children' →
      shadowed.Perm shadowed' → Tree.Shuffled (.branch j children shadowed) (.branch j children' shadowed')
  | group (j : Junction) {members members' : List α} :
    members.Perm members' → Tree.Shuffled (.group j members) (.group j members')

/-- Filters that differ in the order of parts only. -/
def Forest.Shuffled (f g : Forest α) : Prop :=
  Tree.Shuffled f.asBranch g.asBranch

/-! ## §2 Interpretations -/

/-- Whether a junction makes the same of parts in whatever order. -/
def Interpretation.IgnoresOrder (i : Interpretation α β) : Prop :=
  ∀ (j : Junction) {parts parts' : List β}, parts.Perm parts' → i.join j parts = i.join j parts'

theorem Interpretation.ignoresOrder_truth (holds : α → Bool) : (truth holds).IgnoresOrder := by
  intro j parts parts' h
  cases j with
  | and => exact h.all_eq
  | or => exact h.any_eq

section

variable {i : Interpretation α β}

mutual

theorem Tree.Shuffled.interpret_eq (hi : i.IgnoresOrder) :
    ∀ {t t' : Tree α}, Tree.Shuffled t t' → t.interpret i = t'.interpret i
  | _, _, .branch j hchildren hperm _ => by
    -- first the parts one by one, then their order
    rw [Tree.interpret, Tree.interpret, Tree.interpretEach_eq_of_shuffled hi hchildren,
      Tree.interpretEach_eq_map, Tree.interpretEach_eq_map]
    exact hi j (hperm.map _)
  | _, _, .group j hperm => by
    rw [Tree.interpret, Tree.interpret]
    exact hi j (hperm.map _)

theorem Tree.interpretEach_eq_of_shuffled (hi : i.IgnoresOrder) :
    ∀ {nodes middle : List (Tree α)}, List.Forall₂ Tree.Shuffled nodes middle →
      Tree.interpretEach i nodes = Tree.interpretEach i middle
  | _, _, .nil => rfl
  | _, _, .cons hnode hnodes => by
    rw [Tree.interpretEach, Tree.interpretEach, Tree.Shuffled.interpret_eq hi hnode,
      Tree.interpretEach_eq_of_shuffled hi hnodes]

end

/-- An interpretation that does not look at the order of parts takes shuffled filters for one. -/
theorem Forest.Shuffled.interpret_eq (hi : i.IgnoresOrder) {f g : Forest α} (h : f.Shuffled g) :
    f.interpret i = g.interpret i :=
  Tree.Shuffled.interpret_eq hi h

end

/-- Evaluation is such an interpretation. -/
theorem Forest.Shuffled.eval_eq {f g : Forest α} (h : f.Shuffled g) (holds : α → Bool) :
    f.eval holds = g.eval holds := by
  rw [Forest.eval_eq_interpret, Forest.eval_eq_interpret]
  exact h.interpret_eq (Interpretation.ignoresOrder_truth holds)

/-! ## §3 Members of the first level -/

theorem Tree.Shuffled.ownMembers_perm {t t' : Tree α} (h : Tree.Shuffled t t') :
    t.ownMembers.Perm t'.ownMembers := by
  cases h with
  | branch j _ _ hshadowed => exact hshadowed
  | group j hmembers => exact hmembers

theorem Tree.flatMap_ownMembers_perm {nodes middle : List (Tree α)}
    (h : List.Forall₂ Tree.Shuffled nodes middle) :
    (nodes.flatMap Tree.ownMembers).Perm (middle.flatMap Tree.ownMembers) := by
  induction h with
  | nil => exact .nil
  | cons hnode _ ih =>
    rw [List.flatMap_cons, List.flatMap_cons]
    exact hnode.ownMembers_perm.append ih

/-- The members that the groups of the first level carry are the same in another order. -/
theorem Forest.Shuffled.ownMembers_perm {f g : Forest α} (h : f.Shuffled g) :
    f.ownMembers.Perm g.ownMembers := by
  obtain ⟨j, nodes⟩ := f
  obtain ⟨j', nodes'⟩ := g
  cases h with
  | branch _ hnodes hperm _ =>
    exact (Tree.flatMap_ownMembers_perm hnodes).trans (hperm.flatMap_right _)

end IncidentTracker.Filtering
