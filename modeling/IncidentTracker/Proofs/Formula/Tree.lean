import IncidentTracker.Proofs.Filtering.Interpretation
import IncidentTracker.Proofs.Formula.Basic

/-!
# Formulas of Trees

The formula a filter is written as when its groups of nothing are written as constants and its
groups of one are not written as groups. It has the leaves of the filter, in order, and is worth
what the filter is worth.

Main statements: `Formula.eval_ofForest`, `Formula.leaves_ofForest` and `Formula.isProper_ofForest`.
-/

namespace IncidentTracker

open Filtering (Forest Interpretation Junction)

variable {α β : Type}

/-- What an operand of a formula is: a constant or a leaf of a filter. -/
inductive Operand (α : Type) where
  | constant (value : Bool)
  | leaf (a : α)

namespace Operand

/-- The truth value of an operand when leaves have the given ones. -/
def value (v : α → Bool) : Operand α → Bool
  | .constant b => b
  | .leaf a => v a

/-- An operand with a leaf replaced. -/
def map (f : α → β) : Operand α → Operand β
  | .constant b => .constant b
  | .leaf a => .leaf (f a)

/-- The leaf of an operand, if it is one. -/
def leaf? : Operand α → Option α
  | .constant _ => none
  | .leaf a => some a

end Operand

namespace Formula

/-- The leaves among the atoms of a formula, in order. -/
def leaves (φ : Formula (Operand α)) : List α :=
  φ.atoms.filterMap Operand.leaf?

def leavesEach (parts : List (Formula (Operand α))) : List α :=
  (atomsEach parts).filterMap Operand.leaf?

@[simp] theorem leavesEach_nil : leavesEach ([] : List (Formula (Operand α))) = [] :=
  rfl

@[simp] theorem leavesEach_cons (part : Formula (Operand α)) (parts : List (Formula (Operand α))) :
    leavesEach (part :: parts) = part.leaves ++ leavesEach parts := by
  rw [leavesEach, atomsEach, List.filterMap_append, leaves, leavesEach]

theorem leavesEach_eq_flatMap (parts : List (Formula (Operand α))) :
    leavesEach parts = parts.flatMap leaves := by
  induction parts with
  | nil => rfl
  | cons part parts ih => rw [leavesEach_cons, ih, List.flatMap_cons]

/-! ## §1 Groups -/

/-- Formulas gathered in a group: a group of none is the constant it is worth, a formula that is
    alone stands for itself. -/
def gather (j : Junction) : List (Formula (Operand α)) → Formula (Operand α)
  | [] => .atom (.constant (j.combine []))
  | [part] => part
  | parts => .group j parts

theorem eval_gather (v : Operand α → Bool) (hv : ∀ b, v (.constant b) = b) (j : Junction)
    (parts : List (Formula (Operand α))) :
    (gather j parts).eval v = j.combine (evalEach v parts) := by
  rcases parts with _ | ⟨part, _ | ⟨next, parts⟩⟩
  · exact hv _
  · cases j <;> simp [gather, evalEach, Junction.combine]
  · rfl

theorem leaves_gather (j : Junction) (parts : List (Formula (Operand α))) :
    (gather j parts).leaves = leavesEach parts := by
  rcases parts with _ | ⟨part, _ | ⟨next, parts⟩⟩
  · rfl
  · simp [gather]
  · rfl

theorem isProper_gather (j : Junction) {parts : List (Formula (Operand α))}
    (h : AreProper parts) : (gather j parts).IsProper := by
  rcases parts with _ | ⟨part, _ | ⟨next, parts⟩⟩
  · trivial
  · exact h.1
  · exact ⟨Nat.le_add_left 2 _, h⟩

theorem map_gather (f : α → β) (j : Junction) (parts : List (Formula (Operand α))) :
    (gather j parts).map (Operand.map f) = gather j (mapEach (Operand.map f) parts) := by
  rcases parts with _ | ⟨part, _ | ⟨next, parts⟩⟩
  · rfl
  · rfl
  · rfl

/-- Where there is something to gather, no constant is made up. -/
theorem map_gather_eq_join (f : Operand α → β) (j : Junction)
    {parts : List (Formula (Operand α))} (h : parts ≠ []) :
    (gather j parts).map f = join j (mapEach f parts) := by
  rcases parts with _ | ⟨part, _ | ⟨next, parts⟩⟩
  · exact absurd rfl h
  · rfl
  · rfl

/-! ## §2 Trees -/

mutual

/-- The formula of a group of a filter. -/
def ofTree : Filtering.Tree α → Formula (Operand α)
  | .branch j children _ => gather j (ofTrees children)
  | .group j members => gather j (members.map fun a => .atom (.leaf a))

def ofTrees : List (Filtering.Tree α) → List (Formula (Operand α))
  | [] => []
  | node :: nodes => ofTree node :: ofTrees nodes

end

/-- The formula of a filter. -/
def ofForest (f : Forest α) : Formula (Operand α) :=
  gather f.junction (ofTrees f.nodes)

/-- The interpretation by formulas. -/
def interpretation : Interpretation α (Formula (Operand α)) :=
  ⟨fun a => .atom (.leaf a), gather⟩

theorem ofTrees_eq_map (nodes : List (Filtering.Tree α)) : ofTrees nodes = nodes.map ofTree := by
  induction nodes with
  | nil => rfl
  | cons node nodes ih => rw [ofTrees, ih, List.map_cons]

theorem ofTree_eq_interpret (t : Filtering.Tree α) : ofTree t = t.interpret interpretation := by
  refine Filtering.Tree.eq_interpret ?_ ?_ t
  · intro j children shadowed
    rw [ofTree, ofTrees_eq_map]
    rfl
  · intro j members
    rw [ofTree]
    rfl

/-- The formula of a group is worth what the group is worth. -/
theorem eval_ofTree (v : α → Bool) (t : Filtering.Tree α) :
    (ofTree t).eval (Operand.value v) = t.eval v := by
  rw [ofTree_eq_interpret, Filtering.Tree.eval_eq_interpret]
  refine Filtering.Tree.map_interpret (fun _ => rfl) ?_ t
  intro j parts
  rw [← evalEach_eq_map]
  exact eval_gather _ (fun _ => rfl) j parts

theorem eval_ofForest (v : α → Bool) (f : Forest α) :
    (ofForest f).eval (Operand.value v) = f.eval v :=
  eval_ofTree v f.asBranch

/-- The leaves of the formula of a group are those of the group. -/
theorem leaves_ofTree (t : Filtering.Tree α) : (ofTree t).leaves = t.leaves := by
  rw [ofTree_eq_interpret, ← List.flatMap_singleton' t.leaves,
    Filtering.Tree.flatMap_leaves_eq_interpret]
  refine Filtering.Tree.map_interpret (fun _ => rfl) ?_ t
  intro j parts
  exact (leaves_gather j parts).trans (leavesEach_eq_flatMap parts)

theorem leaves_ofForest (f : Forest α) : (ofForest f).leaves = f.leaves :=
  leaves_ofTree f.asBranch

theorem isProper_ofTree (t : Filtering.Tree α) : (ofTree t).IsProper := by
  rw [ofTree_eq_interpret]
  apply Filtering.Tree.interpret_induction
  · intro a
    exact trivial
  · intro j parts hparts
    exact isProper_gather j (areProper_iff.mpr hparts)

theorem isProper_ofForest (f : Forest α) : (ofForest f).IsProper :=
  isProper_ofTree f.asBranch

/-- The formula of a group does not look at its members. -/
theorem ofTree_map (f : α → β) (t : Filtering.Tree α) :
    ofTree (t.map f) = (ofTree t).map (Operand.map f) := by
  rw [ofTree_eq_interpret, ofTree_eq_interpret, Filtering.Tree.interpret_map]
  refine (Filtering.Tree.map_interpret (fun _ => rfl) ?_ t).symm
  intro j parts
  rw [← mapEach_eq_map]
  exact map_gather f j parts

/-- The formula of a filter does not look at its members. -/
theorem ofForest_map (f : α → β) (forest : Forest α) :
    ofForest (forest.map f) = (ofForest forest).map (Operand.map f) :=
  ofTree_map f forest.asBranch

end Formula

end IncidentTracker
