import IncidentTracker.Proofs.Filtering.Interpretation
import IncidentTracker.Proofs.Formula.Basic
import IncidentTracker.WideColumn.Folded
import Mathlib.Data.List.Flatten

/-!
# Folding

What folding the constants of a filter leaves: the same truth value whatever the leaves are worth,
and either a constant or a proper formula, in which nothing is constant. So no constant goes
unnoticed and none is made up. Leaves may be dropped on the way, but the ones that are left keep
their order.

Main statements: `Folded.eval_ofForest`, `Folded.isNormal_ofForest`,
`Folded.members_ofForest_sublist`, and `Folded.ofForest_map`, which says that folding does not look
at the leaves.
-/

namespace IncidentTracker.WideColumn

open Filtering (Forest Interpretation Junction)

variable {α β : Type}

namespace Folded

/-! ## §1 Parts of a group -/

theorem isConstant_iff {b : Bool} {part : Folded α} :
    part.isConstant b = true ↔ part = .constant b := by
  cases part with
  | constant c => simp [isConstant]
  | member a => simp [isConstant]
  | group j parts => simp [isConstant]

theorem evalEach_eq_map (value : α → Bool) (parts : List (Folded α)) :
    evalEach value parts = parts.map (eval value) := by
  induction parts with
  | nil => rfl
  | cons part parts ih => rw [evalEach, ih, List.map_cons]

theorem membersEach_eq_flatMap (parts : List (Folded α)) :
    membersEach parts = parts.flatMap members := by
  induction parts with
  | nil => rfl
  | cons part parts ih => rw [membersEach, ih, List.flatMap_cons]

/-- One part can decide a group. -/
theorem combine_of_decided {j : Junction} {values : List Bool} (h : (!j.combine []) ∈ values) :
    j.combine values = !j.combine [] := by
  cases j with
  | and => exact List.all_eq_false.mpr ⟨false, h, by simp⟩
  | or => exact List.any_eq_true.mpr ⟨true, h, rfl⟩

/-- Parts that leave a group undecided can be dropped. -/
theorem combine_filter (value : α → Bool) (j : Junction) (parts : List (Folded α)) :
    j.combine ((parts.filter fun part => !part.isConstant (j.combine [])).map (eval value)) =
      j.combine (parts.map (eval value)) := by
  induction parts with
  | nil => rfl
  | cons part parts ih =>
    -- a neutral constant does not change what the junction gives
    by_cases h : part.isConstant (j.combine []) = true
    · rw [List.filter_cons_of_neg (by simp [h]), ih, isConstant_iff.mp h]
      cases j with
      | and => rfl
      | or => rfl
    · rw [List.filter_cons_of_pos (by simpa using h)]
      cases j with
      | and => exact congrArg (part.eval value && ·) ih
      | or => exact congrArg (part.eval value || ·) ih

/-! ## §2 Truth values -/

/-- Joining folded filters means what the group of them means. -/
theorem eval_join (value : α → Bool) (j : Junction) (parts : List (Folded α)) :
    (join j parts).eval value = j.combine (evalEach value parts) := by
  rw [evalEach_eq_map, join]
  split
  · next hdecided =>
    -- one of the parts is the constant that decides the junction
    obtain ⟨part, hpart, hconstant⟩ := List.any_eq_true.mp hdecided
    refine (combine_of_decided ?_).symm
    exact List.mem_map.mpr ⟨part, hpart, by rw [isConstant_iff.mp hconstant, eval]⟩
  · -- the other constant does not show, and what is left is joined as it stands
    rw [← combine_filter]
    split
    · next hkept => rw [hkept, eval, List.map_nil]
    · next part hkept =>
      rw [hkept]
      cases j <;> simp [Junction.combine]
    · rw [eval, evalEach_eq_map]

/-- The interpretation by folded filters. -/
def interpretation : Interpretation α (Folded α) :=
  ⟨.member, .join⟩

theorem ofTrees_eq_map (nodes : List (Filtering.Tree α)) : ofTrees nodes = nodes.map ofTree := by
  induction nodes with
  | nil => rfl
  | cons node nodes ih => rw [ofTrees, ih, List.map_cons]

theorem ofTree_eq_interpret (t : Filtering.Tree α) : ofTree t = t.interpret interpretation := by
  refine Filtering.Tree.eq_interpret ?_ ?_ t
  · intro j children shadowed
    rw [ofTree, ofTrees_eq_map]
    rfl
  · intro j members
    rw [ofTree]
    rfl

/-- A folded group means what the group means. -/
theorem eval_ofTree (value : α → Bool) (t : Filtering.Tree α) :
    (ofTree t).eval value = t.eval value := by
  rw [ofTree_eq_interpret, Filtering.Tree.eval_eq_interpret]
  refine Filtering.Tree.map_interpret (fun _ => rfl) ?_ t
  intro j parts
  rw [← evalEach_eq_map]
  exact eval_join value j parts

theorem eval_ofForest (value : α → Bool) (f : Forest α) :
    (ofForest f).eval value = f.eval value :=
  eval_ofTree value f.asBranch

/-! ## §3 Normal forms -/

mutual

/-- A formula as a folded filter. -/
def ofFormula : Formula α → Folded α
  | .atom a => .member a
  | .group j parts => .group j (ofFormulas parts)

def ofFormulas : List (Formula α) → List (Folded α)
  | [] => []
  | part :: parts => ofFormula part :: ofFormulas parts

end

/-- What folding leaves: a constant, or a proper formula. -/
def IsNormal (folded : Folded α) : Prop :=
  (∃ b, folded = .constant b) ∨ ∃ φ : Formula α, φ.IsProper ∧ folded = ofFormula φ

private theorem exists_ofFormulas {parts : List (Folded α)}
    (h : ∀ part ∈ parts, ∃ φ : Formula α, φ.IsProper ∧ part = ofFormula φ) :
    ∃ formulas : List (Formula α), Formula.AreProper formulas ∧ parts = ofFormulas formulas := by
  induction parts with
  | nil => exact ⟨[], trivial, rfl⟩
  | cons part parts ih =>
    obtain ⟨⟨φ, hφ, rfl⟩, hparts⟩ := List.forall_mem_cons.mp h
    obtain ⟨formulas, hformulas, rfl⟩ := ih hparts
    exact ⟨φ :: formulas, ⟨hφ, hformulas⟩, rfl⟩

private theorem length_ofFormulas (formulas : List (Formula α)) :
    (ofFormulas formulas).length = formulas.length := by
  induction formulas with
  | nil => rfl
  | cons φ formulas ih => rw [ofFormulas, List.length_cons, ih, List.length_cons]

/-- Joining what has been folded leaves a constant or a proper formula. -/
theorem isNormal_join (j : Junction) {parts : List (Folded α)} (h : ∀ part ∈ parts, part.IsNormal) :
    (join j parts).IsNormal := by
  rw [join]
  split
  · exact .inl ⟨_, rfl⟩
  · next hundecided =>
    -- what is kept is neither of the two constants, hence a formula
    have hkept : ∀ part ∈ parts.filter fun part => !part.isConstant (j.combine []),
        ∃ φ : Formula α, φ.IsProper ∧ part = ofFormula φ := by
      intro part hpart
      obtain ⟨hmem, hneutral⟩ := List.mem_filter.mp hpart
      rcases h part hmem with ⟨b, rfl⟩ | hφ
      · refine absurd (List.any_eq_true.mpr ⟨_, hmem, ?_⟩) hundecided
        rw [isConstant_iff]
        have hb : b ≠ j.combine [] := by simpa [isConstant] using hneutral
        rw [Bool.eq_not.mpr hb]
      · exact hφ
    split
    · exact .inl ⟨_, rfl⟩
    · next part hpart =>
      exact .inr (hkept part (by rw [hpart]; exact List.mem_cons_self))
    · next hnil hsingle =>
      obtain ⟨formulas, hproper, heq⟩ := exists_ofFormulas hkept
      -- neither none nor one is kept, so the group is a proper one
      have hlength : 2 ≤ formulas.length := by
        rw [← length_ofFormulas, ← heq]
        generalize parts.filter (fun part => !part.isConstant (j.combine [])) = kept at hnil hsingle
        rcases kept with _ | ⟨part, _ | ⟨next, kept⟩⟩
        · exact absurd rfl hnil
        · exact absurd rfl (hsingle part)
        · exact Nat.le_add_left 2 _
      exact .inr ⟨.group j formulas, ⟨hlength, hproper⟩, by rw [heq]; rfl⟩

theorem isNormal_ofTree (t : Filtering.Tree α) : (ofTree t).IsNormal := by
  rw [ofTree_eq_interpret]
  apply Filtering.Tree.interpret_induction
  · intro a
    exact .inr ⟨.atom a, trivial, rfl⟩
  · intro j parts hparts
    exact isNormal_join j hparts

theorem isNormal_ofForest (f : Forest α) : (ofForest f).IsNormal :=
  isNormal_ofTree f.asBranch

mutual

theorem members_ofFormula : ∀ φ : Formula α, (ofFormula φ).members = φ.atoms
  | .atom _ => rfl
  | .group _ parts => membersEach_ofFormulas parts

theorem membersEach_ofFormulas :
    ∀ parts : List (Formula α), membersEach (ofFormulas parts) = Formula.atomsEach parts
  | [] => rfl
  | part :: parts => by
    rw [ofFormulas, membersEach, members_ofFormula part, membersEach_ofFormulas parts,
      Formula.atomsEach]

end

mutual

theorem eval_ofFormula (value : α → Bool) :
    ∀ φ : Formula α, (ofFormula φ).eval value = φ.eval value
  | .atom _ => rfl
  | .group j parts => by rw [ofFormula, eval, evalEach_ofFormulas value parts, Formula.eval]

theorem evalEach_ofFormulas (value : α → Bool) :
    ∀ parts : List (Formula α),
      evalEach value (ofFormulas parts) = Formula.evalEach value parts
  | [] => rfl
  | part :: parts => by
    rw [ofFormulas, evalEach, eval_ofFormula value part, evalEach_ofFormulas value parts,
      Formula.evalEach]

end

/-! ## §4 Members -/

/-- Joining folded filters may drop members, but keeps the order of the others. -/
theorem members_join_sublist (j : Junction) (parts : List (Folded α)) :
    (join j parts).members.Sublist (membersEach parts) := by
  have hkept : (membersEach (parts.filter fun part => !part.isConstant (j.combine []))).Sublist
      (membersEach parts) := by
    rw [membersEach_eq_flatMap, membersEach_eq_flatMap]
    exact List.filter_sublist.flatMap members
  -- a dominant constant leaves no members, one part that is left leaves its own
  rw [join]
  split
  · exact List.nil_sublist _
  · split
    · exact List.nil_sublist _
    · next part hpart =>
      rw [hpart, membersEach, membersEach, List.append_nil] at hkept
      exact hkept
    · exact hkept

mutual

theorem members_ofTree_sublist : ∀ t : Filtering.Tree α, (ofTree t).members.Sublist t.leaves
  | .branch j children _ =>
    (members_join_sublist j _).trans (membersEach_ofTrees_sublist children)
  | .group j members => by
    -- the members of a group are its parts, each a member by itself
    have hmembers : membersEach (members.map .member) = members := by
      rw [membersEach_eq_flatMap, List.flatMap_map]
      exact List.flatMap_singleton' members
    have hjoin := members_join_sublist j (members.map Folded.member)
    rw [hmembers] at hjoin
    exact hjoin

theorem membersEach_ofTrees_sublist :
    ∀ nodes : List (Filtering.Tree α),
      (membersEach (ofTrees nodes)).Sublist (Filtering.Tree.leavesEach nodes)
  | [] => List.nil_sublist _
  | node :: nodes => by
    rw [ofTrees, membersEach, Filtering.Tree.leavesEach]
    exact (members_ofTree_sublist node).append (membersEach_ofTrees_sublist nodes)

end

/-- The members that are left are leaves of the filter, in their order. -/
theorem members_ofForest_sublist (f : Forest α) : (ofForest f).members.Sublist f.leaves :=
  (members_join_sublist f.junction _).trans (membersEach_ofTrees_sublist f.nodes)

/-! ## §5 Replacing members -/

mutual

/-- A folded filter with every member replaced. -/
def map (f : α → β) : Folded α → Folded β
  | .constant b => .constant b
  | .member a => .member (f a)
  | .group j parts => .group j (mapEach f parts)

def mapEach (f : α → β) : List (Folded α) → List (Folded β)
  | [] => []
  | part :: parts => map f part :: mapEach f parts

end

theorem mapEach_eq_map (f : α → β) (parts : List (Folded α)) :
    mapEach f parts = parts.map (map f) := by
  induction parts with
  | nil => rfl
  | cons part parts ih => rw [mapEach, ih, List.map_cons]

@[simp] theorem isConstant_map (f : α → β) (b : Bool) (part : Folded α) :
    (part.map f).isConstant b = part.isConstant b := by
  cases part with
  | constant c => rfl
  | member a => rfl
  | group j parts => rfl

/-- Joining does not look at members. -/
theorem join_map (f : α → β) (j : Junction) (parts : List (Folded α)) :
    join j (parts.map (map f)) = (join j parts).map f := by
  -- what is constant is not changed, so the same parts decide and the same are dropped
  have hany : (parts.map (map f)).any (isConstant !j.combine []) =
      parts.any (isConstant !j.combine []) := by
    rw [List.any_map]
    exact congrArg parts.any (funext (isConstant_map f _))
  have hkept : (parts.map (map f)).filter (fun part => !part.isConstant (j.combine [])) =
      (parts.filter fun part => !part.isConstant (j.combine [])).map (map f) := by
    rw [List.filter_map]
    simp [Function.comp_def]
  rw [join, hany, hkept, join]
  split
  · rfl
  · -- no part, one part or more: the three shapes that are left
    generalize parts.filter (fun part => !part.isConstant (j.combine [])) = kept
    rcases kept with _ | ⟨part, _ | ⟨next, kept⟩⟩
    · rfl
    · rfl
    · simp only [List.map_cons, map, mapEach_eq_map]

theorem ofTree_map (f : α → β) (t : Filtering.Tree α) : ofTree (t.map f) = (ofTree t).map f := by
  rw [ofTree_eq_interpret, ofTree_eq_interpret, Filtering.Tree.interpret_map]
  refine (Filtering.Tree.map_interpret (fun _ => rfl) ?_ t).symm
  intro j parts
  exact (join_map f j parts).symm

/-- Folding does not look at members. -/
theorem ofForest_map (f : α → β) (forest : Forest α) :
    ofForest (forest.map f) = (ofForest forest).map f :=
  ofTree_map f forest.asBranch

mutual

theorem members_map (f : α → β) : ∀ folded : Folded α, (folded.map f).members = folded.members.map f
  | .constant _ => rfl
  | .member _ => rfl
  | .group _ parts => membersEach_mapEach f parts

theorem membersEach_mapEach (f : α → β) :
    ∀ parts : List (Folded α), membersEach (mapEach f parts) = (membersEach parts).map f
  | [] => rfl
  | part :: parts => by
    rw [mapEach, membersEach, members_map f part, membersEach_mapEach f parts, membersEach,
      List.map_append]

end

mutual

theorem map_ofFormula (f : α → β) : ∀ φ : Formula α, (ofFormula φ).map f = ofFormula (φ.map f)
  | .atom _ => rfl
  | .group j parts => by
    rw [ofFormula, map, mapEach_ofFormulas f parts, Formula.map, ofFormula]

theorem mapEach_ofFormulas (f : α → β) :
    ∀ parts : List (Formula α),
      mapEach f (ofFormulas parts) = ofFormulas (Formula.mapEach f parts)
  | [] => rfl
  | part :: parts => by
    rw [ofFormulas, mapEach, map_ofFormula f part, mapEach_ofFormulas f parts, Formula.mapEach,
      ofFormulas]

end

end Folded

end IncidentTracker.WideColumn
