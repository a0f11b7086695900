import IncidentTracker.Proofs.Filtering.Shuffling
import IncidentTracker.Proofs.WideColumn.Folding
import IncidentTracker.WideColumn.Expression

/-!
# Verdicts

Folding the constants of a filter is an interpretation of it, and one that keeps parts that are alone,
be they constants or not. What kind of scan the filter becomes is decided before anything is known of
its leaves: one part can decide a group, and otherwise a group is decided only if all its parts are.
These verdicts are an interpretation by three truth values, which does not look at the order of parts.

Main statements: `Folded.keepsSingle_interpretation`, `verdicts_ignoresOrder` and
`Scan.kind_ofRequest`.
-/

namespace IncidentTracker.WideColumn

open Filtering (Forest Interpretation Junction)

variable {α : Type}

namespace Folded

/-! ## §1 Folding as an interpretation -/

theorem ofForest_eq_interpret (f : Forest α) : ofForest f = f.interpret interpretation :=
  ofTree_eq_interpret f.asBranch

theorem keepsSingle_interpretation : (interpretation : Interpretation α (Folded α)).KeepsSingle := by
  intro j part
  show join j [part] = part
  cases part with
  | constant b =>
    -- a constant decides the group or leaves it undecided, and is what the group is worth either way
    cases j <;> cases b <;> rfl
  | member a => cases j <;> rfl
  | group j' parts => cases j <;> rfl

/-! ## §2 Verdicts -/

/-- What is known of a folded filter: the value of a constant, and nothing of any other. -/
def verdict : Folded α → Option Bool
  | .constant b => some b
  | .member _ => none
  | .group _ _ => none

theorem isConstant_eq_verdict (b : Bool) (part : Folded α) :
    part.isConstant b = (part.verdict == some b) := by
  cases part <;> rfl

end Folded

/-- What a junction makes of parts of which some may be undecided. -/
def resolve (j : Junction) (parts : List (Option Bool)) : Option Bool :=
  if parts.any (· == some !j.combine []) then some !j.combine []
  else if parts.all (· == some (j.combine [])) then some (j.combine [])
  else none

/-- The interpretation by what is known before the leaves are. -/
def verdicts : Interpretation α (Option Bool) :=
  ⟨fun _ => none, resolve⟩

theorem verdicts_ignoresOrder : (verdicts : Interpretation α (Option Bool)).IgnoresOrder := by
  intro j parts parts' h
  show resolve j parts = resolve j parts'
  rw [resolve, resolve, h.any_eq, h.all_eq]

namespace Folded

/-- Of the parts of a group that no part decides, those that are kept are undecided. -/
theorem verdict_of_mem_kept {j : Junction} {parts : List (Folded α)}
    (h : ¬parts.any (isConstant !j.combine []) = true) {part : Folded α}
    (hpart : part ∈ parts.filter fun part => !part.isConstant (j.combine [])) :
    part.verdict = none := by
  obtain ⟨hmem, hneutral⟩ := List.mem_filter.mp hpart
  cases hverdict : part.verdict with
  | none => rfl
  | some b =>
    have hconstant : part.isConstant b = true := by
      rw [isConstant_eq_verdict, hverdict]
      exact beq_self_eq_true _
    -- a constant would be neutral and dropped, or dominant and end the junction
    by_cases hb : b = j.combine []
    · rw [← hb, hconstant] at hneutral
      cases hneutral
    · rw [Bool.eq_not.mpr hb] at hconstant
      exact absurd (List.any_eq_true.mpr ⟨part, hmem, hconstant⟩) h

/-- Joining folded filters decides what their verdicts decide, and no more. -/
theorem verdict_join (j : Junction) (parts : List (Folded α)) :
    (join j parts).verdict = resolve j (parts.map verdict) := by
  have hverdicts (b : Bool) : (fun part : Folded α => part.verdict == some b) = isConstant b :=
    funext fun part => (isConstant_eq_verdict b part).symm
  have hany : (parts.map verdict).any (· == some !j.combine []) =
      parts.any (isConstant !j.combine []) := by
    rw [List.any_map, ← hverdicts]
    rfl
  have hall : (parts.map verdict).all (· == some (j.combine [])) =
      parts.all (isConstant (j.combine [])) := by
    rw [List.all_map, ← hverdicts]
    rfl
  rw [resolve, hany, hall, join]
  split
  · rfl
  · next hundecided =>
    have hkept (part : Folded α) :
        (part ∈ parts.filter fun part => !part.isConstant (j.combine [])) → part.verdict = none :=
      verdict_of_mem_kept hundecided
    have hnone : (parts.filter fun part => !part.isConstant (j.combine [])) = [] ↔
        parts.all (isConstant (j.combine [])) = true := by
      simp [List.filter_eq_nil_iff]
    -- nothing is kept exactly if all parts leave the group undecided
    split
    · next hnil => rw [if_pos (hnone.mp hnil), verdict]
    · next part hsingle =>
      rw [hsingle] at hnone hkept
      rw [if_neg (mt hnone.mpr (List.cons_ne_nil _ _)), hkept part List.mem_cons_self]
    · next hnil _ => rw [if_neg (mt hnone.mpr hnil), verdict]

theorem verdict_ofForest (f : Forest α) : (ofForest f).verdict = f.interpret verdicts := by
  rw [ofForest_eq_interpret]
  exact Filtering.Tree.map_interpret (fun _ => rfl) verdict_join f.asBranch

end Folded

/-! ## §3 Kinds of scans -/

/-- How much a scan may find: everything, what passes an expression, or nothing. -/
inductive Scan.Kind where
  | all
  | filtered
  | nothing
  deriving DecidableEq

/-- The kind of a scan. -/
def Scan.kind : Scan → Kind
  | .all => .all
  | .filtered _ => .filtered
  | .nothing => .nothing

/-- The kind of scan for what is known of a filter. -/
def Scan.Kind.ofVerdict : Option Bool → Kind
  | some true => .all
  | some false => .nothing
  | none => .filtered

/-- The kind of scan that a filter becomes depends on its verdict alone. -/
theorem Scan.kind_ofRequest (r : Filtering.Request) :
    (ofRequest .consistent r).kind = .ofVerdict (r.interpret verdicts) := by
  rw [← Folded.verdict_ofForest, ofRequest]
  cases Folded.ofForest r with
  | constant b => cases b <;> rfl
  | member c => rfl
  | group j parts => rfl

end IncidentTracker.WideColumn
