import IncidentTracker.Entity.Property
import IncidentTracker.Proofs.Filtering.Leaves

/-!
# Dual Filters

The dual of a filter turns every junction around and denies every comparison for equality. By De
Morgan's laws it is worth the opposite of the filter, however deep the groups are nested and
whether or not some of them are empty. A search has no opposite among the comparisons, so this is
promised only of filters whose leaves search for nothing.

Main statement: `Forest.accepts_dual`, for entities of any kind.
-/

namespace IncidentTracker.Filtering

/-! ## §1 Duals -/

/-- The junction whose groups are worth the opposite when their parts are. -/
def Junction.dual : Junction → Junction
  | .and => .or
  | .or => .and

/-- The comparison with the opposite outcome; a search is left alone. -/
def Comparison.dual : Comparison → Comparison
  | .equals => .notEquals
  | .notEquals => .equals
  | .contains => .contains

/-- The criterion with the opposite comparison. -/
def Criterion.dual (c : Criterion) : Criterion :=
  { c with comparison := c.comparison.dual }

mutual

/-- A group with every junction and every comparison turned around. -/
def Tree.dual : Tree Criterion → Tree Criterion
  | .branch j children shadowed =>
    .branch j.dual (Tree.dualEach children) (shadowed.map Criterion.dual)
  | .group j members => .group j.dual (members.map Criterion.dual)

def Tree.dualEach : List (Tree Criterion) → List (Tree Criterion)
  | [] => []
  | node :: nodes => Tree.dual node :: Tree.dualEach nodes

end

/-- A filter with every junction and every comparison turned around. -/
def Forest.dual (r : Request) : Request :=
  ⟨r.junction.dual, Tree.dualEach r.nodes⟩

/-- Whether no leaf of a filter is a search. -/
def Forest.IsSearchFree (r : Request) : Prop :=
  ∀ c ∈ r.leaves, c.comparison ≠ .contains

instance (r : Request) : Decidable r.IsSearchFree :=
  inferInstanceAs (Decidable (∀ c ∈ r.leaves, c.comparison ≠ .contains))

/-! ## §2 Truth values -/

/-- De Morgan's laws; that of no parts is the case of an empty group. -/
theorem Junction.combine_dual (j : Junction) (parts : List Bool) :
    j.dual.combine (parts.map not) = !j.combine parts := by
  cases j with
  | and => simp [dual, combine, List.not_all_eq_any_not]
  | or => simp [dual, combine, List.not_any_eq_all_not]

mutual

/-- If every leaf is worth the opposite, so is the group. -/
theorem Tree.eval_dual {holds : Criterion → Bool} :
    ∀ t : Tree Criterion, (∀ c ∈ t.leaves, holds c.dual = !holds c) →
      t.dual.eval holds = !t.eval holds
  | .branch j children _, h => by
    rw [dual, eval, Tree.evalEach_dualEach children h, Junction.combine_dual, eval]
  | .group j members, h => by
    have hmembers : (members.map Criterion.dual).map holds = (members.map holds).map not := by
      rw [List.map_map, List.map_map]
      exact List.map_congr_left h
    rw [dual, eval, hmembers, Junction.combine_dual, eval]

theorem Tree.evalEach_dualEach {holds : Criterion → Bool} :
    ∀ nodes : List (Tree Criterion), (∀ c ∈ leavesEach nodes, holds c.dual = !holds c) →
      evalEach holds (dualEach nodes) = (evalEach holds nodes).map not
  | [], _ => rfl
  | node :: nodes, h => by
    simp only [leavesEach, List.mem_append] at h
    rw [dualEach, evalEach, evalEach, Tree.eval_dual node fun c hc => h c (.inl hc),
      Tree.evalEach_dualEach nodes fun c hc => h c (.inr hc), List.map_cons]

end

theorem Forest.eval_dual {holds : Criterion → Bool} {r : Request}
    (h : ∀ c ∈ r.leaves, holds c.dual = !holds c) : r.dual.eval holds = !r.eval holds := by
  rw [eval, dual, Tree.evalEach_dualEach r.nodes h, Junction.combine_dual, eval]

/-- An entity passes the dual of a filter exactly if it does not pass the filter. -/
theorem Forest.accepts_dual {ε : Type} [HasProperties ε] {r : Request} (h : r.IsSearchFree)
    (entity : ε) : r.dual.accepts entity = !r.accepts entity := by
  apply Forest.eval_dual
  intro c hc
  obtain ⟨property, comparison, value⟩ := c
  cases comparison with
  | equals => rfl
  | notEquals => exact (Bool.not_not _).symm
  | contains => exact absurd rfl (h _ hc)

end IncidentTracker.Filtering
