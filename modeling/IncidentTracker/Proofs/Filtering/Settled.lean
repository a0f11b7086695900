import IncidentTracker.Filtering.Tree

/-!
# Settled Filters

A branch that has no children comes back from its written form as a group of the members it
shadows. Settling a filter puts every such branch right at once, at every level.

Main statements: a filter is settled already exactly when each of its branches has children
(`settled_eq_self_iff`), and settling changes neither the depth of a filter nor the number of its
members (`depth_settled`, `size_settled`).
-/

namespace IncidentTracker.Filtering

variable {α : Type}

namespace Tree

/-! ## §1 Settling -/

mutual

/-- A group in which each branch without children is a group of the members it shadows. -/
def settled : Tree α → Tree α
  | .branch j children shadowed =>
    if children.isEmpty then .group j shadowed else .branch j (settledEach children) shadowed
  | .group j members => .group j members

def settledEach : List (Tree α) → List (Tree α)
  | [] => []
  | node :: nodes => settled node :: settledEach nodes

end

mutual

/-- Whether each branch of a group has children. -/
def isFull : Tree α → Bool
  | .branch _ children _ => !children.isEmpty && areFull children
  | .group _ _ => true

def areFull : List (Tree α) → Bool
  | [] => true
  | node :: nodes => isFull node && areFull nodes

end

theorem settled_branch {children : List (Tree α)} (h : children ≠ []) (j : Junction)
    (shadowed : List α) :
    settled (.branch j children shadowed) = .branch j (settledEach children) shadowed := by
  rw [settled, if_neg (by simpa using h)]

@[simp] theorem settledEach_isEmpty (nodes : List (Tree α)) :
    (settledEach nodes).isEmpty = nodes.isEmpty := by
  cases nodes <;> rfl

example : settled (.branch .and [.branch .or [] [1, 2]] [3]) =
    .branch .and [.group .or [1, 2]] [3] := rfl

/-! ## §2 What settling keeps -/

mutual

theorem settled_eq_self_iff : ∀ t : Tree α, t.settled = t ↔ t.isFull = true
  | .branch j [] shadowed => by simp [settled, isFull]
  | .branch j (child :: children) shadowed => by
    have heach := settledEach_eq_self_iff (child :: children)
    rw [settled_branch (List.cons_ne_nil child children), isFull]
    simp [heach]
  | .group j members => by simp [settled, isFull]

theorem settledEach_eq_self_iff :
    ∀ nodes : List (Tree α), settledEach nodes = nodes ↔ areFull nodes = true
  | [] => by simp [settledEach, areFull]
  | node :: nodes => by
    rw [settledEach, areFull, List.cons.injEq, Bool.and_eq_true, settled_eq_self_iff node,
      settledEach_eq_self_iff nodes]

end

mutual

theorem depth_settled : ∀ t : Tree α, t.settled.depth = t.depth
  | .branch j [] shadowed => rfl
  | .branch j (child :: children) shadowed => by
    rw [settled_branch (List.cons_ne_nil child children), depth, depth,
      depthEach_settledEach (child :: children)]
  | .group j members => rfl

theorem depthEach_settledEach :
    ∀ nodes : List (Tree α), depthEach (settledEach nodes) = depthEach nodes
  | [] => rfl
  | node :: nodes => by
    rw [settledEach, depthEach, depthEach, depth_settled node, depthEach_settledEach nodes]

end

mutual

theorem size_settled : ∀ t : Tree α, t.settled.size = t.size
  | .branch j [] shadowed => rfl
  | .branch j (child :: children) shadowed => by
    rw [settled_branch (List.cons_ne_nil child children), size, size,
      sizeEach_settledEach (child :: children)]
  | .group j members => rfl

theorem sizeEach_settledEach :
    ∀ nodes : List (Tree α), sizeEach (settledEach nodes) = sizeEach nodes
  | [] => rfl
  | node :: nodes => by
    rw [settledEach, sizeEach, sizeEach, size_settled node, sizeEach_settledEach nodes]

end

theorem depth_pos (t : Tree α) : 0 < t.depth := by
  cases t with
  | branch j children shadowed => exact Nat.succ_pos (depthEach children)
  | group j members => exact Nat.one_pos

end Tree

/-! ## §3 Whole filters -/

namespace Forest

/-- A filter with all its groups settled. -/
def settled (f : Forest α) : Forest α :=
  ⟨f.junction, Tree.settledEach f.nodes⟩

/-- Whether each branch of a filter has children. -/
def isFull (f : Forest α) : Bool :=
  Tree.areFull f.nodes

theorem settled_eq_self_iff (f : Forest α) : f.settled = f ↔ f.isFull = true := by
  obtain ⟨j, nodes⟩ := f
  have heach := Tree.settledEach_eq_self_iff nodes
  simpa [settled, isFull] using heach

theorem depth_settled (f : Forest α) : f.settled.depth = f.depth :=
  Tree.depthEach_settledEach f.nodes

theorem size_settled (f : Forest α) : f.settled.size = f.size :=
  Tree.sizeEach_settledEach f.nodes

end Forest

end IncidentTracker.Filtering
