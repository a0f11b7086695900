import IncidentTracker.Filtering.Tree

/-!
# Leaves of Filters

The members that decide what a filter comes to: those of its groups of members, in the order in
which they are written. Members that a branch carries itself are not among them.

Main statements: the truth value of a filter depends on its leaves only (`eval_congr`), and
numbering the leaves, which tells equal ones at different places apart, gives the filter back when
the numbers are dropped (`map_number`).
-/

namespace IncidentTracker.Filtering

variable {α β : Type}

namespace Tree

/-! ## §1 Leaves -/

mutual

/-- The leaves of a group. -/
def leaves : Tree α → List α
  | .branch _ children _ => leavesEach children
  | .group _ members => members

def leavesEach : List (Tree α) → List α
  | [] => []
  | node :: nodes => leaves node ++ leavesEach nodes

end

theorem leavesEach_eq_flatMap (nodes : List (Tree α)) : leavesEach nodes = nodes.flatMap leaves := by
  induction nodes with
  | nil => rfl
  | cons node nodes ih => rw [leavesEach, ih, List.flatMap_cons]

mutual

/-- The truth value of a group depends on its leaves only. -/
theorem eval_congr {f g : α → Bool} :
    ∀ t : Tree α, (∀ a ∈ t.leaves, f a = g a) → t.eval f = t.eval g
  | .branch j children _, h => by
    rw [eval, eval, evalEach_congr children h]
  | .group j members, h => by
    have hmap : members.map f = members.map g := List.map_congr_left h
    rw [eval, eval, hmap]

theorem evalEach_congr {f g : α → Bool} :
    ∀ nodes : List (Tree α), (∀ a ∈ leavesEach nodes, f a = g a) →
      evalEach f nodes = evalEach g nodes
  | [], _ => rfl
  | node :: nodes, h => by
    simp only [leavesEach, List.mem_append] at h
    rw [evalEach, evalEach, eval_congr node fun a ha => h a (.inl ha),
      evalEach_congr nodes fun a ha => h a (.inr ha)]

end

/-! ## §2 Replacing members -/

mutual

/-- A group with every member replaced. -/
def map (f : α → β) : Tree α → Tree β
  | .branch j children shadowed => .branch j (mapEach f children) (shadowed.map f)
  | .group j members => .group j (members.map f)

def mapEach (f : α → β) : List (Tree α) → List (Tree β)
  | [] => []
  | node :: nodes => map f node :: mapEach f nodes

end

theorem mapEach_eq_map (f : α → β) (nodes : List (Tree α)) : mapEach f nodes = nodes.map (map f) := by
  induction nodes with
  | nil => rfl
  | cons node nodes ih => rw [mapEach, ih, List.map_cons]

/-! ## §3 Numbering leaves -/

mutual

/-- A group with its leaves numbered from `n` on; a shadowed member has no number of its own. -/
def number (n : Nat) : Tree α → Tree (α × Nat)
  | .branch j children shadowed => .branch j (numberEach n children) (shadowed.map fun a => (a, n))
  | .group j members => .group j (members.zipIdx n)

def numberEach (n : Nat) : List (Tree α) → List (Tree (α × Nat))
  | [] => []
  | node :: nodes => number n node :: numberEach (n + node.leaves.length) nodes

end

mutual

theorem leaves_number : ∀ (t : Tree α) (n : Nat), (t.number n).leaves = t.leaves.zipIdx n
  | .branch _ children _, n => by
    rw [number, leaves, leaves, leavesEach_numberEach children n]
  | .group _ members, n => by
    rw [number, leaves, leaves]

theorem leavesEach_numberEach :
    ∀ (nodes : List (Tree α)) (n : Nat),
      leavesEach (numberEach n nodes) = (leavesEach nodes).zipIdx n
  | [], n => rfl
  | node :: nodes, n => by
    rw [numberEach, leavesEach, leavesEach, leaves_number node n,
      leavesEach_numberEach nodes (n + node.leaves.length), List.zipIdx_append]

end

mutual

/-- Dropping the numbers gives a group back. -/
theorem map_number : ∀ (t : Tree α) (n : Nat), (t.number n).map Prod.fst = t
  | .branch j children shadowed, n => by
    have hshadowed : (shadowed.map fun a => (a, n)).map Prod.fst = shadowed := by
      simp [Function.comp_def]
    rw [number, map, mapEach_numberEach children n, hshadowed]
  | .group j members, n => by
    rw [number, map, List.zipIdx_map_fst]

theorem mapEach_numberEach :
    ∀ (nodes : List (Tree α)) (n : Nat), mapEach Prod.fst (numberEach n nodes) = nodes
  | [], n => rfl
  | node :: nodes, n => by
    rw [numberEach, mapEach, map_number node n,
      mapEach_numberEach nodes (n + node.leaves.length)]

end

end Tree

/-! ## §4 Whole filters -/

namespace Forest

/-- The leaves of a filter. -/
def leaves (f : Forest α) : List α :=
  Tree.leavesEach f.nodes

/-- A filter with every member replaced. -/
def map (f : α → β) (forest : Forest α) : Forest β :=
  ⟨forest.junction, Tree.mapEach f forest.nodes⟩

/-- A filter with its leaves numbered from zero on. -/
def number (f : Forest α) : Forest (α × Nat) :=
  ⟨f.junction, Tree.numberEach 0 f.nodes⟩

theorem eval_congr {holds holds' : α → Bool} {f : Forest α}
    (h : ∀ a ∈ f.leaves, holds a = holds' a) : f.eval holds = f.eval holds' := by
  rw [eval, eval, Tree.evalEach_congr f.nodes h]

theorem leaves_number (f : Forest α) : f.number.leaves = f.leaves.zipIdx :=
  Tree.leavesEach_numberEach f.nodes 0

/-- Dropping the numbers gives a filter back. -/
theorem map_number (f : Forest α) : f.number.map Prod.fst = f := by
  rw [map, number, Tree.mapEach_numberEach]

/-- A filter with one leaf, in a group of its own. -/
def single (j j' : Junction) (a : α) : Forest α :=
  ⟨j, [.group j' [a]]⟩

/-- Junctions of one part do not matter. -/
theorem eval_single (holds : α → Bool) (j j' : Junction) (a : α) :
    (single j j' a).eval holds = holds a := by
  cases j <;> cases j' <;>
    simp [single, eval, Tree.evalEach, Tree.eval, Junction.combine]

@[simp] theorem leaves_single (j j' : Junction) (a : α) : (single j j' a).leaves = [a] :=
  rfl

@[simp] theorem ownMembers_single (j j' : Junction) (a : α) : (single j j' a).ownMembers = [a] :=
  rfl

end Forest

end IncidentTracker.Filtering
