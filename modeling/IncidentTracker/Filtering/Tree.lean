import IncidentTracker.Filtering.Basic
import IncidentTracker.Log

/-!
# Filter Trees

A filter is a tree of groups. A group either branches into further groups or holds members; a
branch may carry members of its own as well, which are shadowed by its children wherever the tree
is evaluated. The tree is built over members of any type, so that occurrences of criteria can be
told apart when need be.

Main statement: the truth values of several groups are those of each, `Tree.evalEach_eq_map`.
-/

namespace IncidentTracker.Filtering

/-- A group of a filter: `children`, or `filters` where it has none. Beside children the filters are
    shadowed. -/
inductive Tree (α : Type) where
  /-- A group of groups, with the members sent along. -/
  | branch (junction : Junction) (children : List (Tree α)) (shadowed : List α)
  /-- A group of members. -/
  | group (junction : Junction) (members : List α)

/-- A filter: the groups of the first level under a junction. -/
structure Forest (α : Type) where
  junction : Junction
  nodes : List (Tree α)

/-- A filter of criteria. -/
abbrev Request := Forest Criterion

variable {α : Type}

instance : Inhabited (Tree α) := ⟨.group .and []⟩

instance : Inhabited (Forest α) := ⟨⟨.and, []⟩⟩

namespace Tree

/-- The junction of a group. -/
def junction : Tree α → Junction
  | .branch j _ _ => j
  | .group j _ => j

/-- The members a group carries itself, shadowed or not. -/
def ownMembers : Tree α → List α
  | .branch _ _ shadowed => shadowed
  | .group _ members => members

mutual

/-- The truth value of a group when its members have the given ones. -/
def eval (holds : α → Bool) : Tree α → Bool
  | .branch j children _ => j.combine (evalEach holds children)
  | .group j members => j.combine (members.map holds)

def evalEach (holds : α → Bool) : List (Tree α) → List Bool
  | [] => []
  | node :: nodes => eval holds node :: evalEach holds nodes

end

/-- What a group is worth whose first part is worth `first`: where that decides the group, the parts
    behind it are not asked. -/
def stopAt (j : Junction) (first : Bool) (rest : Logged Bool) : Logged Bool :=
  match j, first with
  | .and, true => rest
  | .and, false => return false
  | .or, true => return true
  | .or, false => rest

/-- The truth value of a group of members, which are asked from left to right. -/
def askMembers (ask : α → Logged Bool) (j : Junction) : List α → Logged Bool
  | [] => return j.combine []
  | a :: members => do
    stopAt j (← ask a) (askMembers ask j members)

mutual

/-- The truth value of a group whose members are asked from left to right: `node_matches`. -/
def evaluate (ask : α → Logged Bool) : Tree α → Logged Bool
  | .branch j children _ => evaluateEach ask j children
  | .group j members => askMembers ask j members

def evaluateEach (ask : α → Logged Bool) (j : Junction) : List (Tree α) → Logged Bool
  | [] => return j.combine []
  | node :: nodes => do
    stopAt j (← evaluate ask node) (evaluateEach ask j nodes)

end

mutual

/-- The number of members, shadowed ones included. -/
def size : Tree α → Nat
  | .branch _ children shadowed => shadowed.length + sizeEach children
  | .group _ members => members.length

def sizeEach : List (Tree α) → Nat
  | [] => 0
  | node :: nodes => size node + sizeEach nodes

end

mutual

/-- The nesting of groups; a group of members has depth one. -/
def depth : Tree α → Nat
  | .branch _ children _ => depthEach children + 1
  | .group _ _ => 1

/-- The depth of the deepest of several groups. -/
def depthEach : List (Tree α) → Nat
  | [] => 0
  | node :: nodes => max (depth node) (depthEach nodes)

end

mutual

/-- Equality of trees, decided from that of their members. -/
def same [DecidableEq α] : Tree α → Tree α → Bool
  | .branch j cs ms, .branch j' cs' ms' => j == j' && sameEach cs cs' && ms == ms'
  | .group j ms, .group j' ms' => j == j' && ms == ms'
  | _, _ => false

/-- Equality of lists of trees. -/
def sameEach [DecidableEq α] : List (Tree α) → List (Tree α) → Bool
  | [], [] => true
  | node :: nodes, node' :: nodes' => same node node' && sameEach nodes nodes'
  | _, _ => false

end

/-- Attaches members to a branch, `with_shadowed`; a group of members is left alone. -/
def withShadowed (members : List α) : Tree α → Tree α
  | .branch j children _ => .branch j children members
  | .group j own => .group j own

/-- A group put under a number of branches with it as their only child. -/
def wrap (node : Tree α) : Nat → Tree α
  | 0 => node
  | n + 1 => .branch node.junction [wrap node n] []

end Tree

namespace Forest

/-- The truth value of a filter when its members have the given ones. -/
def eval (holds : α → Bool) (f : Forest α) : Bool :=
  f.junction.combine (Tree.evalEach holds f.nodes)

/-- The truth value of a filter whose members are asked from left to right. -/
def evaluate (ask : α → Logged Bool) (f : Forest α) : Logged Bool :=
  Tree.evaluateEach ask f.junction f.nodes

/-- The number of members of a filter, shadowed ones included. -/
def size (f : Forest α) : Nat :=
  Tree.sizeEach f.nodes

/-- The nesting of a filter; without groups it is zero. -/
def depth (f : Forest α) : Nat :=
  Tree.depthEach f.nodes

/-- The members carried by the groups of the first level themselves. -/
def ownMembers (f : Forest α) : List α :=
  f.nodes.flatMap Tree.ownMembers

/-- Equality of filters, decided from that of their members. -/
def same [DecidableEq α] (f g : Forest α) : Bool :=
  f.junction == g.junction && Tree.sameEach f.nodes g.nodes

end Forest

/-! ## §1 Recursion over children -/

namespace Tree

theorem evalEach_eq_map (holds : α → Bool) (nodes : List (Tree α)) :
    evalEach holds nodes = nodes.map (eval holds) := by
  induction nodes with
  | nil => rfl
  | cons node nodes ih => rw [evalEach, ih, List.map_cons]

end Tree

end IncidentTracker.Filtering
