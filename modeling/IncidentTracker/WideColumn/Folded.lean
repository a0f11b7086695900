import IncidentTracker.Filtering.Tree

/-!
# Folded Filters

A scan cannot be given a constant, so the constant parts of a filter are folded away before it is
written: groups of nothing, and whatever they decide. What is left is a constant as a whole, or a
filter in which every group has at least two parts and no part is constant.
-/

namespace IncidentTracker.WideColumn

open Filtering (Junction Forest)

/-- A filter with its constant parts folded. -/
inductive Folded (α : Type) where
  | constant (value : Bool)
  | member (a : α)
  | group (junction : Junction) (parts : List (Folded α))

variable {α : Type}

/-- Whether a folded filter is the given constant. -/
def Folded.isConstant (value : Bool) : Folded α → Bool
  | .constant b => b == value
  | _ => false

/-- A folded group. A part that decides the group becomes the group, parts that leave it
    undecided are dropped, and a part that is left alone stands for itself. -/
def Folded.join (j : Junction) (parts : List (Folded α)) : Folded α :=
  -- what a group of nothing is worth leaves a group undecided, its denial decides it
  let neutral := j.combine []
  if parts.any (Folded.isConstant !neutral) then .constant !neutral
  else
    match parts.filter fun part => !part.isConstant neutral with
    | [] => .constant neutral
    | [part] => part
    | parts => .group j parts

mutual

/-- A group with its constant parts folded; shadowed members are not consulted. -/
def Folded.ofTree : Filtering.Tree α → Folded α
  | .branch j children _ => .join j (Folded.ofTrees children)
  | .group j members => .join j (members.map .member)

def Folded.ofTrees : List (Filtering.Tree α) → List (Folded α)
  | [] => []
  | node :: nodes => Folded.ofTree node :: Folded.ofTrees nodes

end

/-- A filter with its constant parts folded. -/
def Folded.ofForest (f : Forest α) : Folded α :=
  .join f.junction (Folded.ofTrees f.nodes)

mutual

/-- The members of a folded filter, in order. -/
def Folded.members : Folded α → List α
  | .constant _ => []
  | .member a => [a]
  | .group _ parts => Folded.membersEach parts

def Folded.membersEach : List (Folded α) → List α
  | [] => []
  | part :: parts => Folded.members part ++ Folded.membersEach parts

end

mutual

/-- The truth value of a folded filter when its members have the given ones. -/
def Folded.eval (holds : α → Bool) : Folded α → Bool
  | .constant b => b
  | .member a => holds a
  | .group j parts => j.combine (Folded.evalEach holds parts)

def Folded.evalEach (holds : α → Bool) : List (Folded α) → List Bool
  | [] => []
  | part :: parts => Folded.eval holds part :: Folded.evalEach holds parts

end

end IncidentTracker.WideColumn
