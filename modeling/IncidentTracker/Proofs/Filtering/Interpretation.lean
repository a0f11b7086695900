import IncidentTracker.Proofs.Filtering.Leaves
import Mathlib.Logic.Relation

/-!
# Interpretations of Filters

A filter is evaluated from the bottom up, and so is each of its translations made: a leaf stands for
something by itself, and a group for what its junction makes of its parts. An interpretation is a
choice of these two. Whatever satisfies its two equations is that interpretation, so what holds of all
interpretations holds of evaluation and of every translation, and one induction is enough for them.

Main statements: `Tree.eq_interpret`; `Tree.map_interpret`, by which what is told of a translation is
told of its parts; `Forest.interpret_unshadowed`, since no interpretation looks at shadowed members; and
`Forest.interpret_eq_of_rewrapped`, by which one that takes a part that is alone for the group sees
neither how often a group is wrapped nor the junction of a single part.
-/

namespace IncidentTracker.Filtering

variable {α β γ : Type}

/-- What leaves stand for, and what a junction makes of the parts of a group. -/
structure Interpretation (α β : Type) where
  leaf : α → β
  join : Junction → List β → β

/-- The interpretation by truth values. -/
def Interpretation.truth (holds : α → Bool) : Interpretation α Bool :=
  ⟨holds, Junction.combine⟩

/-- The interpretation that lists what leaves have, in order. -/
def Interpretation.listed (g : α → List β) : Interpretation α (List β) :=
  ⟨g, fun _ => List.flatten⟩

namespace Tree

/-! ## §1 Interpretations -/

mutual

/-- What a group stands for. -/
def interpret (i : Interpretation α β) : Tree α → β
  | .branch j children _ => i.join j (interpretEach i children)
  | .group j members => i.join j (members.map i.leaf)

def interpretEach (i : Interpretation α β) : List (Tree α) → List β
  | [] => []
  | node :: nodes => interpret i node :: interpretEach i nodes

end

theorem interpretEach_eq_map (i : Interpretation α β) (nodes : List (Tree α)) :
    interpretEach i nodes = nodes.map (interpret i) := by
  induction nodes with
  | nil => rfl
  | cons node nodes ih => rw [interpretEach, ih, List.map_cons]

section Unique

variable {i : Interpretation α β} {f : Tree α → β}

mutual

/-- Whatever makes of a group what an interpretation makes of it is that interpretation. -/
theorem eq_interpret
    (hbranch : ∀ j children shadowed, f (.branch j children shadowed) = i.join j (children.map f))
    (hgroup : ∀ j members, f (.group j members) = i.join j (members.map i.leaf)) :
    ∀ t : Tree α, f t = t.interpret i
  | .branch j children shadowed => by
    rw [hbranch, map_eq_interpretEach hbranch hgroup children, interpret]
  | .group j members => by rw [hgroup, interpret]

theorem map_eq_interpretEach
    (hbranch : ∀ j children shadowed, f (.branch j children shadowed) = i.join j (children.map f))
    (hgroup : ∀ j members, f (.group j members) = i.join j (members.map i.leaf)) :
    ∀ nodes : List (Tree α), nodes.map f = interpretEach i nodes
  | [] => rfl
  | node :: nodes => by
    rw [List.map_cons, eq_interpret hbranch hgroup node,
      map_eq_interpretEach hbranch hgroup nodes, interpretEach]

end

end Unique

/-- What can be told of a group from what it is for one interpretation is an interpretation itself, if
    it can be told of its parts alone. -/
theorem map_interpret {i : Interpretation α β} {k : Interpretation α γ} {φ : β → γ}
    (hleaf : ∀ a, φ (i.leaf a) = k.leaf a)
    (hjoin : ∀ j parts, φ (i.join j parts) = k.join j (parts.map φ)) (t : Tree α) :
    φ (t.interpret i) = t.interpret k := by
  refine eq_interpret (f := fun t => φ (t.interpret i)) ?_ ?_ t
  · intro j children shadowed
    rw [interpret, hjoin, interpretEach_eq_map, List.map_map]
    rfl
  · intro j members
    rw [interpret, hjoin, List.map_map]
    exact congrArg (k.join j) (List.map_congr_left fun a _ => hleaf a)

/-- Evaluation is the interpretation by truth values. -/
theorem eval_eq_interpret (holds : α → Bool) (t : Tree α) : t.eval holds = t.interpret (.truth holds) := by
  refine eq_interpret ?_ ?_ t
  · intro j children shadowed
    rw [eval, evalEach_eq_map]
    rfl
  · intro j members
    rw [eval]
    rfl

/-- The leaves are listed by an interpretation. -/
theorem flatMap_leaves_eq_interpret (g : α → List β) (t : Tree α) :
    t.leaves.flatMap g = t.interpret (.listed g) := by
  refine eq_interpret (f := fun t => t.leaves.flatMap g) ?_ ?_ t
  · intro j children shadowed
    rw [leaves, leavesEach_eq_flatMap, List.flatMap_assoc]
    rfl
  · intro j members
    rw [leaves]
    rfl

/-- To replace the members of a group is to let the leaves stand for something else. -/
theorem interpret_map (i : Interpretation β γ) (f : α → β) (t : Tree α) :
    (t.map f).interpret i = t.interpret ⟨fun a => i.leaf (f a), i.join⟩ := by
  refine eq_interpret (f := fun t => (t.map f).interpret i) ?_ ?_ t
  · intro j children shadowed
    rw [map, interpret, interpretEach_eq_map, mapEach_eq_map, List.map_map]
    rfl
  · intro j members
    rw [map, interpret, List.map_map]
    rfl

mutual

/-- What holds of all leaves, and of a group whenever it holds of its parts, holds of every group. -/
theorem interpret_induction {i : Interpretation α β} {P : β → Prop} (hleaf : ∀ a, P (i.leaf a))
    (hjoin : ∀ j parts, (∀ part ∈ parts, P part) → P (i.join j parts)) :
    ∀ t : Tree α, P (t.interpret i)
  | .branch j children _ => hjoin j _ (interpretEach_induction hleaf hjoin children)
  | .group j members => by
    refine hjoin j _ fun part hpart => ?_
    obtain ⟨a, -, rfl⟩ := List.mem_map.mp hpart
    exact hleaf a

theorem interpretEach_induction {i : Interpretation α β} {P : β → Prop} (hleaf : ∀ a, P (i.leaf a))
    (hjoin : ∀ j parts, (∀ part ∈ parts, P part) → P (i.join j parts)) :
    ∀ nodes : List (Tree α), ∀ part ∈ interpretEach i nodes, P part
  | [] => fun _ hmem => nomatch hmem
  | node :: nodes =>
    List.forall_mem_cons.mpr
      ⟨interpret_induction hleaf hjoin node, interpretEach_induction hleaf hjoin nodes⟩

end

/-! ## §2 Shadowed members -/

mutual

/-- A group without the members that it and the branches in it shadow. -/
def unshadowed : Tree α → Tree α
  | .branch j children _ => .branch j (unshadowedEach children) []
  | .group j members => .group j members

def unshadowedEach : List (Tree α) → List (Tree α)
  | [] => []
  | node :: nodes => unshadowed node :: unshadowedEach nodes

end

theorem unshadowedEach_eq_map (nodes : List (Tree α)) :
    unshadowedEach nodes = nodes.map unshadowed := by
  induction nodes with
  | nil => rfl
  | cons node nodes ih => rw [unshadowedEach, ih, List.map_cons]

/-- No interpretation looks at shadowed members. -/
theorem interpret_unshadowed (i : Interpretation α β) (t : Tree α) :
    t.unshadowed.interpret i = t.interpret i := by
  -- taking them away before makes an interpretation too, and the same one
  refine eq_interpret (f := fun t => t.unshadowed.interpret i) ?_ ?_ t
  · intro j children shadowed
    rw [unshadowed, interpret, interpretEach_eq_map, unshadowedEach_eq_map, List.map_map]
    rfl
  · intro j members
    rw [unshadowed, interpret]

end Tree

/-! ## §3 Single parts -/

/-- Whether a part that is alone in a group stands for the group, whatever the junction. -/
def Interpretation.KeepsSingle (i : Interpretation α β) : Prop :=
  ∀ (j : Junction) (b : β), i.join j [b] = b

theorem Interpretation.keepsSingle_truth (holds : α → Bool) : (truth holds).KeepsSingle := by
  intro j b
  cases j <;> simp [truth, Junction.combine]

/-- A step that wraps a group, or changes the junction of one with a single part, at some place in a
    group. -/
inductive Tree.Rewrapped : Tree α → Tree α → Prop
  /-- The group becomes the only child of a branch. -/
  | wrapped (j : Junction) (node : Tree α) (shadowed : List α) :
    Tree.Rewrapped node (.branch j [node] shadowed)
  /-- A branch with one child gets another junction. -/
  | branch (j j' : Junction) (child : Tree α) (shadowed : List α) :
    Tree.Rewrapped (.branch j [child] shadowed) (.branch j' [child] shadowed)
  /-- A group of one member gets another junction. -/
  | group (j j' : Junction) (member : α) : Tree.Rewrapped (.group j [member]) (.group j' [member])
  /-- It happens to one of the children. -/
  | inside (j : Junction) (before after : List (Tree α)) (shadowed : List α) {node node' : Tree α} :
    Tree.Rewrapped node node' →
      Tree.Rewrapped (.branch j (before ++ node :: after) shadowed)
        (.branch j (before ++ node' :: after) shadowed)

theorem Tree.interpret_eq_of_rewrapped {i : Interpretation α β} (hi : i.KeepsSingle) {t t' : Tree α}
    (h : Tree.Rewrapped t t') : t.interpret i = t'.interpret i := by
  -- every rule but the last joins a single part under another junction
  induction h with
  | wrapped j node shadowed => exact (hi j (node.interpret i)).symm
  | branch j j' child shadowed => exact (hi j (child.interpret i)).trans (hi j' _).symm
  | group j j' member => exact (hi j (i.leaf member)).trans (hi j' _).symm
  | inside j before after shadowed _ ih =>
    rw [interpret, interpret, interpretEach_eq_map, interpretEach_eq_map, List.map_append,
      List.map_append, List.map_cons, List.map_cons, ih]

namespace Forest

/-! ## §4 Whole filters -/

/-- A filter as one group, which branches into the groups of the first level. -/
def asBranch (f : Forest α) : Tree α :=
  .branch f.junction f.nodes []

/-- What a filter stands for. -/
def interpret (i : Interpretation α β) (f : Forest α) : β :=
  f.asBranch.interpret i

theorem eval_eq_interpret (holds : α → Bool) (f : Forest α) :
    f.eval holds = f.interpret (.truth holds) :=
  Tree.eval_eq_interpret holds f.asBranch

/-- A filter without the members that its branches shadow. -/
def unshadowed (f : Forest α) : Forest α :=
  ⟨f.junction, Tree.unshadowedEach f.nodes⟩

theorem interpret_unshadowed (i : Interpretation α β) (f : Forest α) :
    f.unshadowed.interpret i = f.interpret i :=
  Tree.interpret_unshadowed i f.asBranch

/-- A step that wraps a group, or changes the junction of one with a single part, at some place in a
    filter or on its first level. -/
def Rewrapped (f g : Forest α) : Prop :=
  Tree.Rewrapped f.asBranch g.asBranch

/-- An interpretation that keeps single parts makes the same of a filter however often and wherever
    groups are wrapped and unwrapped. -/
theorem interpret_eq_of_rewrapped {i : Interpretation α β} (hi : i.KeepsSingle) {f g : Forest α}
    (h : Relation.EqvGen Rewrapped f g) : f.interpret i = g.interpret i := by
  induction h with
  | rel f g h => exact Tree.interpret_eq_of_rewrapped hi h
  | refl f => rfl
  | symm f g _ ih => exact ih.symm
  | trans f g k _ _ ihf ihg => exact ihf.trans ihg

end Forest

end IncidentTracker.Filtering
