import IncidentTracker.Proofs.Entity.Members
import IncidentTracker.Proofs.Filtering.Leaves
import Mathlib.Data.List.Forall2

/-!
# Alike Filters

Filters of one shape: the same groups under the same junctions, with members that are related place
by place. Criteria are alike if they compare in the same way and their properties stand for the same
member, or neither for one; what values they have, and which free-form attributes they name, does
not matter.

Main statements: `Forest.Alike.map_eq`, by which whatever is the same of related members is the same
of alike filters, and `Criterion.alike_sketch`, which gives every criterion a representative that is
the same for all that are alike.
-/

namespace IncidentTracker.Filtering

variable {α β γ : Type}

/-! ## §1 One shape -/

mutual

/-- Groups of one shape with related members, shadowed ones included. -/
def Tree.Alike (R : α → β → Prop) : Tree α → Tree β → Prop
  | .branch j children shadowed, .branch j' children' shadowed' =>
    j = j' ∧ Tree.AlikeEach R children children' ∧ List.Forall₂ R shadowed shadowed'
  | .group j members, .group j' members' => j = j' ∧ List.Forall₂ R members members'
  | _, _ => False

def Tree.AlikeEach (R : α → β → Prop) : List (Tree α) → List (Tree β) → Prop
  | [], [] => True
  | node :: nodes, node' :: nodes' => Tree.Alike R node node' ∧ Tree.AlikeEach R nodes nodes'
  | _, _ => False

end

/-- Filters of one shape with related members, shadowed ones included. -/
def Forest.Alike (R : α → β → Prop) (r : Forest α) (r' : Forest β) : Prop :=
  r.junction = r'.junction ∧ Tree.AlikeEach R r.nodes r'.nodes

section Map

variable {R : α → β → Prop} {f : α → γ} {g : β → γ}

/-- What is the same of related members is the same of lists of them. -/
private theorem map_eq_of_forall₂ (hfg : ∀ a b, R a b → f a = g b) {as : List α} {bs : List β}
    (h : List.Forall₂ R as bs) : as.map f = bs.map g := by
  induction h with
  | nil => rfl
  | cons hab _ ih => rw [List.map_cons, List.map_cons, hfg _ _ hab, ih]

mutual

theorem Tree.Alike.map_eq (hfg : ∀ a b, R a b → f a = g b) :
    ∀ (t : Tree α) (t' : Tree β), Tree.Alike R t t' → t.map f = t'.map g
  | .branch j children shadowed, .branch j' children' shadowed', h => by
    obtain ⟨rfl, hchildren, hshadowed⟩ := h
    rw [Tree.map, Tree.map, Tree.AlikeEach.mapEach_eq hfg children children' hchildren,
      map_eq_of_forall₂ hfg hshadowed]
  | .group j members, .group j' members', h => by
    obtain ⟨rfl, hmembers⟩ := h
    rw [Tree.map, Tree.map, map_eq_of_forall₂ hfg hmembers]

theorem Tree.AlikeEach.mapEach_eq (hfg : ∀ a b, R a b → f a = g b) :
    ∀ (nodes : List (Tree α)) (nodes' : List (Tree β)), Tree.AlikeEach R nodes nodes' →
      Tree.mapEach f nodes = Tree.mapEach g nodes'
  | [], [], _ => rfl
  | node :: nodes, node' :: nodes', h => by
    rw [Tree.mapEach, Tree.mapEach, Tree.Alike.map_eq hfg node node' h.1,
      Tree.AlikeEach.mapEach_eq hfg nodes nodes' h.2]

end

/-- What is the same of related members is the same of alike filters. -/
theorem Forest.Alike.map_eq (hfg : ∀ a b, R a b → f a = g b) {r : Forest α} {r' : Forest β}
    (h : Forest.Alike R r r') : r.map f = r'.map g := by
  rw [Forest.map, Forest.map, h.1, Tree.AlikeEach.mapEach_eq hfg _ _ h.2]

end Map

/-- The members of the first level are replaced with the others. -/
theorem Forest.ownMembers_map (f : α → β) (r : Forest α) :
    (r.map f).ownMembers = r.ownMembers.map f := by
  -- a branch keeps its shadowed members, a group its own
  have hnode (t : Tree α) : (t.map f).ownMembers = t.ownMembers.map f := by
    cases t with
    | branch j children shadowed => rfl
    | group j members => rfl
  have hnodes (nodes : List (Tree α)) : (Tree.mapEach f nodes).flatMap Tree.ownMembers =
      (nodes.flatMap Tree.ownMembers).map f := by
    induction nodes with
    | nil => rfl
    | cons node nodes ih =>
      rw [Tree.mapEach, List.flatMap_cons, List.flatMap_cons, List.map_append, hnode, ih]
  exact hnodes r.nodes

/-! ## §2 Alike criteria -/

namespace Criterion

/-- Criteria that compare in the same way, and whose properties stand for the same member or neither
    for one. -/
def Alike (c d : Criterion) : Prop :=
  c.comparison = d.comparison ∧ SameMember c.property d.property

/-- The name of the member that a property stands for; empty if it stands for none. -/
def memberName (property : String) : String :=
  ((findMember (ε := Incident) property).map Prod.fst).getD ""

/-- What is the same of all criteria that are alike: the member and the comparison. -/
def sketch (c : Criterion) : Criterion :=
  ⟨memberName c.property, c.comparison, ""⟩

theorem sameMember_memberName (property : String) : SameMember property (memberName property) := by
  rw [memberName]
  -- a name of no member is replaced by another one that names none
  cases h : findMember (ε := Incident) property with
  | none =>
    refine .inr ⟨?_, by decide⟩
    rw [isMember, h]
    rfl
  | some entry =>
    rw [findMember] at h
    have hname : Text.sameIgnoringAsciiCase entry.1 property = true := by
      simpa using List.find?_some h
    exact .inl ⟨entry, List.mem_of_find?_eq_some h, hname, Text.sameIgnoringAsciiCase_iff.mpr rfl⟩

theorem memberName_eq {p q : String} (h : SameMember p q) : memberName p = memberName q := by
  rcases h with ⟨entry, -, hp, hq⟩ | ⟨hp, hq⟩
  · have hfold : Text.asciiFold p.toList = Text.asciiFold q.toList :=
      (Text.sameIgnoringAsciiCase_iff.mp hp).symm.trans (Text.sameIgnoringAsciiCase_iff.mp hq)
    simp only [memberName, findMember, Text.sameIgnoringAsciiCase, hfold]
  · have hp' : findMember (ε := Incident) p = none := by simpa [isMember] using hp
    have hq' : findMember (ε := Incident) q = none := by simpa [isMember] using hq
    rw [memberName, hp', memberName, hq']

/-- A criterion is like its sketch. -/
theorem alike_sketch (c : Criterion) : c.Alike c.sketch :=
  ⟨rfl, sameMember_memberName c.property⟩

/-- Alike criteria have the same sketch. -/
theorem sketch_eq {c d : Criterion} (h : c.Alike d) : c.sketch = d.sketch := by
  rw [sketch, memberName_eq h.2, h.1, sketch]

end Criterion

end IncidentTracker.Filtering
