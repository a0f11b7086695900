import IncidentTracker.Filtering.Param
import IncidentTracker.Proofs.Filtering.Leaves
import IncidentTracker.Proofs.Filtering.Wire

/-!
# Accepted Filters

What is known of a filter that was read from a parameter: it is within the limits on depth and
number of criteria. All members of a filter are counted, wherever they stand, and so its leaves and
the members of its first level are; groups without members are not. The other way round, the written
form of a filter is accepted whenever the filter is within the limits and the text is not too long.

Main statements: `parseParam_eq_ok` and `parseParam_compact`.
-/

namespace IncidentTracker.Filtering

variable {α : Type}

/-! ## §1 What is counted -/

namespace Tree

mutual

/-- All members of a group, at all levels and those that branches carry themselves included. -/
def everyMember : Tree α → List α
  | .branch _ children shadowed => shadowed ++ everyMemberEach children
  | .group _ members => members

def everyMemberEach : List (Tree α) → List α
  | [] => []
  | node :: nodes => everyMember node ++ everyMemberEach nodes

end

mutual

theorem length_everyMember : ∀ t : Tree α, t.everyMember.length = t.size
  | .branch _ children shadowed => by
    rw [everyMember, size, List.length_append, length_everyMemberEach children]
  | .group _ members => rfl

theorem length_everyMemberEach :
    ∀ nodes : List (Tree α), (everyMemberEach nodes).length = sizeEach nodes
  | [] => rfl
  | node :: nodes => by
    rw [everyMemberEach, sizeEach, List.length_append, length_everyMember node,
      length_everyMemberEach nodes]

end

mutual

theorem leaves_sublist_everyMember : ∀ t : Tree α, t.leaves.Sublist t.everyMember
  | .branch _ children shadowed =>
    (leavesEach_sublist_everyMemberEach children).trans (List.sublist_append_right shadowed _)
  | .group _ members => List.Sublist.refl members

theorem leavesEach_sublist_everyMemberEach :
    ∀ nodes : List (Tree α), (leavesEach nodes).Sublist (everyMemberEach nodes)
  | [] => List.Sublist.refl []
  | node :: nodes =>
    (leaves_sublist_everyMember node).append (leavesEach_sublist_everyMemberEach nodes)

end

theorem ownMembers_sublist_everyMember (t : Tree α) : t.ownMembers.Sublist t.everyMember := by
  cases t with
  | branch _ children shadowed => exact List.sublist_append_left shadowed _
  | group _ members => exact List.Sublist.refl members

mutual

/-- The number of groups, at all levels. -/
def groups : Tree α → Nat
  | .branch _ children _ => groupsEach children + 1
  | .group _ _ => 1

def groupsEach : List (Tree α) → Nat
  | [] => 0
  | node :: nodes => groups node + groupsEach nodes

end

theorem groups_pos (t : Tree α) : 0 < t.groups := by
  cases t <;> exact Nat.succ_pos _

theorem length_le_groupsEach (nodes : List (Tree α)) : nodes.length ≤ groupsEach nodes := by
  induction nodes with
  | nil => exact Nat.le_refl 0
  | cons node nodes ih =>
    have hnode := groups_pos node
    rw [groupsEach, List.length_cons]
    omega

end Tree

namespace Forest

/-- The number of groups of a filter. -/
def groups (f : Forest α) : Nat :=
  Tree.groupsEach f.nodes

/-- All members of a filter, wherever they stand. -/
def everyMember (f : Forest α) : List α :=
  Tree.everyMemberEach f.nodes

theorem length_everyMember (f : Forest α) : f.everyMember.length = f.size :=
  Tree.length_everyMemberEach f.nodes

theorem leaves_sublist_everyMember (f : Forest α) : f.leaves.Sublist f.everyMember :=
  Tree.leavesEach_sublist_everyMemberEach f.nodes

theorem ownMembers_sublist_everyMember (f : Forest α) : f.ownMembers.Sublist f.everyMember := by
  obtain ⟨_, nodes⟩ := f
  show (nodes.flatMap Tree.ownMembers).Sublist (Tree.everyMemberEach nodes)
  induction nodes with
  | nil => exact List.Sublist.refl []
  | cons node nodes ih =>
    rw [List.flatMap_cons, Tree.everyMemberEach]
    exact node.ownMembers_sublist_everyMember.append ih

theorem length_leaves_le (f : Forest α) : f.leaves.length ≤ f.size := by
  rw [← f.length_everyMember]
  exact f.leaves_sublist_everyMember.length_le

theorem length_ownMembers_le (f : Forest α) : f.ownMembers.length ≤ f.size := by
  rw [← f.length_everyMember]
  exact f.ownMembers_sublist_everyMember.length_le

end Forest

/-! ## §2 What is accepted -/

theorem checkLimits_eq_ok {r r' : Request} :
    checkLimits r = .ok r' ↔ r = r' ∧ r.depth ≤ maxDepth ∧ r.size ≤ maxCriteria := by
  unfold checkLimits
  split
  · next h => simp [Nat.not_le.mpr h]
  · split
    · next h => simp [Nat.not_le.mpr h]
    · simp [*, Nat.le_of_not_lt]

/-- A filter that was accepted is within the limits. -/
theorem parseParam_eq_ok {text : String} {r : Request}
    (h : (parseParam (some text)).result = .ok (some r)) :
    r.depth ≤ maxDepth ∧ r.size ≤ maxCriteria := by
  simp only [parseParam, parse] at h
  split at h
  · -- the text is too long
    cases h
  · split at h
    · -- it does not read as a filter
      cases h
    · next read _ =>
      -- the limits return what they are given, if anything
      cases hlimits : checkLimits read with
      | error e => simp [hlimits, Except.map] at h
      | ok checked =>
        simp only [hlimits, Except.map, Except.ok.injEq, Option.some.injEq] at h
        subst h
        obtain ⟨rfl, hwithin⟩ := checkLimits_eq_ok.mp hlimits
        exact hwithin

theorem utf8ByteSize_ofList (cs : List Char) :
    (String.ofList cs).utf8ByteSize = Text.byteSize cs := by
  induction cs with
  | nil => rfl
  | cons c cs ih =>
    rw [String.ofList_cons, String.utf8ByteSize_append, String.utf8ByteSize_singleton, ih,
      Text.byteSize_cons]

/-- The written form of a filter is accepted, and read as the filter settled, if it is short and
    the filter is within the limits. -/
theorem parseParam_compact {r : Request}
    (hbytes : Text.byteSize (Json.compactChars (Forest.toJson r) []) ≤ maxBytes)
    (hdepth : r.depth ≤ maxDepth) (hsize : r.size ≤ maxCriteria) :
    (parseParam (some (Forest.toJson r).compact)).result = .ok (some r.settled) := by
  have hread : Json.read readRequest (Forest.toJson r).compact.toList = ⟨[], .ok r.settled⟩ := by
    apply Json.read_compact (Forest.fits_toJson r)
    rw [readRequest_toJson, if_pos (Nat.le_trans hdepth (by decide))]
  -- settling changes neither the depth nor the number of criteria
  have hlimits : checkLimits r.settled = .ok r.settled := by
    rw [checkLimits_eq_ok, r.depth_settled, r.size_settled]
    exact ⟨rfl, hdepth, hsize⟩
  have hshort : ¬maxBytes < (Forest.toJson r).compact.utf8ByteSize := by
    rw [Json.Value.compact, utf8ByteSize_ofList]
    exact Nat.not_lt.mpr hbytes
  simp only [parseParam, parse, if_neg hshort, hread, hlimits]
  rfl

end IncidentTracker.Filtering
