import IncidentTracker.Proofs.Relational.Truth

/-!
# Limits of Clauses

How deeply a clause is nested and how many arguments it has, read off the clause without the order
in which the database reads it. The database gives up at the first part that goes too far; since
both measures only grow as more is read, it accepts a clause exactly if the whole of it stays
within the limits.

Main statement: `Clause.checkLimits_eq_ok_iff`.
-/

namespace IncidentTracker.Relational

/-! ## §1 Measures -/

mutual

/-- The nesting of a condition. -/
def Condition.height : Condition → Nat
  | .test t => t.height
  | .constant _ => constantHeight
  | .group _ [] => constantHeight
  | .group _ (part :: parts) => Condition.chainHeight (Condition.height part) parts

/-- The nesting of a chain of conditions that begins with something of the given nesting. -/
def Condition.chainHeight (height : Nat) : List Condition → Nat
  | [] => height
  | part :: parts => Condition.chainHeight (max height (Condition.height part) + 1) parts

end

/-- The arguments of a condition. -/
def Condition.args (c : Condition) : List String :=
  c.tests.flatMap Test.args

def Condition.argsEach (parts : List Condition) : List String :=
  (Condition.testsEach parts).flatMap Test.args

/-- The nesting of a query with a clause: the clause behind the condition of the join, and lookups
    of attributes below all of that. -/
def Clause.height (clause : Clause) : Nat :=
  max joinHeight clause.reading.height + 1 +
    if clause.tests.any Test.readsAttribute then lookUpHeight else 0

/-- A computation in two steps succeeds if both steps do. -/
theorem bind_eq_ok_iff {α β : Type} {x : Except Error α} {f : α → Except Error β} {b : β} :
    (x >>= f) = .ok b ↔ ∃ a, x = .ok a ∧ f a = .ok b := by
  cases x with
  | error e => simp [Bind.bind, Except.bind]
  | ok a => simp [Bind.bind, Except.bind]

/-! ## §2 Checks -/

namespace Extent

theorem checkHeight_eq_ok_iff {e e' : Extent} :
    e.checkHeight = .ok e' ↔ e.height ≤ maxHeight ∧ e = e' := by
  unfold checkHeight
  split
  · next h => simp [Nat.not_le.mpr h]
  · next h => simp [Nat.not_lt.mp h]

theorem checkArguments_eq_ok_iff {e e' : Extent} :
    e.checkArguments = .ok e' ↔ e.arguments ≤ maxArguments ∧ e = e' := by
  unfold checkArguments
  split
  · next h => simp [Nat.not_le.mpr h]
  · next h => simp [Nat.not_lt.mp h]

theorem chain_eq_ok_iff {height : Nat} {e e' : Extent} :
    e.chain height = .ok e' ↔
      max height e.height + 1 ≤ maxHeight ∧ ⟨max height e.height + 1, e.arguments⟩ = e' :=
  checkHeight_eq_ok_iff

end Extent

namespace Condition

@[simp] theorem argsEach_cons (part : Condition) (parts : List Condition) :
    argsEach (part :: parts) = part.args ++ argsEach parts := by
  rw [argsEach, testsEach, List.flatMap_append, args, argsEach]

/-- A chain is nested at least as deeply as what it begins with. -/
theorem le_chainHeight (height : Nat) (parts : List Condition) :
    height ≤ chainHeight height parts := by
  induction parts generalizing height with
  | nil => exact Nat.le_refl height
  | cons part parts ih =>
    have hnext := ih (max height part.height + 1)
    rw [chainHeight]
    omega

/-- Every part makes a chain at most one level deeper. -/
theorem chainHeight_le {k : Nat} {parts : List Condition} (h : ∀ part ∈ parts, part.height ≤ k) :
    ∀ height : Nat, chainHeight height parts ≤ max height k + parts.length := by
  induction parts with
  | nil =>
    intro height
    exact Nat.le_max_left height k
  | cons part parts ih =>
    intro height
    have hpart := h part List.mem_cons_self
    -- the bound is kept along the chain, one more for each link
    have hrest := ih (fun other hmem => h other (List.mem_cons_of_mem part hmem))
      (max height part.height + 1)
    rw [chainHeight, List.length_cons]
    omega

/-- Joining conditions adds at most one level for each of them. -/
theorem height_join_le {k : Nat} (hk : constantHeight ≤ k) (j : Filtering.Junction)
    {parts : List Condition} (h : ∀ part ∈ parts, part.height ≤ k) :
    (join j parts).height ≤ k + parts.length := by
  rcases parts with _ | ⟨first, _ | ⟨second, rest⟩⟩
  · exact hk
  · exact Nat.le_trans (h first List.mem_cons_self) (Nat.le_add_right k _)
  · have hfirst := h first List.mem_cons_self
    have hchain := chainHeight_le
      (fun other hmem => h other (List.mem_cons_of_mem first hmem)) first.height
    show chainHeight first.height (second :: rest) ≤ k + ((second :: rest).length + 1)
    omega

/-! ## §3 Conditions -/

mutual

/-- What is known of a condition that has been read are its measures. -/
theorem eq_of_extent {n : Nat} (hn : n ≤ maxArguments) :
    ∀ {c : Condition} {e : Extent}, c.extent n = .ok e →
      e = ⟨c.height, n + c.args.length⟩ ∧ e.arguments ≤ maxArguments
  | .test t, e, h => by
    obtain ⟨harguments, rfl⟩ := Extent.checkArguments_eq_ok_iff.mp h
    exact ⟨by simp [height, args, tests], harguments⟩
  | .constant _, e, h => by
    cases h
    exact ⟨by simp [height, args, tests], hn⟩
  | .group _ [], e, h => by
    cases h
    exact ⟨by simp [height, args, tests, testsEach], hn⟩
  | .group j (part :: parts), e, h => by
    -- the first part is measured by itself, then the chain goes on from its measures
    rw [extent] at h
    obtain ⟨first, hfirst, hrest⟩ := bind_eq_ok_iff.mp h
    obtain ⟨rfl, hle⟩ := eq_of_extent hn hfirst
    obtain ⟨rfl, hle'⟩ := eq_of_extentEach hle hrest
    refine ⟨?_, hle'⟩
    have hargs : (group j (part :: parts)).args = part.args ++ argsEach parts :=
      argsEach_cons part parts
    rw [height, hargs, List.length_append, Nat.add_assoc]

theorem eq_of_extentEach {e : Extent} (he : e.arguments ≤ maxArguments) :
    ∀ {parts : List Condition} {e' : Extent}, extentEach e parts = .ok e' →
      e' = ⟨chainHeight e.height parts, e.arguments + (argsEach parts).length⟩ ∧
        e'.arguments ≤ maxArguments
  | [], e', h => by
    cases h
    exact ⟨rfl, he⟩
  | part :: parts, e', h => by
    rw [extentEach] at h
    obtain ⟨next, hnext, h⟩ := bind_eq_ok_iff.mp h
    obtain ⟨link, hlink, hrest⟩ := bind_eq_ok_iff.mp h
    -- the part is counted, then the link raises the height by one
    obtain ⟨rfl, hle⟩ := eq_of_extent he hnext
    obtain ⟨-, rfl⟩ := Extent.chain_eq_ok_iff.mp hlink
    obtain ⟨rfl, hle'⟩ := eq_of_extentEach
      (e := ⟨max e.height part.height + 1, e.arguments + part.args.length⟩) hle hrest
    refine ⟨?_, hle'⟩
    rw [chainHeight, argsEach_cons, List.length_append, Nat.add_assoc]

end

mutual

/-- A condition within the limits is read to its end. -/
theorem extent_eq_ok {n : Nat} :
    ∀ {c : Condition}, c.height ≤ maxHeight → n + c.args.length ≤ maxArguments →
      c.extent n = .ok ⟨c.height, n + c.args.length⟩
  | .test t, _, hargs => by
    have hargs' : n + t.args.length ≤ maxArguments := by simpa [args, tests] using hargs
    rw [extent, Test.extent, Extent.checkArguments_eq_ok_iff.mpr ⟨hargs', rfl⟩]
    simp [height, args, tests]
  | .constant _, _, _ => by simp [extent, height, args, tests]
  | .group _ [], _, _ => by simp [extent, height, args, tests, testsEach]
  | .group j (part :: parts), hheight, hargs => by
    have hsplit : (group j (part :: parts)).args = part.args ++ argsEach parts :=
      argsEach_cons part parts
    rw [height] at hheight
    rw [hsplit, List.length_append] at hargs
    -- a chain only gets deeper, so what it begins with is within the limit if the whole is
    have hpart : part.height ≤ maxHeight := Nat.le_trans (le_chainHeight _ parts) hheight
    have hfirst := extent_eq_ok (n := n) hpart (by omega)
    rw [extent, hfirst, height, hsplit, List.length_append, ← Nat.add_assoc]
    exact extentEach_eq_ok (e := ⟨part.height, n + part.args.length⟩) hheight
      (by rw [Nat.add_assoc]; exact hargs)

theorem extentEach_eq_ok {e : Extent} :
    ∀ {parts : List Condition}, chainHeight e.height parts ≤ maxHeight →
      e.arguments + (argsEach parts).length ≤ maxArguments →
      extentEach e parts =
        .ok ⟨chainHeight e.height parts, e.arguments + (argsEach parts).length⟩
  | [], _, _ => rfl
  | part :: parts, hheight, hargs => by
    rw [chainHeight] at hheight
    rw [argsEach_cons, List.length_append] at hargs
    -- the chain only grows, so if it ends within the limit each link is within it
    have hlink : max e.height part.height + 1 ≤ maxHeight :=
      Nat.le_trans (le_chainHeight _ parts) hheight
    have hnext := extent_eq_ok (n := e.arguments) (c := part) (by omega) (by omega)
    have hchain : Extent.chain e.height ⟨part.height, e.arguments + part.args.length⟩ =
        .ok ⟨max e.height part.height + 1, e.arguments + part.args.length⟩ :=
      Extent.chain_eq_ok_iff.mpr ⟨hlink, rfl⟩
    have hrest := extentEach_eq_ok
      (e := ⟨max e.height part.height + 1, e.arguments + part.args.length⟩) hheight
      (by show e.arguments + part.args.length + (argsEach parts).length ≤ _; omega)
    refine bind_eq_ok_iff.mpr ⟨_, hnext, bind_eq_ok_iff.mpr ⟨_, hchain, ?_⟩⟩
    rw [hrest, chainHeight, argsEach_cons, List.length_append, Nat.add_assoc]

end

end Condition

/-! ## §4 Clauses -/

namespace Clause

/-- The condition that a clause reads as has the arguments of the clause. -/
theorem args_reading (clause : Clause) : clause.reading.args = clause.args := by
  cases clause with
  | unfiltered => rfl
  | conjunction tests =>
    simp only [reading, Condition.args, Condition.tests, Condition.testsEach_map_test]
    rfl
  | condition c => rfl

/-- The database accepts a clause exactly if the query with it is not nested too deeply and does
    not have too many arguments. -/
theorem checkLimits_eq_ok_iff {clause : Clause} :
    clause.checkLimits = .ok () ↔
      clause.height ≤ maxHeight ∧ clause.args.length ≤ maxArguments := by
  rw [checkLimits, height, ← args_reading]
  constructor
  · intro h
    obtain ⟨e, he, h⟩ := bind_eq_ok_iff.mp h
    obtain ⟨joined, hjoined, h⟩ := bind_eq_ok_iff.mp h
    obtain ⟨rfl, hargs⟩ := Condition.eq_of_extent (Nat.zero_le _) he
    obtain ⟨hle, rfl⟩ := Extent.chain_eq_ok_iff.mp hjoined
    simp only [Nat.zero_add] at hargs
    refine ⟨?_, hargs⟩
    -- only a clause that reads attributes is checked once more, with the lookup below it
    split at h
    · next hreads =>
      obtain ⟨_, hlookUp, -⟩ := bind_eq_ok_iff.mp h
      rw [if_pos hreads]
      exact (Extent.checkHeight_eq_ok_iff.mp hlookUp).1
    · next hreads =>
      rw [if_neg hreads]
      exact hle
  · rintro ⟨hheight, hargs⟩
    have hjoined : max joinHeight clause.reading.height + 1 ≤ maxHeight := by omega
    have hread := Condition.extent_eq_ok (n := 0) (c := clause.reading) (by omega)
      (by rw [Nat.zero_add]; exact hargs)
    refine bind_eq_ok_iff.mpr ⟨_, hread, bind_eq_ok_iff.mpr
      ⟨_, Extent.chain_eq_ok_iff.mpr ⟨hjoined, rfl⟩, ?_⟩⟩
    split
    · next hreads =>
      rw [if_pos hreads] at hheight
      exact bind_eq_ok_iff.mpr ⟨_, Extent.checkHeight_eq_ok_iff.mpr ⟨hheight, rfl⟩, rfl⟩
    · rfl

end Clause

end IncidentTracker.Relational
