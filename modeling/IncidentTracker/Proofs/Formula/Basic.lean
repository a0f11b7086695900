import IncidentTracker.Filtering.Basic

/-!
# Formulas

What a filter expression says once its text has been read: atoms, and groups of at least two parts
under a junction. Nothing in a formula is constant or empty unless an atom is.

Main statement: a proper formula is false when all its atoms are and true when all its atoms are
(`eval_const`), so that it is worth no constant.
-/

namespace IncidentTracker

open Filtering (Junction)

/-- A formula over atoms. -/
inductive Formula (α : Type) where
  | atom (a : α)
  | group (junction : Junction) (parts : List (Formula α))

variable {α β γ : Type}

namespace Formula

/-! ## §1 Definitions -/

/-- Formulas under a junction; a part that is alone stands for itself. -/
def join (j : Junction) : List (Formula α) → Formula α
  | [part] => part
  | parts => .group j parts

mutual

/-- Every group has at least two parts. -/
def IsProper : Formula α → Prop
  | .atom _ => True
  | .group _ parts => 2 ≤ parts.length ∧ AreProper parts

def AreProper : List (Formula α) → Prop
  | [] => True
  | part :: parts => IsProper part ∧ AreProper parts

end

mutual

/-- The truth value of a formula when its atoms have the given ones. -/
def eval (value : α → Bool) : Formula α → Bool
  | .atom a => value a
  | .group j parts => j.combine (evalEach value parts)

def evalEach (value : α → Bool) : List (Formula α) → List Bool
  | [] => []
  | part :: parts => eval value part :: evalEach value parts

end

mutual

/-- The atoms of a formula, in order. -/
def atoms : Formula α → List α
  | .atom a => [a]
  | .group _ parts => atomsEach parts

def atomsEach : List (Formula α) → List α
  | [] => []
  | part :: parts => atoms part ++ atomsEach parts

end

mutual

/-- A formula with every atom replaced. -/
def map (f : α → β) : Formula α → Formula β
  | .atom a => .atom (f a)
  | .group j parts => .group j (mapEach f parts)

def mapEach (f : α → β) : List (Formula α) → List (Formula β)
  | [] => []
  | part :: parts => map f part :: mapEach f parts

end

mutual

/-- A formula with its atoms numbered from `n` on. -/
def number (n : Nat) : Formula α → Formula (α × Nat)
  | .atom a => .atom (a, n)
  | .group j parts => .group j (numberEach n parts)

def numberEach (n : Nat) : List (Formula α) → List (Formula (α × Nat))
  | [] => []
  | part :: parts => number n part :: numberEach (n + part.atoms.length) parts

end

mutual

/-- How deeply the groups of a formula are nested. -/
def height : Formula α → Nat
  | .atom _ => 0
  | .group _ parts => heightEach parts + 1

def heightEach : List (Formula α) → Nat
  | [] => 0
  | part :: parts => max (height part) (heightEach parts)

end

/-! ## §2 Recursion over parts -/

theorem evalEach_eq_map (value : α → Bool) (parts : List (Formula α)) :
    evalEach value parts = parts.map (eval value) := by
  induction parts with
  | nil => rfl
  | cons part parts ih => rw [evalEach, ih, List.map_cons]

theorem atomsEach_eq_flatMap (parts : List (Formula α)) : atomsEach parts = parts.flatMap atoms := by
  induction parts with
  | nil => rfl
  | cons part parts ih => rw [atomsEach, ih, List.flatMap_cons]

theorem mapEach_eq_map (f : α → β) (parts : List (Formula α)) :
    mapEach f parts = parts.map (map f) := by
  induction parts with
  | nil => rfl
  | cons part parts ih => rw [mapEach, ih, List.map_cons]

theorem areProper_iff {parts : List (Formula α)} :
    AreProper parts ↔ ∀ part ∈ parts, part.IsProper := by
  induction parts with
  | nil => simp [AreProper]
  | cons part parts ih => rw [AreProper, ih, List.forall_mem_cons]

theorem areProper_map_atom (atoms : List α) : AreProper (atoms.map Formula.atom) := by
  refine areProper_iff.mpr fun part hpart => ?_
  obtain ⟨a, -, rfl⟩ := List.mem_map.mp hpart
  exact trivial

/-! ## §3 Truth values -/

mutual

/-- Where all atoms have one truth value, so has the formula: no part of it is constant. -/
theorem eval_const (b : Bool) : ∀ φ : Formula α, φ.IsProper → φ.eval (fun _ => b) = b
  | .atom _, _ => rfl
  | .group j parts, h => by
    have hparts := evalEach_const b parts h.2
    -- a proper group is not empty, so its parts decide
    have hne : parts.length ≠ 0 := Nat.ne_of_gt (Nat.lt_of_lt_of_le Nat.two_pos h.1)
    rw [eval, hparts]
    cases j with
    | and => simp [Junction.combine, hne]
    | or => simp [Junction.combine, hne]

theorem evalEach_const (b : Bool) :
    ∀ parts : List (Formula α), AreProper parts →
      evalEach (fun _ => b) parts = List.replicate parts.length b
  | [], _ => rfl
  | part :: parts, h => by
    rw [evalEach, eval_const b part h.1, evalEach_const b parts h.2, List.length_cons,
      List.replicate_succ]

end

mutual

/-- The truth value of a formula depends on its atoms only. -/
theorem eval_congr {value value' : α → Bool} :
    ∀ φ : Formula α, (∀ a ∈ φ.atoms, value a = value' a) → φ.eval value = φ.eval value'
  | .atom a, h => h a List.mem_cons_self
  | .group j parts, h => by rw [eval, eval, evalEach_congr parts h]

theorem evalEach_congr {value value' : α → Bool} :
    ∀ parts : List (Formula α), (∀ a ∈ atomsEach parts, value a = value' a) →
      evalEach value parts = evalEach value' parts
  | [], _ => rfl
  | part :: parts, h => by
    simp only [atomsEach, List.mem_append] at h
    rw [evalEach, evalEach, eval_congr part fun a ha => h a (.inl ha),
      evalEach_congr parts fun a ha => h a (.inr ha)]

end

/-- There is an atom in every proper formula: that of a first part. -/
theorem atoms_ne_nil : ∀ φ : Formula α, φ.IsProper → φ.atoms ≠ []
  | .atom a, _ => List.cons_ne_nil a []
  | .group _ [], h => absurd h.1 (Nat.not_succ_le_zero 1)
  | .group _ (part :: parts), h =>
    List.append_ne_nil_of_left_ne_nil (atoms_ne_nil part h.2.1) (atomsEach parts)

/-! ## §4 Replacing and numbering atoms -/

mutual

theorem atoms_map (f : α → β) : ∀ φ : Formula α, (φ.map f).atoms = φ.atoms.map f
  | .atom _ => rfl
  | .group _ parts => atomsEach_mapEach f parts

theorem atomsEach_mapEach (f : α → β) :
    ∀ parts : List (Formula α), atomsEach (mapEach f parts) = (atomsEach parts).map f
  | [] => rfl
  | part :: parts => by
    rw [mapEach, atomsEach, atomsEach, atoms_map f part, atomsEach_mapEach f parts,
      List.map_append]

end

mutual

theorem map_map (g : β → γ) (f : α → β) :
    ∀ φ : Formula α, (φ.map f).map g = φ.map fun a => g (f a)
  | .atom _ => rfl
  | .group j parts => by rw [map, map, map, mapEach_mapEach g f parts]

theorem mapEach_mapEach (g : β → γ) (f : α → β) :
    ∀ parts : List (Formula α), mapEach g (mapEach f parts) = mapEach (fun a => g (f a)) parts
  | [] => rfl
  | part :: parts => by
    rw [mapEach, mapEach, mapEach, map_map g f part, mapEach_mapEach g f parts]

end

mutual

theorem eval_map (value : β → Bool) (f : α → β) :
    ∀ φ : Formula α, (φ.map f).eval value = φ.eval fun a => value (f a)
  | .atom _ => rfl
  | .group j parts => by rw [map, eval, eval, evalEach_mapEach value f parts]

theorem evalEach_mapEach (value : β → Bool) (f : α → β) :
    ∀ parts : List (Formula α),
      evalEach value (mapEach f parts) = evalEach (fun a => value (f a)) parts
  | [] => rfl
  | part :: parts => by
    rw [mapEach, evalEach, evalEach, eval_map value f part, evalEach_mapEach value f parts]

end

mutual

/-- Atoms are numbered in their order. -/
theorem atoms_number : ∀ (φ : Formula α) (n : Nat), (φ.number n).atoms = φ.atoms.zipIdx n
  | .atom _, _ => rfl
  | .group _ parts, n => atomsEach_numberEach parts n

theorem atomsEach_numberEach :
    ∀ (parts : List (Formula α)) (n : Nat),
      atomsEach (numberEach n parts) = (atomsEach parts).zipIdx n
  | [], _ => rfl
  | part :: parts, n => by
    rw [numberEach, atomsEach, atomsEach, atoms_number part n, atomsEach_numberEach parts,
      List.zipIdx_append]

end

mutual

/-- Dropping the numbers gives a formula back. -/
theorem map_number : ∀ (φ : Formula α) (n : Nat), (φ.number n).map Prod.fst = φ
  | .atom _, _ => rfl
  | .group j parts, n => by rw [number, map, mapEach_numberEach parts n]

theorem mapEach_numberEach :
    ∀ (parts : List (Formula α)) (n : Nat), mapEach Prod.fst (numberEach n parts) = parts
  | [], _ => rfl
  | part :: parts, n => by
    rw [numberEach, mapEach, map_number part n, mapEach_numberEach parts]

end

mutual

/-- Replacing atoms keeps a formula proper. -/
theorem isProper_map (f : α → β) : ∀ φ : Formula α, φ.IsProper → (φ.map f).IsProper
  | .atom _, _ => trivial
  | .group _ parts, h => by
    refine ⟨?_, areProper_mapEach f parts h.2⟩
    rw [mapEach_eq_map, List.length_map]
    exact h.1

theorem areProper_mapEach (f : α → β) :
    ∀ parts : List (Formula α), AreProper parts → AreProper (mapEach f parts)
  | [], _ => trivial
  | part :: parts, h => ⟨isProper_map f part h.1, areProper_mapEach f parts h.2⟩

end

mutual

/-- Numbering atoms keeps a formula proper. -/
theorem isProper_number :
    ∀ (φ : Formula α) (n : Nat), φ.IsProper → (φ.number n).IsProper
  | .atom _, _, _ => trivial
  | .group _ parts, n, h => by
    obtain ⟨hlength, hparts⟩ := areProper_numberEach parts n h.2
    exact ⟨by rw [hlength]; exact h.1, hparts⟩

theorem areProper_numberEach :
    ∀ (parts : List (Formula α)) (n : Nat), AreProper parts →
      (numberEach n parts).length = parts.length ∧ AreProper (numberEach n parts)
  | [], _, _ => ⟨rfl, trivial⟩
  | part :: parts, n, h => by
    obtain ⟨hlength, hparts⟩ := areProper_numberEach parts (n + part.atoms.length) h.2
    refine ⟨?_, isProper_number part n h.1, hparts⟩
    rw [numberEach, List.length_cons, hlength, List.length_cons]

end

end Formula

end IncidentTracker
