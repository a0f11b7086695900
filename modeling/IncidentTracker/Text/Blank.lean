import IncidentTracker.Text.Interval

/-!
# Blank Characters

Trimming removes the characters with the Unicode property White_Space from both ends of a text.
The zero-width space is not one of them.
-/

namespace IncidentTracker.Text

/-- The characters with the property White_Space. -/
def blankIntervals : List (Nat × Nat) :=
  [(0x0009, 0x000D), (0x0020, 0x0020), (0x0085, 0x0085), (0x00A0, 0x00A0), (0x1680, 0x1680),
   (0x2000, 0x200A), (0x2028, 0x2029), (0x202F, 0x202F), (0x205F, 0x205F), (0x3000, 0x3000)]

/-- Whether a character counts as blank. -/
def isBlank (c : Char) : Bool :=
  inIntervals blankIntervals c.toNat

/-- A text without the blanks at its ends. -/
def trimBlank (cs : List Char) : List Char :=
  ((cs.dropWhile isBlank).reverse.dropWhile isBlank).reverse

private theorem dropWhile_isBlank_eq_nil {cs : List Char} :
    cs.dropWhile isBlank = [] ↔ ∀ c ∈ cs, isBlank c = true := by
  induction cs with
  | nil => simp
  | cons c cs ih => by_cases hc : isBlank c = true <;> simp [hc, ih]

/-- Trimming leaves nothing exactly when there is nothing but blanks. -/
theorem trimBlank_eq_nil_iff {cs : List Char} :
    trimBlank cs = [] ↔ ∀ c ∈ cs, isBlank c = true := by
  rw [trimBlank, List.reverse_eq_nil_iff, dropWhile_isBlank_eq_nil]
  constructor
  · intro h
    -- trimming the front leaves a list of blanks; the blanks it took away were blank anyway
    induction cs with
    | nil => simp
    | cons c cs ih =>
      by_cases hc : isBlank c = true
      · rw [List.dropWhile_cons_of_pos hc] at h
        exact List.forall_mem_cons.2 ⟨hc, ih h⟩
      · rw [List.dropWhile_cons_of_neg hc] at h
        exact absurd (h c (by simp)) hc
  · intro h c hc
    exact h c ((List.dropWhile_sublist _).mem (List.mem_reverse.1 hc))

end IncidentTracker.Text
