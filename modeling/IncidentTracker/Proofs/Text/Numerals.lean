import IncidentTracker.Proofs.Text.Folding
import IncidentTracker.Text.Decimal

/-!
# Decimal Texts Read Back

An integer is determined by its decimal text, and one that fits a signed word is read back from it.
A decimal text has no letters, so folding leaves it as it is.

Main statements: `toWord?_ofInt`, `ofInt_inj` and `asciiFold_ofInt`.
-/

namespace IncidentTracker.Text.Decimal

/-! ## §1 Digits -/

theorem valueFrom_toDigits (n : Nat) : valueFrom 0 (Nat.toDigits 10 n) = n :=
  Nat.ofDigitChars_ten_toDigits

theorem isDigit_of_mem_toDigits {n : Nat} {c : Char} (h : c ∈ Nat.toDigits 10 n) :
    c.isDigit = true :=
  Nat.isDigit_of_mem_toDigits (by decide) (by decide) h

theorem isNumber_toDigits (n : Nat) : isNumber (Nat.toDigits 10 n) = true := by
  have hdigits : (Nat.toDigits 10 n).all Char.isDigit = true :=
    List.all_eq_true.mpr fun c hc => isDigit_of_mem_toDigits hc
  simp [isNumber, hdigits, Nat.toDigits_ne_nil]

/-- Digits carry no sign. -/
theorem splitSign_toDigits (n : Nat) :
    splitSign (Nat.toDigits 10 n) = (false, Nat.toDigits 10 n) := by
  obtain ⟨c, digits, heq⟩ := List.exists_cons_of_ne_nil (Nat.toDigits_ne_nil (n := n) (b := 10))
  have hdigit : c.isDigit = true := by
    apply isDigit_of_mem_toDigits (n := n)
    rw [heq]
    exact List.mem_cons_self
  rw [heq]
  -- the digits begin with a digit, which is none of the two signs
  unfold splitSign
  split
  · rename_i hminus
    rw [(List.cons.inj hminus).1] at hdigit
    exact absurd hdigit (by decide)
  · rename_i hplus
    rw [(List.cons.inj hplus).1] at hdigit
    exact absurd hdigit (by decide)
  · rfl

/-! ## §2 Integers -/

/-- The sign and the digits of a decimal text, and what they amount to. -/
theorem exists_splitSign_ofInt (n : Int) :
    ∃ negative m, splitSign (ofInt n) = (negative, Nat.toDigits 10 m) ∧
      (if negative then -(m : Int) else m) = n := by
  cases n with
  | ofNat m => exact ⟨false, m, splitSign_toDigits m, rfl⟩
  | negSucc m => exact ⟨true, m + 1, rfl, rfl⟩

/-- An integer is read back from its decimal text if it fits a signed word, and else nothing is. -/
theorem toWord?_ofInt (n : Int) : toWord? (ofInt n) = if isWord n then some n else none := by
  obtain ⟨negative, m, hsplit, hvalue⟩ := exists_splitSign_ofInt n
  simp only [toWord?, hsplit, valueFrom_toDigits, isNumber_toDigits, hvalue, Bool.true_and]

/-- Different integers have different decimal texts. -/
theorem ofInt_inj {n m : Int} : ofInt n = ofInt m ↔ n = m := by
  constructor
  · intro h
    obtain ⟨negative, k, hsplit, hvalue⟩ := exists_splitSign_ofInt n
    obtain ⟨negative', k', hsplit', hvalue'⟩ := exists_splitSign_ofInt m
    rw [h, hsplit', Prod.mk.injEq] at hsplit
    obtain ⟨rfl, hdigits⟩ := hsplit
    -- equal digits stand for equal numbers
    have hsize : k' = k := by
      rw [← valueFrom_toDigits k', hdigits, valueFrom_toDigits]
    rw [← hvalue, ← hvalue', hsize]
  · rintro rfl
    rfl

/-- A decimal text consists of digits, but for a sign in front of them. -/
theorem isDigit_of_mem_ofInt {n : Int} {c : Char} (h : c ∈ ofInt n) :
    c = '-' ∨ c.isDigit = true := by
  cases n with
  | ofNat m => exact .inr (isDigit_of_mem_toDigits h)
  | negSucc m =>
    rcases List.mem_cons.mp h with rfl | h
    · exact .inl rfl
    · exact .inr (isDigit_of_mem_toDigits h)

/-- A decimal text is ASCII without null characters. -/
theorem isPlain_of_mem_ofInt {n : Int} {c : Char} (h : c ∈ ofInt n) :
    c.toNat < 128 ∧ c ≠ '\x00' := by
  rcases isDigit_of_mem_ofInt h with rfl | hdigit
  · decide
  · obtain ⟨hlow, hhigh⟩ := Char.isDigit_iff_toNat.mp hdigit
    refine ⟨Nat.lt_of_le_of_lt hhigh (by decide), ?_⟩
    rintro rfl
    exact absurd hlow (by decide)

/-! ## §3 Folding -/

/-- There are no letters in a decimal text. -/
theorem isAlpha_of_mem_ofInt {n : Int} {c : Char} (h : c ∈ ofInt n) : c.isAlpha = false := by
  rcases isDigit_of_mem_ofInt h with rfl | hdigit
  · decide
  · -- digits lie before all letters
    obtain ⟨-, hhigh⟩ := Char.isDigit_iff_toNat.mp hdigit
    have hcode : c.toNat ≤ 57 := hhigh
    apply isAlpha_eq_false_iff.mpr
    omega

/-- A decimal text has no letters to fold. -/
theorem asciiFold_ofInt (n : Int) : asciiFold (ofInt n) = ofInt n :=
  (asciiFold_eq_iff fun _ hc => isAlpha_of_mem_ofInt hc).mpr rfl

end IncidentTracker.Text.Decimal
